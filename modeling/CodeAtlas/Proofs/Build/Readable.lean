import CodeAtlas.Proofs.Build.Sessions

/-!
# When a unit can be planned

A unit is planned from the contents of its inputs. They include the files that the unit was once
seen to read, and these are not forgotten when the unit no longer reads them, but only when
everything is. So planning a unit can fail although all the inputs that it declares are there.

## Architecture

- **Layer A**: reading a list of files;
- **Layer B**: which plans planning a unit leaves alone;
- **Layer C**: the last act of planning;
- **Layer D**: sessions, with a disk that changes as well, and what they have learned;
- **Layer E**: the main result, and a file that is no longer needed.
-/

namespace CodeAtlas

variable {read : SourceReader} {g : UnitGraph} {m : ProjectModel} {u : CompilationUnit}

/-! ## Layer A: reading a list of files -/

/-- The contents of files are there if all of them can be read. -/
theorem contentFields_isOk_iff {ps : List Path} :
    (∃ fields, contentFields read ps = .ok fields) ↔ ∀ q ∈ ps, ∃ text, read q = .ok text := by
  induction ps with
  | nil => simp [contentFields, pure, Except.pure, bind, Except.bind]
  | cons p ps ih =>
    rw [contentFields_cons, List.forall_mem_cons, ← ih]
    cases read p with
    | error cause => simp
    | ok text => cases contentFields read ps <;> simp [Except.map]

/-- **The first file that cannot be read** gives the fault. -/
theorem exists_first_of_contentFields_error {ps : List Path} {fault : BuildFault}
    (hfault : contentFields read ps = .error fault) :
    ∃ front q back cause, ps = front ++ q :: back ∧ (∀ r ∈ front, ∃ text, read r = .ok text) ∧
      read q = .error cause ∧ fault = .ofOverlay cause := by
  induction ps with
  | nil => simp [contentFields, pure, Except.pure, bind, Except.bind] at hfault
  | cons p ps ih =>
    rw [contentFields_cons] at hfault
    cases hp : read p with
    | error cause =>
      simp only [hp, Except.error.injEq] at hfault
      exact ⟨[], p, ps, cause, rfl, by simp, hp, hfault.symm⟩
    | ok text =>
      -- the fault comes from the files behind
      cases hrest : contentFields read ps with
      | ok fields => simp [hp, hrest, Except.map] at hfault
      | error cause =>
        simp only [hp, hrest, Except.map, Except.error.injEq] at hfault
        obtain ⟨front, q, back, cause, rfl, hfront, hq, hcause⟩ := ih (hfault ▸ hrest)
        refine ⟨p :: front, q, back, cause, rfl, ?_, hq, hcause⟩
        exact List.forall_mem_cons.2 ⟨⟨text, hp⟩, hfront⟩

namespace PlanCache

variable {h : Hash} {c c' : PlanCache} {P : UnitId → Prop} {root : Path} {deps : Fingerprint}

/-! ## Layer B: what planning leaves alone -/

/-- **No plan has changed but those of some units**, and nothing that plans rest on. -/
structure ChangedWithin (P : UnitId → Prop) (c c' : PlanCache) : Prop where
  ground : SameGround c c'
  tidy : c'.Tidy
  others : ∀ v, ¬ P v → c'.get? v = c.get? v

theorem ChangedWithin.refl (hc : c.Tidy) : ChangedWithin P c c := ⟨⟨rfl, rfl⟩, hc, fun _ _ => rfl⟩

theorem ChangedWithin.trans {c'' : PlanCache} (hc : ChangedWithin P c c')
    (hc' : ChangedWithin P c' c'') : ChangedWithin P c c'' where
  ground := hc.ground.trans hc'.ground
  tidy := hc'.tidy
  others v hv := (hc'.others v hv).trans (hc.others v hv)

/-- One act of planning changes the plan of its unit. -/
theorem Tidy.changedWithin_planKnowing (hc : c.Tidy) (h : Hash) (read : SourceReader) (root : Path)
    (deps : Fingerprint) (hu : P u.id) :
    ChangedWithin P c (planKnowing h read root c u deps).1 := by
  rcases hc.planKnowing_cases h read root u deps with ⟨fault, -, heq⟩ | ⟨p, hunit, heq, -⟩
  · rw [heq]
    exact .refl hc
  · rw [heq]
    refine ⟨⟨rfl, rfl⟩, hc.keep p, ?_⟩
    intro v hv
    rw [get?_keep, if_neg]
    rintro rfl
    exact hv (hunit ▸ hu)

/-- Planning dependencies one after the other changes the plans that planning each of them does. -/
theorem Tidy.changedWithin_foldl_gather (hg : UnitGraph.ofModel m = .ok g) {n : Nat}
    {ds : List UnitId} (hc : c.Tidy)
    (hplan : ∀ c dep, c.Tidy → g.unit? dep.id = some dep → dep.id ∈ ds →
      ChangedWithin P c (planWithin h read g n c dep).1) :
    ChangedWithin P c (ds.foldl (gather h read g n) (c, some [])).1 := by
  refine List.foldlRecOn (motive := fun acc : PlanCache × Option (List Bytes) =>
    ChangedWithin P c acc.1) ds _ (.refl hc) ?_
  intro acc hacc d hd
  unfold gather
  cases hget : g.unit? d with
  | none => exact hacc
  | some dep =>
    obtain rfl := UnitGraph.id_of_unit? hg hget
    exact hacc.trans (hplan acc.1 dep hacc.tidy hget hd)

/-- Planning a unit changes its plan and those of its dependencies, direct or not: they are among
the units `P` if the unit and its own dependencies are, and `P` contains with a unit what it depends
on. -/
theorem Tidy.changedWithin_planWithin (hg : UnitGraph.ofModel m = .ok g)
    (hP : ∀ v w, P v → w ∈ g.depsOf v → P w) (h : Hash) (read : SourceReader) (n : Nat)
    (hc : c.Tidy) (hu : P u.id) (hdeps : ∀ d ∈ u.deps, P d) :
    ChangedWithin P c (planWithin h read g n c u).1 := by
  induction n generalizing c u with
  | zero => exact .refl hc
  | succ n ih =>
    have hfold : ChangedWithin P c (u.deps.foldl (gather h read g n) (c, some [])).1 := by
      apply hc.changedWithin_foldl_gather hg
      intro c dep hc hget hd
      apply ih hc (hdeps _ hd)
      intro e he
      exact hP dep.id e (hdeps _ hd) (by simpa [UnitGraph.depsOf, hget] using he)
    rw [planWithin_succ]
    -- only what the dependencies come to matters from here on
    generalize u.deps.foldl (gather h read g n) (c, some []) = folded at hfold ⊢
    obtain ⟨c₁, fields⟩ := folded
    cases fields with
    | none => exact hfold
    | some fields => exact hfold.trans (hfold.tidy.changedWithin_planKnowing h read _ _ hu)

/-- What planning a unit does to the plans at hand, whatever it comes to. -/
theorem planFor_fst (h : Hash) (read : SourceReader) (g : UnitGraph) (c : PlanCache)
    (u : CompilationUnit) :
    (planFor h read g c u).1 = (planWithin h read g (planDepth g) c u).1 := by
  unfold planFor
  generalize planWithin h read g (planDepth g) c u = ended
  obtain ⟨c₁, r⟩ := ended
  cases r <;> rfl

/-- Planning any unit, be it of the graph or not, keeps a cache tidy and what plans rest on. -/
theorem Tidy.tidy_planFor (hg : UnitGraph.ofModel m = .ok g) (hc : c.Tidy) (h : Hash)
    (read : SourceReader) (u : CompilationUnit) :
    (planFor h read g c u).1.Tidy ∧ SameGround c (planFor h read g c u).1 := by
  have hchanged := hc.changedWithin_planWithin (P := fun _ => True) hg (fun _ _ _ _ => trivial) h
    read (planDepth g) (u := u) trivial fun _ _ => trivial
  rw [planFor_fst]
  exact ⟨hchanged.tidy, hchanged.ground⟩

/-- **Planning a unit ends with one act of planning** for it, and up to there its own plan is the
one that was at hand, since no unit depends on itself. -/
theorem Tidy.planFor_eq_planKnowing (hg : UnitGraph.ofModel m = .ok g) (hc : c.Tidy) (h : Hash)
    (read : SourceReader) (hu : g.unit? u.id = some u) :
    ∃ c₁ deps, planFor h read g c u = planKnowing h read g.root c₁ u deps ∧
      SameGround c c₁ ∧ c₁.get? u.id = c.get? u.id := by
  have hsound := UnitGraph.sound_ofModel hg
  obtain ⟨rank, hrank⟩ := hsound.ranked
  -- the units that rank below the given one are closed under dependencies
  have hbelow : ∀ v w, w ∈ g.depsOf v → rank w < rank v := by
    intro v w hw
    refine hrank v w (UnitGraph.mem_depsWithin.2 ⟨hw, ?_⟩)
    apply hsound.contains_iff.1
    cases hv : g.unit? v with
    | none => simp [UnitGraph.depsOf, hv] at hw
    | some e =>
      have hlisted : w ∈ e.deps := by simpa [UnitGraph.depsOf, hv] using hw
      exact Option.isSome_iff_exists.2 (UnitGraph.unit?_of_mem_deps hg hv hlisted)
  have hends := planFor_ends_within hg h read c hu (Nat.le_refl _)
  have hfold : ChangedWithin (fun v => rank v < rank u.id) c
      (u.deps.foldl (gather h read g (g.units.size + 1)) (c, some [])).1 := by
    apply hc.changedWithin_foldl_gather hg
    intro c dep hc hget hd
    have hlow : rank dep.id < rank u.id :=
      hbelow u.id dep.id (by simpa [UnitGraph.depsOf, hu] using hd)
    apply hc.changedWithin_planWithin hg
    · exact fun v w hv hw => Nat.lt_trans (hbelow v w hw) hv
    · exact hlow
    · intro e he
      exact Nat.lt_trans (hbelow dep.id e (by simpa [UnitGraph.depsOf, hget] using he)) hlow
  rw [planDepth, planWithin_succ] at hends
  generalize u.deps.foldl (gather h read g (g.units.size + 1)) (c, some []) = folded at hfold hends
  obtain ⟨c₁, fields⟩ := folded
  cases fields with
  | none => cases (Prod.mk.inj hends).2
  | some fields =>
    obtain ⟨hcache, hresult⟩ := Prod.mk.inj hends
    refine ⟨c₁, .ofFields h fields, Prod.ext hcache.symm (Option.some.inj hresult).symm,
      hfold.ground, hfold.others u.id ?_⟩
    exact Nat.lt_irrefl _

/-! ## Layer C: the last act of planning -/

/-- The plan at hand for a unit still has the right shape. -/
def Fits (h : Hash) (c : PlanCache) (u : CompilationUnit) : Prop :=
  ∃ p, c.get? u.id = some p ∧ p.shape = c.shapeOf h u

/-- A plan at hand that fits is used; no file is read. -/
theorem planKnowing_of_fits (read : SourceReader) (root : Path) (deps : Fingerprint)
    (hfits : c.Fits h u) : ∃ p, (planKnowing h read root c u deps).2 = .ok p := by
  obtain ⟨p, hget, hshape⟩ := hfits
  have hfilter : (c.get? u.id).filter (·.shape == c.shapeOf h u) = some p :=
    Option.filter_eq_some_iff.2 ⟨hget, by simpa using hshape⟩
  unfold planKnowing
  unfold shapeOf at hfilter
  simp only [hfilter]
  split
  · exact ⟨_, rfl⟩
  · exact ⟨_, rfl⟩

/-- Without a plan that fits, all inputs are read. -/
theorem planKnowing_of_not_fits (hfits : ¬ c.Fits h u) :
    (planKnowing h read root c u deps).2 = planAfresh h read root c u deps := by
  have hfilter : (c.get? u.id).filter (·.shape == c.shapeOf h u) = none := by
    refine Option.eq_none_iff_forall_ne_some.2 fun p hp => hfits ?_
    obtain ⟨hget, hshape⟩ := Option.filter_eq_some_iff.1 hp
    exact ⟨p, hget, by simpa using hshape⟩
  unfold planKnowing planAfresh
  unfold shapeOf at hfilter
  simp only [hfilter]
  cases contentFields read (c.inputsOf u) with
  | error fault => rfl
  | ok fields => rfl

/-- Whether a plan fits depends on the plan at hand and on what plans rest on. -/
theorem SameGround.fits_iff (hground : SameGround c c') (hget : c'.get? u.id = c.get? u.id) :
    c'.Fits h u ↔ c.Fits h u := by
  unfold Fits shapeOf
  rw [hget, hground.inputsOf, hground.1]

/-- **A unit is planned** if and only if a plan at hand fits or all its inputs can be read. -/
theorem Tidy.planFor_isOk_iff (hg : UnitGraph.ofModel m = .ok g) (hc : c.Tidy)
    (hu : g.unit? u.id = some u) :
    (∃ p, (planFor h read g c u).2 = .ok p) ↔
      c.Fits h u ∨ ∀ q ∈ c.inputsOf u, ∃ text, read q = .ok text := by
  obtain ⟨c₁, deps, heq, hground, hget⟩ := hc.planFor_eq_planKnowing hg h read hu
  rw [heq, ← contentFields_isOk_iff, ← hground.fits_iff hget, ← hground.inputsOf]
  by_cases hfits : c₁.Fits h u
  · exact iff_of_true (planKnowing_of_fits read g.root deps hfits) (Or.inl hfits)
  · rw [planKnowing_of_not_fits hfits, planAfresh, or_iff_right hfits]
    cases contentFields read (c₁.inputsOf u) <;> simp [Except.map]

/-- **If a unit cannot be planned**, the first of its inputs that cannot be read is why. -/
theorem Tidy.exists_first_of_planFor_error (hg : UnitGraph.ofModel m = .ok g) (hc : c.Tidy)
    (hu : g.unit? u.id = some u) {fault : BuildFault}
    (hfault : (planFor h read g c u).2 = .error fault) :
    ∃ front q back cause, c.inputsOf u = front ++ q :: back ∧
      (∀ r ∈ front, ∃ text, read r = .ok text) ∧ read q = .error cause ∧
      fault = .ofOverlay cause := by
  obtain ⟨c₁, deps, heq, hground, -⟩ := hc.planFor_eq_planKnowing hg h read hu
  rw [heq] at hfault
  rw [← hground.inputsOf]
  apply exists_first_of_contentFields_error
  by_cases hfits : c₁.Fits h u
  · -- a plan at hand that fits is given out without reading anything
    obtain ⟨p, hp⟩ := planKnowing_of_fits read g.root deps hfits
    rw [hp] at hfault
    cases hfault
  · rw [planKnowing_of_not_fits hfits, planAfresh] at hfault
    cases hfields : contentFields read (c₁.inputsOf u) with
    | ok fields => simp [hfields, Except.map] at hfault
    | error cause => simpa [hfields, Except.map] using hfault

/-- Inputs come in order. -/
theorem inputsOf_ordered (c : PlanCache) (u : CompilationUnit) :
    (⟨c.inputsOf u⟩ : KeySet Path).Ordered :=
  (KeySet.ordered_ofList _).insertAll _

end PlanCache

/-! ## Layer D: sessions -/

open PlanCache (Tidy)

namespace PlanCache

variable {c : PlanCache}

/-- Everything is forgotten at once: no plan is at hand, and no input is left but those a unit
declares. -/
theorem Tidy.of_reset (hc : c.Tidy) (h : Hash) (u : CompilationUnit) :
    ¬ c.reset.Fits h u ∧ (c.reset.learnedOf u.id).toList = [] := by
  refine ⟨?_, by simp [PlanCache.reset, learnedOf, Table.getD, KeySet.empty]⟩
  rintro ⟨p, hget, -⟩
  have hnone : c.reset.get? u.id = none := hc.get?_invalidate_all u.id
  rw [hnone] at hget
  cases hget

end PlanCache

/-- The files a unit was learned to read, after one more call. -/
def PlanCall.learns (v : UnitId) (files : List Path) : PlanCall → List Path
  | .learn w paths => if w = v then files ++ paths.map Path.normalize else files
  | .reset => []
  | _ => files

namespace PlanSession

variable {h : Hash} {base disk : FileSource} {s : PlanSession} {v : UnitId} {files : List Path}

/-- A file can be read, from its buffer or from a disk. -/
def Readable (disk : FileSource) (s : PlanSession) (q : Path) : Prop :=
  ∃ text, s.read disk q = .ok text

instance (disk : FileSource) (s : PlanSession) (q : Path) : Decidable (s.Readable disk q) :=
  decidable_of_iff ((s.read disk q).toOption.isSome = true) <| by
    unfold Readable
    cases s.read disk q <;> simp [Except.toOption]

/-- **The calls of a session**, each of them with the disk as it is when the call comes. -/
def through (h : Hash) (g : UnitGraph) (s : PlanSession) (calls : List (FileSource × PlanCall)) :
    PlanSession :=
  calls.foldl (fun s call => s.perform h call.1 g call.2) s

/-- **The files that a unit was learned to read** since everything was last forgotten. -/
def learnedFiles (v : UnitId) (calls : List (FileSource × PlanCall)) : List Path :=
  calls.foldl (fun files call => call.2.learns v files) []

theorem tidy_perform (hg : UnitGraph.ofModel m = .ok g) (hs : s.plans.Tidy) (call : PlanCall) :
    (s.perform h base g call).plans.Tidy := by
  cases call with
  | plan u => exact (hs.tidy_planFor hg h (s.read base) u).1
  | invalidate r => exact hs.invalidate r
  | learn w paths => exact hs.learnInputs w paths
  | configure settings => exact hs.setSettings settings
  | reset => exact hs.reset
  | edit call => exact hs

/-- **One call** changes what was learned of a unit as it says. -/
theorem mem_learnedOf_perform (hg : UnitGraph.ofModel m = .ok g) (hs : s.plans.Tidy)
    (hfiles : ∀ q, q ∈ (s.plans.learnedOf v).toList ↔ q ∈ files) (call : PlanCall) (q : Path) :
    q ∈ ((s.perform h base g call).plans.learnedOf v).toList ↔ q ∈ call.learns v files := by
  cases call with
  | plan u =>
    have hground := (hs.tidy_planFor hg h (s.read base) u).2
    show q ∈ ((s.plans.planFor h (s.read base) g u).1.learnedOf v).toList ↔ q ∈ files
    rw [← hfiles q, PlanCache.learnedOf, hground.2]
    rfl
  | invalidate r => exact hfiles q
  | learn w paths =>
    show q ∈ ((s.plans.learnInputs w paths).1.learnedOf v).toList ↔ _
    rw [PlanCache.learnedOf_learnInputs, hs.mem_learnedOf_addLearned_iff, hfiles]
    unfold PlanCall.learns
    -- the call says this of its own unit only
    by_cases hw : w = v
    · simp [hw]
    · simp [hw]
  | configure settings =>
    show q ∈ ((s.plans.setSettings settings).1.learnedOf v).toList ↔ q ∈ files
    rw [← hfiles q]
    unfold PlanCache.setSettings
    split
    · rfl
    · rfl
  | reset => simp [perform, PlanCall.learns, PlanCache.reset, PlanCache.learnedOf, Table.getD,
      KeySet.empty]
  | edit call => exact hfiles q

/-- **A session keeps its plans tidy, and what it has learned of a unit** is what its calls say. -/
theorem through_invariant (hg : UnitGraph.ofModel m = .ok g) (h : Hash) (settings : BuildSettings)
    (o : Overlay) (calls : List (FileSource × PlanCall)) (v : UnitId) :
    ((start settings o).through h g calls).plans.Tidy ∧
      ∀ q, q ∈ (((start settings o).through h g calls).plans.learnedOf v).toList ↔
        q ∈ learnedFiles v calls := by
  -- on the calls, from any state that has learned some files
  have hrun : ∀ (calls : List (FileSource × PlanCall)) (s : PlanSession) (files : List Path),
      s.plans.Tidy → (∀ q, q ∈ (s.plans.learnedOf v).toList ↔ q ∈ files) →
        (s.through h g calls).plans.Tidy ∧
          ∀ q, q ∈ ((s.through h g calls).plans.learnedOf v).toList ↔
            q ∈ calls.foldl (fun files call => call.2.learns v files) files := by
    intro calls
    induction calls with
    | nil => exact fun s files hs hfiles => ⟨hs, hfiles⟩
    | cons call rest ih =>
      intro s files hs hfiles
      exact ih _ _ (tidy_perform hg hs call.2) (mem_learnedOf_perform hg hs hfiles call.2)
  apply hrun calls (start settings o) []
  · exact PlanCache.tidy_new settings
  · simp [start, PlanCache.new, PlanCache.learnedOf, Table.getD, KeySet.empty]

/-- A file that a unit declares reads the same under its normalized path. -/
theorem readable_normalize {q : Path} : s.Readable disk q.normalize ↔ s.Readable disk q := by
  unfold Readable read
  rw [Overlay.read_normalize]

/-! ## Layer E: units that can be planned -/

/-- **When a unit can be planned.** Whatever was planned, dropped, learned, configured and edited
before, and whatever is on the disk now, of every unit of an accepted graph:
- planning it gives a plan if and only if the plan at hand still fits, or the inputs that the unit
  declares can all be read and so can the files it was learned to read since everything was last
  forgotten;
- if planning fails, it fails for one of these files, the least that cannot be read;
- once everything is forgotten, the declared inputs alone decide. -/
theorem planned_iff_readable (hg : UnitGraph.ofModel m = .ok g) (h : Hash)
    (settings : BuildSettings) (o : Overlay) (calls : List (FileSource × PlanCall))
    (hu : g.unit? u.id = some u) (disk : FileSource) :
    let s := (start settings o).through h g calls
    let result := (s.plans.planFor h (s.read disk) g u).2
    let needed := u.allInputs.map Path.normalize ++ learnedFiles u.id calls
    ((∃ p, result = .ok p) ↔ s.plans.Fits h u ∨
      ((∀ q ∈ u.allInputs, s.Readable disk q) ∧
        ∀ q ∈ learnedFiles u.id calls, s.Readable disk q)) ∧
    (∀ fault, result = .error fault → ∃ q cause, q ∈ needed ∧ s.read disk q = .error cause ∧
      fault = .ofOverlay cause ∧ ∀ r ∈ needed, compare r q = .lt → s.Readable disk r) ∧
    ((∃ p, (s.plans.reset.planFor h (s.read disk) g u).2 = .ok p) ↔
      ∀ q ∈ u.allInputs, s.Readable disk q) := by
  intro s result needed
  obtain ⟨htidy, hlearned⟩ := through_invariant hg h settings o calls u.id
  have hdeclared : (∀ q ∈ u.allInputs.map Path.normalize, s.Readable disk q) ↔
      ∀ q ∈ u.allInputs, s.Readable disk q := by
    rw [List.forall_mem_map]
    exact forall₂_congr fun q _ => readable_normalize
  have hneeded : ∀ q, q ∈ s.plans.inputsOf u ↔ q ∈ needed := by
    intro q
    rw [htidy.mem_inputsOf, hlearned, List.mem_append]
  refine ⟨?_, ?_, ?_⟩
  · rw [htidy.planFor_isOk_iff hg hu]
    refine or_congr_right ?_
    rw [← hdeclared, ← List.forall_mem_append]
    exact forall_congr' fun q => imp_congr_left (hneeded q)
  · intro fault hfault
    obtain ⟨front, q, back, cause, hsplit, hfront, hq, hcause⟩ :=
      htidy.exists_first_of_planFor_error hg hu hfault
    have hinput : q ∈ s.plans.inputsOf u := by
      rw [hsplit]
      exact List.mem_append_right _ (List.mem_cons_self ..)
    refine ⟨q, cause, (hneeded q).1 hinput, hq, hcause, ?_⟩
    intro r hr hlt
    -- inputs come in order, so a lesser one stands in front
    have hordered : (s.plans.inputsOf u).Pairwise fun a b => compare a b = .lt :=
      s.plans.inputsOf_ordered u
    have hmem := (hneeded r).2 hr
    rw [hsplit] at hordered hmem
    obtain ⟨-, hback, -⟩ := List.pairwise_append.1 hordered
    rcases List.mem_append.1 hmem with hr | hr
    · exact hfront r hr
    · rcases List.mem_cons.1 hr with rfl | hr
      · simp at hlt
      · have hgt := (List.pairwise_cons.1 hback).1 r hr
        rw [Std.OrientedCmp.gt_of_lt hgt] at hlt
        cases hlt
  · obtain ⟨hfits, hforgotten⟩ := htidy.of_reset h u
    rw [htidy.reset.planFor_isOk_iff hg hu, or_iff_right hfits, ← hdeclared]
    refine forall_congr' fun q => imp_congr_left ?_
    rw [htidy.reset.mem_inputsOf, hforgotten, or_iff_left List.not_mem_nil]

open Situation (libraryWith modelOf programOnLibrary writtenOut)

/-- A table that no unit declares. -/
def table : Path := ⟨"/shared/table.txt"⟩

/-- The sources without the table. -/
def withoutTable : FileSource :=
  { selfNamed with readText := fun p => if p = table then .error .absent else .ok p.text }

/-- The library is planned, is found to read the table, and is planned with it. Then the library is
edited, so that it need not read the table any more, and the table is deleted. All changes are
passed on. -/
def tableOutgrown : List (FileSource × PlanCall) :=
  [(selfNamed, .plan (libraryWith [])), (selfNamed, .learn (.lib "core") [table]),
    (selfNamed, .plan (libraryWith [])), (selfNamed, .edit (.write ⟨"/core.rs"⟩ "pub fn run()")),
    (selfNamed, .invalidate (.inputs [⟨"/core.rs"⟩])), (selfNamed, .plan (libraryWith [])),
    (withoutTable, .invalidate (.inputs [table]))]

theorem smallGraph_accepted :
    UnitGraph.ofModel (modelOf [libraryWith [], programOnLibrary]) = .ok smallGraph := by
  decide +kernel

/-- As long as the table is there, the library is planned; without the table it is planned once
everything is forgotten. -/
theorem library_planned_with_table :
    let s := (start {} .fresh).through writtenOut smallGraph tableOutgrown
    (∃ p, (s.plans.planFor writtenOut (s.read selfNamed) smallGraph (libraryWith [])).2 = .ok p) ∧
      ∃ p, (s.plans.reset.planFor writtenOut (s.read withoutTable) smallGraph
        (libraryWith [])).2 = .ok p := by
  intro s
  have hu : smallGraph.unit? (libraryWith []).id = some (libraryWith []) := by decide +kernel
  obtain ⟨hplanned, -, -⟩ := planned_iff_readable smallGraph_accepted writtenOut {} .fresh
    tableOutgrown hu selfNamed
  obtain ⟨-, -, hreset⟩ := planned_iff_readable smallGraph_accepted writtenOut {} .fresh
    tableOutgrown hu withoutTable
  refine ⟨hplanned.2 (Or.inr ⟨?_, ?_⟩), hreset.2 ?_⟩
  · decide +kernel
  · decide +kernel
  · decide +kernel

/-- **A file that was read once is needed for good**: all inputs that the library declares can be
read, and yet it cannot be planned, since the table is gone. -/
theorem library_unplannable_without_table :
    let s := (start {} .fresh).through writtenOut smallGraph tableOutgrown
    UnitGraph.ofModel (modelOf [libraryWith [], programOnLibrary]) = .ok smallGraph ∧
      smallGraph.unit? (.lib "core") = some (libraryWith []) ∧
      (∀ q ∈ (libraryWith []).allInputs, s.Readable withoutTable q) ∧
      (s.plans.planFor writtenOut (s.read withoutTable) smallGraph (libraryWith [])).2 =
        .error (.inputNotFound table) := by
  refine ⟨smallGraph_accepted, ?_, ?_, ?_⟩
  · decide +kernel
  · decide +kernel
  · decide +kernel

end PlanSession

end CodeAtlas
