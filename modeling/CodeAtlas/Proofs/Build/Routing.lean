import CodeAtlas.Build.Queue
import CodeAtlas.Proofs.Build.Indexing
import CodeAtlas.Proofs.Build.Plan
import CodeAtlas.Proofs.Project.Dirty

/-!
# Routing of changes

Which changes reach a unit. Two rules meet here. An analysis takes a file for accounted for if the
plan declares it or if it lies below the unit's source root; a change is routed to the units that
declare the file, to those that were learned to read it, and to those with the deepest source root
above it. The rules agree except where a unit reads, without declaring it, a file below the deeper
source root of another unit: such a change does not reach the reader.

## Architecture

- **Layer A**: the owners of a file;
- **Layer B**: the units that were learned to read a file;
- **Layer C**: what an analysis leaves accounted for;
- **Layer D**: what a change comes to.
-/

namespace CodeAtlas

open Activity

/-! ## Layer A: owners -/

namespace UnitGraph

variable {g : UnitGraph} {m : ProjectModel} {u : CompilationUnit} {f : Path}

/-- **A unit is overshadowed at a file**: the file lies below its source root, and below a deeper
one of another unit. -/
def Overshadowed (g : UnitGraph) (u : CompilationUnit) (f : Path) : Prop :=
  ∃ n k, rootDepth? u f = some n ∧ n < k ∧ ∃ v d, g.unit? v = some d ∧ rootDepth? d f = some k

theorem normal_of_unit? (hg : ofModel m = .ok g) (hu : g.unit? u.id = some u) :
    u.rootFile.normalize = u.rootFile ∧ u.srcRoot.normalize = u.srcRoot ∧
      ∀ q ∈ u.inputs, q.normalize = q := by
  obtain ⟨d, -, -, rfl⟩ := (unit?_ofModel hg).1 hu
  refine ⟨d.rootFile.normalize_normalize, d.srcRoot.normalize_normalize, ?_⟩
  intro q hq
  obtain ⟨r, -, rfl⟩ := List.mem_map.1 hq
  exact r.normalize_normalize

/-- What a unit declares is its root file and its declared inputs. -/
theorem declares_iff (hg : ofModel m = .ok g) (hu : g.unit? u.id = some u) :
    declares u f = true ↔ f ∈ u.allInputs.map Path.normalize := by
  obtain ⟨hroot, -, hinputs⟩ := normal_of_unit? hg hu
  have hof : ∀ q, q ∈ (KeySet.ofList u.inputs).toList ↔ q ∈ u.inputs := fun q =>
    KeySet.mem_ofList_of_distinct fun q hq r hr =>
      Path.eq_of_compare (hinputs q hq) (hinputs r hr)
  have hnormal : ∀ q ∈ [u.rootFile] ++ (KeySet.ofList u.inputs).toList, q.normalize = q := by
    intro q hq
    rcases List.mem_append.1 hq with hq | hq
    · rw [List.mem_singleton.1 hq, hroot]
    · exact hinputs q ((hof q).1 hq)
  -- the inputs are the root file and what is declared, each in canonical spelling already
  have hall : ∀ q, q ∈ u.allInputs ↔ q = u.rootFile ∨ q ∈ u.inputs := by
    intro q
    have hinsert := @KeySet.mem_insertAll_of_distinct Path _ (KeySet.ofList u.inputs) [u.rootFile] q
      fun q hq r hr => Path.eq_of_compare (hnormal q hq) (hnormal r hr)
    rwa [List.mem_singleton, hof] at hinsert
  have hmap : f ∈ u.allInputs.map Path.normalize ↔ f ∈ u.allInputs := by
    have hfix : u.allInputs.map Path.normalize = u.allInputs := by
      refine (List.map_congr_left ?_).trans (List.map_id _)
      intro q hq
      rcases (hall q).1 hq with rfl | hq
      · exact hroot
      · exact hinputs q hq
    rw [hfix]
  rw [hmap, hall]
  unfold declares
  rw [Bool.or_eq_true, beq_iff_eq, List.contains_iff_mem, eq_comm]

/-- The largest of some numbers is the one that no other exceeds. -/
private theorem foldl_max_eq_iff {l : List Nat} {n : Nat} (h : n ∈ l) :
    l.foldl max 0 = n ↔ ∀ k ∈ l, k ≤ n := by
  obtain ⟨most, hmost⟩ := Option.isSome_iff_exists.1 (List.isSome_max?_of_mem h)
  rw [List.foldl_max, hmost, Option.getD_some, Nat.zero_max]
  obtain ⟨hmem, hle⟩ := List.max?_eq_some_iff.1 hmost
  constructor
  · rintro rfl
    exact hle
  · intro hall
    exact le_antisymm (hall most hmem) (hle n h)

/-- A source root that lies above a file has components. -/
theorem rootDepth?_pos (hroot : u.srcRoot.normalize = u.srcRoot) {n : Nat}
    (h : rootDepth? u f = some n) : 0 < n := by
  unfold rootDepth? at h
  split at h
  · cases h
  · rename_i hbelow
    obtain rfl := Option.some.inj h
    refine List.length_pos_iff.2 fun hnil => ?_
    -- the only normalized path without components is the empty one
    have hempty : u.srcRoot = ⟨""⟩ := Path.eq_of_parts_eq hroot (by decide) (by rw [hnil]; decide)
    simp [hempty] at hbelow

/-- The units of an accepted project are found under their identifiers. -/
private theorem mem_values_iff (hg : ofModel m = .ok g) (d : CompilationUnit) :
    d ∈ g.units.values ↔ g.unit? d.id = some d := by
  have hlinked := (sound_ofModel hg).toLinked
  unfold Table.values unit?
  rw [List.mem_map, hlinked.ordered.get?_eq_some_iff]
  constructor
  · rintro ⟨⟨v, e⟩, he, rfl⟩
    have hid := id_of_unit? hg ((hlinked.ordered.get?_eq_some_iff v e).2 he)
    simpa [hid] using he
  · exact fun hd => ⟨_, hd, rfl⟩

/-- **The deepest source root above a file** is that of the units which are not overshadowed. -/
private theorem deepest_eq_iff (hg : ofModel m = .ok g) (hu : g.unit? u.id = some u) {n : Nat}
    (hn : rootDepth? u f = some n) :
    (g.units.values.filterMap fun d => rootDepth? d f).foldl max 0 = n ↔
      ¬ g.Overshadowed u f := by
  rw [foldl_max_eq_iff (List.mem_filterMap.2 ⟨u, (mem_values_iff hg u).2 hu, hn⟩)]
  constructor
  · rintro hall ⟨n', k, hn', hlt, v, d, hd, hk⟩
    obtain rfl := Option.some.inj (hn.symm.trans hn')
    have hmem : d ∈ g.units.values := (mem_values_iff hg d).2 (by rw [id_of_unit? hg hd, hd])
    exact absurd (hall k (List.mem_filterMap.2 ⟨d, hmem, hk⟩)) (not_le.2 hlt)
  · intro hclear k hk
    obtain ⟨d, hd, hk⟩ := List.mem_filterMap.1 hk
    by_contra hlt
    exact hclear ⟨n, k, hn, not_le.1 hlt, d.id, d, (mem_values_iff hg d).1 hd, hk⟩

/-- **The owners of a file**: the units that declare it, and those that have it below their source
root and are not overshadowed there. -/
theorem mem_owners_iff (hg : ofModel m = .ok g) (hu : g.unit? u.id = some u)
    (hf : f.normalize = f) :
    u.id ∈ g.owners f ↔ f ∈ u.allInputs.map Path.normalize ∨
      (rootDepth? u f).isSome = true ∧ ¬ g.Overshadowed u f := by
  have howns : u.id ∈ g.owners f ↔ declares u f = true ∨
      0 < (g.units.values.filterMap fun d => rootDepth? d f).foldl max 0 ∧
        rootDepth? u f =
          some ((g.units.values.filterMap fun d => rootDepth? d f).foldl max 0) := by
    unfold owners
    simp only [hf, List.mem_map, List.mem_filter, mem_values_iff hg, Bool.or_eq_true,
      Bool.and_eq_true, decide_eq_true_eq, beq_iff_eq]
    constructor
    · rintro ⟨d, ⟨hd, howns⟩, hid⟩
      obtain rfl : d = u := Option.some.inj ((hid ▸ hd).symm.trans hu)
      exact howns
    · exact fun howns => ⟨u, ⟨hu, howns⟩, rfl⟩
  rw [howns, declares_iff hg hu]
  refine or_congr_right ?_
  cases hn : rootDepth? u f with
  | none => simp
  | some n =>
    -- a source root above the file has a depth, so the deepest one is not zero if it is this one
    have hpos := rootDepth?_pos (normal_of_unit? hg hu).2.1 hn
    rw [Option.some.injEq, Option.isSome_some, ← deepest_eq_iff hg hu hn]
    constructor
    · rintro ⟨-, hdeepest⟩
      exact ⟨rfl, hdeepest.symm⟩
    · rintro ⟨-, hdeepest⟩
      exact ⟨hdeepest ▸ hpos, hdeepest.symm⟩

/-- A file that is neither a manifest nor a build script belongs to the units that compile it. -/
theorem classify_cases (g : UnitGraph) (f : Path) :
    g.classify f = .manifest ∨ g.classify f = .buildScript ∨
      (g.classify f = .unowned ∧ g.owners f.normalize = []) ∨
        g.classify f = .source (g.owners f.normalize) := by
  unfold classify
  simp only
  split
  · exact .inl rfl
  · split
    · exact .inr (.inl rfl)
    · cases howners : g.owners f.normalize with
      | nil => exact .inr (.inr (.inl ⟨rfl, rfl⟩))
      | cons u us => exact .inr (.inr (.inr rfl))

theorem owners_of_source {us : List UnitId} (h : g.classify f = .source us) :
    us = g.owners f.normalize := by
  rcases g.classify_cases f with hclass | hclass | ⟨hclass, -⟩ | hclass
  · cases h.symm.trans hclass
  · cases h.symm.trans hclass
  · cases h.symm.trans hclass
  · exact FileClass.source.inj (h.symm.trans hclass)

theorem owners_of_unowned (h : g.classify f = .unowned) : g.owners f.normalize = [] := by
  rcases g.classify_cases f with hclass | hclass | ⟨-, hnone⟩ | hclass
  · cases h.symm.trans hclass
  · cases h.symm.trans hclass
  · exact hnone
  · cases h.symm.trans hclass

end UnitGraph

/-! ## Layer B: learned readers -/

namespace PlanCache

variable {g : UnitGraph} {c : PlanCache}

theorem Tidy.mem_learnedReaders (h : c.Tidy) {v : UnitId} {f : Path} (hf : f.normalize = f) :
    v ∈ c.learnedReaders f ↔ f ∈ (c.learnedOf v).toList := by
  -- a set of canonical paths finds a canonical path exactly if it has it
  have hcontains : ∀ {w : UnitId} {s : KeySet Path}, (w, s) ∈ c.learned.entries →
      (s.contains f = true ↔ f ∈ s.toList) := by
    intro w s hws
    have hs : c.learnedOf w = s := by
      unfold learnedOf Table.getD
      rw [h.learned.get?_of_mem hws]
      rfl
    simp only [KeySet.contains, List.any_eq_true, beq_iff_eq]
    constructor
    · rintro ⟨q, hq, hfq⟩
      rwa [Path.eq_of_compare hf (h.normal w q (hs ▸ hq)) hfq]
    · exact fun hmem => ⟨f, hmem, Std.ReflCmp.compare_self⟩
  unfold learnedReaders
  rw [hf, List.mem_map]
  constructor
  · rintro ⟨⟨w, s⟩, hws, rfl⟩
    obtain ⟨hmem, hcont⟩ := List.mem_filter.1 hws
    unfold learnedOf Table.getD
    rw [h.learned.get?_of_mem hmem]
    exact (hcontains hmem).1 hcont
  · intro hv
    unfold learnedOf Table.getD at hv
    cases hget : c.learned.get? v with
    | none => simp [hget, KeySet.empty] at hv
    | some s =>
      rw [hget] at hv
      have hmem := (h.learned.get?_eq_some_iff v s).1 hget
      exact ⟨(v, s), List.mem_filter.2 ⟨hmem, (hcontains hmem).2 hv⟩, rfl⟩

end PlanCache

/-! ## Layer C: accounted for -/

section Reads

variable {τ : Type} {g : UnitGraph} {m : ProjectModel} {u : CompilationUnit}

/-- All paths that were loaded are in canonical spelling. -/
def Workplace.LoadsNormal (w : Workplace τ) : Prop := ∀ q ∈ w.loaded.toList, q.normalize = q

/-- Others leave alone which paths the present analysis has loaded. -/
def Workplace.SameLoaded (w w' : Workplace τ) : Prop := w'.loaded = w.loaded

/-- **The compiler takes down the paths it loads in canonical spelling.** -/
def Collaborators.Tidy (t : Collaborators τ) : Prop :=
  ∀ u p (w : Workplace τ), w.LoadsNormal →
    Ensures Workplace.SameLoaded (fun _ w' => w'.LoadsNormal) (t.analyze u p).run w

/-- Loading takes down the canonical spelling. -/
theorem Workplace.ensures_load {w : Workplace τ} (hw : w.LoadsNormal) (p : Path) :
    Ensures SameLoaded (fun _ w' => w'.LoadsNormal) (load p).run w := by
  unfold load
  rw [ensures_work_bind, ensures_lift, ensures_current]
  simp only [either]
  cases w.read p.normalize with
  | error fault => exact hw
  | ok text =>
    simp only
    rw [ensures_work_bind, ensures_lift, ensures_modify]
    intro q hq
    -- canonical paths that compare as equal are the same
    have hall : ∀ q ∈ [p.normalize] ++ w.loaded.toList, q.normalize = q := by
      intro q hq
      rcases List.mem_append.1 hq with hq | hq
      · rw [List.mem_singleton.1 hq, Path.normalize_normalize]
      · exact hw q hq
    have hinsert := @KeySet.mem_insertAll_of_distinct Path _ w.loaded [p.normalize] q
      fun q hq r hr => Path.eq_of_compare (hall q hq) (hall r hr)
    exact hall q (List.mem_append.2 (hinsert.1 hq))

namespace Analysis

/-- The files of a set that is extended by canonical spellings. -/
private theorem normal_of_mem_insertAll {s : KeySet Path} (hs : ∀ q ∈ s.toList, q.normalize = q)
    (ps : List Path) : ∀ q ∈ (s.insertAll (ps.map Path.normalize)).toList, q.normalize = q := by
  have hall : ∀ q ∈ ps.map Path.normalize ++ s.toList, q.normalize = q := by
    intro q hq
    rcases List.mem_append.1 hq with hq | hq
    · obtain ⟨r, -, rfl⟩ := List.mem_map.1 hq
      exact r.normalize_normalize
    · exact hs q hq
  intro q hq
  rw [KeySet.mem_insertAll_of_distinct fun q hq r hr =>
    Path.eq_of_compare (hall q hq) (hall r hr)] at hq
  exact hall q (List.mem_append.2 hq)

theorem normal_readFiles_of (v : UnitId) (s : Snapshot) (source : AnalysisSource) :
    ∀ q ∈ (of v s source).readFiles, q.normalize = q := by
  intro q hq
  have hread : (of v s source).readFiles =
      ((KeySet.empty : KeySet Path).insertAll (s.readFiles.reverse.map Path.normalize)).toList := by
    unfold of KeySet.ofList
    rw [List.map_reverse]
  rw [hread] at hq
  exact normal_of_mem_insertAll (by simp [KeySet.empty]) _ q hq

/-- An analysis lists the files it read in canonical spelling. -/
theorem ensures_normal_reads (st : Storage) {t : Collaborators τ} (ht : t.Tidy) (p : Plan)
    (w : Workplace τ) :
    Ensures Workplace.SameLoaded
      (either (fun a _ => ∀ q ∈ a.readFiles, q.normalize = q) fun _ _ => True)
      (make st t u p).run w := by
  refine ensures_make st t u p w (fun _ _ => trivial)
    (fun s source _ => normal_readFiles_of u.id s source) ?_
  -- no path is loaded at the start, and the compiler keeps the paths in canonical spelling
  have hstart : ({ w with loaded := .empty } : Workplace τ).LoadsNormal := by
    simp [Workplace.LoadsNormal, KeySet.empty]
  refine (ht u p _ hstart).mono ?_
  rintro _ w' hw' snapshot rfl
  exact normal_of_mem_insertAll hw' snapshot.readFiles

end Analysis

/-- **A file that a unit reads is accounted for**: it is an input of the unit, or it lies below its
source root. -/
def PlanCache.Covers (c : PlanCache) (u : CompilationUnit) (f : Path) : Prop :=
  f ∈ c.inputsOf u ∨ (UnitGraph.rootDepth? u f).isSome = true

/-- What an analysis read is accounted for once it is learned. -/
theorem PlanCache.Accounts.covers_learnReads {c : PlanCache} (hc : c.Accounts g) {p : Plan}
    (hp : ∀ q ∈ p.invocation.inputs, q ∈ c.inputsOf u) {a : Analysis} {f : Path}
    (hf : f ∈ a.readFiles) (hnormal : f.normalize = f) : (c.learnReads u p a).1.Covers u f := by
  -- a read that is not reported is declared by the plan, or lies below the source root
  have hundeclared : f ∉ Analysis.undeclaredReads u p a → c.Covers u f := by
    intro hf'
    unfold Analysis.undeclaredReads at hf'
    simp only [List.mem_filter, hf, true_and, Bool.and_eq_true, Bool.not_eq_true', Bool.or_eq_true,
      not_and_or, not_or, Bool.not_eq_false, Bool.not_eq_true] at hf'
    rcases hf' with hdeclares | ⟨hroot, hbelow⟩
    · unfold Plan.declares at hdeclares
      obtain ⟨q, hq, hqf⟩ := List.any_eq_true.1 hdeclares
      have hparts : q.parts = f.parts := by simpa [Path.same] using hqf
      rw [← Path.eq_of_parts_eq (hc.normalize_of_mem_inputsOf (hp q hq)) hnormal hparts]
      exact Or.inl (hp q hq)
    · refine Or.inr ?_
      simp [UnitGraph.rootDepth?, hroot, hbelow]
  unfold learnReads
  cases hreads : Analysis.undeclaredReads u p a with
  | nil => exact hundeclared (by simp [hreads])
  | cons first rest =>
    simp only
    rw [← hreads]
    have hevolves : Evolves g c (c.learnInputs u.id (Analysis.undeclaredReads u p a)).1 :=
      .single (.learn _ _)
    by_cases hmem : f ∈ Analysis.undeclaredReads u p a
    · refine Or.inl ((hc.evolves hevolves).mem_inputsOf.2 (Or.inr ?_))
      rw [learnedOf_learnInputs, hc.mem_learnedOf_addLearned_iff]
      exact Or.inr ⟨rfl, List.mem_map.2 ⟨f, hmem, hnormal⟩⟩
    · exact (hundeclared hmem).imp_left (hevolves.mem_inputsOf hc)

theorem PlanCache.evolves_learnReads (c : PlanCache) (g : UnitGraph) (u : CompilationUnit)
    (p : Plan) (a : Analysis) : Evolves g c (c.learnReads u p a).1 := by
  unfold learnReads
  cases Analysis.undeclaredReads u p a with
  | nil => exact .refl
  | cons first rest => exact .single (.learn _ _)

namespace BuildState

/-- **What others may do while the work on a unit stands still**: plans are made, learned from and
dropped, but the project stays the same. -/
def Meanwhile (g : UnitGraph) (s s' : BuildState τ) : Prop :=
  PlanCache.Evolves g s.plans s'.plans ∧ s.place.SameLoaded s'.place

/-- An analysis after which all that was read is accounted for. -/
def Settles (g : UnitGraph) (u : CompilationUnit) (a : Analysis) (s : BuildState τ) : Prop :=
  s.plans.Accounts g ∧ ∀ f ∈ a.readFiles, f.normalize = f ∧ s.plans.Covers u f

variable {st : Analysis.Storage} {t : Collaborators τ}

theorem ensures_settles (hg : UnitGraph.ofModel m = .ok g) (hu : g.unit? u.id = some u)
    (ht : t.Tidy) {s : BuildState τ} (hs : s.plans.Accounts g) :
    Ensures (Meanwhile g) (either (fun r s' => Settles g u r.1 s') fun _ _ => True)
      (examine st t g u).run s := by
  refine ensures_examine trivial (fun _ _ _ => trivial) ?_
  intro plans p hplan
  obtain ⟨hevolves, hget⟩ := hs.of_planFor hg hu hplan
  have hplans := hs.evolves hevolves
  -- the plan outlives what happens to the cache while the unit is analyzed
  have hframe : ∀ s₁ s₂ : BuildState τ, Meanwhile g s₁ s₂ → PlanCache.Evolves g plans s₁.plans →
      PlanCache.Evolves g plans s₂.plans := fun _ _ h h' => h'.trans h.1
  have hwithin : Ensures (Meanwhile g) (fun r s₁ => either
        (fun a _ => ∀ q ∈ a.readFiles, q.normalize = q) (fun _ _ => True) r s₁.place ∧
      PlanCache.Evolves g plans s₁.plans) (atPlace (Analysis.make st t u p).run)
      { s with plans := plans } :=
    ensures_within (fun _ _ => rfl) (fun _ _ h => h) hframe (fun _ _ h => h.2) .refl
      (Analysis.ensures_normal_reads st ht p s.place)
  refine hwithin.mono ?_
  rintro (fault | a) s₁ ⟨ha, hs₁⟩
  · exact trivial
  · have hs₁' := hplans.evolves hs₁
    refine ⟨hs₁'.evolves (s₁.plans.evolves_learnReads g u p a), fun f hf => ⟨ha f hf, ?_⟩⟩
    exact hs₁'.covers_learnReads
      (fun q hq => hs₁.mem_inputsOf hplans (hplans.inputs u p hu hget q hq)) hf (ha f hf)

theorem ensures_settles_again (hg : UnitGraph.ofModel m = .ok g) (hu : g.unit? u.id = some u)
    (ht : t.Tidy) (n : Nat) {s : BuildState τ} (hs : s.plans.Accounts g) :
    Ensures (Meanwhile g) (either (Settles g u) fun _ _ => True) (examineAgain st t g u n).run s := by
  induction n generalizing s with
  | zero =>
    refine ensures_examineAgain_zero ((ensures_settles hg hu ht hs).mono ?_)
    rintro (fault | r) s' h
    · exact trivial
    · exact h
  | succ n ih =>
    refine ensures_examineAgain_succ ((ensures_settles hg hu ht hs).mono ?_)
    rintro (fault | r) s' h
    · exact trivial
    · simp only [either] at h ⊢
      split
      · exact ih h.1
      · exact h

end BuildState

end Reads

/-! ## Layer D: changes -/

namespace Queue

variable {τ : Type} {q : Queue τ} {g : UnitGraph} {m : ProjectModel} {u : CompilationUnit}

private theorem foldl_perform_dirty (es : List Effect) (q : Queue τ) :
    (es.foldl perform q).dirty = q.dirty :=
  List.foldlRecOn (motive := fun r : Queue τ => r.dirty = q.dirty) es perform rfl
    fun r hr e _ => by cases e <;> exact hr

@[simp] theorem dirty_request (q : Queue τ) (p : Priority) : (q.request p).dirty = q.dirty :=
  foldl_perform_dirty _ _

/-- A changed file concerns the units that compile it or were learned to read it. -/
theorem mem_of_concerned {f : Path} {us : KeySet UnitId} (h : q.concerned g f = some us)
    (v : UnitId) :
    v ∈ us.toList ↔ v ∈ g.owners f.normalize ∨ v ∈ q.state.plans.learnedReaders f := by
  unfold concerned UnitGraph.concerned at h
  cases hclass : g.classify f with
  | manifest | buildScript => simp [hclass] at h
  | source owners =>
    simp only [hclass, Option.some.injEq] at h
    rw [← h, UnitGraph.owners_of_source hclass, KeySet.mem_ofList, List.mem_append]
  | unowned =>
    simp only [hclass, Option.ite_none_left_eq_some, Option.some.injEq] at h
    rw [← h.2, UnitGraph.owners_of_unowned hclass, KeySet.mem_ofList]
    simp

/-- **A change is taken note of**: the project is discovered anew, or the units that compile the
file or were learned to read it become dirty, and no others. -/
theorem fileChanged_cases (hgraph : q.control.graph = some g) (hdirty : q.dirty.Sound) (f : Path) :
    q.fileChanged f = q.request .full ∨
      ∀ v, (q.fileChanged f).dirty.isDirty v = true ↔
        (v ∈ g.owners f.normalize ∨ v ∈ q.state.plans.learnedReaders f) ∨
          q.dirty.isDirty v = true := by
  unfold fileChanged
  simp only [hgraph, Option.bind_some]
  cases hconcerned : q.concerned g f with
  | none => exact Or.inl rfl
  | some us =>
    refine Or.inr fun v => ?_
    simp only [Option.map_some, dirty_request, hdirty.isDirty_markFile]
    exact or_congr_left (mem_of_concerned hconcerned v)

/-- **When a change reaches a unit** that accounts for the file. -/
theorem routed_iff (hg : UnitGraph.ofModel m = .ok g) (hu : g.unit? u.id = some u) {c : PlanCache}
    (hc : c.Tidy) {f : Path} (hf : f.normalize = f) (hcovers : c.Covers u f) :
    u.id ∈ g.owners f ∨ u.id ∈ c.learnedReaders f ↔
      f ∈ c.inputsOf u ∨ ¬ g.Overshadowed u f := by
  rw [UnitGraph.mem_owners_iff hg hu hf, hc.mem_learnedReaders hf]
  have hinputs := hc.mem_inputsOf (u := u) (q := f)
  unfold PlanCache.Covers at hcovers
  tauto

/-- **Changes reach the units that read the file.** A unit of an accepted project is planned and
analyzed, whatever plans were made since the project was discovered and whatever happens to the
plans meanwhile and afterwards. A change of a file that the analysis read is routed to the unit
exactly if the file is an input of the unit, declared or learned, or the unit is not overshadowed
there; then the project is discovered anew, or the unit becomes dirty. -/
theorem changes_reach_readers {st : Analysis.Storage} {t : Collaborators τ} {s : BuildState τ}
    (hg : UnitGraph.ofModel m = .ok g) (hu : g.unit? u.id = some u) (ht : t.Tidy)
    {settings : BuildSettings} (hs : PlanCache.Evolves g (.new settings) s.plans) :
    Ensures (BuildState.Meanwhile g) (either (fun a s' =>
        ∀ f ∈ a.readFiles, ∀ q : Queue τ, q.control.graph = some g → q.dirty.Sound →
          PlanCache.Evolves g s'.plans q.state.plans →
          (u.id ∈ g.owners f ∨ u.id ∈ q.state.plans.learnedReaders f ↔
            f ∈ q.state.plans.inputsOf u ∨ ¬ g.Overshadowed u f) ∧
          (f ∈ q.state.plans.inputsOf u ∨ ¬ g.Overshadowed u f →
            q.fileChanged f = q.request .full ∨ (q.fileChanged f).dirty.isDirty u.id = true))
      fun _ _ => True) (BuildState.examineAgain st t g u 1).run s := by
  have hnew : (PlanCache.new settings).Accounts g :=
    PlanCache.accounts_of_empty rfl (PlanCache.tidy_new settings)
  refine (BuildState.ensures_settles_again hg hu ht 1 (hnew.evolves hs)).mono ?_
  rintro (fault | a) s' h
  · exact trivial
  · obtain ⟨hplans, hreads⟩ := h
    intro f hf q hgraph hdirty hlater
    obtain ⟨hnormal, hcovers⟩ := hreads f hf
    -- what was an input at the time of the analysis still is one, however plans evolved since
    have hrouted := routed_iff hg hu (hplans.evolves hlater).toTidy hnormal
      (hcovers.imp_left (hlater.mem_inputsOf hplans))
    refine ⟨hrouted, fun hreached => ?_⟩
    refine (fileChanged_cases hgraph hdirty f).imp_right fun hmarks => ?_
    rw [hmarks u.id, hnormal]
    exact Or.inl (hrouted.2 hreached)

/-! A library whose source root holds that of another library. -/

/-- The source root of the inner library lies below that of the outer one. -/
def nestedModel : ProjectModel :=
  { root := ⟨"/w"⟩
    units :=
      [.new (.lib "outer") ⟨"/w/src/lib.rs"⟩, .new (.lib "inner") ⟨"/w/src/inner/lib.rs"⟩]
    manifests := []
    buildScriptFiles := [] }

/-- The outer library as its graph has it. -/
def outerUnit : CompilationUnit :=
  UnitGraph.normalizeUnit (.new (.lib "outer") ⟨"/w/src/lib.rs"⟩)

/-- A compiler that reads the same files for every unit, and does nothing else. -/
def readingTeam (files : List Path) : Collaborators Unit where
  discover _ := throw .cancelled
  analyze _ _ := pure (some { (default : Snapshot) with readFiles := files })
  run _ := pure (.error .noEntry)

theorem tidy_readingTeam (files : List Path) : (readingTeam files).Tidy := fun _ _ _ hw => hw

/-- A root file and a generated part that are open in the editor. -/
def openSources : Workplace Unit :=
  { overlay := (Overlay.fresh.openBuffer ⟨"/w/src/lib.rs"⟩ "mod inner;" 0).openBuffer
      ⟨"/w/gen/part.rs"⟩ "" 0
    own := () }

/-- The work of analyzing the outer library. -/
def outerWork (files : List Path) : Work (BuildState Unit) Analysis :=
  BuildState.examineAgain { hash := ⟨fun _ => ⟨""⟩⟩ } (readingTeam files)
    (UnitGraph.assemble nestedModel) outerUnit 1

/-- A state in which nothing was planned yet. -/
def outerStart : BuildState Unit := { place := openSources }

/-- The analysis of the outer library, and what it leaves. -/
def outerRun (files : List Path) : BuildState Unit × Except BuildFault Analysis :=
  (outerWork files).run.runThrough false outerStart

/-- A queue that goes on from a state. -/
def queueAt (s : BuildState Unit) : Queue Unit :=
  { setup := ⟨⟨"/w"⟩, {}, {}, readingTeam []⟩
    state := s
    control := { graph := some (UnitGraph.assemble nestedModel) } }

/-- What the analysis of the outer library comes to. -/
def outerAnalysis (files : List Path) : Analysis :=
  ⟨.lib "outer", { (default : Snapshot) with readFiles := files }, .inProcess, files⟩

/-- A part that nothing declares. -/
def generatedPart : Path := ⟨"/w/gen/part.rs"⟩

/-- A part below the source root of the inner library. -/
def sharedPart : Path := ⟨"/w/src/inner/shared.rs"⟩

/-- The outer library reads a part that nothing declares. It learns of it, and a change of the part
reaches it. -/
theorem generated_part_reaches_outer :
    (outerRun [generatedPart]).2 = .ok (outerAnalysis [generatedPart]) ∧
      ((queueAt (outerRun [generatedPart]).1).fileChanged generatedPart =
          (queueAt (outerRun [generatedPart]).1).request .full ∨
        ((queueAt (outerRun [generatedPart]).1).fileChanged generatedPart).dirty.isDirty
          (.lib "outer") = true) := by
  have hg : UnitGraph.ofModel nestedModel = .ok (UnitGraph.assemble nestedModel) := by
    decide +kernel
  have hu : (UnitGraph.assemble nestedModel).unit? outerUnit.id = some outerUnit := by
    decide +kernel
  have hrun : (outerRun [generatedPart]).2 = .ok (outerAnalysis [generatedPart]) := by
    decide +kernel
  have hinput : generatedPart ∈ (outerRun [generatedPart]).1.plans.inputsOf outerUnit := by
    decide +kernel
  have hensures : Ensures _ _ (outerWork [generatedPart]).run outerStart :=
    changes_reach_readers hg hu (tidy_readingTeam [generatedPart])
      (.refl : PlanCache.Evolves _ (.new {}) outerStart.plans)
  generalize hout : outerRun [generatedPart] = out at hrun hinput ⊢
  obtain ⟨s', r⟩ := out
  obtain rfl : r = .ok (outerAnalysis [generatedPart]) := hrun
  -- nothing happens meanwhile in this run, which is one of the ways it can go
  have hreach := hensures.of_runThrough (fun _ => ⟨.refl, rfl⟩) hout
  exact ⟨rfl, (hreach generatedPart (List.mem_cons_self ..) (queueAt s') rfl
    DirtySet.sound_empty .refl).2 (Or.inl hinput)⟩

/-- The outer library reads a part below the source root of the inner one. The analysis takes it for
accounted for, but a change of the part reaches the inner library only. -/
theorem shared_part_misses_outer :
    (outerRun [sharedPart]).2 = .ok (outerAnalysis [sharedPart]) ∧
      sharedPart.startsWith outerUnit.srcRoot = true ∧
      (queueAt (outerRun [sharedPart]).1).fileChanged sharedPart ≠
        (queueAt (outerRun [sharedPart]).1).request .full ∧
      ((queueAt (outerRun [sharedPart]).1).fileChanged sharedPart).dirty.isDirty
        (.lib "outer") = false := by
  refine ⟨by decide +kernel, by decide +kernel, fun hfull => ?_, by decide +kernel⟩
  -- a request for a full build marks nothing, but the inner library is marked
  have hinner : ((queueAt (outerRun [sharedPart]).1).fileChanged sharedPart).dirty.isDirty
      (.lib "inner") = true := by
    decide +kernel
  rw [hfull, dirty_request] at hinner
  have hnone : (queueAt (outerRun [sharedPart]).1).dirty = .empty := rfl
  rw [hnone] at hinner
  exact absurd hinner (by decide)

end Queue

end CodeAtlas
