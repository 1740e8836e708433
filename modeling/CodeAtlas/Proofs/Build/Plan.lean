import CodeAtlas.Build.Plan
import CodeAtlas.Proofs.Ordered.KeySet
import CodeAtlas.Proofs.Path.Normal
import CodeAtlas.Proofs.Project.Graph

/-!
# Theory of plans

What the inputs of a unit are, what every plan that is kept accounts for, and that keeping plans
never shows: as long as the plans at hand are current, planning gives what it would give without
them.

## Architecture

- **Layer A**: inputs, declared and learned;
- **Layer B**: tidy caches, and what one act of planning does to them;
- **Layer C**: how plans change over time, and what the plans at hand account for;
- **Layer D**: planning without a cache;
- **Layer E**: current plans.
-/

namespace CodeAtlas

open Fingerprint (textField pathField)

namespace PlanCache

variable {g : UnitGraph} {c c' : PlanCache} {u : CompilationUnit} {p : Plan}

/-! ## Layer A: inputs -/

private theorem eq_of_compare_of_normal {l : List Path} (h : ∀ q ∈ l, q.normalize = q) :
    ∀ q ∈ l, ∀ r ∈ l, compare q r = .eq → q = r :=
  fun q hq r hr => Path.eq_of_compare (h q hq) (h r hr)

/-- **The inputs of a unit** are those it declares and those it was learned to read. -/
theorem mem_inputsOf (hnormal : ∀ q ∈ (c.learnedOf u.id).toList, q.normalize = q) {q : Path} :
    q ∈ c.inputsOf u ↔ q ∈ u.allInputs.map Path.normalize ∨ q ∈ (c.learnedOf u.id).toList := by
  have hdeclared : ∀ q ∈ u.allInputs.map Path.normalize, q.normalize = q := by
    intro q hq
    obtain ⟨r, -, rfl⟩ := List.mem_map.1 hq
    exact r.normalize_normalize
  have hof : ∀ q, q ∈ (KeySet.ofList (u.allInputs.map Path.normalize)).toList ↔
      q ∈ u.allInputs.map Path.normalize := fun q =>
    KeySet.mem_ofList_of_distinct (eq_of_compare_of_normal hdeclared)
  -- the union compares paths, which tells canonical ones apart as equality does
  have hall : ∀ q ∈ (c.learnedOf u.id).toList ++
      (KeySet.ofList (u.allInputs.map Path.normalize)).toList, q.normalize = q := by
    intro q hq
    rcases List.mem_append.1 hq with hq | hq
    · exact hnormal q hq
    · exact hdeclared q ((hof q).1 hq)
  unfold inputsOf
  rw [KeySet.mem_insertAll_of_distinct (eq_of_compare_of_normal hall), hof]
  exact or_comm

theorem learnedOf_addLearned (c : PlanCache) (v w : UnitId) (paths : List Path) :
    (c.addLearned v paths).learnedOf w =
      if w = v then (c.learnedOf v).insertAll (paths.map Path.normalize) else c.learnedOf w := by
  unfold learnedOf addLearned Table.getD
  simp only [Table.get?_insert, Std.LawfulEqOrd.compare_eq_iff_eq]
  split
  · rfl
  · rfl

/-- Only the learned files of a unit matter for its inputs. -/
theorem inputsOf_congr (h : c'.learnedOf u.id = c.learnedOf u.id) : c'.inputsOf u = c.inputsOf u := by
  unfold inputsOf
  rw [h]

/-! ## Layer B: tidy caches -/

/-- **A tidy cache**: tables are in order, what was learned is spelled in one way, and every plan is
filed under its unit. -/
structure Tidy (c : PlanCache) : Prop where
  entries : c.entries.Ordered
  learned : c.learned.Ordered
  normal : ∀ v, ∀ q ∈ (c.learnedOf v).toList, q.normalize = q
  filed : ∀ v p, c.get? v = some p → p.unit = v

theorem tidy_of_empty (hentries : c.entries = .empty) (hlearned : c.learned.Ordered)
    (hnormal : ∀ v, ∀ q ∈ (c.learnedOf v).toList, q.normalize = q) : c.Tidy where
  entries := hentries ▸ Table.ordered_empty
  learned := hlearned
  normal := hnormal
  filed v p h := by simp [get?, hentries] at h

theorem tidy_new (s : BuildSettings) : (new s).Tidy :=
  tidy_of_empty rfl Table.ordered_empty (by simp [learnedOf, new, Table.getD, KeySet.empty])

theorem Tidy.mem_inputsOf (h : c.Tidy) {q : Path} :
    q ∈ c.inputsOf u ↔ q ∈ u.allInputs.map Path.normalize ∨ q ∈ (c.learnedOf u.id).toList :=
  PlanCache.mem_inputsOf (h.normal u.id)

theorem Tidy.normalize_of_mem_inputsOf (h : c.Tidy) {q : Path} (hq : q ∈ c.inputsOf u) :
    q.normalize = q := by
  rcases h.mem_inputsOf.1 hq with hq | hq
  · obtain ⟨r, -, rfl⟩ := List.mem_map.1 hq
    exact r.normalize_normalize
  · exact h.normal u.id q hq

theorem get?_keep (c : PlanCache) (p : Plan) (v : UnitId) :
    (c.keep p).get? v = if v = p.unit then some p else c.get? v := by
  unfold get? keep
  simp only [Table.get?_insert, Std.LawfulEqOrd.compare_eq_iff_eq]

theorem Tidy.keep (h : c.Tidy) (p : Plan) : (c.keep p).Tidy where
  entries := h.entries.insert p.unit p
  learned := h.learned
  normal := h.normal
  filed v q hq := by
    rw [get?_keep] at hq
    split at hq
    · rename_i hv
      rw [hv, Option.some.inj hq]
    · exact h.filed v q hq

/-- A plan that is kept already need not be kept again. -/
theorem Tidy.keep_of_get? (h : c.Tidy) (hp : c.get? p.unit = some p) : c.keep p = c := by
  have hentries : (c.keep p).entries = c.entries := by
    refine (h.keep p).entries.ext h.entries ?_
    intro v
    have hkeep := get?_keep c p v
    unfold get? at hkeep hp
    rw [hkeep]
    split
    · rename_i hv
      rw [hv, hp]
    · rfl
  cases c
  simpa [PlanCache.keep] using hentries

theorem Tidy.get?_invalidate (h : c.Tidy) (r : Invalidation) {v : UnitId} :
    (c.invalidate r).get? v = some p ↔ c.get? v = some p ∧ r.covers v p = false := by
  unfold get? invalidate
  rw [h.entries.get?_filter_eq_some_iff]
  simp

theorem Tidy.invalidate (h : c.Tidy) (r : Invalidation) : (c.invalidate r).Tidy where
  entries := h.entries.filter _
  learned := h.learned
  normal := h.normal
  filed v p hp := h.filed v p ((h.get?_invalidate r).1 hp).1

theorem Tidy.addLearned (h : c.Tidy) (v : UnitId) (paths : List Path) :
    (c.addLearned v paths).Tidy where
  entries := h.entries
  learned := h.learned.insert v _
  normal w q hq := by
    rw [learnedOf_addLearned] at hq
    split at hq
    · rcases KeySet.mem_or_mem_of_mem_insertAll hq with hq | hq
      · obtain ⟨r, -, rfl⟩ := List.mem_map.1 hq
        exact r.normalize_normalize
      · exact h.normal v q hq
    · exact h.normal w q hq
  filed := h.filed

/-- What was learned of units is never forgotten. -/
theorem mem_learnedOf_addLearned_of_mem (c : PlanCache) (v : UnitId) (paths : List Path)
    {w : UnitId} {q : Path} (hq : q ∈ (c.learnedOf w).toList) :
    q ∈ ((c.addLearned v paths).learnedOf w).toList := by
  rw [learnedOf_addLearned]
  split
  · rename_i hwv
    exact KeySet.mem_insertAll_of_mem _ (hwv ▸ hq)
  · exact hq

/-- **What is known after learning**: what was known before, and the paths that were learned, in
canonical spelling. -/
theorem Tidy.mem_learnedOf_addLearned_iff (h : c.Tidy) (v w : UnitId) {paths : List Path}
    {q : Path} : q ∈ ((c.addLearned w paths).learnedOf v).toList ↔
      q ∈ (c.learnedOf v).toList ∨ (w = v ∧ q ∈ paths.map Path.normalize) := by
  have hall : ∀ q ∈ paths.map Path.normalize ++ (c.learnedOf w).toList, q.normalize = q := by
    intro q hq
    rcases List.mem_append.1 hq with hq | hq
    · obtain ⟨r, -, rfl⟩ := List.mem_map.1 hq
      exact r.normalize_normalize
    · exact h.normal w q hq
  rw [learnedOf_addLearned]
  split
  · rename_i hvw
    subst hvw
    rw [KeySet.mem_insertAll_of_distinct (eq_of_compare_of_normal hall), or_comm]
    simp
  · rename_i hvw
    simp [Ne.symm hvw]

/-- Learning either changes nothing that is known of any unit, or drops the plan of the unit. -/
theorem learnInputs_cases (c : PlanCache) (v : UnitId) (paths : List Path) :
    c.learnInputs v paths = (c.addLearned v paths, false) ∧
        (∀ w, (c.addLearned v paths).learnedOf w = c.learnedOf w) ∨
      c.learnInputs v paths = ((c.addLearned v paths).invalidate (.unit v), true) := by
  unfold learnInputs
  simp only
  split
  · rename_i hsize
    refine Or.inl ⟨rfl, ?_⟩
    intro w
    -- a set that has not grown is as it was
    have hsame : (c.addLearned v paths).learnedOf v = c.learnedOf v := by
      rw [learnedOf_addLearned, if_pos rfl] at hsize ⊢
      exact KeySet.insertAll_eq_of_size (by simpa using hsize)
    by_cases hwv : w = v
    · rw [hwv, hsame]
    · rw [learnedOf_addLearned, if_neg hwv]
  · exact Or.inr rfl

/-- Learning may drop a plan, but not what was learned. -/
theorem learnedOf_learnInputs (c : PlanCache) (v w : UnitId) (paths : List Path) :
    (c.learnInputs w paths).1.learnedOf v = (c.addLearned w paths).learnedOf v := by
  rcases learnInputs_cases c w paths with ⟨heq, -⟩ | heq
  · rw [heq]
  · rw [heq]
    rfl

theorem Tidy.learnInputs (h : c.Tidy) (v : UnitId) (paths : List Path) :
    (c.learnInputs v paths).1.Tidy := by
  rcases learnInputs_cases c v paths with ⟨heq, -⟩ | heq
  · rw [heq]
    exact h.addLearned v paths
  · rw [heq]
    exact (h.addLearned v paths).invalidate (.unit v)

/-- Tidiness is no matter of the settings. -/
theorem Tidy.withSettings (h : c.Tidy) (s : BuildSettings) :
    ({ c with settings := s } : PlanCache).Tidy :=
  ⟨h.entries, h.learned, h.normal, h.filed⟩

theorem Tidy.setSettings (h : c.Tidy) (s : BuildSettings) : (c.setSettings s).1.Tidy := by
  unfold PlanCache.setSettings
  split
  · exact h
  · exact (h.withSettings s).invalidate .all

theorem Tidy.reset (h : c.Tidy) : c.reset.Tidy where
  entries := (h.invalidate .all).entries
  learned := Table.ordered_empty
  normal := by simp [PlanCache.reset, learnedOf, Table.getD, KeySet.empty]
  filed := (h.invalidate .all).filed

/-- The shape that the plan of a unit has to have. -/
def shapeOf (h : Hash) (c : PlanCache) (u : CompilationUnit) : Fingerprint :=
  .ofFields h (shapeFields u c.settings (c.inputsOf u))

/-- **What one act of planning comes to**: the inputs cannot be read, or the plan at hand has the
right shape and is brought up to date, or a new plan is made. -/
theorem Tidy.planKnowing_cases (hc : c.Tidy) (h : Hash) (read : SourceReader) (root : Path)
    (u : CompilationUnit) (deps : Fingerprint) :
    (∃ fault, contentFields read (c.inputsOf u) = .error fault ∧
        planKnowing h read root c u deps = (c, .error fault)) ∨
      ∃ p, p.unit = u.id ∧ planKnowing h read root c u deps = (c.keep p, .ok p) ∧
        ((∃ old, c.get? u.id = some old ∧ p = { old with depsFingerprint := deps }) ∨
          ∃ fields, contentFields read (c.inputsOf u) = .ok fields ∧
            p = ⟨u.id, .of root c.settings u (c.inputsOf u), .ofFields h fields, deps,
              c.shapeOf h u⟩) := by
  unfold planKnowing
  simp only
  split
  · rename_i old hold
    obtain ⟨hget, -⟩ := Option.filter_eq_some_iff.1 hold
    have hfiled := hc.filed _ _ hget
    refine Or.inr ⟨{ old with depsFingerprint := deps }, hfiled, ?_, Or.inl ⟨old, hget, rfl⟩⟩
    split
    · rename_i hdeps
      -- the plan is kept as it is, which is the same as keeping it anew
      have hsame : { old with depsFingerprint := deps } = old := by
        rw [← (by simpa using hdeps : old.depsFingerprint = deps)]
      rw [hsame, hc.keep_of_get? (hfiled ▸ hget)]
    · rfl
  · cases hfields : contentFields read (c.inputsOf u) with
    | error fault => exact Or.inl ⟨fault, rfl, rfl⟩
    | ok fields => exact Or.inr ⟨_, rfl, rfl, Or.inr ⟨fields, rfl, rfl⟩⟩

/-- **How planning ends**: with one act of planning for the unit, after acts of planning for its
dependencies, or without an answer. What every act for the unit or one of the graph keeps holds
before the last one. -/
theorem planWithin_ends_among (h : Hash) (read : SourceReader) {P : PlanCache → Prop}
    {Q : CompilationUnit → Prop} (hunits : ∀ d dep, g.unit? d = some dep → Q dep)
    (hknowing : ∀ c u deps, Q u → P c → P (planKnowing h read g.root c u deps).1) (n : Nat)
    {c : PlanCache} {u : CompilationUnit} (hu : Q u) (hc : P c) :
    (∃ c₁, P c₁ ∧ planWithin h read g n c u = (c₁, none)) ∨
      ∃ c₁ deps, P c₁ ∧ planWithin h read g n c u =
        ((planKnowing h read g.root c₁ u deps).1, some (planKnowing h read g.root c₁ u deps).2) := by
  induction n generalizing c u with
  | zero => exact Or.inl ⟨c, hc, rfl⟩
  | succ n ih =>
    unfold planWithin
    simp only
    generalize hfold : u.deps.foldl _ (c, some []) = folded
    -- every dependency ends in one of the two ways, and keeps what is kept in both
    have hdeps : P folded.1 := by
      rw [← hfold]
      refine List.foldlRecOn (motive := fun acc : PlanCache × Option (List Bytes) => P acc.1)
        u.deps _ hc ?_
      intro acc hacc d _
      cases hd : g.unit? d with
      | none => exact hacc
      | some dep =>
        rcases ih (hunits d dep hd) hacc with ⟨c₁, hc₁, heq⟩ | ⟨c₁, deps, hc₁, heq⟩
        · simp only [heq]
          exact hc₁
        · simp only [heq]
          exact hknowing c₁ dep deps (hunits d dep hd) hc₁
    obtain ⟨c₁, fields⟩ := folded
    cases fields with
    | none => exact Or.inl ⟨c₁, hdeps, rfl⟩
    | some fields => exact Or.inr ⟨c₁, _, hdeps, rfl⟩

theorem planFor_ends_among (h : Hash) (read : SourceReader) {P : PlanCache → Prop}
    {Q : CompilationUnit → Prop} (hunits : ∀ d dep, g.unit? d = some dep → Q dep)
    (hknowing : ∀ c u deps, Q u → P c → P (planKnowing h read g.root c u deps).1) (hu : Q u)
    (hc : P c) :
    (∃ c₁, P c₁ ∧ planFor h read g c u = (c₁, .error (.configurationInvalid .cycle))) ∨
      ∃ c₁ deps, P c₁ ∧ planFor h read g c u = planKnowing h read g.root c₁ u deps := by
  unfold planFor
  rcases planWithin_ends_among h read hunits hknowing (planDepth g) hu hc with
    ⟨c₁, hc₁, heq⟩ | ⟨c₁, deps, hc₁, heq⟩
  · exact Or.inl ⟨c₁, hc₁, by rw [heq]⟩
  · exact Or.inr ⟨c₁, deps, hc₁, by rw [heq]⟩

/-- In an accepted graph planning for a unit of it takes acts of planning for units of it only. -/
theorem planFor_ends {m : ProjectModel} (hg : UnitGraph.ofModel m = .ok g) (h : Hash)
    (read : SourceReader) {P : PlanCache → Prop}
    (hknowing : ∀ c u deps, g.unit? u.id = some u → P c →
      P (planKnowing h read g.root c u deps).1)
    (hu : g.unit? u.id = some u) (hc : P c) :
    (∃ c₁, P c₁ ∧ planFor h read g c u = (c₁, .error (.configurationInvalid .cycle))) ∨
      ∃ c₁ deps, P c₁ ∧ planFor h read g c u = planKnowing h read g.root c₁ u deps := by
  apply planFor_ends_among h read (Q := fun u => g.unit? u.id = some u) _ hknowing hu hc
  intro d dep hd
  rw [UnitGraph.id_of_unit? hg hd, hd]

/-! ## Layer C: over time -/

/-- **One change of the plans at hand** (`PlanCache`), while the project stays the same. -/
inductive Step (g : UnitGraph) (c : PlanCache) : PlanCache → Prop
  | plan (h : Hash) (read : SourceReader) {u : CompilationUnit} (hu : g.unit? u.id = some u)
      (deps : Fingerprint) : Step g c (planKnowing h read g.root c u deps).1
  | learn (v : UnitId) (paths : List Path) : Step g c (c.learnInputs v paths).1
  | invalidate (r : Invalidation) : Step g c (c.invalidate r)
  | configure (s : BuildSettings) : Step g c (c.setSettings s).1

/-- **What may become of the plans at hand**, while the project stays the same. -/
abbrev Evolves (g : UnitGraph) : PlanCache → PlanCache → Prop := Relation.ReflTransGen (Step g)

/-- Planning for a unit is such a change, and so is all of it but the last act. -/
theorem planFor_evolves {m : ProjectModel} (hg : UnitGraph.ofModel m = .ok g) (h : Hash)
    (read : SourceReader) (c : PlanCache) (hu : g.unit? u.id = some u) :
    (∃ c₁, Evolves g c c₁ ∧ planFor h read g c u = (c₁, .error (.configurationInvalid .cycle))) ∨
      ∃ c₁ deps, Evolves g c c₁ ∧ planFor h read g c u = planKnowing h read g.root c₁ u deps :=
  planFor_ends hg h read (fun _ _ deps hv hevolves => hevolves.tail (.plan h read hv deps)) hu .refl

theorem evolves_planFor {m : ProjectModel} (hg : UnitGraph.ofModel m = .ok g) (h : Hash)
    (read : SourceReader) (c : PlanCache) (hu : g.unit? u.id = some u) :
    Evolves g c (planFor h read g c u).1 := by
  rcases planFor_evolves hg h read c hu with ⟨c₁, hc₁, heq⟩ | ⟨c₁, deps, hc₁, heq⟩
  · rw [heq]
    exact hc₁
  · rw [heq]
    exact hc₁.tail (.plan h read hu deps)

/-- **What plans account for**: the plan of every unit names no input but those of the unit. -/
structure Accounts (g : UnitGraph) (c : PlanCache) : Prop extends Tidy c where
  inputs : ∀ u p, g.unit? u.id = some u → c.get? u.id = some p →
    ∀ q ∈ p.invocation.inputs, q ∈ c.inputsOf u

theorem accounts_of_empty (hentries : c.entries = .empty) (hc : c.Tidy) : c.Accounts g where
  toTidy := hc
  inputs u p _ hp := by simp [get?, hentries] at hp

/-- Plans that are dropped while what was learned only grows do no harm. -/
private theorem Accounts.of_fewer (h : c.Accounts g) (hc : c'.Tidy)
    (hget : ∀ v p, c'.get? v = some p → c.get? v = some p)
    (hlearned : ∀ v, ∀ q ∈ (c.learnedOf v).toList, q ∈ (c'.learnedOf v).toList) :
    c'.Accounts g where
  toTidy := hc
  inputs u p hu hp q hq := by
    refine hc.mem_inputsOf.2 ?_
    exact (h.mem_inputsOf.1 (h.inputs u p hu (hget u.id p hp) q hq)).imp_right (hlearned u.id q)

theorem Accounts.planKnowing (hc : c.Accounts g) (h : Hash) (read : SourceReader)
    (hu : g.unit? u.id = some u) (deps : Fingerprint) :
    (planKnowing h read g.root c u deps).1.Accounts g := by
  rcases hc.planKnowing_cases h read g.root u deps with ⟨fault, -, heq⟩ | ⟨p, hunit, heq, hp⟩
  · rw [heq]
    exact hc
  · rw [heq]
    refine ⟨hc.keep p, ?_⟩
    intro v r hv hr q hq
    rw [get?_keep] at hr
    split at hr
    · -- the plan that was just made or brought up to date
      rename_i hvp
      obtain rfl := Option.some.inj hr
      obtain rfl : v = u := Option.some.inj ((hvp.trans hunit ▸ hv).symm.trans hu)
      rcases hp with ⟨old, hold, rfl⟩ | ⟨fields, -, rfl⟩
      · exact hc.inputs v old hv hold q hq
      · exact hq
    · exact hc.inputs v r hv hr q hq

theorem Accounts.step (hc : c.Accounts g) (hstep : Step g c c') : c'.Accounts g := by
  cases hstep with
  | plan h read hu deps => exact hc.planKnowing h read hu deps
  | learn v paths =>
    rcases learnInputs_cases c v paths with ⟨heq, -⟩ | heq
    · rw [heq]
      exact hc.of_fewer (hc.addLearned v paths) (fun _ _ hp => hp)
        fun _ _ hq => mem_learnedOf_addLearned_of_mem c v paths hq
    · rw [heq]
      have hlearned := hc.addLearned v paths
      exact hc.of_fewer (hlearned.invalidate (.unit v))
        (fun _ _ hp => ((hlearned.get?_invalidate (.unit v)).1 hp).1)
        fun _ _ hq => mem_learnedOf_addLearned_of_mem c v paths hq
  | invalidate r =>
    exact hc.of_fewer (hc.invalidate r) (fun _ _ hp => ((hc.get?_invalidate r).1 hp).1)
      fun _ _ hq => hq
  | configure s =>
    unfold setSettings
    split
    · exact hc
    · have htidy := hc.withSettings s
      exact hc.of_fewer (htidy.invalidate .all)
        (fun _ _ hp => ((htidy.get?_invalidate .all).1 hp).1) fun _ _ hq => hq

theorem Accounts.evolves (hc : c.Accounts g) (h : Evolves g c c') : c'.Accounts g := by
  induction h with
  | refl => exact hc
  | tail _ hstep ih => exact ih.step hstep

/-- What was learned stays known, whatever becomes of the plans. -/
theorem Evolves.mem_learnedOf (hc : c.Accounts g) (h : Evolves g c c') {v : UnitId} {q : Path}
    (hq : q ∈ (c.learnedOf v).toList) : q ∈ (c'.learnedOf v).toList := by
  induction h with
  | refl => exact hq
  | @tail c₁ c₂ hevolves hstep ih =>
    cases hstep with
    | plan h read hu deps =>
      rcases (hc.evolves hevolves).planKnowing_cases h read g.root _ deps with
        ⟨fault, -, heq⟩ | ⟨p, -, heq, -⟩
      · rw [heq]
        exact ih
      · rw [heq]
        exact ih
    | learn w paths =>
      rw [learnedOf_learnInputs]
      exact mem_learnedOf_addLearned_of_mem c₁ w paths ih
    | invalidate r => exact ih
    | configure s =>
      unfold setSettings
      split
      · exact ih
      · exact ih

/-- An input of a unit stays one, whatever becomes of the plans. -/
theorem Evolves.mem_inputsOf (hc : c.Accounts g) (h : Evolves g c c') {q : Path}
    (hq : q ∈ c.inputsOf u) : q ∈ c'.inputsOf u :=
  (hc.evolves h).mem_inputsOf.2 ((hc.mem_inputsOf.1 hq).imp_right (h.mem_learnedOf hc))

/-- The plan that is made for a unit is kept, and with it all that it accounts for. -/
theorem Accounts.of_planFor (hc : c.Accounts g) {m : ProjectModel}
    (hg : UnitGraph.ofModel m = .ok g) {h : Hash} {read : SourceReader}
    (hu : g.unit? u.id = some u) (hplan : planFor h read g c u = (c', .ok p)) :
    Evolves g c c' ∧ c'.get? u.id = some p := by
  have hevolves := evolves_planFor hg h read c hu
  rw [hplan] at hevolves
  refine ⟨hevolves, ?_⟩
  rcases planFor_evolves hg h read c hu with ⟨c₁, -, heq⟩ | ⟨c₁, deps, hc₁, heq⟩
  · rw [hplan] at heq
    cases (Prod.mk.inj heq).2
  · rw [hplan] at heq
    rcases (hc.evolves hc₁).planKnowing_cases h read g.root u deps with
      ⟨fault, -, hfault⟩ | ⟨q, hunit, hq, -⟩
    · rw [hfault] at heq
      cases (Prod.mk.inj heq).2
    · rw [hq] at heq
      obtain ⟨rfl, hpq⟩ := Prod.mk.inj heq
      rw [get?_keep, if_pos hunit.symm, Except.ok.inj hpq]

/-! ## Layer D: without a cache -/

/-- A plan that is made from the inputs of a unit and the fingerprint of its dependencies. -/
def planAfresh (h : Hash) (read : SourceReader) (root : Path) (c : PlanCache)
    (u : CompilationUnit) (deps : Fingerprint) : Except BuildFault Plan :=
  (contentFields read (c.inputsOf u)).map fun fields =>
    ⟨u.id, .of root c.settings u (c.inputsOf u), .ofFields h fields, deps, c.shapeOf h u⟩

/-- The fields that stand for a dependency, given how units are planned. -/
def blockOf? (g : UnitGraph) (plan : CompilationUnit → Option (Except BuildFault Plan))
    (d : UnitId) : Option (List Bytes) :=
  match g.unit? d with
  | none => some [textField d.cacheKey, textField "unknown"]
  | some dep => (plan dep).map fun r => textField d.cacheKey :: dependencyFields r

/-- **What planning comes to without any plans at hand.** -/
def planned (h : Hash) (read : SourceReader) (g : UnitGraph) (c : PlanCache) :
    Nat → CompilationUnit → Option (Except BuildFault Plan)
  | 0, _ => none
  | n + 1, u =>
    if u.deps.all fun d => (blockOf? g (planned h read g c n) d).isSome then
      some (planAfresh h read g.root c u (.ofFields h
        (u.deps.flatMap fun d => (blockOf? g (planned h read g c n) d).getD [])))
    else none

theorem blockOf?_mono {plan plan' : CompilationUnit → Option (Except BuildFault Plan)}
    (h : ∀ u r, plan u = some r → plan' u = some r) {d : UnitId} {block : List Bytes}
    (hd : blockOf? g plan d = some block) : blockOf? g plan' d = some block := by
  unfold blockOf? at hd ⊢
  cases hunit : g.unit? d with
  | none => simpa [hunit] using hd
  | some dep =>
    simp only [hunit] at hd ⊢
    obtain ⟨r, hr, rfl⟩ := Option.map_eq_some_iff.1 hd
    rw [h dep r hr]
    rfl

/-- A longer chain of dependencies changes no answer. -/
theorem planned_succ {h : Hash} {read : SourceReader} {n : Nat} {u : CompilationUnit}
    {r : Except BuildFault Plan} (hr : planned h read g c n u = some r) :
    planned h read g c (n + 1) u = some r := by
  induction n generalizing u r with
  | zero => cases hr
  | succ n ih =>
    rw [planned] at hr ⊢
    split at hr
    · rename_i hall
      -- the blocks of the dependencies are all there, so one more round leaves them as they are
      have hblock : ∀ d ∈ u.deps, blockOf? g (planned h read g c (n + 1)) d =
          blockOf? g (planned h read g c n) d := by
        intro d hd
        obtain ⟨block, hb⟩ := Option.isSome_iff_exists.1 (List.all_eq_true.1 hall d hd)
        rw [hb, blockOf?_mono (fun _ _ => ih) hb]
      have hall' : (u.deps.all fun d =>
          (blockOf? g (planned h read g c (n + 1)) d).isSome) = true := by
        refine List.all_eq_true.2 fun d hd => ?_
        rw [hblock d hd]
        exact List.all_eq_true.1 hall d hd
      have hfields : (u.deps.flatMap fun d => (blockOf? g (planned h read g c (n + 1)) d).getD []) =
          u.deps.flatMap fun d => (blockOf? g (planned h read g c n) d).getD [] :=
        List.flatMap_congr fun d hd => by rw [hblock d hd]
      rw [if_pos hall', hfields]
      exact hr
    · cases hr

/-! ## Layer E: current plans -/

/-- **Current plans**: every plan at hand is what would be made afresh, but for the fingerprint of
the dependencies, which is compared whenever the plan is used. -/
structure Current (h : Hash) (read : SourceReader) (g : UnitGraph) (c : PlanCache) : Prop
    extends Tidy c where
  fresh : ∀ u p, g.unit? u.id = some u → c.get? u.id = some p →
    planAfresh h read g.root c u p.depsFingerprint = .ok p

theorem current_of_empty {h : Hash} {read : SourceReader} (hentries : c.entries = .empty)
    (hc : c.Tidy) : c.Current h read g where
  toTidy := hc
  fresh u p _ hp := by simp [get?, hentries] at hp

/-- What a plan rests on besides its dependencies. -/
def SameGround (c c' : PlanCache) : Prop := c'.settings = c.settings ∧ c'.learned = c.learned

theorem SameGround.trans {c'' : PlanCache} (h : SameGround c c') (h' : SameGround c' c'') :
    SameGround c c'' :=
  ⟨h'.1.trans h.1, h'.2.trans h.2⟩

theorem SameGround.inputsOf (h : SameGround c c') (u : CompilationUnit) :
    c'.inputsOf u = c.inputsOf u := by
  refine inputsOf_congr ?_
  unfold learnedOf
  rw [h.2]

theorem SameGround.planAfresh (hc : SameGround c c') (h : Hash) (read : SourceReader) (root : Path)
    (u : CompilationUnit) (deps : Fingerprint) :
    planAfresh h read root c' u deps = planAfresh h read root c u deps := by
  unfold PlanCache.planAfresh shapeOf
  rw [hc.inputsOf, hc.1]

theorem SameGround.planned (hc : SameGround c c') (h : Hash) (read : SourceReader) (n : Nat)
    (u : CompilationUnit) : planned h read g c' n u = planned h read g c n u := by
  induction n generalizing u with
  | zero => rfl
  | succ n ih =>
    have hplans : PlanCache.planned h read g c' n = PlanCache.planned h read g c n := funext ih
    rw [PlanCache.planned, PlanCache.planned, hplans]
    simp only [hc.planAfresh]

theorem planAfresh_deps {h : Hash} {read : SourceReader} {root : Path} {deps : Fingerprint}
    (hp : planAfresh h read root c u deps = .ok p) (deps' : Fingerprint) :
    p.depsFingerprint = deps ∧
      planAfresh h read root c u deps' = .ok { p with depsFingerprint := deps' } := by
  unfold planAfresh at hp ⊢
  cases hfields : contentFields read (c.inputsOf u) with
  | error fault => simp [hfields, Except.map] at hp
  | ok fields =>
    simp only [hfields, Except.map, Except.ok.injEq] at hp ⊢
    subst hp
    exact ⟨rfl, rfl⟩

/-- **One act of planning with current plans at hand** gives what it would give without them, and
the plans stay current. -/
theorem Current.planKnowing {h : Hash} {read : SourceReader} (hc : c.Current h read g)
    (hu : g.unit? u.id = some u) (deps : Fingerprint) :
    (planKnowing h read g.root c u deps).2 = planAfresh h read g.root c u deps ∧
      (planKnowing h read g.root c u deps).1.Current h read g ∧
      SameGround c (planKnowing h read g.root c u deps).1 := by
  rcases hc.planKnowing_cases h read g.root u deps with ⟨fault, hfields, heq⟩ | ⟨p, hunit, heq, hp⟩
  · rw [heq]
    refine ⟨?_, hc, rfl, rfl⟩
    simp [planAfresh, hfields, Except.map]
  · rw [heq]
    -- a plan at hand is current, so it differs from a new one in its dependencies at most
    have hfresh : planAfresh h read g.root c u deps = .ok p := by
      rcases hp with ⟨old, hold, rfl⟩ | ⟨fields, hfields, rfl⟩
      · exact (planAfresh_deps (hc.fresh u old hu hold) deps).2
      · simp [planAfresh, hfields, Except.map]
    have hground : SameGround c (c.keep p) := ⟨rfl, rfl⟩
    refine ⟨hfresh.symm, ⟨hc.keep p, ?_⟩, hground⟩
    intro v r hv hr
    rw [hground.planAfresh]
    rw [get?_keep] at hr
    split at hr
    · rename_i hvp
      obtain rfl := Option.some.inj hr
      obtain rfl : v = u := Option.some.inj ((hvp.trans hunit ▸ hv).symm.trans hu)
      rw [(planAfresh_deps hfresh deps).1, hfresh]
    · exact hc.fresh v r hv hr

/-- Fields that are gathered one dependency after the other. -/
private theorem foldl_blocks {F : PlanCache × Option (List Bytes) → UnitId →
      PlanCache × Option (List Bytes)} {block : UnitId → Option (List Bytes)}
    {P : PlanCache → Prop} (hF : ∀ acc d, P acc.1 → P (F acc d).1 ∧
      (F acc d).2 = acc.2.bind fun fields => (block d).map (fields ++ ·))
    (ds : List UnitId) {acc : PlanCache × Option (List Bytes)} (hacc : P acc.1) :
    P (ds.foldl F acc).1 ∧ (ds.foldl F acc).2 =
      if ds.all fun d => (block d).isSome then
        acc.2.map (· ++ ds.flatMap fun d => (block d).getD []) else none := by
  induction ds generalizing acc with
  | nil => simp [hacc]
  | cons d rest ih =>
    obtain ⟨hP, hfields⟩ := hF acc d hacc
    obtain ⟨hP', hrest⟩ := ih hP
    refine ⟨hP', ?_⟩
    rw [List.foldl_cons, hrest, hfields]
    -- one block that is missing spoils the whole
    cases hd : block d with
    | none => simp [hd]
    | some fields => cases acc.2 <;> simp [hd]

/-- **Current plans never show**: planning with them at hand gives what it would give without them,
and they stay current. -/
theorem Current.planWithin {m : ProjectModel} (hg : UnitGraph.ofModel m = .ok g) {h : Hash}
    {read : SourceReader} (n : Nat) {c : PlanCache} {u : CompilationUnit}
    (hc : c.Current h read g) (hu : g.unit? u.id = some u) :
    (planWithin h read g n c u).2 = planned h read g c n u ∧
      (planWithin h read g n c u).1.Current h read g ∧
      SameGround c (planWithin h read g n c u).1 := by
  -- on the bound: the dependencies are planned one bound below, and from their blocks the unit
  induction n generalizing c u with
  | zero => exact ⟨rfl, hc, rfl, rfl⟩
  | succ n ih =>
    rw [PlanCache.planWithin, planned]
    simp only
    generalize hstep : (fun (acc : PlanCache × Option (List Bytes)) (d : UnitId) => _) = F
    have hF : ∀ (acc : PlanCache × Option (List Bytes)) d,
        acc.1.Current h read g ∧ SameGround c acc.1 →
        ((F acc d).1.Current h read g ∧ SameGround c (F acc d).1) ∧ (F acc d).2 =
          acc.2.bind fun fields => (blockOf? g (planned h read g c n) d).map (fields ++ ·) := by
      rintro acc d ⟨hacc, hground⟩
      rw [← hstep]
      cases hd : g.unit? d with
      | none =>
        simp only [blockOf?, hd]
        exact ⟨⟨hacc, hground⟩, by cases acc.2 <;> rfl⟩
      | some dep =>
        obtain ⟨hvalue, hcurrent, hground'⟩ := ih hacc (by rw [UnitGraph.id_of_unit? hg hd, hd])
        simp only [blockOf?, hd, hvalue, hground.planned]
        refine ⟨⟨hcurrent, hground.trans hground'⟩, ?_⟩
        cases acc.2 <;> cases planned h read g c n dep <;> rfl
    have hstart : (c, (some [] : Option (List Bytes))).1.Current h read g ∧
        SameGround c (c, (some [] : Option (List Bytes))).1 := ⟨hc, rfl, rfl⟩
    obtain ⟨⟨hcurrent, hground⟩, hfields⟩ :=
      foldl_blocks (P := fun c' => c'.Current h read g ∧ SameGround c c') hF u.deps hstart
    generalize u.deps.foldl F (c, some []) = folded at hcurrent hground hfields ⊢
    obtain ⟨c₁, fields⟩ := folded
    simp only at hfields
    split at hfields
    · rename_i hall
      obtain rfl : fields = _ := hfields
      obtain ⟨hvalue, hcurrent', hground'⟩ := hcurrent.planKnowing hu
        (.ofFields h (u.deps.flatMap fun d => (blockOf? g (planned h read g c n) d).getD []))
      rw [if_pos hall]
      refine ⟨?_, hcurrent', hground.trans hground'⟩
      rw [← hground.planAfresh]
      exact congrArg some hvalue
    · rename_i hall
      obtain rfl : fields = none := hfields
      rw [if_neg hall]
      exact ⟨rfl, hcurrent, hground⟩

end PlanCache

end CodeAtlas
