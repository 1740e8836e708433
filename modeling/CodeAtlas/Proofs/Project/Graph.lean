import CodeAtlas.Project.Graph
import CodeAtlas.Proofs.Ordered.KeySet
import Mathlib.Data.Finset.Card
import Mathlib.Data.List.Perm.Subperm
import Mathlib.Logic.Relation

/-!
# Theory of project models and the unit graph

A model that is valid declares its units once each and knows all their dependencies, but its units
may depend on each other in a circle. Without a circle there is a rank that grows from dependencies
to dependents.

A graph is accepted if all its units can be put in order. It follows that every subset of its units
can: by the rank, among the units that are left some unit waits for nothing.

## Architecture

- **Layer A**: well-formed models, what validation checks of them, and ranks;
- **Layer B**: graphs whose edges are listed from both ends;
- **Layer C**: counting open dependencies;
- **Layer D**: frontiers and what is taken out of them;
- **Layer E**: accepted graphs, and the order of a subset;
- **Layer F**: what a change affects.
-/

namespace CodeAtlas

/-! ## Layer A: models -/

namespace ProjectModel

/-- A unit of the project lists another one as a dependency. -/
def DependsOn (m : ProjectModel) (u d : UnitId) : Prop := ∃ c ∈ m.units, c.id = u ∧ d ∈ c.deps

/-- **A well-formed project**: units are declared once each, what they depend on are units of the
project, and none depends on itself, be it through others. -/
structure WellFormed (m : ProjectModel) : Prop where
  nodup : (m.units.map (·.id)).Nodup
  known : ∀ u d, m.DependsOn u d → d ∈ m.units.map (·.id)
  acyclic : ∀ u, ¬ Relation.TransGen m.DependsOn u u

variable {m : ProjectModel}

theorem firstRepeated_eq_none_iff {seen us : List UnitId} :
    firstRepeated seen us = none ↔ us.Nodup ∧ ∀ u ∈ us, u ∉ seen := by
  induction us generalizing seen with
  | nil => simp [firstRepeated]
  | cons u rest ih =>
    simp only [firstRepeated, List.contains_iff_mem, List.nodup_cons, List.forall_mem_cons]
    by_cases hu : u ∈ seen
    · simp [hu]
    · -- the rest may repeat neither what was seen before nor the unit at its head
      simp only [hu, if_false, ih, List.mem_cons, not_or, not_false_eq_true, true_and]
      constructor
      · rintro ⟨hnodup, hfresh⟩
        exact ⟨⟨fun hmem => (hfresh u hmem).1 rfl, hnodup⟩, fun v hv => (hfresh v hv).2⟩
      · rintro ⟨⟨hhead, hnodup⟩, hfresh⟩
        refine ⟨hnodup, fun v hv => ⟨?_, hfresh v hv⟩⟩
        rintro rfl
        exact hhead hv

theorem firstUnknown_eq_none_iff {ids : List UnitId} {c : CompilationUnit} :
    firstUnknown ids c = none ↔ ∀ d ∈ c.deps, d ∈ ids := by
  simp [firstUnknown]

/-- **Validation accepts** units that are declared once each and whose dependencies are known. -/
theorem validate_eq_ok_iff :
    m.validate = .ok () ↔
      (m.units.map (·.id)).Nodup ∧ ∀ u d, m.DependsOn u d → d ∈ m.units.map (·.id) := by
  have hknown : m.units.findSome? (firstUnknown (m.units.map (·.id))) = none ↔
      ∀ u d, m.DependsOn u d → d ∈ m.units.map (·.id) := by
    rw [List.findSome?_eq_none_iff]
    simp only [firstUnknown_eq_none_iff]
    constructor
    · rintro h u d ⟨c, hc, -, hd⟩
      exact h c hc d hd
    · intro h c hc d hd
      exact h c.id d ⟨c, hc, rfl, hd⟩
  have hnodup : firstRepeated [] (m.units.map (·.id)) = none ↔ (m.units.map (·.id)).Nodup := by
    simp [firstRepeated_eq_none_iff]
  rw [← hknown, ← hnodup]
  simp only [validate]
  -- repeats are looked for first, so unknown dependencies only count without them
  cases firstRepeated [] (m.units.map (·.id)) with
  | some u => simp
  | none => cases m.units.findSome? (firstUnknown (m.units.map (·.id))) <;> simp

/-- **Without a circle dependencies have a rank**: the number of units that a unit needs. -/
theorem WellFormed.exists_rank (h : m.WellFormed) :
    ∃ rank : UnitId → Nat, ∀ u d, m.DependsOn u d → rank d < rank u := by
  classical
  let ids := (m.units.map (·.id)).toFinset
  refine ⟨fun u => (ids.filter fun d => Relation.TransGen m.DependsOn u d).card, ?_⟩
  intro u d hud
  apply Finset.card_lt_card
  -- a unit needs all that its dependency needs, and the dependency besides
  refine (Finset.ssubset_iff_of_subset ?_).2 ⟨d, ?_, ?_⟩
  · intro v hv
    obtain ⟨hids, hdv⟩ := Finset.mem_filter.1 hv
    exact Finset.mem_filter.2 ⟨hids, .head hud hdv⟩
  · exact Finset.mem_filter.2 ⟨List.mem_toFinset.2 (h.known u d hud), .single hud⟩
  · intro hd
    exact h.acyclic d (Finset.mem_filter.1 hd).2

/-- A rank leaves no room for a circle. -/
theorem acyclic_of_rank (rank : UnitId → Nat) (h : ∀ u d, m.DependsOn u d → rank d < rank u)
    (u : UnitId) : ¬ Relation.TransGen m.DependsOn u u := by
  have hlt : ∀ v, Relation.TransGen m.DependsOn u v → rank v < rank u := by
    intro v hv
    induction hv with
    | single huv => exact h _ _ huv
    | tail _ hvw ih => exact Nat.lt_trans (h _ _ hvw) ih
  exact fun hu => Nat.lt_irrefl _ (hlt u hu)

end ProjectModel

/-! ## Layer B: edges -/

namespace UnitGraph

/-- The direct dependencies of a unit. -/
def depsOf (g : UnitGraph) (u : UnitId) : List UnitId := ((g.unit? u).map (·.deps)).getD []

/-- **Every edge is listed from both ends.** -/
structure Linked (g : UnitGraph) : Prop where
  ordered : g.units.Ordered
  dependents_iff : ∀ d u, u ∈ g.dependentsOf d ↔ d ∈ g.depsOf u
  dependents_nodup : ∀ d, (g.dependentsOf d).Nodup

theorem depsWithin_eq (g : UnitGraph) (u : UnitId) (s : KeySet UnitId) :
    g.depsWithin u s = (g.depsOf u).filter s.contains := by
  unfold depsWithin depsOf
  cases g.unit? u <;> rfl

theorem mem_depsWithin {g : UnitGraph} {u d : UnitId} {s : KeySet UnitId} :
    d ∈ g.depsWithin u s ↔ d ∈ g.depsOf u ∧ d ∈ s.toList := by
  rw [depsWithin_eq, List.mem_filter, KeySet.contains_iff]

private theorem dependents_addDependents (t : Table UnitId (KeySet UnitId)) (c : CompilationUnit)
    (d u : UnitId) :
    u ∈ ((addDependents t c).getD d KeySet.empty).toList ↔
      (u = c.id ∧ d ∈ c.deps) ∨ u ∈ (t.getD d KeySet.empty).toList := by
  unfold addDependents
  induction c.deps generalizing t with
  | nil => simp
  | cons e rest ih =>
    rw [List.foldl_cons, ih]
    by_cases hde : d = e
    · subst hde
      simp only [Table.getD, Table.get?_insert_self, Option.getD_some, KeySet.mem_insert,
        List.mem_cons]
      tauto
    · simp only [Table.getD, Table.get?_insert_of_ne hde, List.mem_cons, hde, false_or]

private theorem ordered_addDependents {t : Table UnitId (KeySet UnitId)} (c : CompilationUnit)
    (h : ∀ d, (t.getD d KeySet.empty).Ordered) (d : UnitId) :
    ((addDependents t c).getD d KeySet.empty).Ordered := by
  unfold addDependents
  refine List.foldlRecOn (motive := fun t : Table UnitId (KeySet UnitId) =>
    ∀ d, (t.getD d KeySet.empty).Ordered) c.deps _ h ?_ d
  intro t ht e _ d
  simp only [Table.getD, Table.get?_insert]
  split
  · exact (ht e).insert c.id
  · exact ht d

/-- The units of a valid model are looked up under their identities. -/
theorem unit?_assemble {m : ProjectModel} (h : m.validate = .ok ()) {u : UnitId}
    {n : CompilationUnit} :
    (assemble m).unit? u = some n ↔ ∃ c ∈ m.units, c.id = u ∧ normalizeUnit c = n := by
  have hkeys : ((m.units.map fun c => (c.id, normalizeUnit c)).map (·.1)).Nodup := by
    simpa [Function.comp_def] using (ProjectModel.validate_eq_ok_iff.1 h).1
  have hget : (assemble m).unit? u = some n ↔ _ := Table.get?_ofList hkeys u n
  simpa [List.mem_map, Prod.ext_iff] using hget

/-- The graph of a valid model has the dependencies that the units list. -/
theorem mem_depsOf_assemble {m : ProjectModel} (h : m.validate = .ok ()) {u d : UnitId} :
    d ∈ (assemble m).depsOf u ↔ m.DependsOn u d := by
  unfold depsOf
  constructor
  · intro hd
    cases hget : (assemble m).unit? u with
    | none => simp [hget] at hd
    | some n =>
      obtain ⟨c, hc, hid, rfl⟩ := (unit?_assemble h).1 hget
      simp only [hget, Option.map_some, Option.getD_some] at hd
      exact ⟨c, hc, hid, hd⟩
  · rintro ⟨c, hc, hid, hd⟩
    have hget := (unit?_assemble h).2 ⟨c, hc, hid, rfl⟩
    simp only [hget, Option.map_some, Option.getD_some]
    exact hd

/-- **The graph of a valid model is linked.** -/
theorem linked_assemble {m : ProjectModel} (h : m.validate = .ok ()) : (assemble m).Linked := by
  refine ⟨Table.ordered_ofList _, ?_, ?_⟩
  · intro d u
    rw [mem_depsOf_assemble h]
    unfold dependentsOf assemble
    -- one unit after the other, from the empty table on
    have hfold : ∀ (cs : List CompilationUnit) (t : Table UnitId (KeySet UnitId)),
        u ∈ ((cs.foldl addDependents t).getD d KeySet.empty).toList ↔
          (∃ c ∈ cs, c.id = u ∧ d ∈ c.deps) ∨ u ∈ (t.getD d KeySet.empty).toList := by
      intro cs
      induction cs with
      | nil => simp
      | cons c rest ih =>
        intro t
        rw [List.foldl_cons, ih, dependents_addDependents]
        simp only [List.mem_cons, exists_eq_or_imp, eq_comm (a := u)]
        rw [or_left_comm, or_assoc]
    rw [hfold]
    simp [Table.getD, KeySet.empty, ProjectModel.DependsOn]
  · intro d
    refine KeySet.Ordered.nodup ?_
    unfold assemble
    refine List.foldlRecOn m.units addDependents (motive := fun t =>
      ∀ d, (t.getD d KeySet.empty).Ordered) ?_ ?_ d
    · intro d
      exact KeySet.ordered_empty
    · intro t ht c _ d
      exact ordered_addDependents c ht d

/-! ## Layer C: open dependencies -/

/-- How many dependencies of a unit in a set are open once the units `done` are. -/
def openDeps (g : UnitGraph) (s : KeySet UnitId) (done : List UnitId) (u : UnitId) : Nat :=
  (g.depsWithin u s).length - (done.filter fun d => d ∈ g.depsOf u).length

variable {g : UnitGraph} {s : KeySet UnitId} {done : List UnitId} {u d : UnitId}

theorem openDeps_nil : g.openDeps s [] u = (g.depsWithin u s).length := by simp [openDeps]

/-- One more unit that is done counts if it is a dependency. -/
theorem openDeps_cons :
    g.openDeps s (d :: done) u = g.openDeps s done u - if d ∈ g.depsOf u then 1 else 0 := by
  unfold openDeps
  by_cases hd : d ∈ g.depsOf u
  · simp [hd, Nat.sub_sub]
  · simp [hd]

/-- It does not matter in which order units are done. -/
theorem openDeps_perm {done' : List UnitId} (h : done.Perm done') :
    g.openDeps s done u = g.openDeps s done' u := by
  unfold openDeps
  rw [(h.filter _).length_eq]

/-- Nothing is open once all dependencies are done. -/
theorem openDeps_eq_zero (hnodup : (g.depsWithin u s).Nodup)
    (h : ∀ d ∈ g.depsWithin u s, d ∈ done) : g.openDeps s done u = 0 := by
  refine Nat.sub_eq_zero_of_le (List.Subperm.length_le (List.subperm_of_subset hnodup ?_))
  intro d hd
  exact List.mem_filter.2 ⟨h d hd, by simpa using (mem_depsWithin.1 hd).1⟩

/-- If nothing is open, all dependencies are done, and none is listed twice. -/
theorem deps_done_of_openDeps_eq_zero (hdone : done.Nodup) (hsub : ∀ d ∈ done, d ∈ s.toList)
    (h : g.openDeps s done u = 0) :
    (g.depsWithin u s).Nodup ∧ ∀ d ∈ g.depsWithin u s, d ∈ done := by
  have hsubset : (done.filter fun d => d ∈ g.depsOf u) ⊆ g.depsWithin u s := by
    intro d hd
    obtain ⟨hmem, hdep⟩ := List.mem_filter.1 hd
    exact mem_depsWithin.2 ⟨by simpa using hdep, hsub d hmem⟩
  have hsubperm := List.subperm_of_subset (hdone.filter _) hsubset
  have hperm := hsubperm.perm_of_length_le (Nat.le_of_sub_eq_zero h)
  refine ⟨hperm.nodup_iff.1 (hdone.filter _), ?_⟩
  intro d hd
  exact (List.mem_filter.1 (hperm.mem_iff.2 hd)).1

/-! ## Layer D: frontiers -/

/-- **The frontier of a set once the units `done` are taken out.** -/
structure Frontier.Tracks (g : UnitGraph) (s : KeySet UnitId) (f : Frontier)
    (done : List UnitId) : Prop where
  done_nodup : done.Nodup
  done_subset : ∀ u ∈ done, u ∈ s.toList
  waiting : ∀ u, f.waiting.get? u =
    if u ∈ s.toList ∧ u ∉ done then some (g.openDeps s done u) else none
  ready : ∀ u, u ∈ f.ready.toList ↔ f.waiting.get? u = some 0

private theorem countDown_get? (f : Frontier) (v u : UnitId) :
    (f.countDown v).waiting.get? u =
      if u = v then (f.waiting.get? u).map (· - 1) else f.waiting.get? u := by
  unfold Frontier.countDown
  cases hv : f.waiting.get? v with
  | none =>
    by_cases huv : u = v
    · simp [huv, hv]
    · simp [huv]
  | some n =>
    by_cases huv : u = v
    · simp [huv, hv]
    · simp [huv, Table.get?_insert_of_ne huv]

private theorem countDown_ready {f : Frontier}
    (h : ∀ u, u ∈ f.ready.toList ↔ f.waiting.get? u = some 0) (v u : UnitId) :
    u ∈ (f.countDown v).ready.toList ↔ (f.countDown v).waiting.get? u = some 0 := by
  rw [countDown_get?]
  unfold Frontier.countDown
  cases hv : f.waiting.get? v with
  | none =>
    by_cases huv : u = v
    · simp [huv, h, hv]
    · simp [huv, h]
  | some n =>
    by_cases huv : u = v
    · subst huv
      -- the unit itself becomes ready as its count reaches zero
      by_cases hn : n - 1 = 0
      · simp [hn, hv]
      · have hzero : n ≠ 0 := by omega
        simp [hn, hv, h, hzero]
    · by_cases hn : n - 1 = 0
      · simp [hn, huv, h]
      · simp [hn, huv, h]

private theorem countDownAll_get? {ds : List UnitId} (hds : ds.Nodup) (f : Frontier) (u : UnitId) :
    (ds.foldl Frontier.countDown f).waiting.get? u =
      if u ∈ ds then (f.waiting.get? u).map (· - 1) else f.waiting.get? u := by
  induction ds generalizing f with
  | nil => simp
  | cons v rest ih =>
    obtain ⟨hv, hrest⟩ := List.nodup_cons.1 hds
    rw [List.foldl_cons, ih hrest, countDown_get?]
    by_cases huv : u = v
    · simp [huv, hv]
    · simp [huv]

private theorem countDownAll_ready {ds : List UnitId} {f : Frontier}
    (h : ∀ u, u ∈ f.ready.toList ↔ f.waiting.get? u = some 0) (u : UnitId) :
    u ∈ (ds.foldl Frontier.countDown f).ready.toList ↔
      (ds.foldl Frontier.countDown f).waiting.get? u = some 0 := by
  induction ds generalizing f with
  | nil => exact h u
  | cons v rest ih => exact ih (countDown_ready h v)

/-- **One unit is taken out of a frontier.** -/
theorem Frontier.Tracks.finish {f : Frontier} (hg : g.Linked) (h : f.Tracks g s done)
    (hu : u ∈ f.ready.toList) : (f.finish g u).Tracks g s (u :: done) := by
  have hwait := (h.ready u).1 hu
  -- only units of the set that are not done have a count, and this one's is zero
  have huopen : u ∈ s.toList ∧ u ∉ done := by
    rw [h.waiting] at hwait
    by_contra hnot
    simp [hnot] at hwait
  -- the ready units are those whose count is zero, also before dependents are counted down
  have hstart : ∀ v, v ∈ (f.ready.erase u).toList ↔ (f.waiting.erase u).get? v = some 0 := by
    intro v
    rw [KeySet.mem_erase, h.ready]
    by_cases hvu : v = u
    · simp [hvu, Table.get?_erase]
    · simp [hvu, Table.get?_erase_of_ne hvu]
  refine ⟨List.nodup_cons.2 ⟨huopen.2, h.done_nodup⟩, ?_, ?_, ?_⟩
  · intro v hv
    rcases List.mem_cons.1 hv with rfl | hv
    · exact huopen.1
    · exact h.done_subset v hv
  · intro v
    unfold Frontier.finish
    rw [countDownAll_get? (hg.dependents_nodup u), openDeps_cons]
    by_cases hvu : v = u
    · simp [hvu, Table.get?_erase]
    · -- dependents are counted down, and so are their open dependencies
      simp only [Table.get?_erase_of_ne hvu, h.waiting, hg.dependents_iff, List.mem_cons, hvu,
        false_or]
      by_cases hv : v ∈ s.toList ∧ v ∉ done
      · by_cases hdep : u ∈ g.depsOf v
        · simp [hv, hdep]
        · simp [hv, hdep]
      · simp [hv]
  · exact fun v => countDownAll_ready hstart v

/-- The frontier that a set starts with. -/
theorem tracks_frontier (hs : s.Ordered) (hknown : ∀ u ∈ s.toList, g.units.contains u = true) :
    (g.frontier s).Tracks g s [] := by
  have hfilter : s.toList.filter g.units.contains = s.toList := List.filter_eq_self.2 hknown
  have hget : ∀ u, (g.frontier s).waiting.get? u =
      if u ∈ s.toList then some (g.depsWithin u s).length else none := by
    intro u
    -- the table is made of an ordered set, so it is ordered without an insertion
    have hord : (g.frontier s).waiting.Ordered := by
      unfold Table.Ordered frontier
      simp only [hfilter, List.pairwise_map]
      exact hs
    split
    · rename_i hu
      refine (hord.get?_eq_some_iff u _).2 ?_
      simp only [frontier, hfilter]
      exact List.mem_map.2 ⟨u, hu, rfl⟩
    · rename_i hu
      refine (hord.get?_eq_none_iff u).2 ?_
      simpa [frontier, hfilter, Table.keys, Function.comp_def] using hu
  refine ⟨List.nodup_nil, by simp, ?_, ?_⟩
  · intro u
    rw [hget, openDeps_nil]
    simp
  · intro u
    rw [hget]
    simp only [frontier, hfilter, List.mem_map, List.mem_filter, Prod.exists, exists_and_right,
      exists_eq_right]
    by_cases hu : u ∈ s.toList
    · simp [hu]
    · simp [hu]

/-- What comes out of a frontier: units of the set that were not done, each behind all of its
dependencies. -/
private theorem drain_spec {f : Frontier} (hg : g.Linked) (h : f.Tracks g s done) (fuel : Nat) :
    ((g.drain fuel f).reverse ++ done).Nodup ∧ (∀ u ∈ g.drain fuel f, u ∈ s.toList) ∧
      ∀ l u r, g.drain fuel f = l ++ u :: r →
        (g.depsWithin u s).Nodup ∧ ∀ d ∈ g.depsWithin u s, d ∈ done ∨ d ∈ l := by
  -- on the fuel, with what came out so far moved to `done`
  induction fuel generalizing f done with
  | zero => exact ⟨by simpa [drain] using h.done_nodup, by simp [drain], by simp [drain]⟩
  | succ fuel ih =>
    cases hready : f.ready.toList with
    | nil =>
      simp only [drain, hready]
      exact ⟨by simpa using h.done_nodup, by simp, by simp⟩
    | cons id rest =>
      have hid : id ∈ f.ready.toList := by simp [hready]
      have hnext := h.finish hg hid
      obtain ⟨hnodup, hsub, hdeps⟩ := ih hnext
      simp only [drain, hready]
      refine ⟨by simpa using hnodup, ?_, ?_⟩
      · intro u hu
        rcases List.mem_cons.1 hu with rfl | hu
        · exact hnext.done_subset u (List.mem_cons_self ..)
        · exact hsub u hu
      · intro l u r heq
        cases l with
        | nil =>
          -- the first unit that comes out was ready, so nothing it depends on is open
          obtain ⟨rfl, -⟩ := List.cons.inj heq
          have hopen : g.openDeps s done id = 0 := by
            have hzero := (h.ready id).1 hid
            rw [h.waiting] at hzero
            split at hzero
            · exact Option.some.inj hzero
            · cases hzero
          obtain ⟨hnd, hdone⟩ := deps_done_of_openDeps_eq_zero h.done_nodup h.done_subset hopen
          exact ⟨hnd, fun d hd => Or.inl (hdone d hd)⟩
        | cons a l =>
          obtain ⟨rfl, hrest⟩ := List.cons.inj heq
          obtain ⟨hnd, hdone⟩ := hdeps l u r hrest
          refine ⟨hnd, ?_⟩
          intro d hd
          rcases hdone d hd with hmem | hmem
          · rcases List.mem_cons.1 hmem with rfl | hmem
            · exact Or.inr (List.mem_cons_self ..)
            · exact Or.inl hmem
          · exact Or.inr (List.mem_cons_of_mem _ hmem)

/-! ## Layer E: accepted graphs -/

/-- **What is true of every accepted graph**: edges are listed from both ends and once each, and
some rank grows along them. -/
structure Sound (g : UnitGraph) : Prop extends Linked g where
  deps_nodup : ∀ u, (g.depsWithin u g.unitIds).Nodup
  ranked : ∃ rank : UnitId → Nat, ∀ u d, d ∈ g.depsWithin u g.unitIds → rank d < rank u

theorem Linked.contains_iff (hg : g.Linked) : g.units.contains u = true ↔ u ∈ g.unitIds.toList := by
  rw [Table.contains, Option.isSome_iff_ne_none, ne_eq, hg.ordered.get?_eq_none_iff, not_not]
  rfl

theorem Linked.unit?_isSome (hg : g.Linked) (hu : u ∈ g.unitIds.toList) :
    ∃ c, g.unit? u = some c :=
  Option.isSome_iff_exists.1 (hg.contains_iff.2 hu)

theorem Linked.unitIds_ordered (hg : g.Linked) : g.unitIds.Ordered := List.pairwise_map.2 hg.ordered

/-- A graph all of whose units can be put in order is sound. -/
private theorem sound_of_length (hg : g.Linked)
    (hlen : (g.topoOrder g.unitIds).length = g.units.size) : g.Sound := by
  have htracks := tracks_frontier hg.unitIds_ordered fun u hu => hg.contains_iff.2 hu
  obtain ⟨hnodup, hsub, hdeps⟩ := drain_spec hg htracks g.unitIds.size
  rw [List.append_nil, List.nodup_reverse] at hnodup
  -- the order has as many units as the graph, so it has all of them
  have hall : ∀ u ∈ g.unitIds.toList, u ∈ g.topoOrder g.unitIds := by
    have hsubperm := List.subperm_of_subset hnodup hsub
    have hle : g.unitIds.toList.length ≤ (g.topoOrder g.unitIds).length := by
      rw [hlen]
      simp [unitIds, Table.keys, Table.size]
    intro u hu
    exact (hsubperm.perm_of_length_le hle).mem_iff.2 hu
  -- units the graph does not have depend on nothing
  have hunknown : ∀ u, u ∉ g.unitIds.toList → g.depsWithin u g.unitIds = [] := by
    intro u hu
    have hnone : g.unit? u = none := (hg.ordered.get?_eq_none_iff u).2 hu
    simp [depsWithin, hnone]
  -- the rank of a unit is its place in the order
  refine ⟨hg, ?_, fun u => (g.topoOrder g.unitIds).idxOf u, ?_⟩
  · intro u
    by_cases hu : u ∈ g.unitIds.toList
    · obtain ⟨l, r, heq⟩ := List.append_of_mem (hall u hu)
      exact (hdeps l u r heq).1
    · simp [hunknown u hu]
  · intro u d hd
    by_cases hu : u ∈ g.unitIds.toList
    · obtain ⟨l, r, heq⟩ := List.append_of_mem (hall u hu)
      have hdl : d ∈ l := by
        rcases (hdeps l u r heq).2 d hd with hd | hd
        · cases hd
        · exact hd
      have hul : u ∉ l := by
        change (g.topoOrder g.unitIds).Nodup at hnodup
        rw [heq, List.nodup_append] at hnodup
        exact fun hmem => hnodup.2.2 u hmem u (List.mem_cons_self ..) rfl
      simp only [heq]
      rw [List.idxOf_append_of_mem hdl, List.idxOf_append_of_notMem hul]
      exact Nat.lt_of_lt_of_le (List.idxOf_lt_length_of_mem hdl) (Nat.le_add_right ..)
    · simp [hunknown u hu] at hd

/-- A model is accepted if it is valid and its units can be put in order. -/
theorem ofModel_eq_ok_iff {m : ProjectModel} :
    ofModel m = .ok g ↔
      m.validate = .ok () ∧ g = assemble m ∧ (g.topoOrder g.unitIds).length = g.units.size := by
  unfold ofModel
  cases m.validate with
  | error fault => simp [bind, Except.bind]
  | ok _ =>
    simp only [bind, Except.bind, true_and, beq_iff_eq]
    split
    · rename_i hlen
      constructor
      · intro h
        obtain rfl := Except.ok.inj h
        exact ⟨rfl, hlen⟩
      · rintro ⟨rfl, -⟩
        rfl
    · rename_i hlen
      constructor
      · intro h
        cases h
      · rintro ⟨rfl, hlen'⟩
        exact absurd hlen' hlen

/-- **Every graph of a model is sound.** -/
theorem sound_ofModel {m : ProjectModel} (h : ofModel m = .ok g) : g.Sound := by
  obtain ⟨hvalid, rfl, hlen⟩ := ofModel_eq_ok_iff.1 h
  exact sound_of_length (linked_assemble hvalid) hlen

/-- The units of a graph are those of its model, with normalized paths. -/
theorem unit?_ofModel {m : ProjectModel} (h : ofModel m = .ok g) {c : CompilationUnit} :
    g.unit? u = some c ↔ ∃ d ∈ m.units, d.id = u ∧ normalizeUnit d = c := by
  obtain ⟨hvalid, rfl, -⟩ := ofModel_eq_ok_iff.1 h
  exact unit?_assemble hvalid

theorem id_of_unit? {m : ProjectModel} (h : ofModel m = .ok g) {c : CompilationUnit}
    (hu : g.unit? u = some c) : c.id = u := by
  obtain ⟨d, -, hid, rfl⟩ := (unit?_ofModel h).1 hu
  exact hid

/-- The dependencies of a unit are units of the graph. -/
theorem unit?_of_mem_deps {m : ProjectModel} (h : ofModel m = .ok g) {c : CompilationUnit}
    (hu : g.unit? u = some c) {d : UnitId} (hd : d ∈ c.deps) : ∃ e, g.unit? d = some e := by
  obtain ⟨c', hc', -, rfl⟩ := (unit?_ofModel h).1 hu
  obtain ⟨hvalid, -, -⟩ := ofModel_eq_ok_iff.1 h
  have hknown := (ProjectModel.validate_eq_ok_iff.1 hvalid).2 c'.id d ⟨c', hc', rfl, hd⟩
  obtain ⟨e, he, rfl⟩ := List.mem_map.1 hknown
  exact ⟨normalizeUnit e, (unit?_ofModel h).2 ⟨e, he, rfl, rfl⟩⟩

namespace Sound

variable (hg : g.Sound)
include hg

/-- **There are no more ranks than units**: a unit may be ranked by how many units rank below it. -/
theorem exists_rank_lt : ∃ rank : UnitId → Nat,
    (∀ u d, d ∈ g.depsWithin u g.unitIds → rank d < rank u) ∧
      ∀ u ∈ g.unitIds.toList, rank u < g.units.size := by
  obtain ⟨rank, hrank⟩ := hg.ranked
  have hcount : ∀ (l : List UnitId) (v : UnitId), v ∈ l → ∀ n, rank v < n →
      (l.filter fun w => rank w < rank v).length < (l.filter fun w => rank w < n).length := by
    intro l v hv n hn
    -- what ranks below `v` ranks below `n` as well, and `v` itself makes the difference
    have hsub : (l.filter fun w => rank w < rank v) =
        (l.filter fun w => rank w < n).filter fun w => rank w < rank v := by
      rw [List.filter_filter]
      refine List.filter_congr fun w _ => ?_
      simp only [← Bool.decide_and, decide_eq_decide]
      omega
    rw [hsub]
    refine List.length_filter_lt_length_iff_exists.2 ⟨v, List.mem_filter.2 ⟨hv, ?_⟩, ?_⟩
    · simpa using hn
    · simp
  refine ⟨fun u => (g.unitIds.toList.filter fun w => rank w < rank u).length, ?_, ?_⟩
  · intro u d hd
    exact hcount _ d (mem_depsWithin.1 hd).2 _ (hrank u d hd)
  · intro u hu
    have hlt : (g.unitIds.toList.filter fun w => rank w < rank u).length <
        g.unitIds.toList.length :=
      List.length_filter_lt_length_iff_exists.2 ⟨u, hu, by simp⟩
    have hsize : g.unitIds.toList.length = g.units.size := by
      simp [unitIds, Table.keys, Table.size]
    exact hsize ▸ hlt

/-- The dependencies in any set of units of the graph are listed once. -/
theorem depsWithin_nodup (hs : ∀ u ∈ s.toList, u ∈ g.unitIds.toList) (u : UnitId) :
    (g.depsWithin u s).Nodup := by
  have hrestrict : g.depsWithin u s = (g.depsWithin u g.unitIds).filter s.contains := by
    rw [depsWithin_eq, depsWithin_eq, List.filter_filter]
    refine List.filter_congr ?_
    intro d _
    by_cases hd : d ∈ s.toList
    · simp [(KeySet.contains_iff s d).2 hd, (KeySet.contains_iff _ d).2 (hs d hd)]
    · have hnot : s.contains d = false := by
        rw [← Bool.not_eq_true, KeySet.contains_iff]
        exact hd
      simp [hnot]
  rw [hrestrict]
  exact (hg.deps_nodup u).filter _

/-- **Progress.** In a set of units of which some are not `done`, a unit that is not `done` has all
of its dependencies `done`. -/
theorem exists_openDeps_eq_zero (hs : ∀ u ∈ s.toList, u ∈ g.unitIds.toList)
    (hu : u ∈ s.toList) (hdone : u ∉ done) :
    ∃ v ∈ s.toList, v ∉ done ∧ ∀ d ∈ g.depsWithin v s, d ∈ done := by
  obtain ⟨rank, hrank⟩ := hg.ranked
  -- take a unit of least rank, by induction on the rank of the given one
  induction hn : rank u using Nat.strong_induction_on generalizing u with
  | _ n ih =>
    by_cases hall : ∀ d ∈ g.depsWithin u s, d ∈ done
    · exact ⟨u, hu, hdone, hall⟩
    · simp only [not_forall] at hall
      obtain ⟨d, hd, hnot⟩ := hall
      obtain ⟨hdep, hds⟩ := mem_depsWithin.1 hd
      have hlt : rank d < rank u := hrank u d (mem_depsWithin.2 ⟨hdep, hs d hds⟩)
      exact ih (rank d) (hn ▸ hlt) hds hnot rfl

private theorem drain_complete {f : Frontier} (hs : ∀ u ∈ s.toList, u ∈ g.unitIds.toList)
    (h : f.Tracks g s done) (fuel : Nat) (hfuel : s.size ≤ fuel + done.length)
    (hu : u ∈ s.toList) :
    u ∈ done ∨ u ∈ g.drain fuel f := by
  induction fuel generalizing f done with
  | zero =>
    -- as many units are done as the set has, so all of them are
    have hsubperm := List.subperm_of_subset h.done_nodup h.done_subset
    have hperm := hsubperm.perm_of_length_le (by simpa [KeySet.size] using hfuel)
    exact Or.inl (hperm.mem_iff.2 hu)
  | succ fuel ih =>
    cases hready : f.ready.toList with
    | nil =>
      -- nothing is ready, so nothing is left
      refine Or.inl ?_
      by_contra hnot
      obtain ⟨v, hv, hvdone, hvdeps⟩ := hg.exists_openDeps_eq_zero hs hu hnot
      have hopen := openDeps_eq_zero (hg.depsWithin_nodup hs v) hvdeps
      have hmem : v ∈ f.ready.toList := by
        rw [h.ready, h.waiting, if_pos ⟨hv, hvdone⟩, hopen]
      rw [hready] at hmem
      cases hmem
    | cons id rest =>
      have hid : id ∈ f.ready.toList := by simp [hready]
      have hnext := h.finish hg.toLinked hid
      simp only [drain, hready]
      rcases ih hnext (by simp only [List.length_cons]; omega) with hmem | hmem
      · rcases List.mem_cons.1 hmem with rfl | hmem
        · exact Or.inr (List.mem_cons_self ..)
        · exact Or.inl hmem
      · exact Or.inr (List.mem_cons_of_mem _ hmem)

/-- **The order of a set of units has each of them once.** -/
theorem topoOrder_perm (hsord : s.Ordered) (hs : ∀ u ∈ s.toList, u ∈ g.unitIds.toList) :
    (g.topoOrder s).Perm s.toList := by
  have htracks := tracks_frontier hsord fun u hu => hg.contains_iff.2 (hs u hu)
  obtain ⟨hnodup, hsub, -⟩ := drain_spec hg.toLinked htracks s.size
  rw [List.append_nil, List.nodup_reverse] at hnodup
  refine (List.perm_ext_iff_of_nodup hnodup hsord.nodup).2 ?_
  intro u
  refine ⟨hsub u, ?_⟩
  intro hu
  have hcomplete := hg.drain_complete hs htracks s.size (Nat.le_refl _) hu
  simpa using hcomplete

end Sound

/-! ## Layer F: changes -/

private theorem subset_spread (g : UnitGraph) (fuel : Nat) (found : KeySet UnitId)
    (stack : List UnitId) (hu : u ∈ found.toList) : u ∈ (g.spread fuel found stack).toList := by
  induction fuel generalizing found stack with
  | zero => exact hu
  | succ fuel ih =>
    cases stack with
    | nil => exact hu
    | cons id stack => exact ih _ _ (KeySet.mem_insertAll.2 (Or.inr hu))

/-- Known units that are dirty are affected. -/
theorem mem_affected (hg : g.Linked) {dirty : KeySet UnitId} (hu : u ∈ dirty.toList)
    (hknown : u ∈ g.unitIds.toList) : u ∈ (g.affected dirty).toList := by
  refine subset_spread g _ _ _ ?_
  exact List.mem_filter.2 ⟨hu, hg.contains_iff.2 hknown⟩

private theorem spread_invariant {P : KeySet UnitId → Prop} (fuel : Nat) (found : KeySet UnitId)
    (stack : List UnitId) (h : P found)
    (hstep : ∀ (found : KeySet UnitId) (fresh : List UnitId), (∀ u ∈ fresh, g.isMember u = true) →
      P found → P (found.insertAll fresh)) : P (g.spread fuel found stack) := by
  induction fuel generalizing found stack with
  | zero => exact h
  | succ fuel ih =>
    cases stack with
    | nil => exact h
    | cons id stack =>
      refine ih _ _ (hstep found _ ?_ h)
      intro u hu
      have := (List.mem_filter.1 hu).2
      simp only [Bool.and_eq_true] at this
      exact this.1

/-- Affected units are known, and listed in order. -/
theorem affected_known (hg : g.Linked) {dirty : KeySet UnitId} (hdirty : dirty.Ordered) :
    (g.affected dirty).Ordered ∧ ∀ u ∈ (g.affected dirty).toList, u ∈ g.unitIds.toList := by
  refine spread_invariant (P := fun found => found.Ordered ∧
    ∀ u ∈ found.toList, u ∈ g.unitIds.toList) _ _ _ ?_ ?_
  · refine ⟨hdirty.filter _, ?_⟩
    intro u hu
    exact hg.contains_iff.1 (List.mem_filter.1 hu).2
  · rintro found fresh hfresh ⟨hord, hknown⟩
    refine ⟨hord.insertAll fresh, ?_⟩
    intro u hu
    rcases KeySet.mem_insertAll.1 hu with hu | hu
    · -- a member is a unit of the graph
      have hmember := hfresh u hu
      refine hg.contains_iff.1 ?_
      unfold isMember unit? at hmember
      unfold Table.contains
      cases hget : g.units.get? u with
      | none => simp [hget] at hmember
      | some c => rfl
    · exact hknown u hu

end UnitGraph

end CodeAtlas
