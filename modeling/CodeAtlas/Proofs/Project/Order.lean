import CodeAtlas.Proofs.Project.Graph

/-!
# The order of a set of units

Units are put in order by a greedy choice: the next one is the least of those whose dependencies
came before. Such an order is determined by the graph and the set, and it stays the same when units
are left out together with all that depend on them. A greedy choice is also the best one: at the
first place where another order differs, that order has a greater unit.

## Architecture

- **Layer A**: greedy orders, and what they have in common;
- **Layer B**: frontiers list what may come next, and no count of theirs falls below zero;
- **Layer C**: the order of a set, and the main result.
-/

namespace CodeAtlas

namespace UnitGraph

variable {g : UnitGraph} {s : KeySet UnitId} {done order : List UnitId} {u v : UnitId}

/-! ## Layer A: greedy orders -/

/-- A unit of the set may come next: it did not come yet, and its dependencies in the set did. -/
structure Next (g : UnitGraph) (s : KeySet UnitId) (done : List UnitId) (u : UnitId) : Prop where
  mem : u ∈ s.toList
  fresh : u ∉ done
  deps : ∀ d ∈ g.depsWithin u s, d ∈ done

/-- **Each unit is the least that may come next**, once the units `done` came. -/
inductive Greedy (g : UnitGraph) (s : KeySet UnitId) : List UnitId → List UnitId → Prop
  | nil {done : List UnitId} : Greedy g s done []
  | cons {done rest : List UnitId} {u : UnitId} (hnext : g.Next s done u)
      (hleast : ∀ v, g.Next s done v → (compare u v).isLE) (hrest : Greedy g s (u :: done) rest) :
      Greedy g s done (u :: rest)

/-- What came before matters only as far as it is in the set. -/
theorem Next.congr {done' : List UnitId} (h : g.Next s done u)
    (hdone : ∀ v ∈ s.toList, v ∈ done ↔ v ∈ done') : g.Next s done' u where
  mem := h.mem
  fresh hmem := h.fresh ((hdone u h.mem).2 hmem)
  deps d hd := (hdone d (mem_depsWithin.1 hd).2).1 (h.deps d hd)

namespace Greedy

theorem congr {done' : List UnitId} (h : g.Greedy s done order)
    (hdone : ∀ v ∈ s.toList, v ∈ done ↔ v ∈ done') : g.Greedy s done' order := by
  induction h generalizing done' with
  | nil => exact .nil
  | @cons done rest u hnext hleast _ ih =>
    refine .cons (hnext.congr hdone) ?_ (ih ?_)
    · intro v hv
      exact hleast v (hv.congr fun w hw => (hdone w hw).symm)
    · intro v hv
      simp only [List.mem_cons, hdone v hv]

/-- The units of a greedy order are in the set, and did not come before. -/
theorem mem_of_mem (h : g.Greedy s done order) (hu : u ∈ order) : u ∈ s.toList ∧ u ∉ done := by
  induction h with
  | nil => cases hu
  | cons hnext _ _ ih =>
    rcases List.mem_cons.1 hu with rfl | hu
    · exact ⟨hnext.mem, hnext.fresh⟩
    · obtain ⟨hmem, hfresh⟩ := ih hu
      exact ⟨hmem, fun hdone => hfresh (List.mem_cons_of_mem _ hdone)⟩

/-- No unit comes twice. -/
theorem nodup (h : g.Greedy s done order) : order.Nodup := by
  induction h with
  | nil => exact List.nodup_nil
  | cons _ _ hrest ih =>
    refine List.nodup_cons.2 ⟨?_, ih⟩
    intro hu
    exact (hrest.mem_of_mem hu).2 (List.mem_cons_self ..)

/-- Dependencies come first. -/
theorem deps_first (h : g.Greedy s done order) {front back : List UnitId}
    (heq : order = front ++ u :: back) : ∀ d ∈ g.depsWithin u s, d ∈ done ∨ d ∈ front := by
  induction h generalizing front with
  | nil => simp at heq
  | cons hnext _ _ ih =>
    cases front with
    | nil =>
      obtain ⟨rfl, -⟩ := List.cons.inj heq
      exact fun d hd => Or.inl (hnext.deps d hd)
    | cons w front =>
      obtain ⟨rfl, hrest⟩ := List.cons.inj heq
      intro d hd
      -- what was done one step later was done before, or is the first of the order
      rcases ih hrest d hd with hmem | hmem
      · rcases List.mem_cons.1 hmem with rfl | hmem
        · exact Or.inr (List.mem_cons_self ..)
        · exact Or.inl hmem
      · exact Or.inr (List.mem_cons_of_mem _ hmem)

/-- One more unit at the end. -/
theorem concat (h : g.Greedy s done order) (hnext : g.Next s (order.reverse ++ done) u)
    (hleast : ∀ v, g.Next s (order.reverse ++ done) v → (compare u v).isLE) :
    g.Greedy s done (order ++ [u]) := by
  induction h with
  | nil => exact .cons hnext hleast .nil
  | cons hnext' hleast' _ ih =>
    simp only [List.reverse_cons, List.append_assoc, List.singleton_append] at hnext hleast
    exact .cons hnext' hleast' (ih hnext hleast)

/-- **There is one way to be greedy**: of two greedy orders one goes on from the other. -/
theorem prefix_or_prefix {order' : List UnitId} (h : g.Greedy s done order)
    (h' : g.Greedy s done order') : order <+: order' ∨ order' <+: order := by
  induction h generalizing order' with
  | nil => exact Or.inl List.nil_prefix
  | @cons done rest u hnext hleast _ ih =>
    cases h' with
    | nil => exact Or.inr List.nil_prefix
    | @cons _ rest' u' hnext' hleast' hrest' =>
      -- each of the two first units is the least one
      obtain rfl : u = u' := Std.LawfulEqOrd.eq_of_compare
        (Std.OrientedCmp.isLE_antisymm (hleast u' hnext') (hleast' u hnext))
      exact (ih hrest').imp (List.prefix_cons_inj u).2 (List.prefix_cons_inj u).2

/-- Greedy orders of the same length are the same. -/
theorem eq_of_length {order' : List UnitId} (h : g.Greedy s done order)
    (h' : g.Greedy s done order') (hlength : order.length = order'.length) : order = order' := by
  rcases h.prefix_or_prefix h' with hleads | hleads
  · exact hleads.eq_of_length hlength
  · exact (hleads.eq_of_length hlength.symm).symm

/-- **Leaving out units together with all that depend on them** does not reorder the others. -/
theorem filter {p : UnitId → Bool} (h : g.Greedy s done order)
    (hp : ∀ u ∈ s.toList, ∀ d ∈ g.depsWithin u s, p u = true → p d = true) :
    g.Greedy (s.filter p) done (order.filter p) := by
  -- on the greedy order, whose units may come next in the smaller set if they are in it
  -- the units that stay have the same dependencies as before
  have hdeps : ∀ u ∈ s.toList, p u = true → ∀ d ∈ g.depsWithin u s,
      d ∈ g.depsWithin u (s.filter p) := by
    intro u hu hpu d hd
    obtain ⟨hdep, hds⟩ := mem_depsWithin.1 hd
    exact mem_depsWithin.2 ⟨hdep, List.mem_filter.2 ⟨hds, hp u hu d hd hpu⟩⟩
  have hnext_of : ∀ {done v}, g.Next (s.filter p) done v → g.Next s done v := by
    intro done v hv
    obtain ⟨hvs, hpv⟩ := List.mem_filter.1 hv.mem
    exact ⟨hvs, hv.fresh, fun d hd => hv.deps d (hdeps v hvs hpv d hd)⟩
  induction h with
  | nil => exact .nil
  | @cons done rest u hnext hleast _ ih =>
    cases hpu : p u with
    | true =>
      rw [List.filter_cons_of_pos hpu]
      refine .cons ⟨List.mem_filter.2 ⟨hnext.mem, hpu⟩, hnext.fresh, ?_⟩ ?_ ih
      · intro d hd
        obtain ⟨hdep, hds⟩ := mem_depsWithin.1 hd
        exact hnext.deps d (mem_depsWithin.2 ⟨hdep, (List.mem_filter.1 hds).1⟩)
      · intro v hv
        exact hleast v (hnext_of hv)
    | false =>
      rw [List.filter_cons_of_neg (by simp [hpu])]
      -- `u` is not in the smaller set, so it does not matter that it came
      refine ih.congr ?_
      intro v hv
      have hkept := (List.mem_filter.1 hv).2
      have hvu : v ≠ u := by
        rintro rfl
        simp [hpu] at hkept
      simp [hvu]

/-- **A greedy order is the least** of all orders of its units in which dependencies come first. -/
theorem compare_isLE {order' : List UnitId} (h : g.Greedy s done order)
    (hperm : order.Perm order')
    (hdeps : ∀ front u back, order' = front ++ u :: back →
      ∀ d ∈ g.depsWithin u s, d ∈ done ∨ d ∈ front) : (compare order order').isLE := by
  induction h generalizing order' with
  | nil =>
    obtain rfl := hperm.nil_eq
    rfl
  | @cons done rest u hnext hleast hrest ih =>
    cases order' with
    | nil => exact absurd hperm.symm.nil_eq (by simp)
    | cons u' rest' =>
      have hmem := (Greedy.cons hnext hleast hrest).mem_of_mem
        (hperm.mem_iff.2 (List.mem_cons_self (a := u')))
      have hnext' : g.Next s done u' := by
        refine ⟨hmem.1, hmem.2, ?_⟩
        intro d hd
        simpa using hdeps [] u' rest' rfl d hd
      have hcompare : compare (u :: rest) (u' :: rest') =
          (compare u u').then (compare rest rest') := by
        simp only [List.compare_eq_compareLex, List.compareLex_cons_cons]
      rw [hcompare]
      -- the orders differ here, or the comparison goes on behind a common unit
      cases huu' : compare u u' with
      | lt => rfl
      | gt => simpa [huu'] using hleast u' hnext'
      | eq =>
        obtain rfl : u = u' := Std.LawfulEqOrd.eq_of_compare huu'
        refine ih hperm.cons_inv ?_
        rintro front w back rfl d hd
        have hbefore := hdeps (u :: front) w back rfl d hd
        simp only [List.mem_cons] at hbefore ⊢
        tauto

end Greedy

/-! ## Layer B: frontiers -/

/-- Counting down the dependents of a unit that is taken out lowers no count of zero. -/
def Frontier.Counts (g : UnitGraph) (f : Frontier) (u : UnitId) : Prop :=
  ∀ front v back n, g.dependentsOf u = front ++ v :: back →
    (front.foldl Frontier.countDown ⟨f.waiting.erase u, f.ready.erase u⟩).waiting.get? v = some n →
    0 < n

/-- **Taking units out of a frontier until none is ready**, for as long as it takes: the order in
which they come out, with all counts kept from falling below zero. -/
inductive Drains (g : UnitGraph) : Frontier → List UnitId → Prop
  | done {f : Frontier} (hready : f.ready.toList = []) : Drains g f []
  | next {f : Frontier} {u : UnitId} {rest order : List UnitId}
      (hready : f.ready.toList = u :: rest) (hcounts : f.Counts g u)
      (hrest : Drains g (f.finish g u) order) : Drains g f (u :: order)

/-- The bound on the number of rounds has no effect once it is large enough. -/
theorem Drains.drain_eq {f : Frontier} (h : g.Drains f order) {fuel : Nat}
    (hfuel : order.length ≤ fuel) : g.drain fuel f = order := by
  induction h generalizing fuel with
  | done hready => cases fuel <;> simp [drain, *]
  | @next f u rest order hready _ _ ih =>
    obtain ⟨fuel, rfl⟩ : ∃ n, fuel = n + 1 := ⟨fuel - 1, by simp at hfuel; omega⟩
    simp only [drain, hready, ih (Nat.le_of_succ_le_succ hfuel)]

namespace Frontier

variable {f : Frontier}

private theorem ordered_countDown (h : f.ready.Ordered) (v : UnitId) :
    (f.countDown v).ready.Ordered := by
  unfold countDown
  split
  · exact h
  · simp only
    split
    · exact h.insert v
    · exact h

theorem ordered_finish (h : f.ready.Ordered) (u : UnitId) : (f.finish g u).ready.Ordered :=
  List.foldlRecOn (motive := fun f : Frontier => f.ready.Ordered) _ countDown (h.erase u)
    fun _ hf v _ => ordered_countDown hf v

/-- **The ready units are those that may come next.** -/
theorem Tracks.mem_ready_iff (hg : g.Sound) (hs : ∀ u ∈ s.toList, u ∈ g.unitIds.toList)
    (h : f.Tracks g s done) : u ∈ f.ready.toList ↔ g.Next s done u := by
  rw [h.ready, h.waiting]
  constructor
  · intro hcount
    split at hcount
    · rename_i hopen
      have hzero := Option.some.inj hcount
      exact ⟨hopen.1, hopen.2,
        (deps_done_of_openDeps_eq_zero h.done_nodup h.done_subset hzero).2⟩
    · cases hcount
  · intro hnext
    rw [if_pos ⟨hnext.mem, hnext.fresh⟩, openDeps_eq_zero (hg.depsWithin_nodup hs u) hnext.deps]

/-- Counting down other units leaves a count as it is. -/
private theorem countDownAll_get?_of_notMem {front : List UnitId} (hv : v ∉ front) (f : Frontier) :
    (front.foldl countDown f).waiting.get? v = f.waiting.get? v := by
  induction front generalizing f with
  | nil => rfl
  | cons w rest ih =>
    rw [List.mem_cons, not_or] at hv
    rw [List.foldl_cons, ih hv.2]
    unfold countDown
    split
    · rfl
    · exact Table.get?_insert_of_ne hv.1 _ _

/-- **Counts do not fall below zero**: whatever waits for the unit that is taken out has it among
its open dependencies. -/
theorem Tracks.counts (hg : g.Linked) (h : f.Tracks g s done) (hu : u ∈ s.toList)
    (hfresh : u ∉ done) : f.Counts g u := by
  intro front v back n hsplit hcount
  -- `v` is listed once, so its count is the one that it had before
  have hnodup := hg.dependents_nodup u
  rw [hsplit] at hnodup
  have hvfront : v ∉ front := by
    intro hmem
    exact (List.nodup_append.1 hnodup).2.2 v hmem v (List.mem_cons_self ..) rfl
  rw [countDownAll_get?_of_notMem hvfront] at hcount
  have hvu : v ≠ u := by
    rintro rfl
    simp [Table.get?_erase] at hcount
  rw [Table.get?_erase_of_ne hvu, h.waiting] at hcount
  split at hcount
  · obtain rfl := Option.some.inj hcount
    have hdep : u ∈ g.depsOf v := by
      rw [← hg.dependents_iff, hsplit]
      exact List.mem_append_right _ (List.mem_cons_self ..)
    -- the dependencies that are done and `u` are different ones
    have hsubset : (u :: done).filter (fun d => d ∈ g.depsOf v) ⊆ g.depsWithin v s := by
      intro d hd
      obtain ⟨hmem, hd⟩ := List.mem_filter.1 hd
      refine mem_depsWithin.2 ⟨by simpa using hd, ?_⟩
      rcases List.mem_cons.1 hmem with rfl | hmem
      · exact hu
      · exact h.done_subset d hmem
    have hle := (List.subperm_of_subset
      ((List.nodup_cons.2 ⟨hfresh, h.done_nodup⟩).filter _) hsubset).length_le
    rw [List.filter_cons_of_pos (by simpa using hdep), List.length_cons] at hle
    unfold openDeps
    omega
  · cases hcount

end Frontier

namespace Sound

variable (hg : g.Sound)
include hg

/-- **What comes out of a frontier is greedy**, and the bound on the number of rounds suffices. -/
theorem drain_greedy (hs : ∀ u ∈ s.toList, u ∈ g.unitIds.toList) {f : Frontier}
    (h : f.Tracks g s done) (hready : f.ready.Ordered) (fuel : Nat)
    (hfuel : s.size ≤ fuel + done.length) :
    g.Drains f (g.drain fuel f) ∧ g.Greedy s done (g.drain fuel f) := by
  -- on the fuel, as one more unit is done each time; the invariant is that the frontier tracks them
  induction fuel generalizing f done with
  | zero =>
    have hsubperm := List.subperm_of_subset h.done_nodup h.done_subset
    have hperm := hsubperm.perm_of_length_le (by simpa [KeySet.size] using hfuel)
    refine ⟨.done (List.eq_nil_iff_forall_not_mem.2 ?_), .nil⟩
    intro u hu
    have hnext := (h.mem_ready_iff hg hs).1 hu
    exact hnext.fresh (hperm.mem_iff.2 hnext.mem)
  | succ fuel ih =>
    cases hlist : f.ready.toList with
    | nil =>
      simp only [drain, hlist]
      exact ⟨.done hlist, .nil⟩
    | cons u rest =>
      have hu : u ∈ f.ready.toList := by simp [hlist]
      have hnext := (h.mem_ready_iff hg hs).1 hu
      obtain ⟨hdrains, hgreedy⟩ := ih (h.finish hg.toLinked hu) (Frontier.ordered_finish hready u)
        (by simp only [List.length_cons]; omega)
      simp only [drain, hlist]
      refine ⟨.next hlist (h.counts hg.toLinked hnext.mem hnext.fresh) hdrains,
        .cons hnext ?_ hgreedy⟩
      -- the first of the ready units is the least of them
      intro v hv
      exact hready.head_isLE hlist ((h.mem_ready_iff hg hs).2 hv)

/-! ## Layer C: the order of a set -/

/-- **The order of a set of known units is greedy.** -/
theorem topoOrder_greedy (hsord : s.Ordered) (hs : ∀ u ∈ s.toList, u ∈ g.unitIds.toList) :
    g.Drains (g.frontier s) (g.topoOrder s) ∧ g.Greedy s [] (g.topoOrder s) := by
  have htracks := tracks_frontier hsord fun u hu => hg.contains_iff.2 (hs u hu)
  refine hg.drain_greedy hs htracks ?_ s.size (Nat.le_refl _)
  -- the ready units are some of the set, in its order
  have hsublist : (g.frontier s).ready.toList.Sublist s.toList := by
    have hcounts : ((g.frontier s).waiting.entries.map (·.1)) =
        s.toList.filter g.units.contains := by
      simp [frontier, Function.comp_def]
    refine List.Sublist.trans ?_ (List.filter_sublist (p := g.units.contains))
    rw [← hcounts]
    exact List.filter_sublist.map _
  exact List.Pairwise.sublist hsublist hsord

/-- **Leaving out units together with all that depend on them** leaves the order of the others. -/
theorem topoOrder_filter (hsord : s.Ordered) (hs : ∀ u ∈ s.toList, u ∈ g.unitIds.toList)
    {p : UnitId → Bool} (hp : ∀ u ∈ s.toList, ∀ d ∈ g.depsWithin u s, p u = true → p d = true) :
    g.topoOrder (s.filter p) = (g.topoOrder s).filter p := by
  have hknown : ∀ u ∈ (s.filter p).toList, u ∈ g.unitIds.toList := by
    intro u hu
    exact hs u (List.mem_filter.1 hu).1
  refine (hg.topoOrder_greedy (hsord.filter p) hknown).2.eq_of_length
    ((hg.topoOrder_greedy hsord hs).2.filter hp) ?_
  have hperm := (hg.topoOrder_perm (hsord.filter p) hknown).trans
    ((hg.topoOrder_perm hsord hs).filter p).symm
  exact hperm.length_eq

end Sound

/-- Every unit comes after all of its direct dependencies in a set. -/
def DepsFirst (g : UnitGraph) (s : KeySet UnitId) (order : List UnitId) : Prop :=
  ∀ front u back, order = front ++ u :: back → ∀ d ∈ g.depsWithin u s, d ∈ front

/-- The known units of a set. -/
def known (g : UnitGraph) (s : KeySet UnitId) : KeySet UnitId := s.filter g.units.contains

/-- Units that the graph does not have are no dependencies of units that it has. -/
theorem depsWithin_known {m : ProjectModel} (h : ofModel m = .ok g) (s : KeySet UnitId)
    (u : UnitId) : g.depsWithin u (g.known s) = g.depsWithin u s := by
  rw [depsWithin_eq, depsWithin_eq]
  refine List.filter_congr ?_
  intro d hd
  have hcontains : g.units.contains d = true := by
    unfold depsOf at hd
    cases hu : g.unit? u with
    | none => simp [hu] at hd
    | some c =>
      simp only [hu, Option.map_some, Option.getD_some] at hd
      exact Option.isSome_iff_exists.2 (unit?_of_mem_deps h hu hd)
  rw [Bool.eq_iff_iff, KeySet.contains_iff, KeySet.contains_iff]
  exact List.mem_filter.trans (and_iff_left hcontains)

theorem Sound.mem_unitIds_of_known (hg : g.Sound) (s : KeySet UnitId) :
    ∀ u ∈ (g.known s).toList, u ∈ g.unitIds.toList :=
  fun _ hu => hg.contains_iff.1 (List.mem_filter.1 hu).2

theorem frontier_known {m : ProjectModel} (h : ofModel m = .ok g) (s : KeySet UnitId) :
    g.frontier (g.known s) = g.frontier s := by
  have hfilter : (g.known s).toList.filter g.units.contains = s.toList.filter g.units.contains := by
    simp [known, KeySet.filter, List.filter_filter]
  simp only [frontier, hfilter, depsWithin_known h]

/-- The order of a set has the units that the graph knows. -/
theorem topoOrder_known {m : ProjectModel} (h : ofModel m = .ok g) (hs : s.Ordered) :
    g.topoOrder (g.known s) = g.topoOrder s := by
  have hg := sound_ofModel h
  have hknown := hg.mem_unitIds_of_known s
  have hordered : (g.known s).Ordered := hs.filter g.units.contains
  have hdrains := (hg.topoOrder_greedy hordered hknown).1
  have hlength := (hg.topoOrder_perm hordered hknown).length_eq
  -- the frontier is the same, and the bound on the number of rounds is no smaller
  rw [frontier_known h] at hdrains
  exact (hdrains.drain_eq (hlength.trans_le (List.length_filter_le _ _))).symm

/-- **The order of a set is the best one.** In an accepted graph, for every set of units:
- taking out units that are ready comes to an end, no count falls below zero on the way, and the
  units come out in the order of the set;
- the order has the units of the set that the graph knows, each once, behind all of its direct
  dependencies in the set;
- it is the least of all such orders. -/
theorem topoOrder_least {m : ProjectModel} (h : ofModel m = .ok g) (hs : s.Ordered) :
    g.Drains (g.frontier s) (g.topoOrder s) ∧
    (g.topoOrder s).Perm (s.toList.filter g.units.contains) ∧
    g.DepsFirst s (g.topoOrder s) ∧
    ∀ order : List UnitId, order.Perm (s.toList.filter g.units.contains) → g.DepsFirst s order →
      (compare (g.topoOrder s) order).isLE := by
  have hg := sound_ofModel h
  have hknown := hg.mem_unitIds_of_known s
  have hordered : (g.known s).Ordered := hs.filter g.units.contains
  have hperm := hg.topoOrder_perm hordered hknown
  obtain ⟨hdrains, hgreedy⟩ := hg.topoOrder_greedy hordered hknown
  -- units that the graph does not have make no difference
  rw [← topoOrder_known h hs, ← frontier_known h]
  refine ⟨hdrains, hperm, ?_, ?_⟩
  · intro front u back hsplit d hd
    rw [← depsWithin_known h] at hd
    simpa using hgreedy.deps_first hsplit d hd
  · intro order horder hdeps
    refine hgreedy.compare_isLE (hperm.trans horder.symm) ?_
    intro front u back hsplit d hd
    rw [depsWithin_known h] at hd
    exact Or.inr (hdeps front u back hsplit d hd)

/-- A tool `a` that needs the library `z`, and an unrelated tool `b`. -/
def toolsModel : ProjectModel :=
  { root := ⟨"/w"⟩
    units := [{ CompilationUnit.new (.lib "a") ⟨"/w/a/lib.rs"⟩ with deps := [.lib "z"] },
      CompilationUnit.new (.lib "b") ⟨"/w/b/lib.rs"⟩,
      CompilationUnit.new (.lib "z") ⟨"/w/z/lib.rs"⟩]
    manifests := []
    buildScriptFiles := [] }

/-- The unrelated tool comes first, although `a` has a lesser name; a unit that the graph does not
have is left out. -/
theorem tools_in_order :
    let g := assemble toolsModel
    let s : KeySet UnitId := ⟨[.lib "a", .lib "b", .lib "x", .lib "z"]⟩
    g.topoOrder s = [.lib "b", .lib "z", .lib "a"] ∧
      (compare (g.topoOrder s) [.lib "z", .lib "a", .lib "b"]).isLE := by
  intro g s
  have horder : g.topoOrder s = [.lib "b", .lib "z", .lib "a"] := by decide +kernel
  have hmodel : ofModel toolsModel = .ok g := by decide +kernel
  obtain ⟨-, -, -, hleast⟩ := topoOrder_least hmodel (show s.Ordered by
    unfold KeySet.Ordered
    decide +kernel)
  refine ⟨horder, hleast _ (by decide +kernel) ?_⟩
  -- only `a` depends on anything, and it comes second
  rintro (_ | ⟨_, _ | ⟨_, _ | ⟨_, front⟩⟩⟩) u back hsplit <;> simp at hsplit
  · obtain ⟨rfl, -⟩ := hsplit
    decide +kernel
  · obtain ⟨rfl, rfl, -⟩ := hsplit
    decide +kernel
  · obtain ⟨rfl, rfl, rfl, -⟩ := hsplit
    decide +kernel

end UnitGraph

end CodeAtlas
