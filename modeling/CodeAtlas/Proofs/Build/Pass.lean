import CodeAtlas.Build.Pass
import CodeAtlas.Proofs.Project.Dirty

/-!
# Theory of build passes

Every unit of a pass is in exactly one place: it waits, it may start, it is worked on, or it has
been indexed, failed or skipped. A unit that waits does so for as many dependencies as are neither
indexed nor failed, and none of these was skipped. So when no unit may start and none is worked on,
no unit is left waiting.

## Architecture

- **Layer A**: places and the invariant;
- **Layer B**: starting and skipping units;
- **Layer C**: units that end;
- **Layer D**: the beginning and the end of a pass.
-/

namespace CodeAtlas

namespace Pass

/-! ## Layer A: places -/

/-- The units that have not ended, those of `active` being worked on. -/
def remaining (p : Pass) (active : List UnitId) : List UnitId :=
  p.waiting.keys ++ p.ready.toList ++ active

/-- The units that others no longer wait for. -/
def done (p : Pass) : List UnitId := p.indexed ++ p.failed

/-- **The invariant of a pass over the units `s`** of which those of `active` are worked on. -/
structure Sound (s : KeySet UnitId) (p : Pass) (active : List UnitId) : Prop where
  graph : p.graph.Sound
  known : ∀ u ∈ s.toList, u ∈ p.graph.unitIds.toList
  ordered : s.Ordered
  waiting_ordered : p.waiting.Ordered
  ready_ordered : p.ready.Ordered
  /-- Every unit is in one place. -/
  places : (p.remaining active ++ (p.done ++ p.skipped)).Perm s.toList
  counts : ∀ u n, p.waiting.get? u = some n → n ≠ 0 ∧ n = p.graph.openDeps s p.done u
  unskipped : ∀ u ∈ p.waiting.keys, ∀ d ∈ p.graph.depsWithin u s, d ∉ p.skipped

variable {s : KeySet UnitId} {p : Pass} {active : List UnitId} {u : UnitId}

theorem Sound.nodup (h : Sound s p active) :
    (p.remaining active ++ (p.done ++ p.skipped)).Nodup :=
  h.places.nodup_iff.2 h.ordered.nodup

theorem Sound.mem_iff (h : Sound s p active) :
    u ∈ s.toList ↔ u ∈ p.remaining active ∨ u ∈ p.done ∨ u ∈ p.skipped := by
  rw [← h.places.mem_iff, List.mem_append, List.mem_append]

theorem Sound.known_of_remaining (h : Sound s p active) (hu : u ∈ p.remaining active) :
    u ∈ p.graph.unitIds.toList :=
  h.known u (h.mem_iff.2 (Or.inl hu))

theorem remaining_eq (p : Pass) (active : List UnitId) :
    p.remaining active = p.remaining [] ++ active := by
  simp [remaining]

/-- The project knows the units that have not been started. -/
theorem Sound.known_of_unstarted (h : Sound s p active) (hu : u ∈ p.remaining []) :
    u ∈ p.graph.unitIds.toList := by
  refine h.known_of_remaining ?_
  rw [remaining_eq]
  exact List.mem_append_left _ hu

/-- No unit is queued twice. -/
theorem Sound.unstarted_nodup (h : Sound s p active) : (p.remaining []).Nodup := by
  have := h.nodup
  rw [remaining_eq, List.append_assoc] at this
  exact (List.nodup_append.1 this).1

/-! ## Layer B: starting and skipping -/

/-- The next unit is one that may start, and it leaves the ready ones. -/
theorem next?_eq_some {q : Pass} (h : p.next? = some (u, q)) (hord : p.ready.Ordered) :
    ∃ rest, p.ready.toList = u :: rest ∧ (⟨rest⟩ : KeySet UnitId).Ordered ∧
      q = { p with ready := ⟨rest⟩ } := by
  unfold next? at h
  cases hready : p.ready.toList with
  | nil => simp [hready] at h
  | cons v rest =>
    simp only [hready, List.head?_cons, Option.map_some, Option.some.injEq, Prod.mk.injEq] at h
    obtain ⟨rfl, rfl⟩ := h
    have hset : p.ready = ⟨v :: rest⟩ := by rw [← hready]
    rw [hset] at hord ⊢
    refine ⟨rest, rfl, (List.pairwise_cons.1 hord).2, ?_⟩
    rw [hord.erase_head]

theorem next?_eq_none (h : p.next? = none) : p.ready.toList = [] := by
  unfold next? at h
  cases hready : p.ready.toList with
  | nil => rfl
  | cons v rest => simp [hready] at h

theorem perm_next {q : Pass} (hnext : p.next? = some (u, q)) (hord : p.ready.Ordered) :
    (u :: q.remaining []).Perm (p.remaining []) := by
  obtain ⟨rest, hready, -, rfl⟩ := next?_eq_some hnext hord
  simp only [remaining, hready, List.append_nil]
  exact List.perm_middle.symm

theorem mem_unstarted_of_next {q : Pass} (hnext : p.next? = some (u, q)) (hord : p.ready.Ordered) :
    u ∈ p.remaining [] :=
  (perm_next hnext hord).mem_iff.1 (List.mem_cons_self ..)

/-- What is left to start when a unit is met was so before, and is another unit. -/
theorem Sound.unstarted_of_next {q : Pass} {v : UnitId} (h : Sound s p active)
    (hnext : p.next? = some (u, q)) (hv : v ∈ q.remaining []) : v ∈ p.remaining [] ∧ v ≠ u := by
  have hperm := perm_next hnext h.ready_ordered
  refine ⟨hperm.mem_iff.1 (List.mem_cons_of_mem _ hv), ?_⟩
  rintro rfl
  exact (List.nodup_cons.1 (hperm.nodup_iff.2 h.unstarted_nodup)).1 hv

theorem perm_start {q : Pass} (hnext : p.next? = some (u, q)) (hord : p.ready.Ordered)
    (active : List UnitId) : (q.remaining (u :: active)).Perm (p.remaining active) := by
  rw [remaining_eq, p.remaining_eq]
  exact List.perm_middle.trans ((perm_next hnext hord).append_right active)

/-- **A unit is started.** -/
theorem Sound.start {q : Pass} (h : Sound s p active) (hnext : p.next? = some (u, q)) :
    Sound s q (u :: active) := by
  have hperm := perm_start hnext h.ready_ordered active
  obtain ⟨rest, hready, hord, rfl⟩ := next?_eq_some hnext h.ready_ordered
  exact ⟨h.graph, h.known, h.ordered, h.waiting_ordered, hord,
    (hperm.append_right _).trans h.places, h.counts, h.unskipped⟩

private theorem eraseAll_spec {ks : List UnitId} {w : Table UnitId Nat} (hw : w.Ordered)
    (hks : ks.Nodup) (hsub : ∀ k ∈ ks, k ∈ w.keys) :
    (ks.foldl Table.erase w).Ordered ∧ (ks ++ (ks.foldl Table.erase w).keys).Perm w.keys ∧
      ∀ v, (ks.foldl Table.erase w).get? v = if v ∈ ks then none else w.get? v := by
  induction ks generalizing w with
  | nil => exact ⟨hw, by simp, by simp⟩
  | cons k rest ih =>
    obtain ⟨hk, hrest⟩ := List.nodup_cons.1 hks
    have hleft : ∀ j ∈ rest, j ∈ (w.erase k).keys := by
      intro j hj
      refine Table.mem_keys_erase.2 ⟨hsub j (List.mem_cons_of_mem _ hj), ?_⟩
      rintro rfl
      exact hk hj
    obtain ⟨hord, hperm, hget⟩ := ih (hw.erase k) hrest hleft
    refine ⟨hord, ?_, ?_⟩
    · -- a table has each key once, so it is enough that both have the same keys
      have hkeys : (k :: (w.erase k).keys).Perm w.keys := by
        refine (List.perm_ext_iff_of_nodup ?_ hw.keys_nodup).2 ?_
        · exact List.nodup_cons.2 ⟨by simp [Table.mem_keys_erase], (hw.erase k).keys_nodup⟩
        · intro j
          rw [List.mem_cons, Table.mem_keys_erase]
          by_cases hjk : j = k
          · simp [hjk, hsub k (List.mem_cons_self ..)]
          · simp [hjk]
      exact (hperm.cons k).trans hkeys
    · intro v
      rw [List.foldl_cons, hget]
      by_cases hvk : v = k
      · simp [hvk, Table.get?_erase]
      · simp [hvk, Table.get?_erase_of_ne hvk]

/-- **What skipping does**: the units of the stack leave together with all that wait for them, and
no unit that is left waits for one that left. -/
theorem skipFrom_spec {g : UnitGraph} (hg : g.Linked) (fuel : Nat) {w : Table UnitId Nat}
    (hw : w.Ordered) (stack : List UnitId) (hfuel : stack.length + w.size ≤ fuel) :
    (skipFrom g fuel w stack).2.Ordered ∧
      ((skipFrom g fuel w stack).1 ++ (skipFrom g fuel w stack).2.keys).Perm (stack ++ w.keys) ∧
      (∀ u n, (skipFrom g fuel w stack).2.get? u = some n → w.get? u = some n) ∧
      ∀ u ∈ (skipFrom g fuel w stack).1, ∀ v ∈ g.dependentsOf u,
        v ∉ (skipFrom g fuel w stack).2.keys := by
  -- every round takes one unit off the stack and moves the units behind it onto it, so the stack
  -- and the table together lose one unit a round
  induction fuel generalizing w stack with
  | zero =>
    obtain rfl : stack = [] := List.length_eq_zero_iff.1 (by omega)
    exact ⟨hw, by simp [skipFrom], by simp [skipFrom], by simp [skipFrom]⟩
  | succ fuel ih =>
    cases stack with
    | nil => exact ⟨hw, by simp [skipFrom], by simp [skipFrom], by simp [skipFrom]⟩
    | cons u stack =>
      simp only [skipFrom]
      generalize hbehind : (g.dependentsOf u).filter w.contains = behind
      have hmem : ∀ v, v ∈ behind ↔ v ∈ g.dependentsOf u ∧ v ∈ w.keys := by
        intro v
        rw [← hbehind, List.mem_filter, hw.mem_keys_iff, Table.contains, Option.isSome_iff_exists]
      have hnodup : behind.Nodup := hbehind ▸ (hg.dependents_nodup u).filter _
      obtain ⟨hord, hperm, hget⟩ := eraseAll_spec hw hnodup fun v hv => ((hmem v).1 hv).2
      have hsize : behind.length + (behind.foldl Table.erase w).size = w.size := by
        have := hperm.length_eq
        simpa [Table.keys, Table.size] using this
      obtain ⟨hord', hperm', hget', hfree⟩ := ih hord (behind.reverse ++ stack) (by
        simp only [List.length_cons, List.length_append, List.length_reverse] at hfuel ⊢
        omega)
      generalize skipFrom g fuel (behind.foldl Table.erase w) (behind.reverse ++ stack) = out at *
      refine ⟨hord', ?_, ?_, ?_⟩
      · have hall : (behind.reverse ++ stack ++ (behind.foldl Table.erase w).keys).Perm
            (stack ++ w.keys) := by
          refine List.Perm.trans ?_ (hperm.append_left stack)
          rw [List.append_assoc]
          refine ((List.reverse_perm behind).append_right _).trans ?_
          exact List.perm_append_comm_assoc ..
        exact (hperm'.trans hall).cons u
      · intro v n hv
        have hleft := hget' v n hv
        rw [hget] at hleft
        split at hleft
        · cases hleft
        · exact hleft
      · intro x hx v hv hkeys
        rcases List.mem_cons.1 hx with rfl | hx
        · -- what waited for this unit is behind it, and the rest of the rounds add nothing back
          obtain ⟨n, hn⟩ := (hord'.mem_keys_iff v).1 hkeys
          have hleft := hget' v n hn
          rw [hget] at hleft
          split at hleft
          · cases hleft
          · rename_i hnot
            exact hnot ((hmem v).2 ⟨hv, (hw.mem_keys_iff v).2 ⟨n, hleft⟩⟩)
        · exact hfree x hx v hv hkeys

theorem mem_skip_self (p : Pass) (u : UnitId) : u ∈ (p.skip u).1 := by
  simp [Pass.skip, skipFrom]

/-- **A unit that is worked on is skipped** with all that wait for it. -/
theorem Sound.skip_active {l r : List UnitId} (h : Sound s p (l ++ u :: r)) :
    Sound s (p.skip u).2 (l ++ r) ∧
      ((p.skip u).1 ++ (p.skip u).2.remaining (l ++ r)).Perm (p.remaining (l ++ u :: r)) := by
  have hspec := skipFrom_spec h.graph.toLinked (p.waiting.size + 1) h.waiting_ordered [u] (by
    simp only [List.length_singleton]
    omega)
  simp only [Pass.skip, remaining] at hspec ⊢
  generalize skipFrom p.graph (p.waiting.size + 1) p.waiting [u] = out at hspec ⊢
  obtain ⟨skipped, waiting⟩ := out
  obtain ⟨hword, hperm, hget, hfree⟩ := hspec
  have hleft : (skipped ++ (waiting.keys ++ p.ready.toList ++ (l ++ r))).Perm
      (p.waiting.keys ++ p.ready.toList ++ (l ++ u :: r)) := by
    -- the lists differ in order only: compare how often each unit occurs
    refine List.perm_iff_count.2 fun a => ?_
    have hcount := hperm.count_eq a
    simp only [List.count_append, List.count_cons, List.count_nil] at hcount ⊢
    omega
  refine ⟨⟨h.graph, h.known, h.ordered, hword, h.ready_ordered, ?_, ?_, ?_⟩, hleft⟩
  · refine List.Perm.trans ?_ h.places
    refine List.perm_iff_count.2 fun a => ?_
    have hcount := hleft.count_eq a
    simp only [remaining, done, List.count_append] at hcount ⊢
    omega
  · intro v n hv
    exact h.counts v n (hget v n hv)
  · intro v hv d hd hskip
    obtain ⟨n, hn⟩ := (hword.mem_keys_iff v).1 hv
    -- skipped before, or skipped now
    rcases List.mem_append.1 hskip with hskip | hskip
    · exact h.unskipped v ((h.waiting_ordered.mem_keys_iff v).2 ⟨n, hget v n hn⟩) d hd hskip
    · have hdep := (h.graph.dependents_iff d v).2 (UnitGraph.mem_depsWithin.1 hd).1
      exact hfree d hskip v hdep hv

/-- **A unit is skipped** with all that wait for it. -/
theorem Sound.skip {q : Pass} (h : Sound s p active) (hnext : p.next? = some (u, q)) :
    Sound s (q.skip u).2 active ∧
      ((q.skip u).1 ++ (q.skip u).2.remaining active).Perm (p.remaining active) := by
  -- it is as if the unit had been started before
  obtain ⟨hsound, hperm⟩ := (h.start hnext).skip_active (l := [])
  exact ⟨hsound, hperm.trans (perm_start hnext h.ready_ordered active)⟩

/-- The units that have not started when one is met and skipped: they are left, or skipped with
it. -/
theorem Sound.unstarted_skip_perm {q : Pass} (h : Sound s p active)
    (hnext : p.next? = some (u, q)) :
    ((q.skip u).1 ++ (q.skip u).2.remaining []).Perm (p.remaining []) := by
  have hperm := (h.skip hnext).2
  rw [remaining_eq, p.remaining_eq, ← List.append_assoc] at hperm
  exact (List.perm_append_right_iff active).1 hperm

/-- What is left to start when a unit is skipped was so before, and is another unit. -/
theorem Sound.unstarted_of_skip {q : Pass} {v : UnitId} (h : Sound s p active)
    (hnext : p.next? = some (u, q)) (hv : v ∈ (q.skip u).2.remaining []) :
    v ∈ p.remaining [] ∧ v ≠ u := by
  have hperm := h.unstarted_skip_perm hnext
  refine ⟨hperm.mem_iff.1 (List.mem_append_right _ hv), ?_⟩
  -- no unit is in two places, so the skipped one is not among those that are left
  rintro rfl
  have hnodup := hperm.nodup_iff.2 h.unstarted_nodup
  exact (List.nodup_append.1 hnodup).2.2 v (q.mem_skip_self v) v hv rfl

/-! ## Layer C: ending -/

/-- What counting down leaves as it is. -/
structure Frame (p q : Pass) : Prop where
  build : q.build = p.build
  priority : q.priority = p.priority
  graph : q.graph = p.graph
  ticket : q.ticket = p.ticket
  order : q.order = p.order
  indexed : q.indexed = p.indexed
  failed : q.failed = p.failed
  skipped : q.skipped = p.skipped

theorem Frame.refl (p : Pass) : Frame p p := ⟨rfl, rfl, rfl, rfl, rfl, rfl, rfl, rfl⟩

theorem Frame.trans {p q r : Pass} (hpq : Frame p q) (hqr : Frame q r) : Frame p r where
  build := hqr.build.trans hpq.build
  priority := hqr.priority.trans hpq.priority
  graph := hqr.graph.trans hpq.graph
  ticket := hqr.ticket.trans hpq.ticket
  order := hqr.order.trans hpq.order
  indexed := hqr.indexed.trans hpq.indexed
  failed := hqr.failed.trans hpq.failed
  skipped := hqr.skipped.trans hpq.skipped

theorem frame_countDown (p : Pass) (u : UnitId) : Frame p (p.countDown u) := by
  unfold countDown
  split
  · exact .refl p
  · split <;> exact ⟨rfl, rfl, rfl, rfl, rfl, rfl, rfl, rfl⟩

theorem frame_release (p : Pass) (u : UnitId) : Frame p (p.release u) := by
  unfold release
  induction p.graph.dependentsOf u generalizing p with
  | nil => exact .refl p
  | cons v rest ih => exact (frame_countDown p v).trans (ih _)

/-- What a count becomes when it is counted down; at zero the unit no longer waits. -/
private def lowerCount (n : Nat) : Option Nat := if n - 1 = 0 then none else some (n - 1)

private theorem lowerCount_eq_some {n k : Nat} (h : lowerCount n = some k) :
    k ≠ 0 ∧ k = n - 1 := by
  unfold lowerCount at h
  split at h
  · cases h
  · rename_i hn
    obtain rfl := Option.some.inj h
    exact ⟨hn, rfl⟩

private theorem countDown_spec (hw : p.waiting.Ordered) (hr : p.ready.Ordered)
    (hnodup : (p.waiting.keys ++ p.ready.toList).Nodup) (v : UnitId) :
    (p.countDown v).waiting.Ordered ∧ (p.countDown v).ready.Ordered ∧
      ((p.countDown v).waiting.keys ++ (p.countDown v).ready.toList).Perm
        (p.waiting.keys ++ p.ready.toList) ∧
      ∀ u, (p.countDown v).waiting.get? u =
        if u = v then (p.waiting.get? u).bind lowerCount else p.waiting.get? u := by
  unfold countDown
  cases hv : p.waiting.get? v with
  | none =>
    refine ⟨hw, hr, List.Perm.refl _, ?_⟩
    intro u
    by_cases huv : u = v
    · simp [huv, hv]
    · simp [huv]
  | some n =>
    have hmem : v ∈ p.waiting.keys := (hw.mem_keys_iff v).2 ⟨n, hv⟩
    by_cases hn : n - 1 = 0
    · -- the unit may start now
      have hnew : v ∉ p.ready.toList := fun hready =>
        (List.nodup_append.1 hnodup).2.2 v hmem v hready rfl
      simp only [hn, beq_self_eq_true, if_true]
      refine ⟨hw.erase v, hr.insert v, ?_, ?_⟩
      · have hkeys := (eraseAll_spec hw (List.nodup_singleton v) (by simpa using hmem)).2.1
        refine List.perm_iff_count.2 fun a => ?_
        have hcount := hkeys.count_eq a
        have hcount' := (KeySet.insert_perm hnew).count_eq a
        simp only [List.count_append, List.count_cons, List.count_nil, List.foldl_cons,
          List.foldl_nil] at hcount hcount' ⊢
        omega
      · intro u
        by_cases huv : u = v
        · simp [huv, hv, lowerCount, hn, Table.get?_erase]
        · simp [huv, Table.get?_erase_of_ne huv]
    · -- the unit waits on, under a smaller count
      have hn' : (n - 1 == 0) = false := by simpa using hn
      simp only [hn', Bool.false_eq_true, if_false]
      refine ⟨hw.insert v _, hr, ?_, ?_⟩
      · refine List.Perm.append_right _ ?_
        refine (List.perm_ext_iff_of_nodup (hw.insert v _).keys_nodup hw.keys_nodup).2 ?_
        intro j
        rw [hw.mem_keys_insert]
        constructor
        · rintro (rfl | hj)
          · exact hmem
          · exact hj
        · exact Or.inr
      · intro u
        by_cases huv : u = v
        · simp [huv, hv, lowerCount, hn]
        · simp [huv, Table.get?_insert_of_ne huv]

/-- Counting down moves units from those that wait to those that may start. -/
private theorem release_spec (hg : p.graph.Linked) (hw : p.waiting.Ordered) (hr : p.ready.Ordered)
    (hnodup : (p.waiting.keys ++ p.ready.toList).Nodup) (v : UnitId) :
    (p.release v).waiting.Ordered ∧ (p.release v).ready.Ordered ∧
      ((p.release v).waiting.keys ++ (p.release v).ready.toList).Perm
        (p.waiting.keys ++ p.ready.toList) ∧
      ∀ u, (p.release v).waiting.get? u =
        if v ∈ p.graph.depsOf u then (p.waiting.get? u).bind lowerCount
        else p.waiting.get? u := by
  -- a dependent is listed once, so no count is lowered twice
  simp only [← hg.dependents_iff]
  have hds := hg.dependents_nodup v
  unfold release
  generalize p.graph.dependentsOf v = ds at hds ⊢
  induction ds generalizing p with
  | nil => exact ⟨hw, hr, List.Perm.refl _, by simp⟩
  | cons d rest ih =>
    obtain ⟨hd, hrest⟩ := List.nodup_cons.1 hds
    obtain ⟨hw', hr', hperm, hget⟩ := countDown_spec hw hr hnodup d
    have hg' : (p.countDown d).graph.Linked := (frame_countDown p d).graph ▸ hg
    obtain ⟨hw'', hr'', hperm', hget'⟩ := ih hg' hw' hr' (hperm.nodup_iff.2 hnodup) hrest
    refine ⟨hw'', hr'', hperm'.trans hperm, ?_⟩
    intro u
    rw [List.foldl_cons, hget', hget]
    by_cases hud : u = d
    · simp [hud, hd]
    · simp [hud]

/-- Whoever waits after counting down waited before. -/
private theorem mem_waiting_of_release (hg : p.graph.Linked) (hw : p.waiting.Ordered)
    (hr : p.ready.Ordered) (hnodup : (p.waiting.keys ++ p.ready.toList).Nodup) {v w : UnitId}
    (hmem : w ∈ (p.release v).waiting.keys) : w ∈ p.waiting.keys := by
  obtain ⟨hw', -, -, hget⟩ := release_spec hg hw hr hnodup v
  obtain ⟨n, hn⟩ := (hw'.mem_keys_iff w).1 hmem
  rw [hget] at hn
  refine (hw.mem_keys_iff w).2 ?_
  split at hn
  · obtain ⟨n', hn', -⟩ := Option.bind_eq_some_iff.1 hn
    exact ⟨n', hn'⟩
  · exact ⟨n, hn⟩

/-- Others stop waiting for a unit that ends. -/
private theorem Sound.release {l r : List UnitId} {q : Pass} (h : Sound s p (l ++ u :: r))
    (hgraph : q.graph = p.graph) (hwaiting : q.waiting = p.waiting) (hready : q.ready = p.ready)
    (hskipped : q.skipped = p.skipped) (hdone : q.done.Perm (u :: p.done)) :
    Sound s (q.release u) (l ++ r) ∧
      (u :: (q.release u).remaining (l ++ r)).Perm (p.remaining (l ++ u :: r)) := by
  have hframe := frame_release q u
  have hlinked : q.graph.Linked := hgraph ▸ h.graph.toLinked
  have hwaits : q.waiting.Ordered := hwaiting ▸ h.waiting_ordered
  have hfirst : q.ready.Ordered := hready ▸ h.ready_ordered
  have hnodup : (q.waiting.keys ++ q.ready.toList).Nodup := by
    simpa [remaining, hwaiting, hready] using h.unstarted_nodup
  obtain ⟨hw, hr, hperm, hget⟩ := release_spec hlinked hwaits hfirst hnodup u
  rw [hwaiting, hready] at hperm
  have hdone' : (q.release u).done.Perm (u :: p.done) := by
    unfold done
    rw [hframe.indexed, hframe.failed]
    exact hdone
  have hleft : (u :: (q.release u).remaining (l ++ r)).Perm (p.remaining (l ++ u :: r)) := by
    refine List.perm_iff_count.2 fun a => ?_
    have hcount := hperm.count_eq a
    simp only [remaining, List.count_append, List.count_cons] at hcount ⊢
    omega
  refine ⟨⟨?_, ?_, h.ordered, hw, hr, ?_, ?_, ?_⟩, hleft⟩
  · rw [hframe.graph, hgraph]
    exact h.graph
  · rw [hframe.graph, hgraph]
    exact h.known
  · refine List.Perm.trans ?_ h.places
    refine List.perm_iff_count.2 fun a => ?_
    have hcount := hleft.count_eq a
    have hcount' := hdone'.count_eq a
    rw [hframe.skipped, hskipped]
    simp only [List.count_append, List.count_cons] at hcount hcount' ⊢
    omega
  · -- counts fall where the number of open dependencies does
    intro v n hv
    rw [hget, hwaiting, hgraph] at hv
    rw [hframe.graph, hgraph, UnitGraph.openDeps_perm hdone', UnitGraph.openDeps_cons]
    by_cases hdep : u ∈ p.graph.depsOf v
    · rw [if_pos hdep] at hv ⊢
      obtain ⟨n', hn', hlower⟩ := Option.bind_eq_some_iff.1 hv
      obtain ⟨-, hcount⟩ := h.counts v n' hn'
      obtain ⟨hpos, rfl⟩ := lowerCount_eq_some hlower
      exact ⟨hpos, by rw [hcount]⟩
    · rw [if_neg hdep] at hv ⊢
      exact h.counts v n hv
  · intro v hv d hd
    rw [hframe.graph, hgraph] at hd
    rw [hframe.skipped, hskipped]
    have hv' := mem_waiting_of_release hlinked hwaits hfirst hnodup hv
    exact h.unskipped v (hwaiting ▸ hv') d hd

/-- A unit that may start once another has ended could start before, or all it waited for has
ended now. -/
private theorem Sound.free_release {l r : List UnitId} {q : Pass} {v : UnitId}
    (h : Sound s p (l ++ u :: r)) (hgraph : q.graph = p.graph) (hwaiting : q.waiting = p.waiting)
    (hready : q.ready = p.ready) (hskipped : q.skipped = p.skipped)
    (hdone : q.done.Perm (u :: p.done)) (hv : v ∈ (q.release u).ready.toList) :
    v ∈ p.ready.toList ∨ ∀ d ∈ p.graph.depsWithin v s, d ∈ q.done := by
  have hsound := (h.release hgraph hwaiting hready hskipped hdone).1
  have hnodup : (q.waiting.keys ++ q.ready.toList).Nodup := by
    simpa [remaining, hwaiting, hready] using h.unstarted_nodup
  obtain ⟨hw, -, hperm, hget⟩ := release_spec (p := q) (hgraph ▸ h.graph.toLinked)
    (hwaiting ▸ h.waiting_ordered) (hready ▸ h.ready_ordered) hnodup u
  rcases List.mem_append.1 (hperm.mem_iff.1 (List.mem_append.2 (Or.inr hv))) with hkey | hold
  · -- it waited: its count has fallen to zero, so every dependency in the pass is done
    rw [hwaiting] at hkey
    obtain ⟨n, hn⟩ := (h.waiting_ordered.mem_keys_iff v).1 hkey
    obtain ⟨hpos, hcount⟩ := h.counts v n hn
    have hgone : (q.release u).waiting.get? v = none := by
      rw [hw.get?_eq_none_iff]
      exact fun hmem => (List.nodup_append.1 (hperm.nodup_iff.2 hnodup)).2.2 v hmem v hv rfl
    rw [hget, hwaiting, hgraph, hn] at hgone
    split at hgone
    · rename_i hdep
      have hzero : n - 1 = 0 := by
        by_contra hne
        simp [lowerCount, hne] at hgone
      have hopen : p.graph.openDeps s q.done v = 0 := by
        rw [UnitGraph.openDeps_perm hdone, UnitGraph.openDeps_cons, if_pos hdep, ← hcount]
        exact hzero
      have hframe := frame_release q u
      have hmem : ∀ d ∈ q.done, d ∈ s.toList := by
        intro d hd
        refine hsound.mem_iff.2 (Or.inr (Or.inl ?_))
        simpa [done, hframe.indexed, hframe.failed] using hd
      have hdone_nodup : q.done.Nodup := by
        have := (List.nodup_append.1 (List.nodup_append.1 hsound.nodup).2.1).1
        simpa [done, hframe.indexed, hframe.failed] using this
      exact Or.inr (UnitGraph.deps_done_of_openDeps_eq_zero hdone_nodup hmem hopen).2
    · cases hgone
  · exact Or.inl (hready ▸ hold)

/-- **A unit is indexed.** -/
theorem Sound.noteIndexed {l r : List UnitId} (h : Sound s p (l ++ u :: r)) :
    Sound s (p.noteIndexed u) (l ++ r) ∧
      (u :: (p.noteIndexed u).remaining (l ++ r)).Perm (p.remaining (l ++ u :: r)) := by
  refine h.release rfl rfl rfl rfl ?_
  simp only [done, List.append_assoc]
  exact List.perm_middle

/-- **A unit fails.** -/
theorem Sound.noteFailed {l r : List UnitId} (h : Sound s p (l ++ u :: r)) :
    Sound s (p.noteFailed u) (l ++ r) ∧
      (u :: (p.noteFailed u).remaining (l ++ r)).Perm (p.remaining (l ++ u :: r)) := by
  refine h.release rfl rfl rfl rfl ?_
  simp only [done, ← List.append_assoc]
  exact List.perm_append_comm

/-- Counting what has ended changes no place. -/
theorem Sound.count (h : Sound s p active) : Sound s p.count active :=
  ⟨h.graph, h.known, h.ordered, h.waiting_ordered, h.ready_ordered, h.places, h.counts, h.unskipped⟩

theorem Sound.not_mem_of_end {q : Pass} {l r : List UnitId} (h : Sound s p (l ++ u :: r))
    (hperm : (u :: q.remaining (l ++ r)).Perm (p.remaining (l ++ u :: r))) :
    u ∉ q.remaining (l ++ r) :=
  (List.nodup_cons.1 (hperm.nodup_iff.2 (List.nodup_append.1 h.nodup).1)).1

/-- A unit that ends was not queued any more. -/
theorem unstarted_perm_of_end {q : Pass} {l r : List UnitId}
    (h : (u :: q.remaining (l ++ r)).Perm (p.remaining (l ++ u :: r))) :
    (q.remaining []).Perm (p.remaining []) := by
  rw [remaining_eq, p.remaining_eq] at h
  refine List.perm_iff_count.2 fun a => ?_
  have hcount := h.count_eq a
  simp only [List.count_append, List.count_cons] at hcount
  omega

/-- **What stays the same through a pass.** -/
structure Continues (p q : Pass) : Prop where
  build : q.build = p.build
  graph : q.graph = p.graph
  ticket : q.ticket = p.ticket
  order : q.order = p.order

theorem continues_next {q : Pass} (h : p.next? = some (u, q)) : Continues p q := by
  unfold next? at h
  obtain ⟨v, -, heq⟩ := Option.map_eq_some_iff.1 h
  obtain ⟨rfl, rfl⟩ := Prod.mk.inj heq
  exact ⟨rfl, rfl, rfl, rfl⟩

theorem continues_noteIndexed (p : Pass) (u : UnitId) : Continues p (p.count.noteIndexed u) :=
  have h := frame_release { p.count with indexed := p.count.indexed ++ [u] } u
  ⟨h.build, h.graph, h.ticket, h.order⟩

theorem continues_noteFailed (p : Pass) (u : UnitId) : Continues p (p.count.noteFailed u) :=
  have h := frame_release { p.count with failed := p.count.failed ++ [u] } u
  ⟨h.build, h.graph, h.ticket, h.order⟩

/-! ## Layer D: beginning and end -/

/-- The numbers of dependencies within the pass that units wait for at first. Those with a number
wait and those without one may start; both are cut from this table. -/
private def firstCounts (g : UnitGraph) (s : KeySet UnitId) : Table UnitId Nat :=
  Table.ofList ((g.topoOrder s).map fun u => (u, (g.depsWithin u s).length))

private theorem new_eq (build : Nat) (priority : Priority) (g : UnitGraph) (s : KeySet UnitId)
    (ticket : DirtyTicket) : new build priority g s ticket =
      { build := build, priority := priority, graph := g, ticket := ticket, order := g.topoOrder s
        waiting := (firstCounts g s).filter fun _ n => n != 0
        ready := KeySet.ofList ((firstCounts g s).filter fun _ n => n == 0).keys } := rfl

private theorem ordered_firstCounts (g : UnitGraph) (s : KeySet UnitId) :
    (firstCounts g s).Ordered := Table.ordered_ofList _

private theorem get?_firstCounts {g : UnitGraph} (hg : g.Sound) (hs : s.Ordered)
    (hknown : ∀ u ∈ s.toList, u ∈ g.unitIds.toList) {n : Nat} :
    (firstCounts g s).get? u = some n ↔ u ∈ s.toList ∧ n = (g.depsWithin u s).length := by
  have horder := hg.topoOrder_perm hs hknown
  have hkeys : (((g.topoOrder s).map fun u => (u, (g.depsWithin u s).length)).map (·.1)).Nodup := by
    simpa [Function.comp_def] using horder.nodup_iff.2 hs.nodup
  unfold firstCounts
  rw [Table.get?_ofList hkeys, List.mem_map, ← horder.mem_iff]
  constructor
  · rintro ⟨v, hv, heq⟩
    obtain ⟨rfl, rfl⟩ := Prod.mk.inj heq
    exact ⟨hv, rfl⟩
  · rintro ⟨hu, rfl⟩
    exact ⟨u, hu, rfl⟩

private theorem mem_keys_firstCounts {g : UnitGraph} (hg : g.Sound) (hs : s.Ordered)
    (hknown : ∀ u ∈ s.toList, u ∈ g.unitIds.toList) (f : Nat → Bool) :
    u ∈ ((firstCounts g s).filter fun _ n => f n).keys ↔
      u ∈ s.toList ∧ f (g.depsWithin u s).length = true := by
  have hord := ordered_firstCounts g s
  rw [(hord.filter _).mem_keys_iff]
  simp only [hord.get?_filter_eq_some_iff, get?_firstCounts hg hs hknown]
  constructor
  · rintro ⟨n, ⟨hu, rfl⟩, hf⟩
    exact ⟨hu, hf⟩
  · rintro ⟨hu, hf⟩
    exact ⟨_, ⟨hu, rfl⟩, hf⟩

/-- At first each unit of the pass waits or may start. -/
private theorem remaining_new {g : UnitGraph} (hg : g.Sound) (hs : s.Ordered)
    (hknown : ∀ u ∈ s.toList, u ∈ g.unitIds.toList) (build : Nat) (priority : Priority)
    (ticket : DirtyTicket) : ((new build priority g s ticket).remaining []).Perm s.toList := by
  have hord := ordered_firstCounts g s
  rw [new_eq, remaining, List.append_nil]
  refine (List.perm_ext_iff_of_nodup ?_ hs.nodup).2 ?_
  · refine List.nodup_append.2 ⟨(hord.filter _).keys_nodup, (KeySet.ordered_ofList _).nodup, ?_⟩
    rintro a ha b hb rfl
    rw [KeySet.mem_ofList, mem_keys_firstCounts hg hs hknown (· == 0)] at hb
    rw [mem_keys_firstCounts hg hs hknown (· != 0)] at ha
    simp_all
  · intro u
    rw [List.mem_append, KeySet.mem_ofList, mem_keys_firstCounts hg hs hknown (· != 0),
      mem_keys_firstCounts hg hs hknown (· == 0)]
    by_cases hzero : (g.depsWithin u s).length = 0
    · simp [hzero]
    · simp [hzero]

/-- **A pass over units of a sound graph begins sound**, with all of them remaining. -/
theorem sound_new {g : UnitGraph} (hg : g.Sound) (hs : s.Ordered)
    (hknown : ∀ u ∈ s.toList, u ∈ g.unitIds.toList) (build : Nat) (priority : Priority)
    (ticket : DirtyTicket) :
    Sound s (new build priority g s ticket) [] ∧
      ((new build priority g s ticket).remaining []).Perm s.toList := by
  have hremaining := remaining_new hg hs hknown build priority ticket
  have hord := ordered_firstCounts g s
  refine ⟨⟨hg, hknown, hs, hord.filter _, KeySet.ordered_ofList _, ?_, ?_, ?_⟩, hremaining⟩
  · simpa [new_eq, done] using hremaining
  · intro u n hu
    obtain ⟨hget, hn⟩ := (hord.get?_filter_eq_some_iff _ u n).1 hu
    obtain ⟨-, rfl⟩ := (get?_firstCounts hg hs hknown).1 hget
    refine ⟨by simpa using hn, ?_⟩
    simp [new_eq, done, UnitGraph.openDeps_nil]
  · simp [new_eq]

/-- **No unit is left behind.** When no unit may start and none is worked on, none waits. -/
theorem Sound.waiting_nil (h : Sound s p []) (hready : p.ready.toList = []) :
    p.waiting.keys = [] := by
  rw [List.eq_nil_iff_forall_not_mem]
  intro u hu
  have hnodup := h.nodup
  simp only [remaining, hready, List.append_nil] at hnodup
  have hmem : u ∈ s.toList := h.mem_iff.2 (Or.inl (by simp [remaining, hu]))
  have hopen : u ∉ p.done ++ p.skipped := fun hd => (List.nodup_append.1 hnodup).2.2 u hu u hd rfl
  -- some unit that waits has all of its dependencies behind it, and none of them was skipped
  obtain ⟨v, hv, hvopen, hvdeps⟩ := h.graph.exists_openDeps_eq_zero h.known hmem hopen
  have hvwait : v ∈ p.waiting.keys := by
    rcases h.mem_iff.1 hv with hv | hv
    · simpa [remaining, hready] using hv
    · exact absurd (List.mem_append.2 hv) hvopen
  have hzero : p.graph.openDeps s p.done v = 0 := by
    refine UnitGraph.openDeps_eq_zero (h.graph.depsWithin_nodup h.known v) ?_
    intro d hd
    rcases List.mem_append.1 (hvdeps d hd) with hdone | hskip
    · exact hdone
    · exact absurd hskip (h.unskipped v hvwait d hd)
  obtain ⟨n, hn⟩ := (h.waiting_ordered.mem_keys_iff v).1 hvwait
  obtain ⟨hpos, hcount⟩ := h.counts v n hn
  exact hpos (hcount.trans hzero)

/-! ## Layer E: the order of work -/

/-- **No unit overtakes a dependency**: for a unit that may start, is worked on or has been built,
every dependency in the pass was indexed or failed before. -/
structure Paced (s : KeySet UnitId) (p : Pass) (active : List UnitId) : Prop
    extends Sound s p active where
  free : ∀ v, v ∈ p.ready.toList ∨ v ∈ active ∨ v ∈ p.done →
    ∀ d ∈ p.graph.depsWithin v s, d ∈ p.done

/-- A unit that may start at first has no dependency in the pass. -/
private theorem ready_new {g : UnitGraph} (hg : g.Sound) (hs : s.Ordered)
    (hknown : ∀ u ∈ s.toList, u ∈ g.unitIds.toList) {build : Nat} {priority : Priority}
    {ticket : DirtyTicket} (hu : u ∈ (new build priority g s ticket).ready.toList) :
    g.depsWithin u s = [] := by
  rw [new_eq, KeySet.mem_ofList, mem_keys_firstCounts hg hs hknown (· == 0)] at hu
  exact List.length_eq_zero_iff.1 (by simpa using hu.2)

theorem paced_new {g : UnitGraph} (hg : g.Sound) (hs : s.Ordered)
    (hknown : ∀ u ∈ s.toList, u ∈ g.unitIds.toList) (build : Nat) (priority : Priority)
    (ticket : DirtyTicket) : Paced s (new build priority g s ticket) [] where
  toSound := (sound_new hg hs hknown build priority ticket).1
  free := by
    rintro v (hv | hv | hv) d hd
    · change d ∈ g.depsWithin v s at hd
      rw [ready_new hg hs hknown hv] at hd
      cases hd
    · cases hv
    · cases hv

theorem Paced.start {q : Pass} (h : Paced s p active) (hnext : p.next? = some (u, q)) :
    Paced s q (u :: active) := by
  refine ⟨h.toSound.start hnext, ?_⟩
  obtain ⟨rest, hready, -, rfl⟩ := next?_eq_some hnext h.ready_ordered
  intro v hv
  refine h.free v ?_
  rw [hready]
  rcases hv with hv | hv | hv
  · exact Or.inl (List.mem_cons_of_mem _ hv)
  · rcases List.mem_cons.1 hv with rfl | hv
    · exact Or.inl (List.mem_cons_self ..)
    · exact Or.inr (Or.inl hv)
  · exact Or.inr (Or.inr hv)

theorem Paced.skip_active {l r : List UnitId} (h : Paced s p (l ++ u :: r)) :
    Paced s (p.skip u).2 (l ++ r) := by
  refine ⟨h.toSound.skip_active.1, ?_⟩
  rintro v (hv | hv | hv)
  · exact h.free v (Or.inl hv)
  · refine h.free v (Or.inr (Or.inl ?_))
    simp only [List.mem_append, List.mem_cons] at hv ⊢
    tauto
  · exact h.free v (Or.inr (Or.inr hv))

/-- Others stop waiting for a unit that ends, once all that it waited for has ended. -/
private theorem Paced.release {l r : List UnitId} {q : Pass} (h : Paced s p (l ++ u :: r))
    (hgraph : q.graph = p.graph) (hwaiting : q.waiting = p.waiting) (hready : q.ready = p.ready)
    (hskipped : q.skipped = p.skipped) (hdone : q.done.Perm (u :: p.done)) :
    Paced s (q.release u) (l ++ r) := by
  have hframe := frame_release q u
  have hdone' : (q.release u).done = q.done := by simp [done, hframe.indexed, hframe.failed]
  refine ⟨(h.toSound.release hgraph hwaiting hready hskipped hdone).1, ?_⟩
  rw [hframe.graph, hgraph, hdone']
  intro v hv
  -- units that were free before stay so, since no unit is taken out of those that are done
  have hold : v ∈ p.ready.toList ∨ v ∈ l ++ u :: r ∨ v ∈ p.done →
      ∀ d ∈ p.graph.depsWithin v s, d ∈ q.done :=
    fun hv d hd => hdone.mem_iff.2 (List.mem_cons_of_mem _ (h.free v hv d hd))
  rcases hv with hv | hv | hv
  · rcases h.free_release hgraph hwaiting hready hskipped hdone hv with hv | hv
    · exact hold (Or.inl hv)
    · exact hv
  · refine hold (Or.inr (Or.inl ?_))
    simp only [List.mem_append, List.mem_cons] at hv ⊢
    tauto
  · rcases List.mem_cons.1 (hdone.mem_iff.1 hv) with rfl | hv
    · exact hold (Or.inr (Or.inl (by simp)))
    · exact hold (Or.inr (Or.inr hv))

theorem Paced.noteIndexed {l r : List UnitId} (h : Paced s p (l ++ u :: r)) :
    Paced s (p.noteIndexed u) (l ++ r) := by
  refine h.release rfl rfl rfl rfl ?_
  simp only [done, List.append_assoc]
  exact List.perm_middle

theorem Paced.noteFailed {l r : List UnitId} (h : Paced s p (l ++ u :: r)) :
    Paced s (p.noteFailed u) (l ++ r) := by
  refine h.release rfl rfl rfl rfl ?_
  simp only [done, ← List.append_assoc]
  exact List.perm_append_comm

/-- It does not matter in which order units are worked on. -/
theorem Paced.perm {active' : List UnitId} (h : Paced s p active) (hperm : active.Perm active') :
    Paced s p active' := by
  refine ⟨⟨h.graph, h.known, h.ordered, h.waiting_ordered, h.ready_ordered, ?_, h.counts,
    h.unskipped⟩, ?_⟩
  · refine List.Perm.trans (List.Perm.append_right _ ?_) h.places
    exact hperm.symm.append_left _
  · intro v hv
    rw [← hperm.mem_iff] at hv
    exact h.free v hv

theorem Paced.count (h : Paced s p active) : Paced s p.count active := ⟨h.toSound.count, h.free⟩

/-- **What depends on a skipped unit is skipped.** -/
theorem Paced.mem_skipped (h : Paced s p active) {d v : UnitId} (hv : v ∈ s.toList)
    (hd : d ∈ p.graph.depsWithin v s) (hskipped : d ∈ p.skipped) : v ∈ p.skipped := by
  have hnotdone : d ∉ p.done := fun hdone =>
    (List.nodup_append.1 (List.nodup_append.1 h.nodup).2.1).2.2 d hdone d hskipped rfl
  rcases h.mem_iff.1 hv with hv | hv | hv
  · simp only [remaining, List.mem_append, or_assoc] at hv
    rcases hv with hv | hv
    · exact absurd hskipped (h.unskipped v hv d hd)
    · exact absurd (h.free v (by tauto) d hd) hnotdone
  · exact absurd (h.free v (Or.inr (Or.inr hv)) d hd) hnotdone
  · exact hv

/-- **Every unit is skipped for a unit of the stack** that it is, or that it depends on through
units of the pass. -/
theorem exists_reaches_of_skipFrom {g : UnitGraph} (hg : g.Linked) (fuel : Nat)
    {w : Table UnitId Nat} (hw : w.Ordered) (hkeys : ∀ v ∈ w.keys, v ∈ s.toList)
    {stack : List UnitId} (hstack : ∀ v ∈ stack, v ∈ s.toList) :
    ∀ v ∈ (skipFrom g fuel w stack).1, ∃ u ∈ stack,
      Relation.ReflTransGen (fun a d => d ∈ g.depsWithin a s) v u := by
  induction fuel generalizing w stack with
  | zero => simp [skipFrom]
  | succ fuel ih =>
    cases stack with
    | nil => simp [skipFrom]
    | cons u stack =>
      simp only [skipFrom]
      generalize hbehind : (g.dependentsOf u).filter w.contains = behind
      have hmem : ∀ v ∈ behind, v ∈ g.dependentsOf u ∧ v ∈ w.keys := by
        intro v hv
        rw [← hbehind, List.mem_filter, Table.contains, Option.isSome_iff_exists] at hv
        exact ⟨hv.1, (hw.mem_keys_iff v).2 hv.2⟩
      have hnodup : behind.Nodup := hbehind ▸ (hg.dependents_nodup u).filter _
      obtain ⟨hord, hperm, -⟩ := eraseAll_spec hw hnodup fun v hv => (hmem v hv).2
      have hleft : ∀ v ∈ (behind.foldl Table.erase w).keys, v ∈ s.toList := fun v hv =>
        hkeys v (hperm.mem_iff.1 (List.mem_append.2 (Or.inr hv)))
      have hnext : ∀ v ∈ behind.reverse ++ stack, v ∈ s.toList := by
        intro v hv
        rcases List.mem_append.1 hv with hv | hv
        · exact hkeys v (hmem v (List.mem_reverse.1 hv)).2
        · exact hstack v (List.mem_cons_of_mem _ hv)
      intro v hv
      rcases List.mem_cons.1 hv with rfl | hv
      · exact ⟨v, List.mem_cons_self .., .refl⟩
      · obtain ⟨x, hx, hreach⟩ := ih hord hleft hnext v hv
        rcases List.mem_append.1 hx with hx | hx
        · -- it was put on the stack for the unit in front
          have hdep := (hg.dependents_iff u x).1 (hmem x (List.mem_reverse.1 hx)).1
          have hedge : u ∈ g.depsWithin x s :=
            UnitGraph.mem_depsWithin.2 ⟨hdep, hstack u (List.mem_cons_self ..)⟩
          exact ⟨u, List.mem_cons_self .., hreach.tail hedge⟩
        · exact ⟨x, List.mem_cons_of_mem _ hx, hreach⟩

/-- A unit is skipped with those that depend on it through units of the pass. -/
theorem Sound.reaches_of_skip (h : Sound s p active) (hu : u ∈ s.toList) :
    ∀ v ∈ (p.skip u).1, Relation.ReflTransGen (fun a d => d ∈ p.graph.depsWithin a s) v u := by
  intro v hv
  have hkeys : ∀ v ∈ p.waiting.keys, v ∈ s.toList := fun v hv =>
    h.mem_iff.2 (Or.inl (by simp [remaining, hv]))
  have hstack : ∀ v ∈ [u], v ∈ s.toList := by simpa using hu
  obtain ⟨x, hx, hreach⟩ := exists_reaches_of_skipFrom h.graph.toLinked (p.waiting.size + 1)
    h.waiting_ordered hkeys hstack v hv
  rwa [List.mem_singleton.1 hx] at hreach

private theorem get?_countDown_of_ne (p : Pass) {v : UnitId} (huv : v ≠ u) :
    (p.countDown u).waiting.get? v = p.waiting.get? v := by
  unfold countDown
  split
  · rfl
  · split
    · exact Table.get?_erase_of_ne huv _
    · exact Table.get?_insert_of_ne huv _ _

/-- No count of zero is lowered as the dependents of a unit are gone through. -/
def LowersNoZero (p : Pass) (u : UnitId) : Prop :=
  ∀ l v r n, p.graph.dependentsOf u = l ++ v :: r →
    (l.foldl countDown p).waiting.get? v = some n → n ≠ 0

/-- **Whoever waits does so for some unit**, so no count falls below zero. -/
theorem Sound.lowersNoZero {q : Pass} (h : Sound s p active) (hgraph : q.graph = p.graph)
    (hwaiting : q.waiting = p.waiting) : q.LowersNoZero u := by
  intro l v r n hlist hn
  have hnodup := h.graph.dependents_nodup u
  rw [← hgraph, hlist, List.nodup_append] at hnodup
  have hl : v ∉ l := fun hmem => hnodup.2.2 v hmem v (List.mem_cons_self ..) rfl
  -- a dependent is listed once, so the count is still the one that the others left alone
  have hsame : (l.foldl countDown q).waiting.get? v = p.waiting.get? v := by
    rw [← hwaiting]
    refine List.foldlRecOn (motive := fun b => b.waiting.get? v = q.waiting.get? v) l countDown
      rfl ?_
    intro b hb a ha
    have hne : v ≠ a := fun heq => hl (heq ▸ ha)
    rw [get?_countDown_of_ne b hne, hb]
  exact (h.counts v n (hsame ▸ hn)).1

end Pass

end CodeAtlas
