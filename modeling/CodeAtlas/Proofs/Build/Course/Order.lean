import CodeAtlas.Proofs.Build.Course.Ending
import CodeAtlas.Proofs.Build.Course.Queue
import CodeAtlas.Proofs.Project.Order

/-!
# The order of a build pass with one worker

A pass announces its units in the order of the graph, and then chooses them one by one with counts
of its own, while units are cancelled and skipped. With one worker it still starts them in the
announced order: whenever a unit is chosen, all that started before have ended, so the ready units
are those that may come next among the units that are not skipped. What is skipped takes along
whatever depends on it, and leaving out such units reorders nothing.

## Architecture

- **Layer A**: the units of a pass that are not skipped;
- **Layer B**: what the journal says of starts and results;
- **Layer C**: the invariant of a course with one worker, step by step;
- **Layer D**: the main result.
-/

namespace CodeAtlas

/-! ## Layer A: spared units -/

namespace Pass

variable {s : KeySet UnitId} {p : Pass} {active done : List UnitId} {u v : UnitId}

/-- The units of a pass that are not skipped so far. -/
def spared (s : KeySet UnitId) (p : Pass) : KeySet UnitId := s.filter fun u => u ∉ p.skipped

theorem mem_spared : u ∈ (p.spared s).toList ↔ u ∈ s.toList ∧ u ∉ p.skipped := by
  simp [spared, KeySet.filter]

/-- The dependencies of a spared unit are spared. -/
theorem Paced.mem_spared_of_dep (h : Paced s p active) (hu : u ∈ (p.spared s).toList) {d : UnitId}
    (hd : d ∈ p.graph.depsWithin u s) : d ∈ (p.spared s).toList := by
  obtain ⟨hus, huskip⟩ := mem_spared.1 hu
  refine mem_spared.2 ⟨(UnitGraph.mem_depsWithin.1 hd).2, ?_⟩
  intro hskip
  exact huskip (h.mem_skipped hus hd hskip)

/-- **While no unit is worked on, the ready units are those that may come next** among the spared
ones. -/
theorem Paced.mem_ready_iff (h : Paced s p []) (hdone : ∀ v, v ∈ p.done ↔ v ∈ done) :
    u ∈ p.ready.toList ↔ p.graph.Next (p.spared s) done u := by
  have hnodup := h.nodup
  constructor
  · intro hu
    have hleft : u ∈ p.remaining [] := by simp [remaining, hu]
    have hout : u ∉ p.done ++ p.skipped := fun hmem =>
      (List.nodup_append.1 hnodup).2.2 u hleft u hmem rfl
    rw [List.mem_append, not_or] at hout
    refine ⟨mem_spared.2 ⟨h.mem_iff.2 (Or.inl hleft), hout.2⟩, fun hmem => hout.1 ((hdone u).2 hmem),
      ?_⟩
    intro d hd
    obtain ⟨hdep, hds⟩ := UnitGraph.mem_depsWithin.1 hd
    exact (hdone d).1 (h.free u (Or.inl hu) d
      (UnitGraph.mem_depsWithin.2 ⟨hdep, (mem_spared.1 hds).1⟩))
  · intro hnext
    obtain ⟨hus, huskip⟩ := mem_spared.1 hnext.mem
    -- the unit is left in the pass, and if it waited, it would wait for nothing
    have hleft : u ∈ p.waiting.keys ∨ u ∈ p.ready.toList := by
      rcases h.mem_iff.1 hus with hu | hu | hu
      · simpa [remaining] using hu
      · exact absurd ((hdone u).1 hu) hnext.fresh
      · exact absurd hu huskip
    refine hleft.resolve_left ?_
    intro hwait
    obtain ⟨n, hn⟩ := (h.waiting_ordered.mem_keys_iff u).1 hwait
    obtain ⟨hpos, hcount⟩ := h.counts u n hn
    refine hpos (hcount.trans ?_)
    refine UnitGraph.openDeps_eq_zero (h.graph.depsWithin_nodup h.known u) ?_
    intro d hd
    refine (hdone d).2 (hnext.deps d ?_)
    exact UnitGraph.mem_depsWithin.2
      ⟨(UnitGraph.mem_depsWithin.1 hd).1, h.mem_spared_of_dep hnext.mem hd⟩

/-- **Skipping reorders nothing**: an order that was greedy among the units spared before is greedy
among those that are spared now, if none of its own was skipped. -/
theorem Paced.greedy_spared {q : Pass} {order : List UnitId} (h : Paced s q active)
    (hgraph : q.graph = p.graph) (hskipped : p.skipped ⊆ q.skipped)
    (horder : ∀ v ∈ order, v ∉ q.skipped) (hgreedy : p.graph.Greedy (p.spared s) [] order) :
    q.graph.Greedy (q.spared s) [] order := by
  have hspared : (p.spared s).filter (fun u => u ∉ q.skipped) = q.spared s := by
    simp only [spared, KeySet.filter, List.filter_filter, KeySet.mk.injEq]
    refine List.filter_congr ?_
    intro v _
    by_cases hv : v ∈ q.skipped
    · simp [hv]
    · have hp : v ∉ p.skipped := fun hp => hv (hskipped hp)
      simp [hv, hp]
  have hfilter : order.filter (fun u => u ∉ q.skipped) = order := by
    refine List.filter_eq_self.2 ?_
    intro v hv
    simpa using horder v hv
  rw [← hspared, ← hfilter, hgraph]
  -- what a spared unit waits for is spared, so filtering takes no dependency away
  refine hgreedy.filter ?_
  intro v hv d hd hvskip
  obtain ⟨hdep, hds⟩ := UnitGraph.mem_depsWithin.1 hd
  have hd' : d ∈ q.graph.depsWithin v s :=
    UnitGraph.mem_depsWithin.2 ⟨hgraph ▸ hdep, (mem_spared.1 hds).1⟩
  have hv' : v ∈ (q.spared s).toList :=
    mem_spared.2 ⟨(mem_spared.1 hv).1, by simpa using hvskip⟩
  simpa using (mem_spared.1 (h.mem_spared_of_dep hv' hd')).2

end Pass

/-! ## Layer B: starts and results -/

/-- The unit that an entry is the start of. -/
def CourseEntry.started? : CourseEntry → Option UnitId
  | .started u => some u
  | _ => none

namespace Course

variable {s : KeySet UnitId} {c : Course} {u : UnitId} {front : List UnitId}

/-- The units that were started, in order. -/
def startedUnits (journal : List CourseEntry) : List UnitId :=
  (journal.filterMap CourseEntry.started?).reverse

/-- The result that the work on a unit came to. -/
def result? (journal : List CourseEntry) (u : UnitId) : Option UnitResult :=
  journal.findSome? fun
    | .worked v result => if v = u then some result else none
    | _ => none

/-- Whether a unit was indexed by the work on it. -/
def succeeded (journal : List CourseEntry) (u : UnitId) : Bool :=
  (result? journal u).any fun r => r.isOk

/-- Whether the work on a unit failed. -/
def broke (journal : List CourseEntry) (u : UnitId) : Bool :=
  (result? journal u).any fun r => !r.isOk

@[simp] theorem startedUnits_started (u : UnitId) (journal : List CourseEntry) :
    startedUnits (.started u :: journal) = startedUnits journal ++ [u] := by
  simp [startedUnits, CourseEntry.started?]

theorem result?_worked (v : UnitId) (result : UnitResult) (journal : List CourseEntry) :
    result? (.worked v result :: journal) u = if v = u then some result else result? journal u := by
  by_cases hvu : v = u
  · simp [result?, hvu]
  · simp [result?, hvu]

theorem worked_of_result? {journal : List CourseEntry} {result : UnitResult}
    (h : result? journal u = some result) : .worked u result ∈ journal := by
  obtain ⟨e, he, hresult⟩ := List.exists_of_findSome?_eq_some h
  cases e with
  | worked v r =>
    simp only [Option.ite_none_right_eq_some, Option.some.injEq] at hresult
    obtain ⟨rfl, rfl⟩ := hresult
    exact he
  | _ => cases hresult

/-! ## Layer C: one worker -/

/-- **The invariant of a course with one worker**: the units that were started are those of `front`,
which have ended, and the one that is worked on. -/
structure InOrder (s : KeySet UnitId) (c : Course) (front : List UnitId) : Prop where
  started : startedUnits c.journal = front ++ c.active
  single : c.active.length ≤ 1
  greedy : c.pass.graph.Greedy (c.pass.spared s) [] (front ++ c.active)
  ended : ∀ v ∈ front, (result? c.journal v).isSome = true
  pending : ∀ e ∈ c.results, result? c.journal e.1 = some e.2
  indexed : c.pass.indexed = front.filter (succeeded c.journal)
  failed : c.pass.failed = front.filter (broke c.journal)

/-- **What a pass makes of a result**: the unit is added to one of the two lists. -/
theorem note_lists (c : Course) (u : UnitId) {result : UnitResult}
    (hresult : result ≠ .error .cancelled) :
    (c.note u result).pass.graph = c.pass.graph ∧
      (c.note u result).pass.skipped = c.pass.skipped ∧
      (c.note u result).pass.indexed = c.pass.indexed ++ (if result.isOk then [u] else []) ∧
      (c.note u result).pass.failed = c.pass.failed ++ (if result.isOk then [] else [u]) := by
  cases result with
  | ok info =>
    have hrelease := Pass.frame_release
      { c.pass.count with indexed := c.pass.count.indexed ++ [u] } u
    exact ⟨hrelease.graph, hrelease.skipped, hrelease.indexed,
      hrelease.failed.trans (List.append_nil _).symm⟩
  | error fault =>
    have hfault : fault ≠ .cancelled := by
      rintro rfl
      exact hresult rfl
    have hrelease := Pass.frame_release
      { c.pass.count with failed := c.pass.count.failed ++ [u] } u
    simp only [Course.note, if_neg hfault]
    exact ⟨hrelease.graph, hrelease.skipped, hrelease.indexed.trans (List.append_nil _).symm,
      hrelease.failed⟩

namespace InOrder

/-- Units that ended are indexed or failed. -/
theorem mem_done_iff (h : InOrder s c front) (v : UnitId) : v ∈ c.pass.done ↔ v ∈ front := by
  simp only [Pass.done, h.indexed, h.failed, List.mem_append, List.mem_filter, ← and_or_left]
  refine and_iff_left_of_imp ?_
  intro hv
  obtain ⟨r, hr⟩ := Option.isSome_iff_exists.1 (h.ended v hv)
  simp only [succeeded, broke, hr, Option.any_some]
  cases r.isOk <;> simp

theorem start {next : Pass} (h : InOrder s c front) (hkept : Kept s c) (hactive : c.active = [])
    (hnext : c.pass.next? = some (u, next)) :
    InOrder s { c with
      pass := next
      running := u :: c.running
      control := c.control.dequeue u
      journal := .started u :: c.journal } front := by
  obtain ⟨hrunning, hresults⟩ := List.append_eq_nil_iff.1 hactive
  have hpaced := hkept.paced
  rw [hactive] at hpaced
  obtain ⟨rest, hready, -, rfl⟩ := Pass.next?_eq_some hnext hpaced.ready_ordered
  have hstarted := h.started
  have hgreedy := h.greedy
  rw [hactive, List.append_nil] at hstarted hgreedy
  have hdone : ∀ v, v ∈ c.pass.done ↔ v ∈ front.reverse ++ [] := by
    intro v
    simpa using h.mem_done_iff v
  refine ⟨?_, ?_, ?_, h.ended, h.pending, h.indexed, h.failed⟩
  · simp [hstarted, active, hrunning, hresults]
  · simp [active, hrunning, hresults]
  · -- the chosen unit is the least of the ready ones, and these are all that may come next
    have hconcat : c.pass.graph.Greedy (c.pass.spared s) [] (front ++ [u]) := by
      refine hgreedy.concat ((hpaced.mem_ready_iff hdone).1 (by simp [hready])) ?_
      intro v hv
      exact hpaced.ready_ordered.head_isLE hready ((hpaced.mem_ready_iff hdone).2 hv)
    have hactive' : front ++ [u] = front ++ ((u :: c.running) ++ c.results.map (·.1)) := by
      simp [hrunning, hresults]
    rw [hactive'] at hconcat
    exact hconcat

theorem drop {next : Pass} (h : InOrder s c front) (hkept : Kept s c) (hopen : c.isOver = false)
    (hactive : c.active = []) (hnext : c.pass.next? = some (u, next)) :
    InOrder s { c with
      pass := (next.skip u).2.count
      control := c.control.dequeue u
      dirty := (next.skip u).1.foldl DirtySet.markUnit c.dirty
      journal := .dropped u (c.control.queued.get? u) :: c.journal } front := by
  have hpaced := (hkept.drop hopen hnext).paced
  obtain ⟨rest, -, -, rfl⟩ := Pass.next?_eq_some hnext hkept.paced.ready_ordered
  refine ⟨h.started, h.single, ?_, h.ended, h.pending, h.indexed, h.failed⟩
  -- what ended before is not skipped now
  have hfront : ∀ v ∈ front ++ c.active, v ∈ c.pass.done := by
    intro v hv
    rw [hactive, List.append_nil] at hv
    exact (h.mem_done_iff v).2 hv
  have hnodup := (List.nodup_append.1 hpaced.nodup).2.1
  exact hpaced.greedy_spared (p := c.pass) rfl (List.subset_append_left _ _)
    (fun v hv hskip => (List.nodup_append.1 hnodup).2.2 v (hfront v hv) v hskip rfl) h.greedy

/-- With one worker, whatever the pass waits for is all that it waits for. -/
theorem eq_nil_of_single {l r : List UnitId} (h : InOrder s c front)
    (hactive : c.active = l ++ u :: r) : l = [] ∧ r = [] := by
  have hsingle := h.single
  rw [hactive, List.length_append, List.length_cons] at hsingle
  constructor
  · exact List.eq_nil_of_length_eq_zero (by omega)
  · exact List.eq_nil_of_length_eq_zero (by omega)

theorem work {l r : List UnitId} {result : UnitResult} {x : Index} (h : InOrder s c front)
    (hrunning : c.running = l ++ u :: r) :
    InOrder s { c with
      running := l ++ r
      results := (u, result) :: c.results
      index := x
      journal := .worked u result :: c.journal } front := by
  have hactive : c.active = l ++ u :: (r ++ c.results.map (·.1)) := by simp [active, hrunning]
  obtain ⟨rfl, hrest⟩ := h.eq_nil_of_single hactive
  obtain ⟨rfl, hresults⟩ := List.append_eq_nil_iff.1 hrest
  have hresults := List.map_eq_nil_iff.1 hresults
  -- `u` is not among the units that ended before, so these keep their results
  have hfresh : ∀ v ∈ front, u ≠ v := by
    intro v hv
    have hnodup := h.greedy.nodup
    rw [hactive] at hnodup
    exact Ne.symm ((List.nodup_append.1 hnodup).2.2 v hv u (by simp))
  have hsame : ∀ v ∈ front, result? (.worked u result :: c.journal) v = result? c.journal v := by
    intro v hv
    rw [result?_worked, if_neg (hfresh v hv)]
  have hstarted := h.started
  have hgreedy := h.greedy
  have hactive' : c.active = [u] := by simp [active, hrunning, hresults]
  rw [hactive'] at hstarted hgreedy
  refine ⟨?_, ?_, ?_, ?_, ?_, ?_, ?_⟩
  · refine hstarted.trans ?_
    simp [active, hresults]
  · simp [active, hresults]
  · simpa [active, hresults] using hgreedy
  · intro v hv
    rw [hsame v hv]
    exact h.ended v hv
  · intro e he
    simp only [hresults, List.mem_singleton] at he
    subst he
    rw [result?_worked, if_pos rfl]
  · rw [h.indexed]
    refine List.filter_congr ?_
    intro v hv
    simp only [succeeded, hsame v hv]
  · rw [h.failed]
    refine List.filter_congr ?_
    intro v hv
    simp only [broke, hsame v hv]

theorem note {l r : List (UnitId × UnitResult)} {result : UnitResult} (h : InOrder s c front)
    (hresults : c.results = l ++ (u, result) :: r)
    (hdone : ∀ v, CourseEntry.worked v (.error .cancelled) ∉ c.journal) :
    InOrder s { c.note u result with
      results := l ++ r
      journal := .noted u result :: c.journal } (front ++ [u]) := by
  obtain ⟨hfront, hback⟩ := h.eq_nil_of_single (active_eq hresults)
  obtain ⟨hrunning, hl⟩ := List.append_eq_nil_iff.1 hfront
  obtain rfl := List.map_eq_nil_iff.1 hl
  obtain rfl := List.map_eq_nil_iff.1 hback
  have hresult : result? c.journal u = some result := h.pending (u, result) (by simp [hresults])
  have hactive : c.active = [u] := by simp [active, hrunning, hresults]
  have hstarted := h.started
  have hgreedy := h.greedy
  rw [hactive] at hstarted hgreedy
  have hframe := c.note_frame u result
  have hrunning' : (c.note u result).running = [] := hframe.1.trans hrunning
  have hnotCancelled : result ≠ .error .cancelled := by
    rintro rfl
    exact hdone u (worked_of_result? hresult)
  obtain ⟨hgraph, hskipped, hindexed, hfailed⟩ := c.note_lists u hnotCancelled
  -- `u` moves from the unit at work to those that ended, so the started ones stay the same
  refine ⟨?_, ?_, ?_, ?_, ?_, ?_, ?_⟩
  · refine hstarted.trans ?_
    simp [active, hrunning']
  · simp [active, hrunning']
  · simpa [active, hrunning', hgraph, Pass.spared, hskipped] using hgreedy
  · intro v hv
    rcases List.mem_append.1 hv with hv | hv
    · exact h.ended v hv
    · obtain rfl := List.mem_singleton.1 hv
      exact Option.isSome_iff_exists.2 ⟨result, hresult⟩
  · simp
  · rw [hindexed, List.filter_append, h.indexed]
    have hu : succeeded (.noted u result :: c.journal) u = result.isOk := by
      change (result? c.journal u).any _ = _
      rw [hresult, Option.any_some]
    simp only [List.filter_singleton, hu]
    cases result <;> rfl
  · rw [hfailed, List.filter_append, h.failed]
    have hu : broke (.noted u result :: c.journal) u = !result.isOk := by
      change (result? c.journal u).any _ = _
      rw [hresult, Option.any_some]
    simp only [List.filter_singleton, hu]
    cases result <;> rfl

theorem step {c' : Course} (h : InOrder s c front) (hkept : Kept s c) (hstep : Step 1 c c')
    (hdone : ∀ v, CourseEntry.worked v (.error .cancelled) ∉ c'.journal) :
    ∃ front', InOrder s c' front' := by
  -- a unit is met only when none is worked on
  have hfree : c.active.length < max 1 1 → c.active = [] := by
    intro hroom
    exact List.eq_nil_of_length_eq_zero (by omega)
  cases hstep with
  | start hopen hroom hnext _ _ => exact ⟨front, h.start hkept (hfree hroom) hnext⟩
  | drop hopen hroom hnext _ => exact ⟨front, h.drop hkept hopen (hfree hroom) hnext⟩
  | work hrunning _ => exact ⟨front, h.work hrunning⟩
  | note _ hresults =>
    exact ⟨_, h.note hresults fun v hv => hdone v (List.mem_cons_of_mem _ hv)⟩
  | close hopen hnext hactive =>
    rw [(hkept.close hopen hnext hactive).2]
    exact ⟨front, h.started, h.single, h.greedy, h.ended, h.pending, h.indexed, h.failed⟩

theorem stir {c' : Course} (h : InOrder s c front) (hstir : Stir c c') : InOrder s c' front := by
  cases hstir <;>
    exact ⟨h.started, h.single, h.greedy, h.ended, h.pending, h.indexed, h.failed⟩

end InOrder

theorem Step.journal_cons {workers : Nat} {c' : Course} (h : Step workers c c') :
    ∃ e, c'.journal = e :: c.journal := by
  cases h <;> exact ⟨_, rfl⟩

/-- **The invariant holds through every course** in which no work is cancelled. -/
theorem InOrder.of_reaches {c₀ : Course} (hkept : Kept s c₀) (h : InOrder s c₀ [])
    (hreach : Reaches 1 c₀ c)
    (hdone : ∀ v, CourseEntry.worked v (.error .cancelled) ∉ c.journal) :
    ∃ front, InOrder s c front := by
  -- on the course so far; what the journal does not have in the end it never had
  induction hreach with
  | refl => exact ⟨[], h⟩
  | step hreach hstep ih =>
    obtain ⟨e, he⟩ := hstep.journal_cons
    obtain ⟨front, hfront⟩ := ih fun v hv => hdone v (he ▸ List.mem_cons_of_mem _ hv)
    exact hfront.step (hkept.of_reaches hreach) hstep hdone
  | stir _ hstir ih =>
    obtain ⟨front, hfront⟩ := ih fun v hv => hdone v (hstir.journal_eq ▸ hv)
    exact ⟨front, hfront.stir hstir⟩

/-! ## Layer D: the announced order -/

namespace InOrder

/-- What is left of the announced order without the skipped units is the order of the spared
ones. -/
private theorem topoOrder_spared (hkept : Kept s c) :
    c.pass.graph.topoOrder (c.pass.spared s) =
      (c.pass.graph.topoOrder s).filter fun u => u ∉ c.pass.skipped := by
  have hpaced := hkept.paced
  refine hpaced.graph.topoOrder_filter hpaced.ordered hpaced.known ?_
  intro u hu d hd huskip
  have hspared := hpaced.mem_spared_of_dep (Pass.mem_spared.2 ⟨hu, by simpa using huskip⟩) hd
  simpa using (Pass.mem_spared.1 hspared).2

/-- **Units are started in the announced order**, except that skipped ones are left out. -/
theorem started_prefix (h : InOrder s c front) (hkept : Kept s c) :
    startedUnits c.journal <+:
      (c.pass.graph.topoOrder s).filter fun u => u ∉ c.pass.skipped := by
  have hpaced := hkept.paced
  have hordered : (c.pass.spared s).Ordered := hpaced.ordered.filter _
  have hknown : ∀ u ∈ (c.pass.spared s).toList, u ∈ c.pass.graph.unitIds.toList := by
    intro u hu
    exact hpaced.known u (Pass.mem_spared.1 hu).1
  have hgreedy := (hpaced.graph.topoOrder_greedy hordered hknown).2
  have hperm := hpaced.graph.topoOrder_perm hordered hknown
  rw [← topoOrder_spared hkept, h.started]
  -- both orders are greedy, and the pass cannot have started more units than there are
  rcases h.greedy.prefix_or_prefix hgreedy with hleads | hleads
  · exact hleads
  · have hsubset : front ++ c.active ⊆ c.pass.graph.topoOrder (c.pass.spared s) := by
      intro u hu
      exact hperm.mem_iff.2 (h.greedy.mem_of_mem hu).1
    have hle := (List.subperm_of_subset h.greedy.nodup hsubset).length_le
    rw [hleads.eq_of_length_le hle]

/-- **In the end all spared units were started**, and they are listed by what became of them. -/
theorem at_end (h : InOrder s c front) (hkept : Kept s c) (hover : c.isOver = true) :
    startedUnits c.journal =
        (c.pass.graph.topoOrder s).filter (fun u => u ∉ c.pass.skipped) ∧
      c.pass.indexed = (startedUnits c.journal).filter (succeeded c.journal) ∧
      c.pass.failed = (startedUnits c.journal).filter (broke c.journal) := by
  have hleft := hkept.closed hover
  rw [Pass.remaining_eq] at hleft
  have hactive := (List.append_eq_nil_iff.1 hleft).2
  have hstarted := h.started
  rw [hactive, List.append_nil] at hstarted
  refine ⟨(h.started_prefix hkept).eq_of_length_le ?_, ?_, ?_⟩
  · -- a unit that is left out of neither list has ended, so it was started
    have hperm := hkept.paced.graph.topoOrder_perm hkept.paced.ordered hkept.paced.known
    have hsubset : (c.pass.graph.topoOrder s).filter (fun u => u ∉ c.pass.skipped) ⊆
        startedUnits c.journal := by
      intro u hu
      obtain ⟨hmem, huskip⟩ := List.mem_filter.1 hu
      rw [hstarted, ← h.mem_done_iff]
      rcases hkept.paced.mem_iff.1 (hperm.mem_iff.1 hmem) with hu | hu | hu
      · rw [hkept.closed hover] at hu
        cases hu
      · exact hu
      · exact absurd hu (by simpa using huskip)
    have hnodup := (hperm.nodup_iff.2 hkept.paced.ordered.nodup).filter
      fun u => u ∉ c.pass.skipped
    exact (List.subperm_of_subset hnodup hsubset).length_le
  · rw [hstarted]
    exact h.indexed
  · rw [hstarted]
    exact h.failed

end InOrder

/-- A pass over a set of units is one over those that the graph knows. -/
theorem begin_known {m : ProjectModel} {g : UnitGraph} (hg : UnitGraph.ofModel m = .ok g)
    (hs : s.Ordered) (build : Nat) (priority : Priority) (ticket : DirtyTicket) (control : Control)
    (dirty : DirtySet) (index : Index) :
    begin build priority g (g.known s) ticket control dirty index =
      begin build priority g s ticket control dirty index := by
  simp only [begin, Pass.new, UnitGraph.topoOrder_known hg hs, UnitGraph.depsWithin_known hg]

theorem inOrder_begin (build : Nat) (priority : Priority) (g : UnitGraph) (ticket : DirtyTicket)
    (control : Control) (dirty : DirtySet) (index : Index) :
    InOrder s (begin build priority g s ticket control dirty index) [] where
  started := rfl
  single := Nat.zero_le 1
  greedy := .nil
  ended := by intro v hv; cases hv
  pending := by intro e he; cases he
  indexed := rfl
  failed := rfl

/-- **With one worker, units run in the announced order.** When the build queue starts a pass, it
announces the units in the order of the graph. Whatever the results of the units and the moments at
which units that have not started are cancelled, the pass comes to its end, and as long as no work
is itself cancelled:
- the units that were started are the first ones of the announced order without those that are
  skipped, and all of these in the end;
- in the end the summary lists them, in that order, as indexed or failed by what the work on them
  came to. -/
theorem runs_in_announced_order {m : ProjectModel} {g : UnitGraph} {targets : KeySet UnitId}
    (hg : UnitGraph.ofModel m = .ok g) (htargets : targets.Ordered) {dirty : DirtySet}
    (hdirty : dirty.Sound) (build : Nat) (priority : Priority) (ticket : DirtyTicket)
    (control : Control) (index : Index) :
    (∀ (τ : Type) (q : Queue τ),
      (q.startPass build priority g targets).events =
          .started build priority (g.topoOrder targets) :: q.events ∧
        (q.startPass build priority g targets).OnCourse
          (begin build priority g targets q.dirty.ticket q.control q.dirty q.state.index)) ∧
    (∀ f, Run 1 (begin build priority g targets ticket control dirty index) f →
      ∃ n, (f n).isOver = true) ∧
    ∀ c, Reaches 1 (begin build priority g targets ticket control dirty index) c →
      (∀ u, CourseEntry.worked u (.error .cancelled) ∉ c.journal) →
      startedUnits c.journal <+: (g.topoOrder targets).filter (fun u => u ∉ c.pass.skipped) ∧
      (c.isOver = true →
        startedUnits c.journal = (g.topoOrder targets).filter (fun u => u ∉ c.pass.skipped) ∧
        c.pass.summary.indexed = (startedUnits c.journal).filter (succeeded c.journal) ∧
        c.pass.summary.failed = (startedUnits c.journal).filter (broke c.journal)) := by
  refine ⟨fun τ q => ⟨rfl, Queue.onCourse_startPass q build priority g targets⟩, ?_⟩
  -- units that the graph does not have are not in the pass
  rw [← begin_known hg htargets, ← UnitGraph.topoOrder_known hg htargets]
  have hknown : ∀ u ∈ (g.known targets).toList, u ∈ g.unitIds.toList := by
    intro u hu
    exact (UnitGraph.sound_ofModel hg).contains_iff.1 (List.mem_filter.1 hu).2
  have hkept : Kept (g.known targets)
      (begin build priority g (g.known targets) ticket control dirty index) :=
    kept_begin (UnitGraph.sound_ofModel hg) (htargets.filter _) hknown hdirty
  have htold : Told g (g.known targets) index
      (begin build priority g (g.known targets) ticket control dirty index) :=
    told_begin build priority ticket control dirty
  refine ⟨fun f hrun => hrun.exists_isOver hkept, ?_⟩
  intro c hreach hdone
  have hbegun := inOrder_begin (s := g.known targets) build priority g ticket control dirty index
  obtain ⟨front, hfront⟩ := hbegun.of_reaches hkept hreach hdone
  have hleads := hfront.started_prefix (hkept.of_reaches hreach)
  have hend := hfront.at_end (hkept.of_reaches hreach)
  rw [(htold.of_reaches hkept hreach).graph] at hleads hend
  exact ⟨hleads, hend⟩

/-- One worker builds the library, which fails, while the program is cancelled: of the announced
units the library alone is started, and the summary lists it as failed. -/
theorem library_runs_alone :
    ∃ g c, UnitGraph.ofModel chainModel = .ok g ∧
      g.topoOrder g.unitIds = [.lib "core", .lib "app"] ∧
      Reaches 1 (begin 1 .full g g.unitIds .empty {} .empty .empty) c ∧ c.isOver = true ∧
      startedUnits c.journal = (g.topoOrder g.unitIds).filter (fun u => u ∉ c.pass.skipped) ∧
      c.pass.skipped = [.lib "app"] ∧
      c.pass.summary.failed = (startedUnits c.journal).filter (broke c.journal) ∧
      c.pass.summary.failed = [.lib "core"] := by
  have hg : UnitGraph.ofModel chainModel = .ok (UnitGraph.assemble chainModel) := by
    decide +kernel
  have hbegun := @Reaches.refl 1 (begin 1 .full (UnitGraph.assemble chainModel)
    (UnitGraph.assemble chainModel).unitIds .empty {} .empty .empty)
  have hstarted := hbegun.step
    (.start (u := .lib "core") rfl (by decide) rfl (by decide +kernel) (by decide +kernel))
  have hcancelled := hstarted.stir (.cancel (cancels_cancelAll _))
  have hworked := hcancelled.step
    (.work (l := []) (r := []) rfl (.unmerged (.crash (.lib "core") .timedOut)))
  have hnoted := hworked.step (.note (l := []) (r := []) (Or.inl rfl) rfl)
  have hdropped := hnoted.step
    (.drop (u := .lib "app") rfl (by decide) rfl (by decide +kernel))
  have hclosed := hdropped.step (.close rfl rfl rfl)
  obtain ⟨-, -, horder⟩ := runs_in_announced_order hg
    (UnitGraph.sound_ofModel hg).unitIds_ordered DirtySet.sound_empty 1 .full .empty {} .empty
  obtain ⟨-, hend⟩ := horder _ hclosed (by
    -- the only result is the failure of the library
    intro u hu
    simp only [List.mem_cons, reduceCtorEq, false_or] at hu
    rcases hu with hu | hu
    · injection hu with _ hresult
      cases hresult
    · cases hu)
  obtain ⟨hall, -, hfailed⟩ := hend rfl
  exact ⟨_, _, hg, by decide +kernel, hclosed, rfl, hall, rfl, hfailed, rfl⟩

end Course

end CodeAtlas
