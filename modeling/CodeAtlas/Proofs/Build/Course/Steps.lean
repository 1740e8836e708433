import CodeAtlas.Build.Queue
import CodeAtlas.Proofs.Build.Pass

/-!
# The course of a build pass

A pass from the moment its units are queued to its end, as a transition system. Up to a number of
workers, units are worked on at the same time, and they end in any order; each result waits until
the pass takes note of it. Meanwhile others may cancel units that have not started, and may mark
files.

The pass keeps a journal of what it did. No step reads it, and every step of the pass makes one
entry, so the length of the journal is the number of steps.

## Architecture

- **Layer A**: the state of a course;
- **Layer B**: steps of the pass, and what others do meanwhile;
- **Layer C**: the invariant, and that steps keep it.
-/

namespace CodeAtlas

/-! ## Layer A: the state -/

/-- What became of the work on a unit. -/
abbrev UnitResult := Except BuildFault BuildState.Indexed

/-- An entry of the journal of a pass. -/
inductive CourseEntry where
  | started (unit : UnitId)
  /-- A unit was met and not started; its token was as given. -/
  | dropped (unit : UnitId) (token : Option Bool)
  /-- The work on a unit came to a result. -/
  | worked (unit : UnitId) (result : UnitResult)
  /-- The pass took note of a result. -/
  | noted (unit : UnitId) (result : UnitResult)
  | closed

/-- **A pass on its way** (`run_pass`), with all that it shares with others. -/
structure Course where
  pass : Pass
  /-- The units that are worked on. -/
  running : List UnitId := []
  /-- Results that the pass has not taken note of. -/
  results : List (UnitId × UnitResult) := []
  /-- Control, with the tokens of the units that have not started. -/
  control : Control
  dirty : DirtySet
  index : Index
  isOver : Bool := false
  /-- What the pass did, the latest first. -/
  journal : List CourseEntry := []

namespace Course

/-- The units that have started and that the pass still waits for. -/
def active (c : Course) : List UnitId := c.running ++ c.results.map (·.1)

/-- A pass over some units of a graph whose units have just been queued. -/
def begin (build : Nat) (priority : Priority) (g : UnitGraph) (targets : KeySet UnitId)
    (ticket : DirtyTicket) (control : Control) (dirty : DirtySet) (index : Index) : Course :=
  let pass := Pass.new build priority g targets ticket
  { pass := pass
    control := control.queueUnits priority pass.order
    dirty := dirty
    index := index }

/-- Takes note of a result. -/
def note (c : Course) (u : UnitId) : UnitResult → Course
  | .ok _ =>
    { c with
      pass := c.pass.count.noteIndexed u
      dirty := c.dirty.complete u c.pass.ticket
      control := c.control.forgetFailures u }
  | .error fault =>
    if fault = .cancelled then
      { c with
        pass := (c.pass.count.skip u).2
        dirty := (c.pass.count.skip u).1.foldl DirtySet.markUnit c.dirty }
    else
      { c with
        pass := c.pass.count.noteFailed u
        dirty := (c.dirty.complete u c.pass.ticket).markUnit u
        control := if fault.isTransient then c.control.countFailure u else c.control }

/-- Taking note of a result changes nothing that is worked on. -/
theorem note_frame (c : Course) (u : UnitId) (r : UnitResult) :
    (c.note u r).running = c.running ∧ (c.note u r).isOver = c.isOver ∧
      (c.note u r).index = c.index := by
  cases r with
  | ok info => exact ⟨rfl, rfl, rfl⟩
  | error fault =>
    simp only [note]
    split <;> exact ⟨rfl, rfl, rfl⟩

/-! ## Layer B: steps -/

/-- **What the work on a unit does to the index** (`analyze_unit`): it merges one snapshot, or
none. -/
inductive Works (x : Index) (u : UnitId) : UnitResult → Index → Prop
  | indexed {x' : Index} {s : Snapshot} {info : BuildState.Indexed}
      (h : x.merge u s = (x', .ok info.stats)) : Works x u (.ok info) x'
  | rejected {x' : Index} {s : Snapshot} {fault : IndexFault}
      (h : x.merge u s = (x', .error fault)) : Works x u (.error (.crash u (.rejected fault))) x'
  | unmerged (fault : BuildFault) : Works x u (.error fault) x

/-- **A step of the pass.** A result is taken note of only when no unit can be started: none is
ready, or all workers are busy. -/
inductive Step (workers : Nat) : Course → Course → Prop
  | start {c : Course} {u : UnitId} {next : Pass} (hopen : c.isOver = false)
      (hroom : c.active.length < max workers 1) (hnext : c.pass.next? = some (u, next))
      (hmay : c.control.mayStart u = true) (hunit : (c.pass.graph.unit? u).isSome = true) :
      Step workers c { c with
        pass := next
        running := u :: c.running
        control := c.control.dequeue u
        journal := .started u :: c.journal }
  | drop {c : Course} {u : UnitId} {next : Pass} (hopen : c.isOver = false)
      (hroom : c.active.length < max workers 1) (hnext : c.pass.next? = some (u, next))
      (hmay : ¬ (c.control.mayStart u = true ∧ (c.pass.graph.unit? u).isSome = true)) :
      Step workers c { c with
        pass := (next.skip u).2.count
        control := c.control.dequeue u
        dirty := (next.skip u).1.foldl DirtySet.markUnit c.dirty
        journal := .dropped u (c.control.queued.get? u) :: c.journal }
  | work {c : Course} {l r : List UnitId} {u : UnitId} {result : UnitResult} {x : Index}
      (hrunning : c.running = l ++ u :: r) (hwork : Works c.index u result x) :
      Step workers c { c with
        running := l ++ r
        results := (u, result) :: c.results
        index := x
        journal := .worked u result :: c.journal }
  | note {c : Course} {l r : List (UnitId × UnitResult)} {u : UnitId} {result : UnitResult}
      (hfull : c.pass.next? = none ∨ max workers 1 ≤ c.active.length)
      (hresults : c.results = l ++ (u, result) :: r) :
      Step workers c { c.note u result with
        results := l ++ r
        journal := .noted u result :: c.journal }
  | close {c : Course} (hopen : c.isOver = false) (hnext : c.pass.next? = none)
      (hactive : c.active = []) :
      Step workers c { c with
        pass := c.pass.skipRest.2
        dirty := c.pass.skipRest.1.foldl DirtySet.markUnit c.dirty
        isOver := true
        journal := .closed :: c.journal }

/-- Control may have changed in any way that cancels nothing but queued units, for good. -/
def Cancels (c c' : Control) : Prop :=
  ∀ u, (c'.queued.get? u).isSome = (c.queued.get? u).isSome ∧
    (c.queued.get? u = some true → c'.queued.get? u = some true)

theorem cancels_cancelAll (c : Control) : Cancels c c.cancelAll := by
  intro u
  have hget := Table.get?_mapValues c.queued (fun _ _ => true) (fun _ _ _ _ => rfl) u
  simp only [Control.cancelAll, hget]
  cases c.queued.get? u with
  | none => simp
  | some token => simp

theorem cancels_cancelQueued (c : Control) (units : KeySet UnitId) :
    Cancels c (c.cancelQueued units) := by
  intro u
  have hget := Table.get?_mapValues c.queued (fun u cancelled => cancelled || units.contains u)
    (by intro j k a h; rw [Std.LawfulEqOrd.eq_of_compare h]) u
  unfold Control.cancelQueued
  split
  · simp only [hget]
    cases c.queued.get? u with
    | none => simp
    | some token => simp +contextual
  · exact ⟨rfl, id⟩

/-- **What others may do meanwhile** (`cancel_queued`, `request`, `file_changed`). -/
inductive Stir : Course → Course → Prop
  | cancel {c : Course} {control : Control} (h : Cancels c.control control) :
      Stir c { c with control := control }
  | mark (c : Course) (path : Path) (units : List UnitId) :
      Stir c { c with dirty := c.dirty.markFile path units }

/-- **All that can become of a course.** -/
inductive Reaches (workers : Nat) (c₀ : Course) : Course → Prop
  | refl : Reaches workers c₀ c₀
  | step {c c' : Course} (h : Reaches workers c₀ c) (hstep : Step workers c c') :
      Reaches workers c₀ c'
  | stir {c c' : Course} (h : Reaches workers c₀ c) (hstir : Stir c c') : Reaches workers c₀ c'

/-! ## Layer C: the invariant -/

/-- The steps that are left at most: three for a unit that has not started, since it is started,
worked on and noted, and one for the end. -/
def load (c : Course) : Nat :=
  3 * (c.pass.remaining []).length + 2 * c.running.length + c.results.length
    + if c.isOver then 0 else 1

/-- **The invariant of what a course does**, over the units `s`. -/
structure Kept (s : KeySet UnitId) (c : Course) : Prop where
  paced : c.pass.Paced s c.active
  dirty : c.dirty.Sound
  /-- Every unit that has not started has a token. -/
  tokens : ∀ u ∈ c.pass.remaining [], (c.control.queued.get? u).isSome = true
  /-- What was not indexed has to be rebuilt. -/
  marked : ∀ u, u ∈ c.pass.failed ∨ u ∈ c.pass.skipped → c.dirty.isDirty u = true
  steps : c.journal.length + c.load ≤ 3 * s.size + 1
  /-- At the end no unit is left. -/
  closed : c.isOver = true → c.pass.remaining c.active = []

variable {s : KeySet UnitId} {c : Course} {u : UnitId} {workers : Nat}

theorem kept_begin {g : UnitGraph} (hg : g.Sound) (hs : s.Ordered)
    (hknown : ∀ u ∈ s.toList, u ∈ g.unitIds.toList) {build : Nat} {priority : Priority}
    {ticket : DirtyTicket} {control : Control} {dirty : DirtySet} {index : Index}
    (hdirty : dirty.Sound) :
    Kept s (begin build priority g s ticket control dirty index) where
  paced := Pass.paced_new hg hs hknown build priority ticket
  dirty := hdirty
  tokens := by
    -- the queue is filled in the order of the pass, so no token is written twice
    have hperm := (Pass.sound_new hg hs hknown build priority ticket).2
    have horder := hg.topoOrder_perm hs hknown
    have hnodup := horder.nodup_iff.2 hs.nodup
    intro u hu
    have hmem : u ∈ g.topoOrder s := horder.mem_iff.2 (hperm.mem_iff.1 hu)
    simp only [begin, Control.queueUnits]
    rw [Option.isSome_iff_exists]
    refine ⟨_, (Table.get?_ofList ?_ u _).2 (List.mem_map.2 ⟨u, hmem, rfl⟩)⟩
    simpa [Function.comp_def, Pass.new] using hnodup
  marked := by
    rintro u (hu | hu) <;> cases hu
  steps := by
    have hperm := (Pass.sound_new hg hs hknown build priority ticket).2.length_eq
    simp only [begin, load, List.length_nil, hperm, KeySet.size, Bool.false_eq_true, if_false]
    omega
  closed := by
    intro hover
    cases hover

/-- **A unit is started.** -/
theorem Kept.start {next : Pass} (h : Kept s c) (hopen : c.isOver = false)
    (hnext : c.pass.next? = some (u, next)) :
    Kept s { c with
      pass := next
      running := u :: c.running
      control := c.control.dequeue u
      journal := .started u :: c.journal } := by
  have hperm := Pass.perm_next hnext h.paced.ready_ordered
  obtain ⟨rest, -, -, hnext'⟩ := Pass.next?_eq_some hnext h.paced.ready_ordered
  refine ⟨h.paced.start hnext, h.dirty, ?_, ?_, ?_, ?_⟩
  · intro v hv
    obtain ⟨hmem, hne⟩ := h.paced.unstarted_of_next hnext hv
    simp only [Control.dequeue]
    rw [Table.get?_erase_of_ne hne]
    exact h.tokens v hmem
  · intro v hv
    rw [hnext'] at hv
    exact h.marked v hv
  · -- one unit fewer to start, one more at work: what is left weighs less
    have hlen := hperm.length_eq
    have hsteps := h.steps
    simp only [load, hopen, List.length_cons] at hlen hsteps ⊢
    omega
  · intro hover
    exact absurd hover (by simp [hopen])

/-- Skipping a unit, whatever it is skipped for, marks it with all that are skipped with it. -/
private theorem marked_skip {p : Pass} {d : DirtySet} (hd : d.Sound)
    (hmarked : ∀ u, u ∈ p.failed ∨ u ∈ p.skipped → d.isDirty u = true) (u : UnitId) :
    ∀ v, v ∈ (p.skip u).2.failed ∨ v ∈ (p.skip u).2.skipped →
      ((p.skip u).1.foldl DirtySet.markUnit d).isDirty v = true := by
  intro v hv
  rw [hd.isDirty_markUnits]
  rcases hv with hv | hv
  · exact Or.inr (hmarked v (Or.inl hv))
  · rcases List.mem_append.1 (show v ∈ p.skipped ++ (p.skip u).1 from hv) with hv | hv
    · exact Or.inr (hmarked v (Or.inr hv))
    · exact Or.inl hv

/-- The units that have not started when a unit is skipped: they are left, or skipped with it. -/
private theorem perm_skip {p : Pass} {l r : List UnitId} (h : p.Sound s (l ++ u :: r)) :
    ((p.skip u).1 ++ (p.skip u).2.remaining []).Perm (u :: p.remaining []) := by
  have hperm := h.skip_active.2
  rw [Pass.remaining_eq, p.remaining_eq] at hperm
  refine List.perm_iff_count.2 fun a => ?_
  have hcount := hperm.count_eq a
  simp only [List.count_append, List.count_cons] at hcount ⊢
  omega

/-- A unit that has started and is skipped leaves others unstarted that were so before. -/
private theorem mem_unstarted_of_skip {p : Pass} {l r : List UnitId} {v : UnitId}
    (h : p.Sound s (l ++ u :: r)) (hv : v ∈ (p.skip u).2.remaining []) : v ∈ p.remaining [] := by
  have hperm := perm_skip h
  rcases List.mem_cons.1 (hperm.mem_iff.1 (List.mem_append.2 (Or.inr hv))) with rfl | hv'
  · -- it is skipped once, so it is not left as well
    have hnodup : (v :: p.remaining []).Nodup := by
      have := h.nodup
      rw [Pass.remaining_eq] at this
      refine List.nodup_iff_count_le_one.2 fun a => ?_
      have hcount := List.nodup_iff_count_le_one.1 this a
      simp only [List.count_append, List.count_cons] at hcount ⊢
      omega
    have := hperm.nodup_iff.2 hnodup
    exact absurd rfl ((List.nodup_append.1 this).2.2 v (p.mem_skip_self v) v hv)
  · exact hv'

/-- **A unit is met and not started.** -/
theorem Kept.drop {next : Pass} (h : Kept s c) (hopen : c.isOver = false)
    (hnext : c.pass.next? = some (u, next)) :
    Kept s { c with
      pass := (next.skip u).2.count
      control := c.control.dequeue u
      dirty := (next.skip u).1.foldl DirtySet.markUnit c.dirty
      journal := .dropped u (c.control.queued.get? u) :: c.journal } := by
  have hstart := h.paced.start hnext
  have hskip := h.paced.unstarted_skip_perm hnext
  obtain ⟨rest, -, -, hnext'⟩ := Pass.next?_eq_some hnext h.paced.ready_ordered
  refine ⟨(hstart.skip_active (l := [])).count, h.dirty.markUnits _, ?_, ?_, ?_, ?_⟩
  · intro v hv
    obtain ⟨hmem, hne⟩ := h.paced.unstarted_of_skip hnext hv
    simp only [Control.dequeue]
    rw [Table.get?_erase_of_ne hne]
    exact h.tokens v hmem
  · refine marked_skip (p := next) h.dirty ?_ u
    rw [hnext']
    exact h.marked
  · -- at least the unit itself is no longer to be started
    have hlen := hskip.length_eq
    have hself : 0 < (next.skip u).1.length := List.length_pos_of_mem (next.mem_skip_self u)
    have hsteps := h.steps
    have hcount : (next.skip u).2.count.remaining [] = (next.skip u).2.remaining [] := rfl
    simp only [load, hopen, List.length_append, List.length_cons, hcount] at hlen hsteps ⊢
    omega
  · intro hover
    exact absurd hover (by simp [hopen])

/-- **The work on a unit comes to a result.** -/
theorem Kept.work {l r : List UnitId} (h : Kept s c) (hrunning : c.running = l ++ u :: r)
    (result : UnitResult) (x : Index) :
    Kept s { c with
      running := l ++ r
      results := (u, result) :: c.results
      index := x
      journal := .worked u result :: c.journal } := by
  -- the unit moves from those at work to those with a result, and stays active
  have hperm : c.active.Perm (l ++ r ++ u :: c.results.map (·.1)) := by
    unfold active
    rw [hrunning]
    refine List.perm_iff_count.2 fun a => ?_
    simp only [List.count_append, List.count_cons]
    omega
  refine ⟨h.paced.perm hperm, h.dirty, h.tokens, h.marked, ?_, ?_⟩
  · have hsteps := h.steps
    simp only [load, hrunning, List.length_cons, List.length_append] at hsteps ⊢
    omega
  · intro hover
    have hnil := h.closed hover
    simp [active, hrunning, Pass.remaining] at hnil

/-- The units that the pass waits for, around one whose result is there. -/
theorem active_eq {l r : List (UnitId × UnitResult)} {result : UnitResult}
    (hresults : c.results = l ++ (u, result) :: r) :
    c.active = c.running ++ l.map (·.1) ++ u :: r.map (·.1) := by
  simp [active, hresults]

private theorem Kept.open_of_result {l r : List (UnitId × UnitResult)} {result : UnitResult}
    (h : Kept s c) (hresults : c.results = l ++ (u, result) :: r) : ¬ c.isOver = true := by
  intro hover
  have hnil := h.closed hover
  simp [active_eq hresults, Pass.remaining] at hnil

/-- A unit that the pass waits for has not ended in another way. -/
private theorem Kept.ne_of_ended {l r : List UnitId} {v : UnitId} (h : Kept s c)
    (hactive : c.active = l ++ u :: r) (hv : v ∈ c.pass.failed ∨ v ∈ c.pass.skipped) : v ≠ u := by
  rintro rfl
  refine absurd rfl ((List.nodup_append.1 h.paced.nodup).2.2 v ?_ v ?_)
  · simp [Pass.remaining, hactive]
  · rcases hv with hv | hv
    · simp [Pass.done, hv]
    · simp [hv]

/-- **The pass takes note of a unit that was indexed.** -/
private theorem Kept.noteIndexed {l r : List (UnitId × UnitResult)} {info : BuildState.Indexed}
    (h : Kept s c) (hresults : c.results = l ++ (u, .ok info) :: r) :
    Kept s { c.note u (.ok info) with
      results := l ++ r
      journal := .noted u (.ok info) :: c.journal } := by
  have hactive := active_eq hresults
  have hcount := h.paced.count
  rw [hactive] at hcount
  have hperm := Pass.unstarted_perm_of_end hcount.toSound.noteIndexed.2
  have hframe := Pass.frame_release
    { c.pass.count with indexed := c.pass.count.indexed ++ [u] } u
  refine ⟨?_, h.dirty.complete _ _, ?_, ?_, ?_, ?_⟩
  · have hpaced := hcount.noteIndexed
    simpa [active, Course.note] using hpaced
  · intro v hv
    exact h.tokens v (hperm.mem_iff.1 hv)
  · -- completing a unit removes its own mark only
    intro v hv
    have hv' : v ∈ c.pass.failed ∨ v ∈ c.pass.skipped := by
      rcases hv with hv | hv
      · exact Or.inl (hframe.failed ▸ hv)
      · exact Or.inr (hframe.skipped ▸ hv)
    exact (h.dirty.isDirty_complete_of_ne (h.ne_of_ended hactive hv')).2 (h.marked v hv')
  · have hlen := hperm.length_eq
    have hsteps := h.steps
    have hsame : (c.pass.count.remaining []).length = (c.pass.remaining []).length := rfl
    simp only [load, hresults, Course.note, List.length_cons, List.length_append, hlen, hsame]
      at hsteps ⊢
    omega
  · exact fun hover => absurd hover (h.open_of_result hresults)

/-- **The pass takes note of a unit that failed.** -/
private theorem Kept.noteFailed {l r : List (UnitId × UnitResult)} {fault : BuildFault}
    (h : Kept s c) (hresults : c.results = l ++ (u, .error fault) :: r)
    (hfault : fault ≠ .cancelled) :
    Kept s { c.note u (.error fault) with
      results := l ++ r
      journal := .noted u (.error fault) :: c.journal } := by
  have hactive := active_eq hresults
  have hcount := h.paced.count
  rw [hactive] at hcount
  have hperm := Pass.unstarted_perm_of_end hcount.toSound.noteFailed.2
  have hframe := Pass.frame_release { c.pass.count with failed := c.pass.count.failed ++ [u] } u
  have hdirty := h.dirty.complete u c.pass.ticket
  simp only [Course.note, if_neg hfault]
  refine ⟨?_, hdirty.markUnit u, ?_, ?_, ?_, ?_⟩
  · have hpaced := hcount.noteFailed
    simpa [active] using hpaced
  · intro v hv
    have htoken := h.tokens v (hperm.mem_iff.1 hv)
    simp only
    split <;> exact htoken
  · intro v hv
    rw [hdirty.isDirty_markUnit]
    by_cases hvu : v = u
    · exact Or.inl hvu
    · -- any other unit failed or was skipped before, and completing this one leaves its marks
      have hv' : v ∈ c.pass.failed ∨ v ∈ c.pass.skipped := by
        rcases hv with hv | hv
        · rcases List.mem_append.1 (hframe.failed ▸ hv) with hv | hv
          · exact Or.inl hv
          · exact absurd (List.mem_singleton.1 hv) hvu
        · exact Or.inr (hframe.skipped ▸ hv)
      exact Or.inr ((h.dirty.isDirty_complete_of_ne hvu).2 (h.marked v hv'))
  · have hlen := hperm.length_eq
    have hsteps := h.steps
    have hsame : (c.pass.count.remaining []).length = (c.pass.remaining []).length := rfl
    simp only [load, hresults, List.length_cons, List.length_append, hlen, hsame] at hsteps ⊢
    omega
  · exact fun hover => absurd hover (h.open_of_result hresults)

/-- **The pass takes note of a unit that was cancelled**, and skips what waits for it. -/
private theorem Kept.noteCancelled {l r : List (UnitId × UnitResult)} (h : Kept s c)
    (hresults : c.results = l ++ (u, .error .cancelled) :: r) :
    Kept s { c.note u (.error .cancelled) with
      results := l ++ r
      journal := .noted u (.error .cancelled) :: c.journal } := by
  have hactive := active_eq hresults
  have hcount := h.paced.count
  rw [hactive] at hcount
  have hperm := perm_skip hcount.toSound
  simp only [Course.note, if_true]
  refine ⟨?_, h.dirty.markUnits _, ?_, ?_, ?_, ?_⟩
  · have hpaced := hcount.skip_active
    simpa [active] using hpaced
  · intro v hv
    exact h.tokens v (mem_unstarted_of_skip (p := c.pass.count) hcount.toSound hv)
  · exact marked_skip (p := c.pass.count) h.dirty h.marked u
  · have hlen := hperm.length_eq
    -- at least the unit itself is skipped
    have hself : 0 < (c.pass.count.skip u).1.length :=
      List.length_pos_of_mem (c.pass.count.mem_skip_self u)
    have hsteps := h.steps
    have hsame : (c.pass.count.remaining []).length = (c.pass.remaining []).length := rfl
    simp only [load, hresults, List.length_cons, List.length_append, hsame] at hlen hsteps ⊢
    omega
  · exact fun hover => absurd hover (h.open_of_result hresults)

theorem Kept.note {l r : List (UnitId × UnitResult)} {result : UnitResult} (h : Kept s c)
    (hresults : c.results = l ++ (u, result) :: r) :
    Kept s { c.note u result with
      results := l ++ r
      journal := .noted u result :: c.journal } := by
  cases result with
  | ok info => exact h.noteIndexed hresults
  | error fault =>
    by_cases hfault : fault = .cancelled
    · subst hfault
      exact h.noteCancelled hresults
    · exact h.noteFailed hresults hfault

/-- **The pass ends.** No unit is left waiting, so none is skipped at the end. -/
theorem Kept.close (h : Kept s c) (hopen : c.isOver = false) (hnext : c.pass.next? = none)
    (hactive : c.active = []) :
    Kept s { c with
      pass := c.pass.skipRest.2
      dirty := c.pass.skipRest.1.foldl DirtySet.markUnit c.dirty
      isOver := true
      journal := .closed :: c.journal } ∧ c.pass.skipRest = ([], c.pass) := by
  have hready := Pass.next?_eq_none hnext
  have hwaiting := Pass.Sound.waiting_nil (hactive ▸ h.paced.toSound) hready
  have hrest : c.pass.skipRest = ([], c.pass) := by
    -- nothing is ready and nothing is at work, so nothing can wait for anything
    have hempty : c.pass.waiting = .empty := by
      have hnil : c.pass.waiting.entries = [] := List.map_eq_nil_iff.1 hwaiting
      cases hw : c.pass.waiting with
      | mk entries => rw [hw] at hnil; exact congrArg Table.mk hnil
    unfold Pass.skipRest
    rw [hwaiting, List.append_nil, ← hempty]
  refine ⟨?_, hrest⟩
  rw [hrest]
  refine ⟨h.paced, h.dirty, h.tokens, h.marked, ?_, ?_⟩
  · have hsteps := h.steps
    simp only [load, hopen, List.length_cons, Bool.false_eq_true, if_false, if_true] at hsteps ⊢
    omega
  · intro _
    change c.pass.remaining c.active = []
    simp [Pass.remaining, hwaiting, hready, hactive]

/-- What others do meanwhile breaks nothing. -/
theorem Kept.stir {c' : Course} (h : Kept s c) (hstir : Stir c c') : Kept s c' := by
  cases hstir with
  | cancel hcancels =>
    refine ⟨h.paced, h.dirty, ?_, h.marked, h.steps, h.closed⟩
    intro u hu
    exact (hcancels u).1.trans (h.tokens u hu)
  | mark path units =>
    refine ⟨h.paced, h.dirty.markFile path units, h.tokens, ?_, h.steps, h.closed⟩
    intro u hu
    exact (h.dirty.isDirty_markFile path units u).2 (Or.inr (h.marked u hu))

theorem Kept.step {c' : Course} (h : Kept s c) (hstep : Step workers c c') : Kept s c' := by
  cases hstep with
  | start hopen _ hnext _ _ => exact h.start hopen hnext
  | drop hopen _ hnext _ => exact h.drop hopen hnext
  | work hrunning _ => exact h.work hrunning _ _
  | note _ hresults => exact h.note hresults
  | close hopen hnext hactive => exact (h.close hopen hnext hactive).1

end Course

end CodeAtlas
