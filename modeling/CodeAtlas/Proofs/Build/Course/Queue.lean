import CodeAtlas.Proofs.Build.Course.Steps
import CodeAtlas.Proofs.Build.Indexing
import CodeAtlas.Proofs.Build.Simulation

/-!
# The queue on a course

The build queue works on one unit at a time. From the moment the units of a pass are queued to the
end of the pass, each of its steps is a few steps of a course with one worker.

## Architecture

- **Layer A**: what the work on a unit does to the index;
- **Layer B**: the queue on a course;
- **Layer C**: steps of the queue.
-/

namespace CodeAtlas

open Activity

/-! ## Layer A: the work on a unit -/

namespace BuildState

variable {τ : Type} {x : Index} {s : BuildState τ}

/-- While a unit stands at a gate, nothing is merged. -/
def SameIndex (s s' : BuildState τ) : Prop := s'.index = s.index

/-- Collaborators do not touch the index. -/
private theorem ensures_atPlace_index {α : Type} {Q : α → Workplace τ → Prop}
    {a : Activity (Workplace τ) α} (hs : s.index = x) (h : Ensures (fun _ _ => True) Q a s.place) :
    Ensures SameIndex (fun r s' => Q r s'.place ∧ s'.index = x) (atPlace a) s :=
  ensures_within (fun _ _ => rfl) (fun _ _ hx => hx) (fun _ _ hrely hx => hrely.trans hx)
    (fun _ _ _ => trivial) hs h

private theorem ensures_runStep (h : Hash) (t : Collaborators τ) (u : UnitId) (step : PrebuildStep)
    (hs : s.index = x) :
    Ensures SameIndex (fun _ s' => s'.index = x) (runStep h t u step).run s := by
  unfold runStep
  rw [ensures_work_bind, ensures_lift, ensures_current]
  simp only [either]
  rw [ensures_work_bind]
  -- a step works on the place alone, so whatever it comes to, the index stays
  cases step.fingerprint h s.place.read with
  | error fault => exact hs
  | ok f =>
    change Ensures SameIndex _ (ite _ _ _ : Work (BuildState τ) Bool).run s
    split
    · exact hs
    · rw [ensures_work_bind, ensures_lift]
      refine (ensures_atPlace_index (Q := fun _ _ => True) hs
        (ensures_of_forall (fun _ _ => trivial) _)).mono ?_
      rintro (fault | o) s' ⟨-, hs'⟩
      · exact hs'
      · simp only [either]
        rw [ensures_work_bind]
        cases PrebuildRecord.verdict u step o with
        | error fault => exact hs'
        | ok _ => exact hs'

private theorem ensures_runSteps (h : Hash) (t : Collaborators τ) (u : UnitId)
    (steps : List PrebuildStep) (hs : s.index = x) :
    Ensures SameIndex (fun _ s' => s'.index = x) (runSteps h t u steps).run s := by
  induction steps generalizing s with
  | nil => exact hs
  | cons step rest ih =>
    unfold runSteps
    rw [ensures_work_bind]
    refine (ensures_runStep h t u step hs).mono ?_
    rintro (fault | ran) s' hs'
    · exact hs'
    · simp only [either]
      rw [ensures_work_bind]
      refine (ih hs').mono ?_
      rintro (fault | more) s'' hs''
      · exact hs''
      · exact hs''

private theorem ensures_examine_index (st : Analysis.Storage) (t : Collaborators τ) (g : UnitGraph)
    (u : CompilationUnit) (hs : s.index = x) :
    Ensures SameIndex (either (fun r s' => r.1.unit = u.id ∧ s'.index = x) fun _ s' => s'.index = x)
      (examine st t g u).run s := by
  refine ensures_examine hs (fun _ _ _ => hs) ?_
  intro plans p _
  refine (ensures_atPlace_index (s := { s with plans := plans }) hs
    (Analysis.ensures_unit st t u p _ _)).mono ?_
  rintro (fault | a) s' ⟨hunit, hs'⟩
  · exact hs'
  · exact ⟨hunit, hs'⟩

private theorem ensures_examineAgain_index (st : Analysis.Storage) (t : Collaborators τ)
    (g : UnitGraph) (u : CompilationUnit) (n : Nat) (hs : s.index = x) :
    Ensures SameIndex (either (fun a s' => a.unit = u.id ∧ s'.index = x) fun _ s' => s'.index = x)
      (examineAgain st t g u n).run s := by
  induction n generalizing s with
  | zero => exact ensures_examineAgain_zero (ensures_examine_index st t g u hs)
  | succ n ih =>
    refine ensures_examineAgain_succ ((ensures_examine_index st t g u hs).mono ?_)
    rintro (fault | ⟨a, new⟩) s' h'
    · exact h'
    · cases new with
      | true => exact ih h'.2
      | false => exact h'

private theorem ensures_takeIn (a : Analysis) (s : BuildState τ)
    (rely : BuildState τ → BuildState τ → Prop) :
    Ensures rely (fun r s' => Course.Works s.index a.unit r s'.index) (takeIn a).run s := by
  unfold takeIn
  simp only [ExceptT.run, ExceptT.mk]
  rw [ensures_transform]
  cases hmerge : s.index.merge a.unit a.snapshot with
  | mk x' r =>
    cases r with
    | ok stats => exact .indexed hmerge
    | error fault => exact .rejected hmerge

/-- **The work on a unit merges one snapshot, or none.** -/
theorem ensures_indexUnit (st : Analysis.Storage) (t : Collaborators τ) (g : UnitGraph)
    (u : CompilationUnit) (s : BuildState τ) :
    Ensures SameIndex (fun r s' => Course.Works s.index u.id r s'.index)
      (indexUnit st t g u).run s := by
  unfold indexUnit
  rw [ensures_work_bind]
  refine (ensures_runSteps st.hash t u.id u.prebuild rfl).mono ?_
  rintro (fault | count) s' hs'
  · simp only [either, hs']
    exact .unmerged fault
  · simp only [either]
    rw [ensures_work_bind]
    refine (ensures_examineAgain_index st t g u 1 hs').mono ?_
    rintro (fault | a) s'' hs''
    · simp only [either] at hs'' ⊢
      rw [hs'']
      exact .unmerged fault
    -- up to here the index is as it was, so this is the one change
    · have hworks := ensures_takeIn a s'' SameIndex
      rwa [hs''.1, hs''.2] at hworks

end BuildState

/-! ## Layer B: the queue on a course -/

namespace Queue

variable {τ : Type} {q : Queue τ} {c : Course}

/-- What is left to do on a unit. -/
abbrev Rest (τ : Type) := Activity (BuildState τ) UnitResult

/-- What is left to do on a unit comes to a result that a step of the course allows. -/
def Bound (c : Course) (u : UnitId) (rest : Rest τ) (s : BuildState τ) : Prop :=
  Ensures BuildState.SameIndex (fun r s' => Course.Works c.index u r s'.index) rest s

/-- How far the queue is with the pass of a course. -/
inductive AtPass (q : Queue τ) (c : Course) : Prop
  | choosing (n : Nat) (h : q.running = some (.choosing c.pass n)) (hactive : c.active = [])
      (hindex : q.state.index = c.index)
  | working (n : Nat) (u : UnitId) (rest : Rest τ) (h : q.running = some (.working c.pass n u rest))
      (hrunning : c.running = [u]) (hresults : c.results = []) (hrest : Bound c u rest q.state)
  | standing (n : Nat) (u at_ : UnitId) (rest : Rest τ)
      (h : q.running = some (.standing c.pass n u at_ rest)) (hrunning : c.running = [u])
      (hresults : c.results = [])
      (hrest : ∀ s, BuildState.SameIndex q.state s → Bound c u rest s)

theorem AtPass.of_choosing {n : Nat} (h : q.AtPass c)
    (hq : q.running = some (.choosing c.pass n)) : c.active = [] ∧ q.state.index = c.index := by
  cases h with
  | choosing _ _ hactive hindex => exact ⟨hactive, hindex⟩
  | working _ _ _ hq' => cases hq.symm.trans hq'
  | standing _ _ _ _ hq' => cases hq.symm.trans hq'

theorem AtPass.of_working {n : Nat} {u : UnitId} {rest : Rest τ} (h : q.AtPass c)
    (hq : q.running = some (.working c.pass n u rest)) :
    c.running = [u] ∧ c.results = [] ∧ Bound c u rest q.state := by
  cases h with
  | choosing _ hq' => cases hq.symm.trans hq'
  | working _ _ _ hq' hrunning hresults hrest =>
    cases hq.symm.trans hq'
    exact ⟨hrunning, hresults, hrest⟩
  | standing _ _ _ _ hq' => cases hq.symm.trans hq'

/-- **The queue is on a course.** -/
structure OnCourse (q : Queue τ) (c : Course) : Prop where
  control : q.control = c.control
  dirty : q.dirty = c.dirty
  isOpen : c.isOver = false
  atPass : q.AtPass c

/-! ## Layer C: steps -/

/-- A pass that starts is at the beginning of a course. -/
theorem onCourse_startPass (q : Queue τ) (build : Nat) (p : Priority) (g : UnitGraph)
    (targets : KeySet UnitId) :
    (q.startPass build p g targets).OnCourse
      (Course.begin build p g targets q.dirty.ticket q.control q.dirty q.state.index) :=
  ⟨rfl, rfl, rfl, .choosing q.nextReport rfl rfl rfl⟩

/-- **The next unit is started or dropped**, or the pass is closed and the build ends. -/
theorem OnCourse.choose {n : Nat} (h : q.OnCourse c)
    (hq : q.running = some (.choosing c.pass n))
    {m : ProjectModel} (hg : UnitGraph.ofModel m = .ok c.pass.graph) :
    ∃ c', c.Step 1 c' ∧ ((q.choose c.pass n).OnCourse c' ∨ c'.isOver = true ∧
      ∃ e, q.choose c.pass n =
        ({ q with dirty := c'.dirty }.report e).finish (some c'.pass.summary)) := by
  obtain ⟨hactive, hindex⟩ := h.atPass.of_choosing hq
  -- the one worker has room just when nothing is under way
  have hroom : c.active.length < max 1 1 := by simp [hactive]
  obtain ⟨hrunning, hresults⟩ := List.append_eq_nil_iff.1 hactive
  unfold Queue.choose
  cases hnext : c.pass.next? with
  | none =>
    refine ⟨_, .close h.isOpen hnext hactive, Or.inr ⟨rfl, ?_⟩⟩
    unfold endPass markUnits
    rw [h.dirty]
    exact ⟨_, rfl⟩
  | some out =>
    obtain ⟨u, next⟩ := out
    have hgraph := (Pass.continues_next hnext).graph
    simp only
    split
    · rename_i unit hunit hmay
      rw [h.control] at hmay
      refine ⟨_, .start h.isOpen hroom hnext hmay (by rw [← hgraph, hunit]; rfl), Or.inl ?_⟩
      refine ⟨by simp [h.control], h.dirty, h.isOpen, ?_⟩
      refine .working n u _ rfl (by simp [hrunning]) (List.map_eq_nil_iff.1 hresults) ?_
      have hworks :=
        BuildState.ensures_indexUnit q.setup.storage q.setup.team next.graph unit q.state
      rwa [UnitGraph.id_of_unit? hg (hgraph ▸ hunit), hindex] at hworks
    · rename_i hnot
      refine ⟨_, .drop h.isOpen hroom hnext ?_, Or.inl ?_⟩
      · rintro ⟨hmay, hunit⟩
        obtain ⟨unit, hunit⟩ := Option.isSome_iff_exists.1 hunit
        exact hnot unit (hgraph ▸ hunit) (h.control ▸ hmay)
      · exact ⟨by simp [h.control, Queue.skip, markUnits], by simp [h.dirty, Queue.skip, markUnits],
          h.isOpen, .choosing n rfl hactive hindex⟩

/-- The queue and the course take note of a result in the same way. -/
private theorem noteResult_note (hcontrol : q.control = c.control) (hdirty : q.dirty = c.dirty)
    (u : UnitId) (r : UnitResult) :
    (q.noteResult c.pass.count u r).2 = (c.note u r).pass ∧
      (q.noteResult c.pass.count u r).1.control = (c.note u r).control ∧
      (q.noteResult c.pass.count u r).1.dirty = (c.note u r).dirty ∧
      (q.noteResult c.pass.count u r).1.state = q.state := by
  cases r with
  | ok info => simp [noteResult, Course.note, tell, hcontrol, hdirty, Pass.count]
  | error fault =>
    by_cases hfault : fault = .cancelled
    · subst hfault
      simp [noteResult, Course.note, Queue.skip, markUnits, hcontrol, hdirty]
    · rw [noteResult_error hfault]
      simp only [Course.note, if_neg hfault, tell, hdirty]
      -- another attempt is planned by a timer, which no course sees
      cases fault.isTransient with
      | false => simp [hcontrol, Pass.count]
      | true =>
        simp only [if_true, scheduleRetry, hcontrol]
        split <;> simp [Pass.count]

/-- **The work on a unit goes on**: up to a gate, or to a result of which the pass takes note. -/
theorem OnCourse.work {n : Nat} {u : UnitId} {rest : Rest τ} (h : q.OnCourse c)
    (hq : q.running = some (.working c.pass n u rest)) :
    (q.work c.pass n u rest).OnCourse c ∨
      ∃ c' c'', c.Step 1 c' ∧ c'.Step 1 c'' ∧ (q.work c.pass n u rest).OnCourse c'' := by
  obtain ⟨hrunning, hresults, hrest⟩ := h.atPass.of_working hq
  unfold Queue.work
  cases hrun : rest.run q.control.shutdown q.state with
  | mk state reached =>
    cases reached with
    | standing at_ rest' =>
      refine Or.inl ⟨h.control, h.dirty, h.isOpen, ?_⟩
      exact .standing n u at_ rest' rfl hrunning hresults fun s hs => hrest.of_standing hrun hs
    | finished r =>
      have hworks := hrest.of_finished hrun
      refine Or.inr ⟨_, _, .work (l := []) hrunning hworks, .note (l := []) (Or.inr ?_) rfl, ?_⟩
      · simp [Course.active]
      · -- the course after the work and before its result is noted
        let c' : Course := { c with
          running := [] ++ [], results := (u, r) :: c.results, index := state.index
          journal := .worked u r :: c.journal }
        obtain ⟨hpass, hcontrol, hdirty, hstate⟩ := noteResult_note (c := c')
          (q := { q with state := state }.report
            (.fraction n (some u.display) c.pass.count.finished c.pass.count.order.length))
          h.control h.dirty u r
        obtain ⟨hrunning', hover, hindex⟩ := c'.note_frame u r
        refine ⟨hcontrol, hdirty, hover.trans h.isOpen, .choosing n ?_ ?_ ?_⟩
        · exact congrArg (fun p => some (Running.choosing p n)) hpass
        · change (c'.note u r).running ++ c.results.map (·.1) = []
          rw [hrunning', hresults]
          rfl
        · exact hindex ▸ congrArg BuildState.index hstate

/-- A gate is opened, after the state may have changed but for the index. -/
theorem OnCourse.openGate (h : q.OnCourse c) : q.openGate.1.OnCourse c := by
  unfold Queue.openGate
  cases h.atPass with
  | choosing n hq hactive hindex =>
    rw [hq]
    exact h
  | working n u rest hq =>
    rw [hq]
    exact h
  | standing n u at_ rest hq hrunning hresults hrest =>
    rw [hq]
    exact ⟨h.control, h.dirty, h.isOpen, .working n u rest rfl hrunning hresults (hrest _ rfl)⟩

end Queue

end CodeAtlas
