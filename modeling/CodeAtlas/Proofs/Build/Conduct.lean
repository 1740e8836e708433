import CodeAtlas.Proofs.Build.Phases
import CodeAtlas.Proofs.Build.Simulation

/-!
# Every queue is a run of control

Whatever is asked of a queue, and whatever its builds come to, control goes through a run of calls,
and a build that the queue works on is one that this run began. So the state machine of control is
that of the queue, cancelled builds included.

## Architecture

- **Layer A**: queues that control conducts;
- **Layer B**: calls, updates and the end of a build;
- **Layer C**: what is asked of a queue;
- **Layer D**: steps;
- **Layer E**: queues that are not closed.
-/

namespace CodeAtlas

open ControlSystem

namespace Queue

variable {τ : Type} {q q' : Queue τ}

/-! ## Layer A: control and the queue -/

/-- **Control conducts the queue**: it has gone through a run, and if the queue works on a build then
a build runs. -/
def Conducted (q : Queue τ) : Prop :=
  ∃ begun s, Run q.setup.timing {} begun s ∧ s.control = q.control ∧
    (q.running.isSome = true → s.running ≠ [])

/-- Control of a conducted queue is orderly, and knows that a build runs. -/
theorem Conducted.orderly (h : q.Conducted) :
    q.control.Orderly ∧ (q.running.isSome = true → q.control.running.isSome = true) := by
  obtain ⟨begun, s, hrun, hcontrol, hbuild⟩ := h
  have hsound := hrun.sound sound_new
  rw [← hcontrol]
  refine ⟨hsound.orderly, fun hsome => ?_⟩
  by_contra hidle
  have hnone : s.control.running = none := by simpa using hidle
  exact hbuild hsome (hsound.running.trans (Control.launches_of_none hnone))

theorem conducted_of_run {t : BuildTiming} {begun : List Launch} {s : ControlSystem}
    (hrun : Run t {} begun s) (ht : q.setup.timing = t) (hcontrol : s.control = q.control)
    (hbuild : q.running.isSome = true → s.running ≠ []) : q.Conducted := by
  subst ht
  exact ⟨begun, s, hrun, hcontrol, hbuild⟩

theorem conducted_new (setup : QueueSetup τ) (state : BuildState τ) :
    Conducted { setup := setup, state := state } :=
  ⟨[], {}, .stay {}, rfl, nofun⟩

private theorem foldl_perform_running (es : List Effect) (q : Queue τ) :
    (es.foldl perform q).control = q.control ∧
      ((es.foldl perform q).running.isSome = true →
        q.running.isSome = true ∨ Move.begins ⟨q.control, es⟩ ≠ []) := by
  induction es generalizing q with
  | nil => exact ⟨rfl, Or.inl⟩
  | cons e rest ih =>
    obtain ⟨hcontrol, hrunning⟩ := ih (q.perform e)
    cases e with
    | tell event => exact ⟨hcontrol, hrunning⟩
    | arm wait => exact ⟨hcontrol, hrunning⟩
    | disarm => exact ⟨hcontrol, hrunning⟩
    | begin build p => exact ⟨hcontrol, fun _ => Or.inr (List.cons_ne_nil _ _)⟩

theorem control_act (q : Queue τ) (f : Control → Move) :
    (q.act f).control = (f q.control).next :=
  (foldl_perform_running (f q.control).effects { q with control := (f q.control).next }).1

theorem running_act (q : Queue τ) (f : Control → Move) (h : (q.act f).running.isSome = true) :
    q.running.isSome = true ∨ (f q.control).begins ≠ [] :=
  (foldl_perform_running (f q.control).effects { q with control := (f q.control).next }).2 h

/-! ## Layer B: calls -/

/-- A call to control, of those that leave all builds running. -/
theorem Conducted.call (h : q.Conducted) (a : ControlCall) (hleft : ∀ l, a.left l = l)
    (ha : ∀ s : ControlSystem, s.Allows a) :
    (q.act fun c => a.move q.setup.timing c).Conducted := by
  obtain ⟨begun, s, hrun, hcontrol, hbuild⟩ := h
  refine conducted_of_run (hrun.step a (ha s)) (by rw [setup_act]) ?_ ?_
  · rw [control_act, ← hcontrol]
    rfl
  · -- the queue works on a build that it had before, or on one that has just begun
    intro hsome hnil
    obtain ⟨hleft', hbegins⟩ := List.append_eq_nil_iff.1 hnil
    rw [hleft] at hleft'
    rcases running_act q _ hsome with hold | hnew
    · exact hbuild hold hleft'
    · rw [← hcontrol] at hnew
      exact hnew hbegins

/-- What edits and the running build write besides is none of control's concern. -/
theorem Conducted.update (h : q.Conducted) (hsetup : q'.setup = q.setup)
    (hcontrol : q'.control = { q.control with
      graph := q'.control.graph, queued := q'.control.queued, attempts := q'.control.attempts })
    (hrunning : q'.running.isSome = true → q.running.isSome = true) : q'.Conducted := by
  obtain ⟨begun, s, hrun, hsame, hbuild⟩ := h
  have hupdated := hrun.step
    (.update q'.control.graph q'.control.queued q'.control.attempts) trivial
  refine conducted_of_run hupdated (by rw [hsetup]) ?_ ?_
  · rw [hcontrol, ← hsame]
    rfl
  · intro hsome hnil
    exact hbuild (hrunning hsome) (List.append_eq_nil_iff.1 hnil).1

/-- The build that the queue works on ends. -/
theorem Conducted.finish (h : q.Conducted) (hsome : q.running.isSome = true)
    (summary : Option BuildSummary) : (q.finish summary).Conducted := by
  obtain ⟨begun, s, hrun, hcontrol, hbuild⟩ := h
  obtain ⟨launch, hlaunch⟩ := List.exists_mem_of_ne_nil _ (hbuild hsome)
  refine conducted_of_run (hrun.step (.finish launch summary 0) hlaunch)
    (by rw [Queue.finish, setup_act]) ?_ ?_
  · rw [Queue.finish, control_act, ← hcontrol]
    rfl
  · -- the build that ended is gone, so only a new one can be worked on
    intro hrunning hnil
    obtain ⟨-, hbegins⟩ := List.append_eq_nil_iff.1 hnil
    rcases running_act _ _ hrunning with hold | hnew
    · cases hold
    · simp only [← hcontrol] at hnew
      exact hnew hbegins

/-! ## Layer C: from outside -/

theorem Conducted.request (h : q.Conducted) (p : Priority) : (q.request p).Conducted :=
  h.call (.request p) (fun _ => rfl) fun _ => trivial

theorem Conducted.fileChanged (h : q.Conducted) (path : Path) : (q.fileChanged path).Conducted := by
  unfold Queue.fileChanged
  split
  · exact h.request .full
  · rename_i g units hconcerned
    have hmarked : Conducted { q with
        dirty := q.dirty.markFile path units.toList
        control := q.control.cancelQueued (g.affected units) } := by
      refine h.update rfl ?_ id
      unfold Control.cancelQueued
      split <;> rfl
    exact hmarked.request .normal

theorem Conducted.configurationChanged (h : q.Conducted) (settings : BuildSettings) :
    (q.configurationChanged settings).Conducted := by
  have hset : Conducted { q with
      state := { q.state with plans := (q.state.plans.setSettings settings).1 } } :=
    h.update rfl rfl id
  exact hset.request .full

theorem Conducted.openGate (h : q.Conducted) : q.openGate.1.Conducted := by
  unfold Queue.openGate
  split
  · rename_i hrunning
    exact h.update rfl rfl fun _ => by simp [hrunning]
  · exact h

/-! ## Layer D: steps -/

theorem Conducted.startPass (h : q.Conducted) (hsome : q.running.isSome = true) (build : Nat)
    (p : Priority) (g : UnitGraph) (targets : KeySet UnitId) :
    (q.startPass build p g targets).Conducted :=
  h.update rfl rfl fun _ => hsome

/-- **A build begins**, or is cancelled before it knows its project. -/
theorem Conducted.prepare (h : q.Conducted) (hsome : q.running.isSome = true) (build : Nat)
    (p : Priority) : (q.prepare build p).Conducted := by
  obtain ⟨state, result, heq⟩ := exists_discover q
  have hdiscovered : ({ q with state := state } : Queue τ).Conducted := h.update rfl rfl id
  unfold Queue.prepare
  split
  · have hdropped : q.dropStalePlans.Conducted := h.update rfl rfl id
    exact hdropped.startPass hsome _ _ _ _
  · rw [heq]
    cases graphOf result with
    | ok g =>
      have hadopted : (({ q with state := state } : Queue τ).adopt g).Conducted :=
        hdiscovered.update rfl rfl id
      exact hadopted.startPass hsome _ _ _ _
    | error fault =>
      have hhalted := hdiscovered.call (.halt fault) (fun _ => rfl) fun _ => trivial
      cases fault with
      | cancelled => exact hdiscovered.finish hsome none
      | inputNotFound | compileErrors | crash | planStale | configurationInvalid | io =>
        refine hhalted.finish ?_ none
        exact hsome

/-- **The next unit is started or skipped**, or the build ends. -/
theorem Conducted.choose (h : q.Conducted) (hsome : q.running.isSome = true) (pass : Pass)
    (n : Nat) : (q.choose pass n).Conducted := by
  unfold Queue.choose
  split
  · unfold Queue.endPass
    simp only
    refine Conducted.finish ?_ ?_ _
    · exact h.update rfl rfl id
    · exact hsome
  · simp only
    split
    · exact h.update rfl rfl fun _ => hsome
    · exact h.update rfl rfl fun _ => hsome

/-- Noting how a unit ended counts or forgets failures, and does nothing else to control. -/
theorem noteResult_frame (q : Queue τ) (pass : Pass) (u : UnitId)
    (result : Except BuildFault BuildState.Indexed) :
    (q.noteResult pass u result).1.setup = q.setup ∧
      (q.noteResult pass u result).1.control = { q.control with
        attempts := (q.noteResult pass u result).1.control.attempts } := by
  cases result with
  | ok x => exact ⟨rfl, rfl⟩
  | error fault =>
    by_cases hfault : fault = .cancelled
    · subst hfault
      exact ⟨rfl, rfl⟩
    · simp only [noteResult_error hfault, Queue.scheduleRetry]
      split
      · split <;> exact ⟨rfl, rfl⟩
      · exact ⟨rfl, rfl⟩

/-- **A unit is worked on** to its end or to a gate. -/
theorem Conducted.work (h : q.Conducted) (hsome : q.running.isSome = true) (pass : Pass) (n : Nat)
    (u : UnitId) (rest : Activity (BuildState τ) (Except BuildFault BuildState.Indexed)) :
    (q.work pass n u rest).Conducted := by
  unfold Queue.work
  split
  · exact h.update rfl rfl fun _ => hsome
  · rename_i state result _
    obtain ⟨hsetup, hcontrol⟩ := noteResult_frame
      (({ q with state := state } : Queue τ).report
        (.fraction n (some u.display) pass.count.finished pass.count.order.length))
      pass.count u result
    exact h.update hsetup (by rw [hcontrol]; rfl) fun _ => hsome

theorem Conducted.fireTimer {horizon : Horizon} (h : q.Conducted)
    (hfire : q.fireTimer? horizon = some q') : q'.Conducted := by
  unfold Queue.fireTimer? at hfire
  obtain ⟨a, -, rfl⟩ := Option.map_eq_some_iff.1 hfire
  have hfired : Conducted { q with timers := q.timers.fire a } := h.update rfl rfl id
  simp only
  cases a.key with
  | debounce => exact hfired.call .debounce (fun _ => rfl) fun _ => trivial
  | retry => exact hfired.call .retry (fun _ => rfl) fun _ => trivial

/-- **Every step of the queue keeps it conducted**, cancellations included. -/
theorem Conducted.step {horizon : Horizon} (h : q.Conducted)
    (hstep : q.step? horizon = some q') : q'.Conducted := by
  unfold Queue.step? at hstep
  cases hrunning : q.running with
  | none =>
    rw [hrunning] at hstep
    exact h.fireTimer hstep
  | some running =>
    rw [hrunning] at hstep
    have hsome : q.running.isSome = true := by rw [hrunning]; rfl
    cases running with
    | preparing build p =>
      obtain rfl := Option.some.inj hstep
      exact h.prepare hsome build p
    | choosing pass n =>
      obtain rfl := Option.some.inj hstep
      exact h.choose hsome pass n
    | working pass n u rest =>
      obtain rfl := Option.some.inj hstep
      exact h.work hsome pass n u rest
    | standing pass n u unit rest => exact h.fireTimer hstep

/-! ## Layer E: queues that are not closed -/

/-- **What may become of a queue** (`BuildQueue`) that is not closed, whatever its builds and their
units come to. Its surroundings may change at any time, and so may the hour. -/
inductive Served : Queue τ → Prop
  | new (setup : QueueSetup τ) (state : BuildState τ) : Served { setup := setup, state := state }
  | surroundings {q : Queue τ} (h : Served q) (state : BuildState τ) :
      Served { q with state := state }
  | wait {q : Queue τ} (h : Served q) (now : Nat) :
      Served { q with timers := { q.timers with now := now } }
  | request {q : Queue τ} (h : Served q) (p : Priority) : Served (q.request p)
  | fileChanged {q : Queue τ} (h : Served q) (path : Path) : Served (q.fileChanged path)
  | configurationChanged {q : Queue τ} (h : Served q) (settings : BuildSettings) :
      Served (q.configurationChanged settings)
  | openGate {q : Queue τ} (h : Served q) : Served q.openGate.1
  | step {q q' : Queue τ} (h : Served q) {horizon : Horizon}
      (hstep : q.step? horizon = some q') : Served q'

/-- **The state machine of control is that of every queue.** -/
theorem Served.conducted (h : q.Served) : q.Conducted := by
  induction h with
  | new setup state => exact conducted_new setup state
  | surroundings _ state ih => exact ih.update rfl rfl id
  | wait _ now ih => exact ih.update rfl rfl id
  | request _ p ih => exact ih.request p
  | fileChanged _ path ih => exact ih.fileChanged path
  | configurationChanged _ settings ih => exact ih.configurationChanged settings
  | openGate _ ih => exact ih.openGate
  | step _ hstep ih => exact ih.step hstep

end Queue

end CodeAtlas
