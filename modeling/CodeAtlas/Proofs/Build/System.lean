import CodeAtlas.Build.Queue
import CodeAtlas.Proofs.Build.Pass
import CodeAtlas.Proofs.Schedule.Timers

/-!
# The build queue among its users

The queue as a transition system. Threads that take note of changed files, timers, requests from
outside and the thread of the running build share control, the dirty set and the timers, and each
of their steps is one undivided action on what is shared. Any order of steps that keeps every
thread's own order is a run: changes may land before, between and after the steps of a build, and
timers that ran out may be late.

The system also keeps a journal of what has happened. No step reads it.

## Architecture

- **Layer A**: the parties and what they share;
- **Layer B**: actions of control;
- **Layer C**: steps and runs;
- **Layer D**: what actions of control amount to.
-/

namespace CodeAtlas

/-! ## Layer A: the parties -/

/-- **A thread that takes note of a changed file** (`file_changed`), by how far it is. -/
inductive Editor where
  /-- The file has been written. -/
  | noticed (path : Path)
  /-- The project has been looked up. -/
  | looked (graph : Option UnitGraph) (path : Path)
  /-- It is known which units the change concerns. -/
  | concerned (graph : UnitGraph) (path : Path) (units : KeySet UnitId)
  /-- The file is marked. -/
  | marked (graph : UnitGraph) (units : KeySet UnitId)
  /-- All that is left is to ask for a build. -/
  | asking (priority : Priority)

/-- **The thread of the running build** (`run_pass`), by how far it is. -/
inductive Stage where
  /-- No build runs. -/
  | idle
  | begun (build : Nat) (priority : Priority)
  /-- The project could not be discovered, and control has not been told so yet. -/
  | refused (build : Nat) (fault : BuildFault)
  /-- A new project is known to the dirty set, but not to control. -/
  | reclaimed (build : Nat) (graph : UnitGraph)
  /-- It is decided which units the build covers. -/
  | prepared (build : Nat) (priority : Priority) (graph : UnitGraph) (targets : KeySet UnitId)
  /-- The ticket is taken, but the units are not queued yet. -/
  | ticketed (pass : Pass)
  /-- Units are started, and those of `active` are worked on; there may be any number of them. -/
  | going (pass : Pass) (active : List UnitId)
  /-- Nothing is left to do but to say so. -/
  | ended (summary : Option BuildSummary)

/-- An entry of the journal. -/
inductive JournalEntry where
  /-- A file was marked for these units. -/
  | marked (units : List UnitId)
  | ticket (build : Nat)
  | indexed (build : Nat) (unit : UnitId)
  /-- A unit failed, for so many times in a row if the fault may pass by itself. -/
  | failed (build : Nat) (unit : UnitId) (fault : BuildFault) (attempts : Nat)
  /-- A full build was asked for, while the build of this number ran if any did. -/
  | requestedFull (during : Option Nat)
  /-- What the discovery of the project came to. -/
  | discovery (result : Except BuildFault ProjectModel)
  /-- A build that could not discover its project halted normal builds. -/
  | halted (build : Nat) (fault : BuildFault)

/-- **The queue and everyone who acts on it** (`Inner`, with the threads that hold it). -/
structure BuildSystem where
  control : Control := {}
  dirty : DirtySet := .empty
  timers : Timers TimerKey Unit := .empty
  /-- Timers that ran out and whose actions have not run yet. -/
  due : List TimerKey := []
  editors : List Editor := []
  stage : Stage := .idle
  /-- What has happened, the latest first. -/
  journal : List JournalEntry := []

/-- The graph of a discovered project (`discover`). -/
def graphOf : Except BuildFault ProjectModel → Except BuildFault UnitGraph
  | .error fault => .error fault
  | .ok m =>
    match UnitGraph.ofModel m with
    | .error fault => .error (.configurationInvalid fault)
    | .ok g => .ok g

namespace BuildSystem

/-! ## Layer B: actions of control -/

/-- Does what an action of control asks for. Nobody acts on what is told. -/
def perform (s : BuildSystem) : Effect → BuildSystem
  | .tell _ => s
  | .arm wait => { s with timers := s.timers.schedule .debounce wait () }
  | .disarm => { s with timers := s.timers.cancel .debounce }
  | .begin build p => { s with stage := .begun build p }

/-- Carries out a move of control. -/
def take (s : BuildSystem) (m : Move) : BuildSystem :=
  m.effects.foldl perform { s with control := m.next }

/-- The number of the build that runs. -/
def current? (s : BuildSystem) : Option Nat := s.control.running.map fun _ => s.control.builds

/-- Asks for a build (`request`). -/
def request (t : BuildTiming) (s : BuildSystem) (p : Priority) : BuildSystem :=
  -- who runs is noted as it was before: the request may begin a build itself
  let during := s.current?
  let s := s.take (s.control.request t p)
  match p with
  | .full => { s with journal := .requestedFull during :: s.journal }
  | .normal => s

/-- What a timer does. -/
def fired (c : Control) : TimerKey → Move
  | .debounce => c.debounceFired
  | .retry => c.retryFired

/-- Counts a failure, and lets the unit be tried again if it has any attempts left
(`schedule_retry`). -/
def scheduleRetry (t : BuildTiming) (s : BuildSystem) (u : UnitId) : BuildSystem :=
  let s := { s with control := s.control.countFailure u }
  let attempt := s.control.attempts.getD u 0
  if t.maxRetries < attempt then s
  else { s with timers := s.timers.schedule .retry (t.backoff attempt) () }

/-- Takes note of a unit that failed (`unit_failed`). -/
def noteFailure (t : BuildTiming) (s : BuildSystem) (pass : Pass) (u : UnitId)
    (fault : BuildFault) : BuildSystem :=
  let s := { s with dirty := (s.dirty.complete u pass.ticket).markUnit u }
  let s := if fault.isTransient then s.scheduleRetry t u else s
  { s with journal := .failed pass.build u fault (s.control.attempts.getD u 0) :: s.journal }

/-! ## Layer C: steps and runs -/

/-- **A step of one of the parties.** -/
inductive Step (t : BuildTiming) : BuildSystem → BuildSystem → Prop
  -- threads that take note of changed files (`file_changed`)
  | notice (s : BuildSystem) (path : Path) :
      Step t s { s with editors := .noticed path :: s.editors }
  | look {s : BuildSystem} {l r : List Editor} {path : Path}
      (h : s.editors = l ++ .noticed path :: r) :
      Step t s { s with editors := l ++ .looked s.control.graph path :: r }
  | unknown {s : BuildSystem} {l r : List Editor} {path : Path}
      (h : s.editors = l ++ .looked none path :: r) :
      Step t s { s with editors := l ++ .asking .full :: r }
  | unowned {s : BuildSystem} {l r : List Editor} {g : UnitGraph} {path : Path}
      (h : s.editors = l ++ .looked (some g) path :: r) (readers : List UnitId)
      (hunits : g.concerned readers path = none) :
      Step t s { s with editors := l ++ .asking .full :: r }
  | owned {s : BuildSystem} {l r : List Editor} {g : UnitGraph} {path : Path}
      {units : KeySet UnitId} (h : s.editors = l ++ .looked (some g) path :: r)
      (readers : List UnitId) (hunits : g.concerned readers path = some units) :
      Step t s { s with editors := l ++ .concerned g path units :: r }
  | mark {s : BuildSystem} {l r : List Editor} {g : UnitGraph} {path : Path}
      {units : KeySet UnitId} (h : s.editors = l ++ .concerned g path units :: r) :
      Step t s { s with
        dirty := s.dirty.markFile path units.toList
        editors := l ++ .marked g units :: r
        journal := .marked units.toList :: s.journal }
  | cancel {s : BuildSystem} {l r : List Editor} {g : UnitGraph} {units : KeySet UnitId}
      (h : s.editors = l ++ .marked g units :: r) :
      Step t s { s with
        control := s.control.cancelQueued (g.affected units)
        editors := l ++ .asking .normal :: r }
  | ask {s : BuildSystem} {l r : List Editor} {p : Priority}
      (h : s.editors = l ++ .asking p :: r) :
      Step t s ({ s with editors := l ++ r }.request t p)
  -- requests from outside (`request`), and timers (`fire`)
  | request (s : BuildSystem) (p : Priority) : Step t s (s.request t p)
  | wait (s : BuildSystem) (now : Nat) :
      Step t s { s with timers := { s.timers with now := now } }
  | elapse {s : BuildSystem} {a : Timer TimerKey Unit} (h : a ∈ s.timers.waiting) :
      Step t s { s with timers := s.timers.fire a, due := a.key :: s.due }
  | fire {s : BuildSystem} {l r : List TimerKey} {k : TimerKey} (h : s.due = l ++ k :: r) :
      Step t s ({ s with due := l ++ r }.take (fired s.control k))
  -- the beginning of a build (`prepare`, `discover`, `halt`)
  | prepare {s : BuildSystem} {build : Nat} {g : UnitGraph}
      (h : s.stage = .begun build .normal) (hg : s.control.graph = some g) :
      Step t s { s with stage := .prepared build .normal g (g.affected s.dirty.pendingUnits) }
  | discover {s : BuildSystem} {build : Nat} {p : Priority} {g : UnitGraph}
      (h : s.stage = .begun build p) (hp : p = .full ∨ s.control.graph = none)
      (result : Except BuildFault ProjectModel) (hg : graphOf result = .ok g) :
      Step t s { s with
        dirty := s.dirty.reclaim g
        stage := .reclaimed build g
        journal := .discovery result :: s.journal }
  | adopt {s : BuildSystem} {build : Nat} {g : UnitGraph} (h : s.stage = .reclaimed build g) :
      Step t s { s with
        control := { s.control with graph := some g }
        stage := .prepared build .full g g.unitIds }
  | refuse {s : BuildSystem} {build : Nat} {p : Priority} {fault : BuildFault}
      (h : s.stage = .begun build p) (hp : p = .full ∨ s.control.graph = none)
      (result : Except BuildFault ProjectModel) (hg : graphOf result = .error fault)
      (hfault : fault ≠ .cancelled) :
      Step t s { s with
        stage := .refused build fault
        journal := .discovery result :: s.journal }
  | halt {s : BuildSystem} {build : Nat} {fault : BuildFault} (h : s.stage = .refused build fault) :
      Step t s ({ s with stage := .ended none, journal := .halted build fault :: s.journal }.take
        (s.control.halt fault))
  | ticket {s : BuildSystem} {build : Nat} {p : Priority} {g : UnitGraph}
      {targets : KeySet UnitId} (h : s.stage = .prepared build p g targets) :
      Step t s { s with
        stage := .ticketed (Pass.new build p g targets s.dirty.ticket)
        journal := .ticket build :: s.journal }
  | enqueue {s : BuildSystem} {pass : Pass} (h : s.stage = .ticketed pass) :
      Step t s { s with
        control := s.control.queueUnits pass.priority pass.order
        stage := .going pass [] }
  -- the units of a build (`run_pass`)
  | start {s : BuildSystem} {pass next : Pass} {active : List UnitId} {u : UnitId}
      (h : s.stage = .going pass active) (hnext : pass.next? = some (u, next))
      (hmay : s.control.mayStart u = true) (hunit : (pass.graph.unit? u).isSome = true) :
      Step t s { s with
        control := s.control.dequeue u
        stage := .going next (u :: active) }
  | skip {s : BuildSystem} {pass next : Pass} {active : List UnitId} {u : UnitId}
      (h : s.stage = .going pass active) (hnext : pass.next? = some (u, next))
      (hmay : ¬ (s.control.mayStart u = true ∧ (pass.graph.unit? u).isSome = true)) :
      Step t s { s with
        control := s.control.dequeue u
        dirty := (next.skip u).1.foldl DirtySet.markUnit s.dirty
        stage := .going (next.skip u).2.count active }
  | indexed {s : BuildSystem} {pass : Pass} {l r : List UnitId} {u : UnitId}
      (h : s.stage = .going pass (l ++ u :: r)) :
      Step t s { s with
        control := s.control.forgetFailures u
        dirty := s.dirty.complete u pass.ticket
        stage := .going (pass.count.noteIndexed u) (l ++ r)
        journal := .indexed pass.build u :: s.journal }
  | failed {s : BuildSystem} {pass : Pass} {l r : List UnitId} {u : UnitId}
      (h : s.stage = .going pass (l ++ u :: r)) (fault : BuildFault) (hfault : fault ≠ .cancelled) :
      Step t s { s.noteFailure t pass u fault with
        stage := .going (pass.count.noteFailed u) (l ++ r) }
  -- the end of a build (`finish_pass`)
  | endPass {s : BuildSystem} {pass : Pass} (h : s.stage = .going pass [])
      (hnext : pass.next? = none) :
      Step t s { s with
        dirty := pass.skipRest.1.foldl DirtySet.markUnit s.dirty
        stage := .ended (some pass.skipRest.2.summary) }
  | finish {s : BuildSystem} {summary : Option BuildSummary} (h : s.stage = .ended summary)
      (duration : Nat) :
      Step t s ({ s with stage := .idle }.take (s.control.finishPass summary duration))

/-- **The states of all runs** that begin with a new queue. -/
inductive Reachable (t : BuildTiming) : BuildSystem → Prop
  | init : Reachable t {}
  | step {s s' : BuildSystem} (h : Reachable t s) (hstep : Step t s s') : Reachable t s'

/-! ## Layer D: what actions of control amount to -/

variable (s : BuildSystem)

private theorem foldl_perform_control (es : List Effect) (s : BuildSystem) (c : Control) :
    es.foldl perform { s with control := c } = { es.foldl perform s with control := c } := by
  induction es generalizing s with
  | nil => rfl
  | cons e rest ih =>
    rw [List.foldl_cons, List.foldl_cons, ← ih]
    cases e <;> rfl

theorem take_andThen (m : Move) (f : Control → Move) :
    s.take (m.andThen f) = (s.take m).take (f m.next) := by
  unfold take Move.andThen
  simp only [List.foldl_append]
  congr 1
  rw [← foldl_perform_control]

@[simp] theorem next_enter (c : Control) (p : Phase) :
    (c.enter p).next = { c with phase := p } := by
  unfold Control.enter
  split
  · rename_i h
    have hp : c.phase = p := by simpa using h
    subst hp
    rfl
  · rfl

theorem take_enter (c : Control) (p : Phase) :
    s.take (c.enter p) = { s with control := { c with phase := p } } := by
  rw [← next_enter]
  unfold Control.enter
  split <;> rfl

/-- A build begins. -/
def launch (c : Control) (p : Priority) : BuildSystem :=
  { s with
    control := { c with
      builds := c.builds + 1, running := some p, pending := none, phase := .building }
    stage := .begun (c.builds + 1) p }

theorem take_startPass (c : Control) (p : Priority) : s.take (c.startPass p) = s.launch c p := by
  unfold Control.startPass
  simp only
  rw [take_andThen, take_enter]
  unfold take launch
  simp only [List.foldl_cons, List.foldl_nil, perform, next_enter]

/-- A build that is asked for now begins, or follows the one that runs. -/
theorem take_enqueue {c : Control} (hc : c.shutdown = false) (p : Priority) :
    s.take (c.enqueue p) =
      if p = .normal ∧ c.halted.isSome then
        { s with control := if c.running.isNone then { c with phase := .idle } else c }
      else if c.running.isSome then
        { s with control := { c with
            pending := some (.atLeast c.pending p), phase := .queuedRebuild } }
      else s.launch c p := by
  -- control is open, so only a halt can refuse the build
  have hguard : (c.shutdown || (p == .normal && c.halted.isSome)) = true ↔
      p = .normal ∧ c.halted.isSome = true := by
    simp [hc]
  unfold Control.enqueue
  simp only [hguard]
  split
  · split
    · exact take_enter s c .idle
    · rfl
  · split
    · exact take_enter s _ .queuedRebuild
    · exact take_startPass s c p

/-- A full build lifts a halt, replaces a normal one that waits, and cancels what has not
started. -/
theorem take_requestFull (c : Control) :
    s.take c.requestFull =
      let c' := { c with halted := none, armed := false }
      let s' := { s with
        timers := if c.armed then s.timers.cancel .debounce else s.timers }
      if c.running.isSome then
        { s' with control := { c'.cancelAll with pending := some .full, phase := .queuedRebuild } }
      else s'.launch c' .full := by
  unfold Control.requestFull
  simp only
  rw [take_andThen]
  cases harmed : c.armed with
  | true =>
    simp only [if_true]
    split
    · exact take_enter _ _ .queuedRebuild
    · exact take_startPass _ _ .full
  | false =>
    -- a queue that is not armed is as it would be if it had been disarmed
    have hc : { c with halted := none, armed := false } = { c with halted := none } := by
      rw [← harmed]
    rw [hc]
    simp only [Bool.false_eq_true, if_false]
    split
    · exact take_enter _ _ .queuedRebuild
    · exact take_startPass _ _ .full

theorem take_requestNormal (t : BuildTiming) (c : Control) :
    s.take (c.requestNormal t) =
      if c.halted.isSome ∨ c.pending = some .full then { s with control := c }
      else { s with
        control := { c with armed := true, phase := .debouncing }
        timers := s.timers.schedule .debounce (t.debounceAfter c.lastDuration) () } := by
  unfold Control.requestNormal
  simp only [Bool.or_eq_true, beq_iff_eq]
  split
  · rfl
  · rw [take_andThen, take_enter, next_enter]
    rfl

/-- The build that follows begins when one ends. -/
theorem take_finishPass (c : Control) (summary : Option BuildSummary) (duration : Nat) :
    s.take (c.finishPass summary duration) =
      let c' := { c with
        running := none, queued := .empty, lastDuration := some duration, pending := none }
      match c.following with
      | some p => s.launch c' p
      | none =>
        { s with control := { c' with phase := if c.armed then .debouncing else .idle } } := by
  unfold Control.finishPass
  simp only
  rw [take_andThen]
  -- that a build has finished is only told
  have htold : ∀ c' : Control, s.take ⟨c', summary.toList.map fun b => .tell (.finished b)⟩ =
      { s with control := c' } := by
    intro c'
    cases summary <;> rfl
  rw [htold]
  cases c.following with
  | some p => exact take_startPass _ _ p
  | none => exact take_enter _ _ _

end BuildSystem

end CodeAtlas
