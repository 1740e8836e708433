import CodeAtlas.Build.Event

/-!
# Control of the build queue

When builds start. One build runs at a time. A full build starts at once, or right behind the one
that runs; a normal one waits until changes have stopped coming. A project that cannot be discovered
halts all normal builds.

Every function here is one undivided action: it gives the next state and what is to be done.

## Architecture

- **Layer A**: how long changes and crashed units wait;
- **Layer B**: the state, and what is to be done;
- **Layer C**: starting and ending a build;
- **Layer D**: requests and timers;
- **Layer E**: units of the running build.
-/

namespace CodeAtlas

/-! ## Layer A: waiting

How long changes are collected before a build starts, and how long a unit that crashed waits for
its next attempt. Waits are in milliseconds. -/

/-- **The waits of the build queue** (`QueueConfig`). -/
structure BuildTiming where
  /-- A fixed wait for more changes; without one the wait follows the last build. -/
  debounce : Option Nat := none
  backoffBase : Nat := 250
  backoffCap : Nat := 10000
  /-- How often a crashing unit is retried before the next change. -/
  maxRetries : Nat := 6
  deriving Repr, DecidableEq, Inhabited

namespace BuildTiming

/-- The wait after a build that took so many microseconds (`adaptive_debounce`): quick builds start
again at once, slow and unknown ones wait for a burst of edits to settle. -/
def adaptiveDebounce : Option Nat → Nat
  | none => 1500
  | some last =>
    if last < 300000 then 0
    else if last < 1000000 then 200
    else if last < 5000000 then 500
    else 1500

/-- The wait before a build, after one that took so many microseconds (`debounce_for`). -/
def debounceAfter (t : BuildTiming) (last : Option Nat) : Nat :=
  t.debounce.getD (adaptiveDebounce last)

/-- The wait before the given retry, counted from 1: it doubles up to a cap. -/
def backoff (t : BuildTiming) (attempt : Nat) : Nat :=
  -- the doubling stops early enough for the power to stay small
  min (t.backoffBase * Nat.pow 2 (min (attempt - 1) 20)) t.backoffCap

end BuildTiming

/-! ## Layer B: state -/

/-- **The state of control** (`State`). -/
structure Control where
  phase : Phase := .idle
  /-- The build that runs, as it was asked for. -/
  running : Option Priority := none
  /-- The build that follows it. -/
  pending : Option Priority := none
  /-- Whether a normal build waits for changes to stop. -/
  armed : Bool := false
  /-- Why the project could not be discovered. -/
  halted : Option String := none
  /-- The project as it was last discovered. -/
  graph : Option UnitGraph := none
  /-- Units of the running build that have not started; whether each is cancelled. -/
  queued : Table UnitId Bool := .empty
  /-- The number of builds so far, which is taken to fit the 64 bits of a counter. -/
  builds : Nat := 0
  /-- How long the last build took, in microseconds. -/
  lastDuration : Option Nat := none
  /-- How often each unit has failed since it was last indexed; taken to fit 32 bits. -/
  attempts : Table UnitId Nat := .empty
  shutdown : Bool := false
  deriving Repr, DecidableEq, Inhabited

/-- What an action of control asks for. -/
inductive Effect where
  | tell (event : BuildEvent)
  /-- Lets a normal build start after a wait, unless it is asked for again before. -/
  | arm (wait : Nat)
  | disarm
  /-- Starts a build. -/
  | begin (build : Nat) (priority : Priority)
  deriving Repr, DecidableEq, Inhabited

/-- The outcome of an action. -/
structure Move where
  next : Control
  effects : List Effect := []
  deriving Repr, DecidableEq, Inhabited

namespace Move

/-- Another action behind this one. -/
def andThen (m : Move) (f : Control → Move) : Move :=
  ⟨(f m.next).next, m.effects ++ (f m.next).effects⟩

end Move

namespace Control

/-- Whether nothing is built and nothing waits to be (`is_idle`). -/
def isIdle (c : Control) : Bool := c.phase == .idle && c.running.isNone && !c.armed

/-- Enters a phase (`set_state`); entering the present one is no event. -/
def enter (c : Control) (p : Phase) : Move :=
  if c.phase == p then ⟨c, []⟩ else ⟨{ c with phase := p }, [.tell (.entered p)]⟩

/-- Cancels all units that have not started. -/
def cancelAll (c : Control) : Control := { c with queued := c.queued.mapValues fun _ _ => true }

/-! ## Layer C: builds -/

/-- **Starts a build** (`start_pass`). -/
def startPass (c : Control) (p : Priority) : Move :=
  let build := c.builds + 1
  ({ c with builds := build, running := some p, pending := none }.enter .building).andThen
    fun c => ⟨c, [.begin build p]⟩

/-- Asks for a build now: it starts, or follows the one that runs. -/
def enqueue (c : Control) (p : Priority) : Move :=
  if c.shutdown || (p == .normal && c.halted.isSome) then
    -- the wait for changes is over, and nothing comes of it
    if c.running.isNone then c.enter .idle else ⟨c, []⟩
  else if c.running.isSome then
    { c with pending := some (.atLeast c.pending p) }.enter .queuedRebuild
  else c.startPass p

/-- The build that follows the one that ends. -/
def following (c : Control) : Option Priority :=
  if c.shutdown || (c.pending == some .normal && c.halted.isSome) then none else c.pending

/-- **Ends a build** that took so many microseconds (`finish_pass`). -/
def finishPass (c : Control) (summary : Option BuildSummary) (duration : Nat) : Move :=
  -- settled first: what comes next is forgotten with the build that ends
  let next := c.following
  let c := { c with
    running := none, queued := .empty, lastDuration := some duration, pending := none }
  let told : Move := ⟨c, summary.toList.map fun s => .tell (.finished s)⟩
  told.andThen fun c =>
    match next with
    | some p => c.startPass p
    | none => c.enter (if c.armed then .debouncing else .idle)

/-- The reason that is given for a project that cannot be discovered. -/
def haltReason : BuildFault → String
  | .configurationInvalid fault => fault.message
  | fault => fault.message

/-- Halts normal builds. -/
def halt (c : Control) (fault : BuildFault) : Move :=
  let reason := haltReason fault
  ⟨{ c with halted := some reason }, [.tell (.configurationInvalid reason)]⟩

/-! ## Layer D: requests and timers -/

/-- Asks for a full build, which also lifts a halt. -/
def requestFull (c : Control) : Move :=
  let c := { c with halted := none }
  -- a full build covers whatever the wait was for
  let disarmed : Move := if c.armed then ⟨{ c with armed := false }, [.disarm]⟩ else ⟨c, []⟩
  disarmed.andThen fun c =>
    if c.running.isSome then { c.cancelAll with pending := some .full }.enter .queuedRebuild
    else c.startPass .full

/-- Asks for a normal build, unless one is halted or a full one follows anyway. -/
def requestNormal (t : BuildTiming) (c : Control) : Move :=
  if c.halted.isSome || c.pending == some .full then ⟨c, []⟩
  else
    -- asking again while it waits starts the wait anew
    let wait := t.debounceAfter c.lastDuration
    ({ c with armed := true }.enter .debouncing).andThen fun c => ⟨c, [.arm wait]⟩

/-- **Asks for a build.** -/
def request (t : BuildTiming) (c : Control) (p : Priority) : Move :=
  if c.shutdown then ⟨c, []⟩
  else
    match p with
    | .full => c.requestFull
    | .normal => c.requestNormal t

/-- Changes have stopped coming (`fire`). -/
def debounceFired (c : Control) : Move := { c with armed := false }.enqueue .normal

/-- It is time to try failed units again, unless a build is about to start anyway
(`schedule_retry`). -/
def retryFired (c : Control) : Move := if c.armed then ⟨c, []⟩ else c.enqueue .normal

/-- Ends all building (`shutdown`). -/
def close (c : Control) : Move :=
  -- the build that runs ends by itself, with the units that have started
  let c := { c.cancelAll with shutdown := true, armed := false, pending := none }
  if c.running.isNone then c.enter .idle else ⟨c, []⟩

/-! ## Layer E: units -/

/-- Cancels units of a running normal build that have not started (`cancel_queued`). -/
def cancelQueued (c : Control) (units : KeySet UnitId) : Control :=
  if c.running == some .normal then
    { c with queued := c.queued.mapValues fun u cancelled => cancelled || units.contains u }
  else c

/-- Queues the units of a build. All of them are cancelled if a full build already follows a normal
one, or if building has ended. -/
def queueUnits (c : Control) (p : Priority) (order : List UnitId) : Control :=
  let preempted := p == .normal && c.pending == some .full
  { c with queued := Table.ofList (order.map fun u => (u, preempted || c.shutdown)) }

/-- Whether a queued unit may start. -/
def mayStart (c : Control) (u : UnitId) : Bool := c.queued.get? u == some false

/-- Takes a unit out of the queue. -/
def dequeue (c : Control) (u : UnitId) : Control := { c with queued := c.queued.erase u }

/-- Counts a failure of a unit. -/
def countFailure (c : Control) (u : UnitId) : Control :=
  { c with attempts := c.attempts.insert u (c.attempts.getD u 0 + 1) }

/-- Forgets the failures of a unit. -/
def forgetFailures (c : Control) (u : UnitId) : Control :=
  { c with attempts := c.attempts.erase u }

end Control

end CodeAtlas
