import CodeAtlas.Build.Control
import CodeAtlas.Build.Pass
import CodeAtlas.Schedule.Progress
import CodeAtlas.Schedule.Timers

/-!
# The build queue

Changes come in, builds run, and the index follows. One unit is worked on at a time: the least one
that may start. The queue goes on by itself until it has nothing to do but wait: for a unit that
stands at a gate, for a timer that is far off, for the time of another attempt, or for the next
request.

## Architecture

- **Layer A**: the queue and its effects;
- **Layer B**: what comes from outside;
- **Layer C**: the beginning of a build;
- **Layer D**: the units of a build;
- **Layer E**: going on.
-/

namespace CodeAtlas

/-! ## Layer A: the queue -/

/-- What a timer of the queue is for. -/
inductive TimerKey where
  | debounce
  | retry
  deriving Repr, DecidableEq, Inhabited

/-- Timers are ordered by what they are for. -/
instance : Ord TimerKey :=
  ⟨compareOn fun | .debounce => 0 | .retry => 1⟩

/-- A build that runs. -/
inductive Running (τ : Type) where
  /-- It has not been decided yet which units it covers. -/
  | preparing (build : Nat) (priority : Priority)
  /-- The next unit has to be chosen; progress is reported under a number. -/
  | choosing (pass : Pass) (report : Nat)
  /-- A unit is worked on. -/
  | working (pass : Pass) (report : Nat) (unit : UnitId)
      (rest : Activity (BuildState τ) (Except BuildFault BuildState.Indexed))
  /-- A unit stands at a gate. -/
  | standing (pass : Pass) (report : Nat) (unit : UnitId) (at_ : UnitId)
      (rest : Activity (BuildState τ) (Except BuildFault BuildState.Indexed))

/-- What a queue is made of. -/
structure QueueSetup (τ : Type) where
  root : Path
  timing : BuildTiming
  storage : Analysis.Storage
  team : Collaborators τ

/-- **The build queue** (`BuildQueue`). -/
structure Queue (τ : Type) where
  setup : QueueSetup τ
  state : BuildState τ
  control : Control := {}
  dirty : DirtySet := .empty
  timers : Timers TimerKey Unit := .empty
  running : Option (Running τ) := none
  /-- What was told, the latest first. -/
  events : List BuildEvent := []
  progress : List ProgressEvent := []
  /-- The number of the next progress report. -/
  nextReport : Nat := 1

namespace Queue

variable {τ : Type}

/-- Tells an event (`emit`). -/
def tell (q : Queue τ) (e : BuildEvent) : Queue τ := { q with events := e :: q.events }

/-- Reports progress. -/
def report (q : Queue τ) (e : ProgressEvent) : Queue τ := { q with progress := e :: q.progress }

/-- Does what an action of control asks for. -/
def perform (q : Queue τ) : Effect → Queue τ
  | .tell e => q.tell e
  | .arm wait => { q with timers := q.timers.schedule .debounce wait () }
  | .disarm => { q with timers := q.timers.cancel .debounce }
  | .begin build p => { q with running := some (.preparing build p) }

/-- Carries out an action of control. -/
def act (q : Queue τ) (f : Control → Move) : Queue τ :=
  let m := f q.control
  m.effects.foldl perform { q with control := m.next }

/-- Marks units that have to be rebuilt whatever the files say. -/
def markUnits (q : Queue τ) (units : List UnitId) : Queue τ :=
  { q with dirty := units.foldl DirtySet.markUnit q.dirty }

/-! ## Layer B: from outside -/

/-- **Asks for a build.** -/
def request (q : Queue τ) (p : Priority) : Queue τ := q.act (·.request q.setup.timing p)

/-- The units that have to be rebuilt after a change of a file: those that compile it, and those
that turned out to read it. There is no answer if the project has to be discovered anew. -/
def concerned (q : Queue τ) (g : UnitGraph) (p : Path) : Option (KeySet UnitId) :=
  g.concerned (q.state.plans.learnedReaders p) p

/-- **Takes note of a changed file** (`file_changed`). -/
def fileChanged (q : Queue τ) (p : Path) : Queue τ :=
  match q.control.graph.bind fun g => (q.concerned g p).map fun us => (g, us) with
  | none => q.request .full
  | some (g, units) =>
    -- the marks are there before the request, so the build that it leads to covers them
    let q := { q with
      dirty := q.dirty.markFile p units.toList
      control := q.control.cancelQueued (g.affected units) }
    q.request .normal

/-- Takes note of new settings (`configuration_changed`). -/
def configurationChanged (q : Queue τ) (s : BuildSettings) : Queue τ :=
  let q := { q with state := { q.state with plans := (q.state.plans.setSettings s).1 } }
  q.request .full

/-- Ends all building (`shutdown`). -/
def close (q : Queue τ) : Queue τ :=
  let timers := (q.timers.cancel .debounce).cancel .retry
  { q with timers := timers }.act Control.close

/-- Opens the gate, and says for which unit. -/
def openGate (q : Queue τ) : Queue τ × Option UnitId :=
  match q.running with
  | some (.standing pass n u at_ rest) =>
    ({ q with running := some (.working pass n u rest) }, some at_)
  | _ => (q, none)

/-! ## Layer C: the beginning of a build -/

/-- Ends the running build. Builds take no time that shows. -/
def finish (q : Queue τ) (summary : Option BuildSummary) : Queue τ :=
  { q with running := none }.act (·.finishPass summary 0)

/-- Discovers the project. -/
def discover (q : Queue τ) : Queue τ × Except BuildFault UnitGraph :=
  -- no gate holds a discovery up, and it is wanted to its end
  let work := BuildState.atPlace (q.setup.team.discover q.setup.root).run
  let (state, r) := work.runThrough false q.state
  let q := { q with state := state }
  match r with
  | .error fault => (q, .error fault)
  | .ok m =>
    match UnitGraph.ofModel m with
    | .error fault => (q, .error (.configurationInvalid fault))
    | .ok g => (q, .ok g)

/-- Drops the records of units that the project no longer has. -/
def dropDeparted (x : Index) (g : UnitGraph) : Index :=
  (x.view.indexedUnits.filter fun u => !g.units.contains u).foldl (fun x u => (x.removeUnit u).1) x

/-- Follows a newly discovered project. -/
def adopt (q : Queue τ) (g : UnitGraph) : Queue τ :=
  { q with
    state := { q.state with
      -- every unit may be declared differently now, so no plan outlives the old project
      plans := q.state.plans.reset
      prebuilt := PrebuildRecord.retain q.state.prebuilt g
      index := dropDeparted q.state.index g }
    dirty := q.dirty.reclaim g
    control := { q.control with graph := some g } }

/-- Drops the plans of what has changed. -/
def dropStalePlans (q : Queue τ) : Queue τ :=
  let plans := q.state.plans.invalidate (.inputs q.dirty.dirtyFiles)
  -- a unit may be dirty although no file of its plan changed
  let plans := q.dirty.pendingUnits.toList.foldl (fun c u => c.invalidate (.unit u)) plans
  { q with state := { q.state with plans := plans } }

/-- Starts a pass over some units. -/
def startPass (q : Queue τ) (build : Nat) (p : Priority) (g : UnitGraph)
    (targets : KeySet UnitId) : Queue τ :=
  -- what is marked from here on is left to the next build
  let pass := Pass.new build p g targets q.dirty.ticket
  let title := "Indexing " ++ toString pass.order.length ++ " unit(s)"
  let q := { q with
    control := q.control.queueUnits p pass.order
    running := some (.choosing pass q.nextReport)
    nextReport := q.nextReport + 1 }
  (q.tell (.started build p pass.order)).report (.began (q.nextReport - 1) title)

/-- **Decides which units a build covers.** A normal build of a project that was never discovered is
a full one. -/
def prepare (q : Queue τ) (build : Nat) (p : Priority) : Queue τ :=
  match p, q.control.graph with
  | .normal, some g =>
    (q.dropStalePlans).startPass build .normal g (g.affected q.dirty.pendingUnits)
  | _, _ =>
    match q.discover with
    | (q, .ok g) => (q.adopt g).startPass build .full g g.unitIds
    -- being called off says nothing about the project, so it is no reason to halt
    | (q, .error .cancelled) => q.finish none
    | (q, .error fault) => (q.act (·.halt fault)).finish none

/-! ## Layer D: units -/

/-- Skips a unit and what waits for it. -/
def skip (q : Queue τ) (pass : Pass) (u : UnitId) : Queue τ × Pass :=
  let (skipped, pass) := pass.skip u
  (q.markUnits skipped, pass)

/-- Ends a pass in which no unit is left to start. -/
def endPass (q : Queue τ) (pass : Pass) (n : Nat) : Queue τ :=
  let (rest, pass) := pass.skipRest
  let message := toString pass.indexed.length ++ " indexed, " ++ toString pass.failed.length
    ++ " failed"
  ((q.markUnits rest).report (.ended n (some message))).finish (some pass.summary)

/-- Starts the next unit of a pass, or skips it if it was cancelled (`submit`). -/
def choose (q : Queue τ) (pass : Pass) (n : Nat) : Queue τ :=
  match pass.next? with
  | none => q.endPass pass n
  | some (u, pass) =>
    -- a unit that has left the queue cannot be cancelled any more
    let startable := q.control.mayStart u
    let q := { q with control := q.control.dequeue u }
    match pass.graph.unit? u, startable with
    | some unit, true =>
      let work := BuildState.indexUnit q.setup.storage q.setup.team pass.graph unit
      { q with running := some (.working pass n u work.run) }
    | _, _ =>
      let (q, pass) := q.skip pass u
      { q with running := some (.choosing pass.count n) }

/-- Plans another attempt at a unit that failed, if it has any left (`schedule_retry`). -/
def scheduleRetry (q : Queue τ) (u : UnitId) : Queue τ :=
  let q := { q with control := q.control.countFailure u }
  -- all units share one timer, and the last one to fail sets it
  let attempt := q.control.attempts.getD u 0
  if q.setup.timing.maxRetries < attempt then q
  else { q with timers := q.timers.schedule .retry (q.setup.timing.backoff attempt) () }

/-- **Takes note of how a unit ended** (`unit_failed`). -/
def noteResult (q : Queue τ) (pass : Pass) (u : UnitId) :
    Except BuildFault BuildState.Indexed → Queue τ × Pass
  | .ok x =>
    let q := { q with
      dirty := q.dirty.complete u pass.ticket
      control := q.control.forgetFailures u }
    ((q.tell (.indexed pass.build u x)).tell (.diagnostics u x.diagnostics), pass.noteIndexed u)
  | .error .cancelled => q.skip pass u
  | .error fault =>
    -- the marks it was built for are settled; a mark of its own keeps it dirty
    let q := { q with dirty := (q.dirty.complete u pass.ticket).markUnit u }
    let q := if fault.isTransient then q.scheduleRetry u else q
    (q.tell (.failed pass.build u fault), pass.noteFailed u)

/-- Works on a unit to its end or to a gate. -/
def work (q : Queue τ) (pass : Pass) (n : Nat) (u : UnitId)
    (rest : Activity (BuildState τ) (Except BuildFault BuildState.Indexed)) : Queue τ :=
  match rest.run q.control.shutdown q.state with
  | (state, .standing at_ rest) =>
    { q with state := state, running := some (.standing pass n u at_ rest) }
  | (state, .finished r) =>
    -- the unit counts as finished in the report that tells of it
    let pass := pass.count
    let q := { q with state := state }.report
      (.fraction n (some u.display) pass.finished pass.order.length)
    let (q, pass) := q.noteResult pass u r
    { q with running := some (.choosing pass n) }

/-! ## Layer E: going on -/

/-- What is waited for beyond the end of what is going on. -/
structure Horizon where
  /-- That so many builds have begun. -/
  builds : Nat := 0
  /-- That it is so late. -/
  time : Nat := 0
  deriving Repr, DecidableEq, Inhabited

/-- Waits of at least so many milliseconds never end while the queue goes on by itself. -/
def patience : Nat := 10000

/-- Whether a build is about to start. Another attempt at a failed unit does not count. -/
def isDebouncing (q : Queue τ) : Bool :=
  q.timers.waiting.any fun t => t.key == .debounce && t.due < q.timers.now + patience

/-- The time by which timers run out. -/
def timerLimit (q : Queue τ) (h : Horizon) : Nat :=
  if q.isDebouncing || q.control.builds < h.builds then
    -- a build that is to start soon is worth waiting for
    max h.time (q.timers.now + (patience - 1))
  else h.time

/-- Lets the first timer run out, if anything waits for one. -/
def fireTimer? (q : Queue τ) (h : Horizon) : Option (Queue τ) :=
  (q.timers.firstDue (q.timerLimit h)).map fun t =>
    let q := { q with timers := q.timers.fire t }
    match t.key with
    | .debounce => q.act Control.debounceFired
    | .retry => q.act Control.retryFired

/-- **One step of the queue**, if it has anything to do but wait. -/
def step? (q : Queue τ) (h : Horizon) : Option (Queue τ) :=
  match q.running with
  | some (.preparing build p) => some (q.prepare build p)
  | some (.choosing pass n) => some (q.choose pass n)
  | some (.working pass n u rest) => some (q.work pass n u rest)
  -- time goes on while a unit stands at a gate
  | some (.standing _ _ _ _ _) => q.fireTimer? h
  | none => q.fireTimer? h

/-- Goes on until there is nothing to do but wait, for at most so many steps. -/
def goOn (h : Horizon) : Nat → Queue τ → Queue τ
  | 0, q => q
  | fuel + 1, q =>
    match q.step? h with
    | none => q
    | some q => goOn h fuel q

/-- More steps than the queue takes between two requests. -/
def stepLimit : Nat := 1000000

/-- **Goes on until there is nothing to do but wait.** -/
def settle (q : Queue τ) (h : Horizon) : Queue τ := q.goOn h stepLimit

/-- **Lets milliseconds pass.** -/
def letPass (q : Queue τ) (duration : Nat) : Queue τ :=
  let time := q.timers.now + duration
  let q := q.settle { time := time }
  { q with timers := { q.timers with now := max q.timers.now time } }

/-- Waits for the queue to come to rest, and says whether it did (`wait_until_idle`). -/
def awaitRest (q : Queue τ) (duration : Nat) : Queue τ × Bool :=
  if q.control.isIdle then (q, true)
  else
    let q := q.letPass duration
    (q, q.control.isIdle)

end Queue

end CodeAtlas
