import CodeAtlas.Build.Indexing

/-!
# Events of the build queue

What the queue tells those who listen to it.
-/

namespace CodeAtlas

/-- How much a build covers. -/
inductive Priority where
  /-- Units that have to be rebuilt, and the members that depend on them. -/
  | normal
  /-- The project is discovered anew, and all of it is built. -/
  | full
  deriving Repr, DecidableEq, Inhabited

namespace Priority

/-- The written name of a priority. -/
def name : Priority → String
  | .normal => "Normal"
  | .full => "Full"

/-- The larger of what is wanted already, if anything, and a further priority. -/
def atLeast (wanted : Option Priority) (p : Priority) : Priority :=
  if wanted == some .full then .full else p

end Priority

/-- What the queue is doing (`QueueState`). -/
inductive Phase where
  | idle
  /-- Changes are collected before a build starts. -/
  | debouncing
  | building
  /-- Another build starts when the present one ends. -/
  | queuedRebuild
  deriving Repr, DecidableEq, Inhabited

/-- The written name of a phase. -/
def Phase.name : Phase → String
  | .idle => "Idle"
  | .debouncing => "Debouncing"
  | .building => "Building"
  | .queuedRebuild => "QueuedRebuild"

/-- What became of the units of a build. -/
structure BuildSummary where
  build : Nat
  priority : Priority
  indexed : List UnitId
  failed : List UnitId
  /-- Units that were cancelled, and units behind cancelled ones. -/
  skipped : List UnitId
  deriving Repr, DecidableEq, Inhabited

/-- Whether all units were indexed (`is_clean`). -/
def BuildSummary.isClean (s : BuildSummary) : Bool := s.failed.isEmpty && s.skipped.isEmpty

/-- **An event of the build queue.** -/
inductive BuildEvent where
  | started (build : Nat) (priority : Priority) (units : List UnitId)
  | indexed (build : Nat) (unit : UnitId) (result : BuildState.Indexed)
  /-- The analysis that a unit had before is still served. -/
  | failed (build : Nat) (unit : UnitId) (fault : BuildFault)
  | diagnostics (unit : UnitId) (list : List Diagnostic)
  | finished (summary : BuildSummary)
  /-- Nothing is built until the project is discovered anew. -/
  | configurationInvalid (reason : String)
  | entered (phase : Phase)
  deriving Repr, DecidableEq, Inhabited

end CodeAtlas
