import CodeAtlas.Build.Analysis
import CodeAtlas.Build.Plan
import CodeAtlas.Index.Basic

/-!
# Indexing a unit

A unit goes through code generation, planning and analysis into the index. If the analysis read
files that the plan does not account for, they are learned, and the unit is analyzed once more by a
plan that does. A code generation step runs again only if its command or the contents of its inputs
differ from those of its last good run.

## Architecture

- **Layer A**: records of code generation;
- **Layer B**: the state that all units share;
- **Layer C**: code generation;
- **Layer D**: planning and analyzing;
- **Layer E**: the whole way into the index.
-/

namespace CodeAtlas

/-! ## Layer A: records of code generation -/

/-- A step of a unit. -/
structure StepKey where
  unit : UnitId
  step : String
  deriving Repr, DecidableEq, Inhabited

/-- Steps are ordered by unit, then by name. -/
instance : Ord StepKey := ⟨compareLex (compareOn StepKey.unit) (compareOn StepKey.step)⟩

/-- **What each step last ran on** (`PrebuildRunner`). -/
abbrev PrebuildRecord := Table StepKey Fingerprint

namespace PrebuildStep

/-- The fingerprint of what a step runs on. -/
def fingerprint (h : Hash) (read : SourceReader) (s : PrebuildStep) :
    Except BuildFault Fingerprint := do
  let fields ← contentFields read s.inputs
  pure (.ofFields h (Fingerprint.textField s.command.display :: fields))

end PrebuildStep

namespace PrebuildRecord

/-- Whether a step already ran on what a fingerprint stands for. -/
def isCurrent (r : PrebuildRecord) (k : StepKey) (f : Fingerprint) : Bool := r.get? k == some f

/-- Whether a project declares a step. -/
def isDeclared (g : UnitGraph) (k : StepKey) : Bool :=
  (g.unit? k.unit).any fun u => u.prebuild.any fun s => s.name == k.step

/-- Forgets steps that a project does not declare. -/
def retain (r : PrebuildRecord) (g : UnitGraph) : PrebuildRecord :=
  r.filter fun k _ => isDeclared g k

/-- What the outcome of a step's command means for its unit. -/
def verdict (u : UnitId) (s : PrebuildStep) (o : CommandOutput) : Except BuildFault Unit :=
  if o.cancelled then .error .cancelled
  else if o.timedOut || !o.status.success then
    .error (.crash u (.prebuild s.name o.status o.stderr))
  else .ok ()

end PrebuildRecord

/-! ## Layer B: the shared state -/

/-- **What the units of a build share** (`Pipeline`). -/
structure BuildState (τ : Type) where
  place : Workplace τ
  plans : PlanCache := .new {}
  prebuilt : PrebuildRecord := .empty
  index : Index := .empty

namespace BuildState

variable {τ α : Type}

/-- Work of a collaborator as work on the whole state. -/
def atPlace (a : Activity (Workplace τ) α) : Activity (BuildState τ) α :=
  a.within place fun s p => { s with place := p }

/-! ## Layer C: code generation -/

/-- Runs a step if it has to run, and says whether it did. -/
def runStep (h : Hash) (t : Collaborators τ) (u : UnitId) (step : PrebuildStep) :
    Work (BuildState τ) Bool := do
  let s ← (Activity.current : Activity (BuildState τ) (BuildState τ))
  let f ← (step.fingerprint h s.place.read : Except BuildFault Fingerprint)
  -- nothing that the step rests on has changed since its last good run
  if PrebuildRecord.isCurrent s.prebuilt ⟨u, step.name⟩ f then return false
  match ← (atPlace (t.run step.command) :
      Activity (BuildState τ) (Except IoFault CommandOutput)) with
  | .error fault => throw (.io fault)
  | .ok o =>
    (PrebuildRecord.verdict u step o : Except BuildFault Unit)
    -- kept is what the step ran on, not what it may have made of its own inputs
    (Activity.modify fun s : BuildState τ =>
      { s with prebuilt := s.prebuilt.insert ⟨u, step.name⟩ f })
    return true

/-- **Runs the steps of a unit that have to run**, and counts them (`run_for`). -/
def runSteps (h : Hash) (t : Collaborators τ) (u : UnitId) :
    List PrebuildStep → Work (BuildState τ) Nat
  | [] => pure 0
  | step :: rest => do
    -- a step that fails ends the work on the unit, and those behind it do not run
    let ran ← runStep h t u step
    let more ← runSteps h t u rest
    pure (more + ran.toNat)

/-! ## Layer D: planning and analyzing -/

/-- The plan of a unit. -/
def plan (h : Hash) (g : UnitGraph) (u : CompilationUnit) : Work (BuildState τ) Plan :=
  .mk (.transform fun s =>
    let (plans, r) := s.plans.planFor h s.place.read g u
    ({ s with plans := plans }, r))

/-- Learns what an analysis read beyond its plan, and says whether any of it is new. -/
def learn (u : CompilationUnit) (p : Plan) (a : Analysis) : Activity (BuildState τ) Bool :=
  match Analysis.undeclaredReads u p a with
  | [] => pure false
  | reads => .transform fun s =>
    let (plans, new) := s.plans.learnInputs u.id reads
    ({ s with plans := plans }, new)

/-- Plans and analyzes a unit, unless the result is no longer wanted. -/
def examine (st : Analysis.Storage) (t : Collaborators τ) (g : UnitGraph) (u : CompilationUnit) :
    Work (BuildState τ) (Analysis × Bool) := do
  -- asked before every round, since a round is the longest part of the work
  if ← (Activity.isUnwanted : Activity (BuildState τ) Bool) then throw .cancelled
  let p ← plan st.hash g u
  let a ← ExceptT.mk (atPlace (Analysis.make st t u p).run)
  let new ← (learn u p a : Activity (BuildState τ) Bool)
  pure (a, new)

/-- Analyzes a unit again, at most so many times, while its plan turns out to miss something. -/
def examineAgain (st : Analysis.Storage) (t : Collaborators τ) (g : UnitGraph)
    (u : CompilationUnit) : Nat → Work (BuildState τ) Analysis
  -- no round is left, so the analysis counts whatever its plan may miss
  | 0 => return (← examine st t g u).1
  | n + 1 => do
    let (a, new) ← examine st t g u
    if new then examineAgain st t g u n else pure a

/-! ## Layer E: into the index -/

/-- What the index took in (`IndexedUnit`). -/
structure Indexed where
  stats : MergeStats
  source : AnalysisSource
  compileErrors : Nat
  diagnostics : List Diagnostic
  deriving Repr, DecidableEq, Inhabited

/-- Replaces a unit's records by those of its analysis. -/
def takeIn (a : Analysis) : Work (BuildState τ) Indexed :=
  .mk (.transform fun s =>
    -- a snapshot that is rejected leaves the index as it was
    let (index, r) := s.index.merge a.unit a.snapshot
    ({ s with index := index },
      match r with
      | .error fault => .error (.crash a.unit (.rejected fault))
      | .ok stats => .ok ⟨stats, a.source, a.compileErrors, a.snapshot.diagnostics⟩))

/-- **Brings a unit into the index** (`analyze_unit`). -/
def indexUnit (st : Analysis.Storage) (t : Collaborators τ) (g : UnitGraph)
    (u : CompilationUnit) : Work (BuildState τ) Indexed := do
  let _ ← runSteps st.hash t u.id u.prebuild
  takeIn (← examineAgain st t g u 1)

end BuildState

end CodeAtlas
