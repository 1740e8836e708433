import CodeAtlas.Command.Basic
import CodeAtlas.Ordered.KeySet
import CodeAtlas.Unit

/-!
# Project models

What the discovery of a project reports: its compilation units and the files that shape them.
-/

namespace CodeAtlas

/-- A code generation step that has to run before a unit is analyzed. -/
structure PrebuildStep where
  name : String
  command : CommandSpec
  /-- The files whose contents decide whether the step has to run again. -/
  inputs : List Path
  outputs : List Path
  deriving Repr, DecidableEq, Inhabited

/-- **A unit as the project declares it.** -/
structure CompilationUnit where
  id : UnitId
  rootFile : Path
  /-- The directory that owns the unit's sources. -/
  srcRoot : Path
  /-- Declared inputs besides the root file. -/
  inputs : List Path
  features : KeySet String
  target : Option String
  deps : List UnitId
  /-- Members are analyzed in process and are rebuilt with what they depend on. -/
  member : Bool
  prebuild : List PrebuildStep
  deriving Repr, DecidableEq

namespace CompilationUnit

/-- A member whose sources lie beside its root file. -/
def new (id : UnitId) (rootFile : Path) : CompilationUnit :=
  { id := id
    rootFile := rootFile
    srcRoot := rootFile.parent?.getD ⟨""⟩
    inputs := []
    features := KeySet.empty
    target := none
    deps := []
    member := true
    prebuild := [] }

instance : Inhabited CompilationUnit := ⟨new default ⟨""⟩⟩

/-- The declared inputs and the root file, in order and without repetition (`all_inputs`). -/
def allInputs (u : CompilationUnit) : List Path :=
  ((KeySet.ofList u.inputs).insert u.rootFile).toList

end CompilationUnit

/-- **A project.** -/
structure ProjectModel where
  root : Path
  units : List CompilationUnit
  /-- Files after whose change the project has to be discovered anew. -/
  manifests : List Path
  /-- Inputs and outputs of build scripts, with the same effect. -/
  buildScriptFiles : List Path
  deriving Repr, DecidableEq

/-- Why a project is unfit. -/
inductive ModelFault where
  | duplicateUnit (unit : UnitId)
  | unknownDependency (unit dependency : UnitId)
  | cycle
  /-- The discovery itself broke down. -/
  | discoveryPanicked (message : String)
  /-- The discovery refused the project for a reason of its own. -/
  | refused (reason : String)
  deriving Repr, DecidableEq, Inhabited

namespace ModelFault

/-- The wording of a fault. -/
def message : ModelFault → String
  | .duplicateUnit u => "unit " ++ u.display ++ " is declared twice"
  | .unknownDependency u d => u.display ++ " depends on unknown unit " ++ d.display
  | .cycle => "unit dependency graph has a cycle"
  | .discoveryPanicked message => "project discovery failed: task panicked: " ++ message
  | .refused reason => reason

end ModelFault

namespace ProjectModel

instance : Inhabited ProjectModel := ⟨⟨⟨""⟩, [], [], []⟩⟩

/-- The first unit identity that occurs twice. -/
def firstRepeated (seen : List UnitId) : List UnitId → Option UnitId
  | [] => none
  | u :: rest => if seen.contains u then some u else firstRepeated (u :: seen) rest

/-- The first dependency of a unit that is not among the known ones. -/
def firstUnknown (known : List UnitId) (u : CompilationUnit) : Option ModelFault :=
  (u.deps.find? fun d => !known.contains d).map fun d => .unknownDependency u.id d

/-- **Rejects units that are declared twice and dependencies on unknown units.** -/
def validate (m : ProjectModel) : Except ModelFault Unit :=
  let ids := m.units.map (·.id)
  match firstRepeated [] ids with
  | some u => .error (.duplicateUnit u)
  | none =>
    match m.units.findSome? (firstUnknown ids) with
    | some fault => .error fault
    | none => .ok ()

end ProjectModel

end CodeAtlas
