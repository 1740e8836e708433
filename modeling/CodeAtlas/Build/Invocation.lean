import CodeAtlas.Project.Graph
import CodeAtlas.Snapshot.Json

/-!
# Invocations

The command that analyzes a unit, with the files it reads and writes. The command asks the compiler
for analysis data and for nothing else.

## Architecture

- **Layer A**: settings of a build, and what an invocation is;
- **Layer B**: names of units and of their artifacts;
- **Layer C**: the arguments of the command.
-/

namespace CodeAtlas

/-! ## Layer A: settings -/

/-- **Settings that are part of every plan.** -/
structure BuildSettings where
  /-- The compiler that analyzes units outside the workspace. -/
  compiler : Path := ⟨"rustc"⟩
  edition : String := "2021"
  target : Option String := none
  extraArgs : List String := []
  /-- Where artifacts go; a relative path is meant below the root of the project. -/
  outDir : Path := ⟨"target/kiln"⟩
  deriving Repr, DecidableEq, Inhabited

namespace BuildSettings

/-- Whether two settings mean the same; paths are compared by their components. -/
def same (a b : BuildSettings) : Bool :=
  a.compiler.same b.compiler && a.edition == b.edition && a.target == b.target
    && a.extraArgs == b.extraArgs && a.outDir.same b.outDir

/-- Settings as JSON. -/
def toJson (s : BuildSettings) : Json :=
  .ofFields
    [("rustc", s.compiler.toJson), ("edition", .text s.edition), ("target", textJson? s.target),
     ("extra_args", .ofList .text s.extraArgs), ("out_dir", s.outDir.toJson)]

end BuildSettings

/-- **All that is needed to analyze a unit.** -/
structure Invocation where
  command : CommandSpec
  inputs : List Path
  outputs : List Path
  deriving Repr, DecidableEq, Inhabited

/-! ## Layer B: names -/

namespace UnitId

/-- The name under which the compiler knows a unit (`crate_name`). -/
def crateName (u : UnitId) : String :=
  String.ofList (u.target.toList.map fun c => if c = '-' then '_' else c)

end UnitId

namespace Invocation

/-- The directory in which the artifacts of a unit lie (`unit_out_dir`). -/
def outDir (root : Path) (s : BuildSettings) (u : UnitId) : Path :=
  (root.join s.outDir).child (u.crateName ++ "-" ++ u.kind.name)

/-- The artifact that stands for a unit where others depend on it. -/
def artifact (root : Path) (s : BuildSettings) (u : UnitId) : Path :=
  (outDir root s u).child ("lib" ++ u.crateName ++ ".rmeta")

/-! ## Layer C: arguments -/

/-- What is built of a unit. -/
def kindArgs : UnitKind → List String
  | .test | .bench => ["--test"]
  | .lib => ["--crate-type", "lib"]
  | .bin | .sample | .buildScript => ["--crate-type", "bin"]

/-- The arguments for the features of a unit. -/
def featureArgs (features : KeySet String) : List String :=
  features.toList.flatMap fun f => ["--cfg", "feature=\"" ++ f ++ "\""]

/-- The arguments for a target; the one of a unit goes before that of the settings. -/
def targetArgs (u : CompilationUnit) (s : BuildSettings) : List String :=
  match u.target <|> s.target with
  | some target => ["--target", target]
  | none => []

/-- The arguments that say where the dependencies of a unit are. -/
def dependencyArgs (root : Path) (s : BuildSettings) (deps : List UnitId) : List String :=
  deps.flatMap fun d => ["--extern", d.crateName ++ "=" ++ (artifact root s d).text]

/-- All arguments. -/
def args (root : Path) (s : BuildSettings) (u : CompilationUnit) : List String :=
  ["--crate-name", u.id.crateName, "--edition", s.edition, u.rootFile.text]
    ++ kindArgs u.id.kind ++ featureArgs u.features ++ targetArgs u s
    ++ dependencyArgs root s u.deps
    ++ ["--emit=metadata", "--error-format=json", "-Zsave-analysis",
        "--out-dir", (outDir root s u.id).text]
    ++ s.extraArgs

/-- **The invocation of a unit** in the project at a root (`generate`). -/
def of (root : Path) (s : BuildSettings) (u : CompilationUnit) (inputs : List Path) :
    Invocation :=
  { command :=
      { cwd := root
        program := s.compiler
        args := args root s u
        env := Table.ofList
          [("CARGO_PKG_NAME", u.id.package), ("CARGO_CRATE_NAME", u.id.crateName)] }
    inputs := inputs
    outputs := [artifact root s u.id] }

end Invocation

end CodeAtlas
