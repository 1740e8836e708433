import CodeAtlas.Project.Model
import CodeAtlas.Snapshot.Json

/-!
# Project models as JSON
-/

namespace CodeAtlas

open Json

/-- Reads a table of texts. -/
def asTextTable : Json → Except DecodeFault (Table String String)
  | .obj members => do
    let entries ← members.mapM fun m => do
      match m.1 with
      | some k => do
        let v ← asText "a string" m.2
        pure (k, v)
      | none => throw .unpairedSurrogate
    pure (Table.ofList entries)
  | v => v.refuse "a map"

namespace CommandSpec

/-- A command as JSON. -/
def toJson (c : CommandSpec) : Json :=
  .ofFields
    [("cwd", c.cwd.toJson), ("program", c.program.toJson), ("args", .ofList .text c.args),
     ("env", .ofFields (c.env.entries.map fun e => (e.1, .text e.2)))]

/-- How a command is read. -/
def shape : RecordShape CommandSpec where
  title := "struct CommandSpec"
  fields :=
    [("cwd", fit Path.ofJson), ("program", fit Path.ofJson),
     ("args", fit (asList (asText "a string"))), ("env", fit asTextTable)]
  build f := do
    let cwd ← f.required "cwd" Path.ofJson
    let program ← f.required "program" Path.ofJson
    let args ← f.required "args" (asList (asText "a string"))
    let env ← f.defaulted "env" Table.empty asTextTable
    pure ⟨cwd, program, args, env⟩
  closed := false
  exactLength := true

end CommandSpec

namespace PrebuildStep

/-- A step as JSON. -/
def toJson (s : PrebuildStep) : Json :=
  .ofFields
    [("name", .text s.name), ("command", s.command.toJson),
     ("inputs", .ofList Path.toJson s.inputs), ("outputs", .ofList Path.toJson s.outputs)]

/-- How a step is read. -/
def shape : RecordShape PrebuildStep where
  title := "struct PrebuildStep"
  fields :=
    [("name", fit (asText "a string")), ("command", fit CommandSpec.shape.decode),
     ("inputs", fit (asList Path.ofJson)), ("outputs", fit (asList Path.ofJson))]
  build f := do
    let name ← f.required "name" (asText "a string")
    let command ← f.required "command" CommandSpec.shape.decode
    let inputs ← f.required "inputs" (asList Path.ofJson)
    let outputs ← f.required "outputs" (asList Path.ofJson)
    pure ⟨name, command, inputs, outputs⟩
  closed := false
  exactLength := true

end PrebuildStep

namespace CompilationUnit

/-- A unit as JSON. -/
def toJson (u : CompilationUnit) : Json :=
  .ofFields
    [("id", u.id.toJson), ("root_file", u.rootFile.toJson), ("src_root", u.srcRoot.toJson),
     ("inputs", .ofList Path.toJson u.inputs), ("features", .ofList .text u.features.toList),
     ("target", textJson? u.target), ("deps", .ofList UnitId.toJson u.deps),
     ("member", .bool u.member), ("prebuild", .ofList PrebuildStep.toJson u.prebuild)]

/-- How a unit is read. -/
def shape : RecordShape CompilationUnit where
  title := "struct CompilationUnit"
  fields :=
    [("id", fit UnitId.ofJson), ("root_file", fit Path.ofJson), ("src_root", fit Path.ofJson),
     ("inputs", fit (asList Path.ofJson)), ("features", fit (asList (asText "a string"))),
     ("target", fit (asOption (asText "a string"))), ("deps", fit (asList UnitId.ofJson)),
     ("member", fit asBool), ("prebuild", fit (asList PrebuildStep.shape.decode))]
  build f := do
    let id ← f.required "id" UnitId.ofJson
    let rootFile ← f.required "root_file" Path.ofJson
    let srcRoot ← f.required "src_root" Path.ofJson
    let inputs ← f.defaulted "inputs" [] (asList Path.ofJson)
    let features ← f.defaulted "features" [] (asList (asText "a string"))
    let target ← f.defaulted "target" none (asOption (asText "a string"))
    let deps ← f.defaulted "deps" [] (asList UnitId.ofJson)
    let member ← f.defaulted "member" true asBool
    let prebuild ← f.defaulted "prebuild" [] (asList PrebuildStep.shape.decode)
    pure ⟨id, rootFile, srcRoot, inputs, KeySet.ofList features, target, deps, member, prebuild⟩
  closed := false
  exactLength := true

end CompilationUnit

namespace ProjectModel

/-- A project as JSON. -/
def toJson (m : ProjectModel) : Json :=
  .ofFields
    [("root", m.root.toJson), ("units", .ofList CompilationUnit.toJson m.units),
     ("manifests", .ofList Path.toJson m.manifests),
     ("build_script_files", .ofList Path.toJson m.buildScriptFiles)]

/-- How a project is read. -/
def shape : RecordShape ProjectModel where
  title := "struct ProjectModel"
  fields :=
    [("root", fit Path.ofJson), ("units", fit (asList CompilationUnit.shape.decode)),
     ("manifests", fit (asList Path.ofJson)), ("build_script_files", fit (asList Path.ofJson))]
  build f := do
    let root ← f.required "root" Path.ofJson
    let units ← f.required "units" (asList CompilationUnit.shape.decode)
    let manifests ← f.defaulted "manifests" [] (asList Path.ofJson)
    let buildScriptFiles ← f.defaulted "build_script_files" [] (asList Path.ofJson)
    pure ⟨root, units, manifests, buildScriptFiles⟩
  closed := false
  exactLength := true

end ProjectModel

end CodeAtlas
