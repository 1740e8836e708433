import CodeAtlas.Json.Decode
import CodeAtlas.Json.Reader
import CodeAtlas.Json.Writer
import CodeAtlas.Snapshot.Record

/-!
# Snapshots as JSON

The text in which a toolchain hands over a snapshot. Writing gives every field in declaration
order; reading accepts any order, ignores unknown members and supplies the defaults of fields that
are left out.

## Architecture

- **Layer A**: identities, positions and diagnostics;
- **Layer B**: the records of a snapshot;
- **Layer C**: whole snapshots as text.
-/

namespace CodeAtlas

open Json

/-! ## Layer A: identities, positions and diagnostics -/

namespace UnitKind

/-- All kinds with their written names, in order. -/
def choices : List (String × UnitKind) := all.map fun k => (k.name, k)

end UnitKind

namespace UnitId

/-- A unit as JSON. -/
def toJson (u : UnitId) : Json :=
  .ofFields [("package", .text u.package), ("target", .text u.target), ("kind", .text u.kind.name)]

/-- How a unit is read. -/
def shape : RecordShape UnitId where
  title := "struct UnitId"
  fields :=
    [("package", fit (asText "a string")), ("target", fit (asText "a string")),
     ("kind", fit (asChoice UnitKind.choices))]
  build f := do
    let package ← f.required "package" (asText "a string")
    let target ← f.required "target" (asText "a string")
    let kind ← f.required "kind" (asChoice UnitKind.choices)
    pure ⟨package, target, kind⟩
  closed := false
  exactLength := true

/-- Reads a unit. -/
def ofJson : Json → Except DecodeFault UnitId := shape.decode

end UnitId

namespace Path

/-- A path as JSON. -/
def toJson (p : Path) : Json := .text p.text

/-- Reads a path. -/
def ofJson (v : Json) : Except DecodeFault Path := (asText "path string" v).map Path.mk

end Path

/-- A 32-bit number as JSON. -/
def wordJson (n : UInt32) : Json := .nat n.toNat

/-- A text that may be missing as JSON. -/
def textJson? : Option String → Json := .ofOption .text

namespace Position

/-- A position as JSON. -/
def toJson (p : Position) : Json :=
  .ofFields [("line", wordJson p.line), ("character", wordJson p.character)]

/-- How a position is read. -/
def shape : RecordShape Position where
  title := "struct Position"
  fields := [("line", fit asWord32), ("character", fit asWord32)]
  build f := do
    let line ← f.required "line" asWord32
    let character ← f.required "character" asWord32
    pure ⟨line, character⟩
  closed := false
  exactLength := true

end Position

namespace Range

/-- A range as JSON. -/
def toJson (r : Range) : Json := .ofFields [("start", r.start.toJson), ("end", r.stop.toJson)]

/-- How a range is read. -/
def shape : RecordShape Range where
  title := "struct Range"
  fields := [("start", fit Position.shape.decode), ("end", fit Position.shape.decode)]
  build f := do
    let start ← f.required "start" Position.shape.decode
    let stop ← f.required "end" Position.shape.decode
    pure ⟨start, stop⟩
  closed := false
  exactLength := true

end Range

namespace Severity

/-- All severities with their written names, in order. -/
def choices : List (String × Severity) := all.map fun v => (v.name, v)

end Severity

namespace Diagnostic

/-- A diagnostic as JSON. -/
def toJson (d : Diagnostic) : Json :=
  .ofFields
    [("file", d.file.toJson), ("range", d.range.toJson), ("severity", .text d.severity.name),
     ("message", .text d.message), ("code", textJson? d.code), ("source", textJson? d.source)]

/-- How a diagnostic is read. -/
def shape : RecordShape Diagnostic where
  title := "struct Diagnostic"
  fields :=
    [("file", fit Path.ofJson), ("range", fit Range.shape.decode),
     ("severity", fit (asChoice Severity.choices)), ("message", fit (asText "a string")),
     ("code", fit (asOption (asText "a string"))), ("source", fit (asOption (asText "a string")))]
  build f := do
    let file ← f.required "file" Path.ofJson
    let range ← f.required "range" Range.shape.decode
    let severity ← f.required "severity" (asChoice Severity.choices)
    let message ← f.required "message" (asText "a string")
    let code ← f.defaulted "code" none (asOption (asText "a string"))
    let source ← f.defaulted "source" none (asOption (asText "a string"))
    pure ⟨file, range, severity, message, code, source⟩
  closed := false
  exactLength := true

end Diagnostic

/-! ## Layer B: the records of a snapshot -/

namespace LocalId

/-- An identifier as JSON. -/
def toJson (i : LocalId) : Json :=
  .ofFields [("unit", wordJson i.unit), ("index", wordJson i.index)]

/-- How an identifier is read. -/
def shape : RecordShape LocalId where
  title := "struct RawId"
  fields := [("unit", fit asWord32), ("index", fit asWord32)]
  build f := do
    let unit ← f.required "unit" asWord32
    let index ← f.required "index" asWord32
    pure ⟨unit, index⟩
  closed := false
  exactLength := true

/-- Reads an identifier. -/
def ofJson : Json → Except DecodeFault LocalId := shape.decode

end LocalId

namespace RawSpan

/-- A place as JSON. -/
def toJson (s : RawSpan) : Json :=
  .ofFields
    [("file_name", s.fileName.toJson), ("byte_start", wordJson s.byteStart),
     ("byte_end", wordJson s.byteEnd), ("line_start", wordJson s.lineStart),
     ("line_end", wordJson s.lineEnd), ("column_start", wordJson s.columnStart),
     ("column_end", wordJson s.columnEnd)]

/-- How a place is read. -/
def shape : RecordShape RawSpan where
  title := "struct RawSpan"
  fields :=
    [("file_name", fit Path.ofJson), ("byte_start", fit asWord32), ("byte_end", fit asWord32),
     ("line_start", fit asWord32), ("line_end", fit asWord32), ("column_start", fit asWord32),
     ("column_end", fit asWord32)]
  build f := do
    let fileName ← f.required "file_name" Path.ofJson
    let byteStart ← f.required "byte_start" asWord32
    let byteEnd ← f.required "byte_end" asWord32
    let lineStart ← f.required "line_start" asWord32
    let lineEnd ← f.required "line_end" asWord32
    let columnStart ← f.required "column_start" asWord32
    let columnEnd ← f.required "column_end" asWord32
    pure ⟨fileName, byteStart, byteEnd, lineStart, lineEnd, columnStart, columnEnd⟩
  closed := false
  exactLength := true

end RawSpan

namespace RawDef

/-- A definition as JSON. -/
def toJson (d : RawDef) : Json :=
  .ofFields
    [("kind", .text d.kind.name), ("id", d.id.toJson), ("span", d.span.toJson),
     ("name", .text d.name), ("qualname", .text d.qualname), ("signature", textJson? d.signature),
     ("docs", .text d.docs), ("parent", .ofOption LocalId.toJson d.parent),
     ("children", .ofList LocalId.toJson d.children),
     ("decl_id", .ofOption LocalId.toJson d.declId)]

/-- How a definition is read. -/
def shape : RecordShape RawDef where
  title := "struct RawDef"
  fields :=
    [("kind", fit (asChoice DefKind.names)), ("id", fit LocalId.ofJson),
     ("span", fit RawSpan.shape.decode), ("name", fit (asText "a string")),
     ("qualname", fit (asText "a string")), ("signature", fit (asOption (asText "a string"))),
     ("docs", fit (asText "a string")), ("parent", fit (asOption LocalId.ofJson)),
     ("children", fit (asList LocalId.ofJson)), ("decl_id", fit (asOption LocalId.ofJson))]
  build f := do
    let kind ← f.required "kind" (asChoice DefKind.names)
    let id ← f.required "id" LocalId.ofJson
    let span ← f.required "span" RawSpan.shape.decode
    let name ← f.required "name" (asText "a string")
    let qualname ← f.required "qualname" (asText "a string")
    let signature ← f.defaulted "signature" none (asOption (asText "a string"))
    let docs ← f.defaulted "docs" "" (asText "a string")
    let parent ← f.defaulted "parent" none (asOption LocalId.ofJson)
    let children ← f.defaulted "children" [] (asList LocalId.ofJson)
    let declId ← f.defaulted "decl_id" none (asOption LocalId.ofJson)
    pure ⟨kind, id, span, name, qualname, signature, docs, parent, children, declId⟩
  closed := false
  exactLength := true

end RawDef

namespace RawRef

/-- A reference as JSON. -/
def toJson (r : RawRef) : Json :=
  .ofFields [("kind", .text r.kind.name), ("span", r.span.toJson), ("target", r.target.toJson)]

/-- How a reference is read. -/
def shape : RecordShape RawRef where
  title := "struct RawRef"
  fields :=
    [("kind", fit (asChoice RefKind.names)), ("span", fit RawSpan.shape.decode),
     ("target", fit LocalId.ofJson)]
  build f := do
    let kind ← f.required "kind" (asChoice RefKind.names)
    let span ← f.required "span" RawSpan.shape.decode
    let target ← f.required "target" LocalId.ofJson
    pure ⟨kind, span, target⟩
  closed := false
  exactLength := true

end RawRef

namespace RawImpl

/-- An implementation block as JSON. -/
def toJson (i : RawImpl) : Json :=
  .ofFields [("id", wordJson i.id), ("kind", .text i.kind.name), ("span", i.span.toJson)]

/-- How an implementation block is read. -/
def shape : RecordShape RawImpl where
  title := "struct RawImpl"
  fields :=
    [("id", fit asWord32), ("kind", fit (asChoice ImplKind.names)),
     ("span", fit RawSpan.shape.decode)]
  build f := do
    let id ← f.required "id" asWord32
    let kind ← f.required "kind" (asChoice ImplKind.names)
    let span ← f.required "span" RawSpan.shape.decode
    pure ⟨id, kind, span⟩
  closed := false
  exactLength := true

end RawImpl

namespace RawRelation

/-- A relation as JSON. -/
def toJson (r : RawRelation) : Json :=
  .ofFields
    [("impl_id", wordJson r.implId), ("self_ty", r.selfType.toJson),
     ("trait_id", .ofOption LocalId.toJson r.traitId)]

/-- How a relation is read. -/
def shape : RecordShape RawRelation where
  title := "struct RawRelation"
  fields :=
    [("impl_id", fit asWord32), ("self_ty", fit LocalId.ofJson),
     ("trait_id", fit (asOption LocalId.ofJson))]
  build f := do
    let implId ← f.required "impl_id" asWord32
    let selfType ← f.required "self_ty" LocalId.ofJson
    let traitId ← f.defaulted "trait_id" none (asOption LocalId.ofJson)
    pure ⟨implId, selfType, traitId⟩
  closed := false
  exactLength := true

end RawRelation

namespace RawImport

/-- An import as JSON. -/
def toJson (i : RawImport) : Json :=
  .ofFields
    [("kind", .text i.kind.name), ("span", i.span.toJson), ("name", .text i.name),
     ("target", .ofOption LocalId.toJson i.target)]

/-- How an import is read. -/
def shape : RecordShape RawImport where
  title := "struct RawImport"
  fields :=
    [("kind", fit (asChoice ImportKind.names)), ("span", fit RawSpan.shape.decode),
     ("name", fit (asText "a string")), ("target", fit (asOption LocalId.ofJson))]
  build f := do
    let kind ← f.required "kind" (asChoice ImportKind.names)
    let span ← f.required "span" RawSpan.shape.decode
    let name ← f.required "name" (asText "a string")
    let target ← f.defaulted "target" none (asOption LocalId.ofJson)
    pure ⟨kind, span, name, target⟩
  closed := false
  exactLength := true

end RawImport

namespace ExternUnit

/-- An extern unit as JSON. -/
def toJson (e : ExternUnit) : Json := .ofFields [("num", wordJson e.num), ("unit", e.unit.toJson)]

/-- How an extern unit is read. -/
def shape : RecordShape ExternUnit where
  title := "struct ExternUnit"
  fields := [("num", fit asWord32), ("unit", fit UnitId.ofJson)]
  build f := do
    let num ← f.required "num" asWord32
    let unit ← f.required "unit" UnitId.ofJson
    pure ⟨num, unit⟩
  closed := false
  exactLength := true

end ExternUnit

/-! ## Layer C: whole snapshots -/

namespace Snapshot

/-- A snapshot as JSON. -/
def toJson (s : Snapshot) : Json :=
  .ofFields
    [("crate_name", .text s.crateName), ("directory", s.directory.toJson),
     ("prelude", .ofList ExternUnit.toJson s.externs), ("defs", .ofList RawDef.toJson s.defs),
     ("refs", .ofList RawRef.toJson s.refs), ("impls", .ofList RawImpl.toJson s.impls),
     ("relations", .ofList RawRelation.toJson s.relations),
     ("imports", .ofList RawImport.toJson s.imports),
     ("diagnostics", .ofList Diagnostic.toJson s.diagnostics),
     ("read_files", .ofList Path.toJson s.readFiles)]

/-- How a snapshot is read. -/
def shape : RecordShape Snapshot where
  title := "struct RawAnalysisSnapshot"
  fields :=
    [("crate_name", fit (asText "a string")), ("directory", fit Path.ofJson),
     ("prelude", fit (asList ExternUnit.shape.decode)), ("defs", fit (asList RawDef.shape.decode)),
     ("refs", fit (asList RawRef.shape.decode)), ("impls", fit (asList RawImpl.shape.decode)),
     ("relations", fit (asList RawRelation.shape.decode)),
     ("imports", fit (asList RawImport.shape.decode)),
     ("diagnostics", fit (asList Diagnostic.shape.decode)),
     ("read_files", fit (asList Path.ofJson))]
  build f := do
    let crateName ← f.defaulted "crate_name" "" (asText "a string")
    let directory ← f.defaulted "directory" ⟨""⟩ Path.ofJson
    let externs ← f.defaulted "prelude" [] (asList ExternUnit.shape.decode)
    let defs ← f.defaulted "defs" [] (asList RawDef.shape.decode)
    let refs ← f.defaulted "refs" [] (asList RawRef.shape.decode)
    let impls ← f.defaulted "impls" [] (asList RawImpl.shape.decode)
    let relations ← f.defaulted "relations" [] (asList RawRelation.shape.decode)
    let imports ← f.defaulted "imports" [] (asList RawImport.shape.decode)
    let diagnostics ← f.defaulted "diagnostics" [] (asList Diagnostic.shape.decode)
    let readFiles ← f.defaulted "read_files" [] (asList Path.ofJson)
    pure ⟨crateName, directory, externs, defs, refs, impls, relations, imports, diagnostics,
      readFiles⟩
  closed := false
  exactLength := true

/-- Why a text is no snapshot. -/
inductive TextFault where
  /-- The text is not JSON that a generic reader accepts. -/
  | notJson
  /-- The text is JSON, and this is wrong with it. -/
  | notASnapshot (fault : DecodeFault)
  deriving Repr, DecidableEq, Inhabited

/-- Reads a snapshot from a JSON value. -/
def ofJson (v : Json) : Except TextFault Snapshot :=
  match shape.decode v with
  | .ok s => .ok s
  | .error fault => .error (if v.isReadable then .notASnapshot fault else .notJson)

/-- **Reads a snapshot from a text** (`from_json`). -/
def ofText (text : String) : Except TextFault Snapshot :=
  match Json.read? text with
  | some v => ofJson v
  | none => .error .notJson

/-- **The text of a snapshot** (`to_json`). -/
def toText (s : Snapshot) : String := s.toJson.write

end Snapshot

end CodeAtlas
