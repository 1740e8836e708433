import CodeAtlas.Index.Basic
import CodeAtlas.Snapshot.Json
import CodeAtlas.Workspace.Query

/-!
# Reports of answers and faults

How places, definitions and what else the index answers are written as JSON. Ranges are four
numbers in a row. Every fault is reported as a record of its kind and its wording.

## Architecture

- **Layer A**: what the index answers;
- **Layer B**: faults.
-/

namespace CodeAtlas

open Json (ofFields ofList ofOption text nat)

/-! ## Layer A: answers of the index -/


/-- The report of a unit: its three parts. -/
def UnitId.report (u : UnitId) : Json := text u.cacheKey

/-- The report of units. -/
def unitsReport (us : List UnitId) : Json := ofList UnitId.report us

/-- The report of a range. -/
def Range.report (r : Range) : Json :=
  ofList wordJson [r.start.line, r.start.character, r.stop.line, r.stop.character]

/-- The report of a place. -/
def Span.report (s : Span) : Json :=
  ofFields
    [("file", s.file.toJson), ("bytes", ofList wordJson [s.bytes.start, s.bytes.stop]),
     ("range", s.range.report)]

/-- The report of an identifier. -/
def GlobalId.report (i : GlobalId) : Json := .arr [nat i.space, nat i.serial]

/-- The report of a definition. -/
def Definition.report (d : Definition) : Json :=
  ofFields
    [("id", d.id.report), ("kind", text d.kind.name), ("name", text d.name),
     ("qualname", text d.qualname), ("span", d.span.report), ("signature", textJson? d.signature),
     ("docs", text d.docs), ("parent", ofOption GlobalId.report d.parent), ("unit", d.unit.report)]

/-- The report of what is shown at a position. -/
def Hover.report (h : Hover) : Json :=
  ofFields [("span", h.span.report), ("definition", h.definition.report)]

/-- The report of a diagnostic. -/
def Diagnostic.report (d : Diagnostic) : Json :=
  ofFields
    [("file", d.file.toJson), ("range", d.range.report), ("severity", text d.severity.name),
     ("message", text d.message), ("code", textJson? d.code), ("source", textJson? d.source)]

/-- The report of what a unit contributes. -/
def MergeStats.report (s : MergeStats) : Json :=
  ofFields
    [("defs", nat s.defs), ("refs", nat s.refs), ("impls", nat s.impls),
     ("generation", nat s.generation)]

/-- A definition with all that is known about it. -/
def View.observation (v : View) (d : Definition) : Json :=
  ofFields
    [("definition", d.report), ("references", ofList Span.report (v.referencesTo d.id)),
     ("impls", ofList Span.report (v.findImpls d.id)),
     ("children", ofList (·.id.report) (v.children d.id)),
     ("parents", ofList (·.id.report) (v.parents d.id))]

/-! ## Layer B: faults -/


/-- A fault with a kind and a wording. -/
def faultReport (kind message : String) : Json :=
  ofFields [("error", text kind), ("message", text message)]

/-- A fault that may have no wording. -/
def faultReport? (kind : String) : Option String → Json
  | some message => faultReport kind message
  | none => ofFields [("error", text kind)]

/-- The report of a computation that went beyond the largest number, by what it was doing. -/
def overflowReport (doing : String) : Json :=
  faultReport "panic" ("attempt to " ++ doing ++ " with overflow")

/-- The report of a fault of reading or writing. -/
def IoFault.report (f : IoFault) : Json := faultReport "Io" f.message

/-- The report of a text that is no snapshot. -/
def Snapshot.TextFault.report : Snapshot.TextFault → Json
  | .notJson => faultReport? "Malformed" none
  | .notASnapshot f => faultReport "Malformed" ("malformed analysis snapshot: " ++ f.message)

/-- The report of a snapshot that the index does not take. -/
def IndexFault.report (f : IndexFault) : Json :=
  let kind := match f with
    | .reservedNumber => "InvalidPrelude"
    | .duplicateNumber _ => "InvalidPrelude"
    | .unknownNumber _ => "UnknownUnitNumber"
    | .badSpan _ _ => "InvalidSpan"
  faultReport kind f.message

/-- The kind of a fault of the overlay. -/
def OverlayFault.kindName : OverlayFault → String
  | .notFound _ => "NotFound"
  | .unreadable _ _ => "Io"
  | .notOpen _ => "BufferNotOpen"
  | .outOfBounds _ => "InvalidRange"
  | .versionExhausted => "panic"

/-- The report of a fault of the overlay. -/
def OverlayFault.report (f : OverlayFault) : Json := faultReport f.kindName f.message

/-- The kind of a fault of the build. -/
def BuildFault.kindName : BuildFault → String
  | .inputNotFound _ => "InputNotFound"
  | .compileErrors _ _ => "ToolchainCompileError"
  | .crash _ _ => "ToolchainCrash"
  | .planStale _ _ _ => "PlanStale"
  | .configurationInvalid _ => "ConfigurationInvalid"
  | .io _ => "Io"
  | .cancelled => "Cancelled"

/-- The report of a fault of the build, which also says whether it may pass by itself. -/
def BuildFault.report (f : BuildFault) : Json :=
  ofFields
    [("error", text f.kindName), ("message", text f.message), ("transient", .bool f.isTransient)]

/-- The report of an unfit project. -/
def ModelFault.report (f : ModelFault) : Json := (BuildFault.configurationInvalid f).report

/-- The report of a fault of the cache. -/
def CacheFault.report (f : CacheFault) : Json :=
  faultReport (match f with | .noHome => "MissingHomeDir" | .io _ => "Io") f.message

/-- The report of a fault of the configuration. -/
def ConfigFault.report (f : ConfigFault) : Json :=
  let kind := match f with
    | .unreadable _ _ => "Io"
    | .notToml => "Toml"
    | .misshapen _ => "Toml"
    | .unfit _ => if f.isFatal then "panic" else "Invalid"
  faultReport? kind f.message?

/-- The report of a task without a result. -/
def TaskFault.report (f : TaskFault) : Json :=
  let kind := match f with
    | .cancelled => "Cancelled"
    | .panicked _ => "Panicked"
    | .late _ => "DeadlineExceeded"
  faultReport kind f.message

/-- The report of a workspace that cannot be opened. -/
def SetupFault.report (f : SetupFault) : Json :=
  match f.fatal? with
  | some cause => cause.report
  | none => faultReport "Setup" f.message

/-- The report of a question without an answer. -/
def QueryFault.report (f : QueryFault) : Json :=
  let kind := match f with
    | .inputNotFound _ => "InputNotFound"
    | .notFound _ _ => "NotFound"
    | .timedOut _ => "TimedOut"
    | .renameRefused _ => "RenameRefused"
  match f.message? with
  | some message => faultReport kind message
  | none => overflowReport "add"

end CodeAtlas
