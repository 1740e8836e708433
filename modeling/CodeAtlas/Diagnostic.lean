import CodeAtlas.Text.Position

/-!
# Diagnostics

Messages of the toolchain that are attached to a source range.
-/

namespace CodeAtlas

/-- How serious a diagnostic is (`DiagnosticSeverity`). -/
inductive Severity where
  | error
  | warning
  | information
  | hint
  deriving Repr, DecidableEq, Inhabited

namespace Severity

/-- All severities, most serious first. -/
def all : List Severity := [.error, .warning, .information, .hint]

/-- The written name of a severity. -/
def name : Severity → String
  | .error => "Error"
  | .warning => "Warning"
  | .information => "Information"
  | .hint => "Hint"

/-- The severity with a given written name. -/
def ofName? (s : String) : Option Severity := all.find? fun v => v.name == s

end Severity

/-- **A message attached to a source range.** -/
structure Diagnostic where
  file : Path
  range : Range
  severity : Severity
  message : String
  code : Option String
  source : Option String
  deriving Repr, DecidableEq, Inhabited

namespace Diagnostic

/-- An error without code and source. -/
def error (file : Path) (range : Range) (message : String) : Diagnostic :=
  ⟨file, range, .error, message, none, none⟩

/-- The diagnostic with a code (`with_code`). -/
def withCode (d : Diagnostic) (code : String) : Diagnostic := { d with code := some code }

/-- Whether the diagnostic is an error (`is_error`). -/
def isError (d : Diagnostic) : Bool := d.severity == .error

/-- Whether two diagnostics agree in every field, paths compared by their components. -/
def same (d e : Diagnostic) : Bool :=
  d.file.same e.file && d.range == e.range && d.severity == e.severity && d.message == e.message
    && d.code == e.code && d.source == e.source

end Diagnostic

end CodeAtlas
