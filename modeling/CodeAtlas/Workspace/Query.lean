import CodeAtlas.Text.Character
import CodeAtlas.Workspace.Basic

/-!
# Questions to a workspace

Questions about a file are answered from the index as it is, and only if the file exists, in a
buffer or on disk.

## Architecture

- **Layer A**: questions without an answer;
- **Layer B**: what stands at a position;
- **Layer C**: what a file or the project defines;
- **Layer D**: renaming;
- **Layer E**: the race against a guess.
-/

namespace CodeAtlas

/-! ## Layer A: no answer -/

/-- Why a definition is not renamed. -/
inductive RenameRefusal where
  | notIdentifier (name : String)
  | module
  /-- The name has a meaning of its own. -/
  | selfName (name : String)
  /-- The definition does not belong to the workspace. -/
  | outside (name : String) (unit : UnitId)
  deriving Repr, DecidableEq, Inhabited

/-- The wording of a refusal. -/
def RenameRefusal.message : RenameRefusal → String
  | .notIdentifier name => "\x60" ++ name ++ "\x60 is not an identifier"
  | .module => "cannot rename modules"
  | .selfName name => "cannot rename \x60" ++ name ++ "\x60"
  | .outside name u =>
    "\x60" ++ name ++ "\x60 is defined in " ++ u.display ++ ", outside the workspace"

/-- Why a question has no answer (`QueryError`). -/
inductive QueryFault where
  | inputNotFound (path : Path)
  | notFound (path : Path) (position : Position)
  | timedOut (ms : Nat)
  | renameRefused (reason : RenameRefusal)
  deriving Repr, DecidableEq, Inhabited

namespace QueryFault

/-- A number of a position as people count, from one; there is none behind the largest. -/
def ordinal? (n : UInt32) : Option String :=
  if n.toNat + 1 < 0x100000000 then some (toString (n.toNat + 1)) else none

/-- The wording of a fault. A position with the largest number cannot be shown. -/
def message? : QueryFault → Option String
  | .inputNotFound p => some ("input not found: " ++ p.text)
  | .notFound p at_ => do
    let line ← ordinal? at_.line
    let character ← ordinal? at_.character
    pure ("nothing found at " ++ p.text ++ ":" ++ line ++ ":" ++ character)
  | .timedOut ms => some ("no answer within " ++ shownMillis ms)
  | .renameRefused reason => some ("rename failed: " ++ reason.message)

end QueryFault

namespace Workspace

variable {τ : Type}

/-- The normalized path of a file that exists (`prepare`). -/
def existing (w : Workspace τ) (file : Path) : Except QueryFault Path :=
  let p := file.normalize
  if w.overlay.has w.files p then .ok p else .error (.inputNotFound p)

/-- An answer about a position, if there is one. -/
def orNotFound {α : Type} (p : Path) (at_ : Position) : Option α → Except QueryFault α
  | some a => .ok a
  | none => .error (.notFound p at_)

/-! ## Layer B: positions -/

/-- The definition of what stands at a position (`goto_definition`). -/
def definitionAt (w : Workspace τ) (file : Path) (at_ : Position) :
    Except QueryFault Definition := do
  let p ← w.existing file
  orNotFound p at_ (w.view.definitionAt p at_)

/-- The identifier of what stands at a position (`resolved_id`). -/
def idAt (w : Workspace τ) (file : Path) (at_ : Position) : Except QueryFault GlobalId := do
  let p ← w.existing file
  orNotFound p at_ (w.view.idAt p at_)

/-- All references to what stands at a position, behind its declaration if that is wanted
(`find_references`). -/
def referencesAt (w : Workspace τ) (file : Path) (at_ : Position) (declaration : Bool) :
    Except QueryFault (List Span) := do
  let id ← w.idAt file at_
  let declared := if declaration then ((w.view.definition id).map (·.span)).toList else []
  pure (declared ++ w.view.referencesTo id)

/-- What is shown at a position (`hover`). -/
def hoverAt (w : Workspace τ) (file : Path) (at_ : Position) : Except QueryFault Hover := do
  let p ← w.existing file
  orNotFound p at_ (w.view.hoverAt p at_)

/-- Where else in a file stands what stands at a position, in order (`document_highlight`). -/
def highlightsAt (w : Workspace τ) (file : Path) (at_ : Position) :
    Except QueryFault (List Range) := do
  let spans ← w.referencesAt file at_ true
  let here := spans.filter fun s => s.file.same file.normalize
  pure (dropRepeats (· == ·) (sortBy id (here.map (·.range))))

/-- The implementations of the type or trait at a position (`implementations`). -/
def implementationsAt (w : Workspace τ) (file : Path) (at_ : Position) :
    Except QueryFault (List Span) := do
  pure (w.view.findImpls (← w.idAt file at_))

/-! ## Layer C: definitions -/

/-- The definitions in a file (`document_symbols`). -/
def symbolsIn (w : Workspace τ) (file : Path) : Except QueryFault (List Definition) := do
  pure (w.view.symbols (← w.existing file))

/-- The diagnostics of a file (`diagnostics`). -/
def diagnosticsIn (w : Workspace τ) (file : Path) : Except QueryFault (List Diagnostic) := do
  pure (w.view.diagnostics (← w.existing file))

/-- The largest number of definitions that a search gives (`WORKSPACE_SYMBOL_LIMIT`). -/
def searchLimit : Nat := 256

/-- The definitions whose name begins with a text, whatever the case, short names first
(`workspace_symbols`). -/
def searchSymbols (w : Workspace τ) (text : String) : List Definition :=
  let text := trim text
  if text.isEmpty then []
  else
    let byName := sortBy (·.qualname) (w.view.searchLead text)
    (sortBy (·.name.utf8ByteSize) byName).take searchLimit

/-! ## Layer D: renaming -/

/-- A replacement in a file. -/
structure TextEdit where
  range : Range
  text : String
  deriving Repr, DecidableEq, Inhabited

/-- Edits are ordered by range, then by text. -/
instance : Ord TextEdit := ⟨compareLex (compareOn TextEdit.range) (compareOn TextEdit.text)⟩

/-- Whether a unit of the project is a member of the workspace. -/
def isMember (w : Workspace τ) (u : UnitId) : Bool := w.queue.control.graph.any (·.isMember u)

/-- Why a definition is not renamed, if it is not. -/
def refusal? (w : Workspace τ) (d : Definition) (name : String) : Option RenameRefusal :=
  if !isIdentifier name then some (.notIdentifier name)
  else if d.kind == .module then some .module
  else if d.name == "self" || d.name == "Self" then some (.selfName d.name)
  else if !w.isMember d.unit then some (.outside d.name d.unit)
  else none

/-- Adds a replacement to those of its file. -/
def addEdit (name : String) (t : Table Path (List TextEdit)) (s : Span) :
    Table Path (List TextEdit) :=
  t.insert s.file (t.getD s.file [] ++ [⟨s.range, name⟩])

/-- **The replacements that rename what stands at a position**, by file, in order and without
repetition. -/
def rename (w : Workspace τ) (file : Path) (at_ : Position) (name : String) :
    Except QueryFault (Table Path (List TextEdit)) := do
  let target ← w.idAt file at_
  let d ← orNotFound file.normalize at_ (w.view.definition target)
  match w.refusal? d name with
  | some reason => throw (.renameRefused reason)
  | none =>
    let edits := (d.span :: w.view.referencesTo target).foldl (addEdit name) Table.empty
    pure (edits.mapValues fun _ es => dropRepeats (· == ·) (sortBy id es))

/-! ## Layer E: guesses -/

/-- The index and a guess as producers of the place of a definition. -/
def contenders (w : Workspace τ) (f : Fallback) (file : Path) (at_ : Position) :
    Except QueryFault (Producer Span × Producer Span) :=
  let p := file.normalize
  match w.overlay.read w.files p with
  | .error _ => .error (.inputNotFound p)
  | .ok text =>
    .ok (⟨some 0, (w.view.definitionAt p at_).map (·.span)⟩,
      ⟨some f.delay, f.definition p text at_⟩)

/-- **The place of the definition of what stands at a position** (`goto_definition_with_fallback`):
from the index, or a guess if that comes first. -/
def definitionOrGuess (w : Workspace τ) (file : Path) (at_ : Position) :
    Except QueryFault (Winner × Span) := do
  match w.fallback with
  | none =>
    let d ← w.definitionAt file at_
    pure (.primary, d.span)
  | some f =>
    let (known, guess) ← w.contenders f file at_
    match race w.config.build.fallbackTimeoutMs known guess with
    | .ok (some answer) => pure answer
    | .error (.late ms) => throw (.timedOut ms)
    | _ => throw (.notFound file.normalize at_)

/-- How long `definitionOrGuess` takes, in milliseconds. -/
def guessTime (w : Workspace τ) (file : Path) (at_ : Position) : Nat :=
  match w.fallback with
  | none => 0
  | some f =>
    match w.contenders f file at_ with
    | .ok (known, guess) => raceEnd w.config.build.fallbackTimeoutMs known guess
    | .error _ => 0

end Workspace

end CodeAtlas
