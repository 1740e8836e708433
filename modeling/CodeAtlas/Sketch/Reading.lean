import CodeAtlas.Build.Invocation
import CodeAtlas.Snapshot.Record

/-!
# Reading a sketch

A sketch is a text of one directive per line. It stands in for source code where a project is tried
out without a compiler: its lines describe a snapshot. Lengths and columns are in bytes.

## Architecture

- **Layer A**: lines;
- **Layer B**: places and names in a sketch;
- **Layer C**: what each directive adds to a snapshot.
-/

namespace CodeAtlas

namespace Sketch

/-! ## Layer A: lines -/

/-- **A line of a sketch.** -/
structure Line where
  /-- The number of the line, from zero. -/
  number : Nat
  /-- Where the line starts in the text. -/
  offset : Nat
  /-- The line without the blanks at its end. -/
  body : String
  /-- What stands before the first space of the body. -/
  directive : String
  /-- What stands behind it. -/
  arg : String
  deriving Repr, DecidableEq, Inhabited

/-- The pieces of a text, each up to a line feed and including it. -/
def pieces : List Char → List (List Char)
  | [] => []
  | '\n' :: rest => ['\n'] :: pieces rest
  | c :: rest =>
    match pieces rest with
    | [] => [[c]]
    | p :: ps => (c :: p) :: ps

/-- Whether a character is cut at the end of a line. -/
def isTail (c : Char) : Bool := c == ' ' || c == '\t' || c == '\r' || c == '\n'

/-- The line that a piece of a text holds. -/
def Line.of (number offset : Nat) (piece : List Char) : Line :=
  let body := (piece.reverse.dropWhile isTail).reverse
  { number := number
    offset := offset
    body := String.ofList body
    directive := String.ofList (body.takeWhile (· != ' '))
    arg := String.ofList ((body.dropWhile (· != ' ')).drop 1) }

/-- The lines of pieces that begin at a line and an offset. -/
def linesFrom (number offset : Nat) : List (List Char) → List Line
  | [] => []
  | p :: rest =>
    .of number offset p :: linesFrom (number + 1) (offset + (String.ofList p).utf8ByteSize) rest

/-- **The lines of a sketch.** -/
def lines (text : String) : List Line := linesFrom 0 0 (pieces text.toList)

/-! ## Layer B: places and names -/

/-- The number of bytes of a text. -/
def size (s : String) : Nat := s.utf8ByteSize

/-- The place of so many bytes of a line from a column on. -/
def Line.place (l : Line) (file : Path) (column length : Nat) : RawSpan :=
  let start := l.offset + column
  let number := (l.number + 1).toUInt32
  { fileName := file
    byteStart := start.toUInt32
    byteEnd := (start + length).toUInt32
    lineStart := number
    lineEnd := number
    columnStart := (column + 1).toUInt32
    columnEnd := (column + 1 + length).toUInt32 }

/-- The place of a line's argument. -/
def Line.argPlace (l : Line) (file : Path) : RawSpan :=
  l.place file (size l.directive + 1) (size l.arg)

/-- What a directive defines. -/
def definedKind? : String → Option DefKind
  | "fn" => some .function
  | "struct" => some .struct
  | "trait" => some .trait
  | "enum" => some .enum
  | "mod" => some .module
  | "const" => some .const
  | _ => none

/-- The names that lines define, in order. -/
def definedNames (ls : List Line) : List String :=
  (ls.filter fun l => (definedKind? l.directive).isSome).map (·.arg)

/-- The identifier of the first of the given names that is `name`; they count from one. -/
def idOf (names : List String) (name : String) : LocalId :=
  match names.findIdx? (· == name) with
  | some i => ⟨0, (i + 1).toUInt32⟩
  | none => .absent

/-- A number of 32 bits in decimal digits, possibly behind a plus sign. -/
def word? (s : List Char) : Option Nat :=
  let digits := if s.head? == some '+' then s.drop 1 else s
  if digits.isEmpty || !digits.all Char.isDigit then none
  else
    let n := digits.foldl (fun n c => n * 10 + (c.toNat - 48)) 0
    if n < 0x100000000 then some n else none

/-- A numbered item of the first dependency whose target has a name. -/
def itemOf (deps : List UnitId) (target : String) (item : List Char) : LocalId :=
  match deps.findIdx? (·.target == target), word? item with
  | some i, some n => ⟨(i + 1).toUInt32, n.toUInt32⟩
  | _, _ => .absent

/-- What a call refers to: a name of the sketch, or a numbered item of a dependency. -/
def calledId (names : List String) (deps : List UnitId) (arg : String) : LocalId :=
  let cs := arg.toList
  if cs.contains '#' then
    itemOf deps (String.ofList (cs.takeWhile (· != '#'))) ((cs.dropWhile (· != '#')).drop 1)
  else idOf names arg

/-- The trait and the type of an implementation: the text at the first ` for `, or a type alone. -/
def implParts (arg : String) : Option String × String :=
  match arg.splitOn " for " with
  | self :: [] => (none, self)
  | trait :: rest => (some trait, " for ".intercalate rest)
  | [] => (none, arg)

/-! ## Layer C: directives -/

/-- A snapshot in the making. -/
structure Draft where
  snapshot : Snapshot
  /-- Documentation that waits for its definition. -/
  docs : String := ""
  /-- Whether the sketch asks for no snapshot. -/
  silent : Bool := false
  deriving Repr, DecidableEq, Inhabited

/-- The draft of a unit before its first line. -/
def Draft.new (u : CompilationUnit) : Draft where
  snapshot :=
    { Snapshot.empty with
      crateName := u.id.crateName
      directory := u.srcRoot
      externs := u.deps.mapIdx fun i d => ⟨(i + 1).toUInt32, d⟩
      readFiles := [u.rootFile] }

/-- The definition on a line. -/
def Draft.definition (d : Draft) (file : Path) (l : Line) (kind : DefKind) : RawDef :=
  { kind := kind
    id := ⟨0, (d.snapshot.defs.length + 1).toUInt32⟩
    span := l.argPlace file
    name := l.arg
    qualname := "::" ++ l.arg
    signature := some (l.directive ++ " " ++ l.arg)
    docs := d.docs
    parent := none
    children := []
    declId := none }

/-- A remark on a line. -/
def remark (file : Path) (l : Line) (severity : Severity) : Diagnostic :=
  { file := file
    range := ⟨⟨l.number.toUInt32, 0⟩, ⟨l.number.toUInt32, (size l.body).toUInt32⟩⟩
    severity := severity
    message := l.arg
    code := none
    source := none }

/-- Adds an implementation with its relation. -/
def Draft.addImpl (d : Draft) (names : List String) (file : Path) (l : Line) : Draft :=
  let s := d.snapshot
  let (trait?, self) := implParts l.arg
  let number := s.impls.length.toUInt32
  let kind := if trait?.isSome then .direct else .inherent
  { d with
    snapshot := { s with
      impls := s.impls ++ [⟨number, kind, l.place file 0 (size l.body)⟩]
      relations := s.relations ++ [⟨number, idOf names self, trait?.map (idOf names)⟩] } }

/-- **What a line adds to a snapshot.** -/
def Draft.add (u : CompilationUnit) (names : List String) (d : Draft) (l : Line) : Draft :=
  let s := d.snapshot
  let file := u.rootFile
  let refer (kind : RefKind) (id : LocalId) : Draft :=
    { d with snapshot := { s with refs := s.refs ++ [⟨kind, l.argPlace file, id⟩] } }
  let report (severity : Severity) : Draft :=
    { d with snapshot := { s with diagnostics := s.diagnostics ++ [remark file l severity] } }
  match definedKind? l.directive with
  | some kind =>
    { d with snapshot := { s with defs := s.defs ++ [d.definition file l kind] }, docs := "" }
  | none =>
    match l.directive with
    | "///" => { d with docs := if d.docs.isEmpty then l.arg else d.docs ++ "\n" ++ l.arg }
    | "call" => refer .function (calledId names u.deps l.arg)
    | "badref" => refer .type ⟨99, 0⟩
    | "impl" => d.addImpl names file l
    | "error" => report .error
    | "warn" => report .warning
    | "read" => { d with snapshot := { s with readFiles := s.readFiles ++ [⟨l.arg⟩] } }
    | "nothing" => { d with silent := true }
    | _ => d

/-- The draft after all lines. -/
def draft (u : CompilationUnit) (ls : List Line) : Draft :=
  ls.foldl (Draft.add u (definedNames ls)) (.new u)

/-- The snapshot a draft delivers. -/
def Draft.delivered (d : Draft) : Option Snapshot := if d.silent then none else some d.snapshot

end Sketch

end CodeAtlas
