import CodeAtlas.Text.Position

/-!
# Versioned buffers

Texts that an editor holds open, and the edits it sends. A line ends in a line feed, in a carriage
return, or in both; columns count UTF-16 code units and never reach into the line's end.

## Architecture

- **Layer A**: cutting texts at offsets;
- **Layer B**: lines;
- **Layer C**: from positions to offsets;
- **Layer D**: edits.

Texts are lists of characters here, and an offset is the number of bytes before a place. Not every
number is an offset: a text cannot be cut inside a character.
-/

namespace CodeAtlas

/-- A change of a buffer; without a range it replaces the whole text. -/
structure BufferEdit where
  range : Option Range
  text : String
  deriving Repr, DecidableEq, Inhabited

/-- A text with a version. -/
structure Buffer where
  text : String
  version : Int
  deriving Repr, DecidableEq, Inhabited

namespace Buffer

/-! ## Layer A: cutting -/

/-- The number of bytes of a text. -/
def size : List Char → Nat
  | [] => 0
  | c :: rest => c.utf8Size + size rest

/-- Cuts a text at an offset, unless that is inside a character or behind the end. -/
def cut? : List Char → Nat → Option (List Char × List Char)
  | cs, 0 => some ([], cs)
  | [], _ + 1 => none
  | c :: rest, n + 1 =>
    -- the offset lies inside the character
    if n + 1 < c.utf8Size then none
    else (cut? rest (n + 1 - c.utf8Size)).map fun p => (c :: p.1, p.2)

/-- The text between two offsets. -/
def slice? (cs : List Char) (start stop : Nat) : Option (List Char) := do
  if stop < start then none
  let (_, rest) ← cut? cs start
  let (line, _) ← cut? rest (stop - start)
  pure line

/-- Whether a character stands at an offset. -/
def hasAt (cs : List Char) (offset : Nat) (c : Char) : Bool :=
  ((cut? cs offset).bind (·.2.head?)) == some c

/-! ## Layer B: lines -/

/-- The offsets behind the line ends of a text that stands at an offset itself. -/
def lineOffsetsFrom (offset : Nat) : List Char → List Nat
  | [] => []
  -- both together are one line end
  | '\r' :: '\n' :: rest => (offset + 2) :: lineOffsetsFrom (offset + 2) rest
  | c :: rest =>
    if c == '\n' || c == '\r' then (offset + 1) :: lineOffsetsFrom (offset + 1) rest
    else lineOffsetsFrom (offset + c.utf8Size) rest

/-- The offsets where lines start (`compute_line_offsets`). -/
def lineOffsets (cs : List Char) : List Nat := 0 :: lineOffsetsFrom 0 cs

/-- **A text that is being edited**, with the offsets of its lines. -/
structure Draft where
  chars : List Char
  lines : List Nat
  deriving Repr, DecidableEq, Inhabited

namespace Draft

/-- The draft of a text. -/
def of (cs : List Char) : Draft := ⟨cs, lineOffsets cs⟩

end Draft

/-! ## Layer C: positions -/

/-- The number of UTF-16 code units of a character. -/
def units (c : Char) : Nat := if c.toNat < 0x10000 then 1 else 2

/-- The number of UTF-16 code units of a text (`utf16_len`). -/
def width : List Char → Nat
  | [] => 0
  | c :: rest => units c + width rest

/-- The offset of a column in a line (`utf16_column_to_byte_offset`); a column inside a character
means the start of it. -/
def columnOffset : List Char → Nat → Nat
  | [], _ => 0
  | c :: rest, column =>
    if column < units c then 0 else c.utf8Size + columnOffset rest (column - units c)

namespace Draft

/-- The position behind the last character (`end_position`). -/
def endPosition? (d : Draft) : Option Position :=
  let start := d.lines.getLast?.getD 0
  (cut? d.chars start).map fun p =>
    ⟨UInt32.ofNat (d.lines.length - 1), UInt32.ofNat (width p.2)⟩

/-- Steps back over a character that stands before an offset, but not beyond a start. -/
def stepBack (d : Draft) (start stop : Nat) (c : Char) : Nat :=
  if start < stop && hasAt d.chars (stop - 1) c then stop - 1 else stop

/-- The offset of a position (`position_to_offset`); a line behind the last one means the end of the
text, and a column never reaches into the line's end. -/
def offset? (d : Draft) (p : Position) : Option Nat :=
  let line := p.line.toNat
  match d.lines[line]? with
  | none => some (size d.chars)
  | some start =>
    let stop := d.lines[line + 1]?.getD (size d.chars)
    -- the line end has one character or two
    let stop := d.stepBack start (d.stepBack start stop '\n') '\r'
    (slice? d.chars start stop).map fun content => start + columnOffset content p.character.toNat

end Draft

/-! ## Layer D: edits -/

/-- Why an edit is not made. -/
inductive EditFault where
  /-- The range runs backwards, or beyond the end. -/
  | outOfBounds
  /-- A text was to be cut inside a character. -/
  | badCut
  deriving Repr, DecidableEq, Inhabited

namespace Draft

/-- The range of an edit, which is that of the whole text if it has none. -/
def rangeOf? (d : Draft) (e : BufferEdit) : Option Range :=
  match e.range with
  | some range => some range
  | none => d.endPosition?.map fun stop => ⟨⟨0, 0⟩, stop⟩

/-- Replaces the text between two offsets, and finds the lines anew. -/
def replace? (d : Draft) (start stop : Nat) (text : List Char) : Option Draft := do
  let (before, _) ← cut? d.chars start
  let (_, after) ← cut? d.chars stop
  pure (.of (before ++ text ++ after))

/-- What an attempt to cut a text yields. -/
def ofCut {α : Type} : Option α → Except EditFault α
  | some a => .ok a
  | none => .error .badCut

/-- **Makes one edit** (`apply_edit`). -/
def edit (d : Draft) (e : BufferEdit) : Except EditFault Draft := do
  let range ← ofCut (d.rangeOf? e)
  let start ← ofCut (d.offset? range.start)
  let stop ← ofCut (d.offset? range.stop)
  -- a range that runs backwards is no range, although both of its ends are places
  if stop < start || size d.chars < stop then .error .outOfBounds
  else ofCut (d.replace? start stop e.text.toList)

/-- Makes several edits, each of which sees the result of the one before. -/
def editAll (d : Draft) : List BufferEdit → Except EditFault Draft
  | [] => .ok d
  | e :: rest => do
    let d ← d.edit e
    d.editAll rest

end Draft

/-- Makes edits on a draft of the text, and sets the version. -/
def attempt (b : Buffer) (version : Int) (edits : List BufferEdit) : Except EditFault Buffer :=
  ((Draft.of b.text.toList).editAll edits).map fun d => ⟨String.ofList d.chars, version⟩

/-- **Applies edits and sets the version**, or fails as a whole (`apply_edits`). -/
def applyEdits (b : Buffer) (version : Int) (edits : List BufferEdit) : Option Buffer :=
  (b.attempt version edits).toOption

end Buffer

end CodeAtlas
