import CodeAtlas.Path.Basic

/-!
# Positions, ranges and spans

Positions count lines and characters from zero. The end of a range counts as inside, so that a
cursor right behind a name still hits it. A span adds the file and the byte range.
-/

namespace CodeAtlas

/-- A zero-based line and character. -/
structure Position where
  line : UInt32
  character : UInt32
  deriving Repr, DecidableEq, Inhabited

namespace Position

/-- Positions are ordered by line, then character. -/
instance : Ord Position := ⟨compareLex (compareOn line) (compareOn character)⟩

/-- The order of positions as a test. -/
def le (a b : Position) : Bool := compare a b != .gt

end Position

/-- The text between two positions. -/
structure Range where
  start : Position
  stop : Position
  deriving Repr, DecidableEq, Inhabited

namespace Range

/-- Ranges are ordered by start, then end. -/
instance : Ord Range := ⟨compareLex (compareOn start) (compareOn stop)⟩

/-- The empty range at a position. -/
def point (p : Position) : Range := ⟨p, p⟩

/-- Whether a position lies in a range, both ends included. -/
def contains (r : Range) (p : Position) : Bool := r.start.le p && p.le r.stop

/-- Whether `s` lies inside `r`. -/
def encloses (r s : Range) : Bool := r.start.le s.start && s.stop.le r.stop

end Range

/-- A half-open range of bytes. -/
structure ByteRange where
  start : UInt32
  stop : UInt32
  deriving Repr, DecidableEq, Inhabited

namespace ByteRange

/-- The number of bytes in a range. -/
def width (b : ByteRange) : UInt32 := b.stop - b.start

end ByteRange

/-- **A location in a source file.** -/
structure Span where
  file : Path
  bytes : ByteRange
  range : Range
  deriving Repr, DecidableEq, Inhabited

namespace Span

/-- Spans are ordered by file, then range, then bytes. -/
instance : Ord Span :=
  ⟨compareLex (compareOn file) (compareLex (compareOn range)
    (compareLex (compareOn (·.bytes.start)) (compareOn (·.bytes.stop))))⟩

/-- Whether two spans denote the same place, whatever the spelling of the file. -/
def same (s t : Span) : Bool := s.file.same t.file && s.bytes == t.bytes && s.range == t.range

/-- Whether a span is in `file` and covers `p`. -/
def contains (s : Span) (file : Path) (p : Position) : Bool :=
  s.file.same file && s.range.contains p

/-- The number of bytes, which picks the innermost of several overlapping spans. -/
def width (s : Span) : UInt32 := s.bytes.width

end Span

end CodeAtlas
