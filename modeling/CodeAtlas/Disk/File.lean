import CodeAtlas.Bytes.Basic
import CodeAtlas.Path.Basic

/-!
# Files

What a file holds, and what may go wrong when it is read or written. A file holds the bytes that
were written, and possibly a hole behind them that reads as zeros. Holes arise when a file is made
longer without writing to it, and may be very large. Every fault has a kind, which decides how it is
handled, and a text, which is shown.

## Architecture

- **Layer A**: contents;
- **Layer B**: faults, and what can be read below an overlay.
-/

namespace CodeAtlas

/-! ## Layer A: contents -/

/-- **What a file holds**: bytes, then a hole of zeros. -/
structure Content where
  written : Bytes
  hole : Nat := 0
  deriving Repr, DecidableEq, Inhabited

namespace Content

/-- All bytes of a file. -/
def toBytes (c : Content) : Bytes := c.written ++ List.replicate c.hole 0

/-- The number of bytes. -/
def size (c : Content) : Nat := c.written.length + c.hole

/-- Cuts or lengthens a file to a size. -/
def resize (c : Content) (size : Nat) : Content :=
  if size ≤ c.written.length then ⟨c.written.take size, 0⟩
  else ⟨c.written, size - c.written.length⟩

/-- Whether no byte is left. -/
def isEmpty (c : Content) : Bool := c.written.isEmpty && c.hole == 0

/-- The first byte and what follows it. -/
def next? (c : Content) : Option (UInt8 × Content) :=
  match c.written, c.hole with
  | b :: rest, hole => some (b, ⟨rest, hole⟩)
  | [], hole + 1 => some (0, ⟨[], hole⟩)
  | [], 0 => none

/-- The first `n` bytes, in reverse in front of `taken`, and what follows them. -/
def takeOnto (taken : Bytes) : Nat → Content → Option (Bytes × Content)
  | 0, c => some (taken, c)
  | n + 1, c =>
    match c.next? with
    | some (b, rest) => takeOnto (b :: taken) n rest
    | none => none

/-- The first `n` bytes and what follows them, if there are so many. -/
def take? (n : Nat) (c : Content) : Option (Bytes × Content) :=
  if c.size < n then none else (takeOnto [] n c).map fun r => (r.1.reverse, r.2)

end Content

/-! ## Layer B: faults -/

/-- What went wrong with a file, as far as it matters for handling it. -/
inductive FaultKind where
  | notFound
  | permissionDenied
  | alreadyExists
  | notADirectory
  | isADirectory
  | invalidData
  | other
  deriving Repr, DecidableEq, Inhabited

/-- A fault of reading or writing. -/
structure IoFault where
  kind : FaultKind
  message : String
  deriving Repr, DecidableEq, Inhabited

namespace IoFault

/-- There is no such entry. -/
def noEntry : IoFault := ⟨.notFound, "No such file or directory (os error 2)"⟩

/-- The entry may not be used in this way. -/
def denied : IoFault := ⟨.permissionDenied, "Permission denied (os error 13)"⟩

/-- There is an entry where none was expected. -/
def entryExists : IoFault := ⟨.alreadyExists, "File exists (os error 17)"⟩

/-- A file stands where a directory was expected. -/
def notDirectory : IoFault := ⟨.notADirectory, "Not a directory (os error 20)"⟩

/-- A directory stands where a file was expected. -/
def isDirectory : IoFault := ⟨.isADirectory, "Is a directory (os error 21)"⟩

/-- A chain of links does not end. -/
def linkLoop : IoFault := ⟨.other, "Too many levels of symbolic links (os error 40)"⟩

/-- A name is longer than the disk can store. -/
def nameTooLong : IoFault := ⟨.other, "File name too long (os error 36)"⟩

/-- A folder is in use. -/
def busy : IoFault := ⟨.other, "Device or resource busy (os error 16)"⟩

/-- A path holds a character that ends it too early. -/
def innerNull : IoFault := ⟨.other, "file name contained an unexpected NUL byte"⟩

/-- The bytes of a file are no text. -/
def notText : IoFault := ⟨.invalidData, "stream did not contain valid UTF-8"⟩

/-- A file system in memory has no such entry. -/
def absent : IoFault := ⟨.notFound, "entity not found"⟩

end IoFault

/-- What can be read below an overlay (`FileSystem`). -/
structure FileSource where
  /-- The text of a file. -/
  readText : Path → Except IoFault String
  /-- Whether there is an entry. -/
  has : Path → Bool

end CodeAtlas
