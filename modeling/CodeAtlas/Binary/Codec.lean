import CodeAtlas.Disk.File

/-!
# Binary codecs

How values are laid out in a file: numbers have a fixed width and the lowest byte first, texts and
lists are preceded by their length in eight bytes, a choice is the four-byte number of what was
chosen, and an optional value is preceded by one byte that says whether it is there. Nothing marks
types or fields, so a layout can only be read with the codec that wrote it.

## Architecture

- **Layer A**: codecs, and how whole files are read;
- **Layer B**: numbers and texts;
- **Layer C**: choices, options, lists, pairs.
-/

namespace CodeAtlas

/-! ## Layer A: codecs -/

/-- **How values of a type are written and read.** -/
structure Codec (α : Type) where
  encode : α → Bytes
  /-- A value at the front, and what follows it. -/
  decode : Content → Option (α × Content)

namespace Codec

variable {α β : Type}

/-- The value that a whole file holds: nothing may follow it. -/
def decodeAll? (c : Codec α) (content : Content) : Option α :=
  match c.decode content with
  | some (a, rest) => if rest.isEmpty then some a else none
  | none => none

/-! ## Layer B: numbers and texts -/

/-- A number in a fixed number of bytes. -/
def number (width : Nat) : Codec Nat where
  encode := Bytes.littleEndian width
  decode s := (s.take? width).map fun r => (r.1.toNat, r.2)

/-- A codec for a type whose values stand for those of another. -/
def via (c : Codec α) (forth : β → α) (back : α → β) : Codec β where
  encode b := c.encode (forth b)
  decode s := (c.decode s).map fun r => (back r.1, r.2)

/-- A 32-bit word. -/
def word32 : Codec UInt32 := (number 4).via UInt32.toNat Nat.toUInt32

/-- A 64-bit word. -/
def word64 : Codec UInt64 := (number 8).via UInt64.toNat Nat.toUInt64

/-- A text: its length in bytes, then its bytes. -/
def text : Codec String where
  encode s := Bytes.littleEndian 8 (Bytes.ofText s).length ++ Bytes.ofText s
  decode s := do
    let (n, s) ← (number 8).decode s
    let (bs, s) ← s.take? n
    let t ← bs.text?
    pure (t, s)

/-! ## Layer C: composites -/

/-- One of several values, by its number. -/
def choice [DecidableEq α] (all : List α) : Codec α where
  encode a := Bytes.littleEndian 4 (all.idxOf a)
  decode s := do
    let (n, s) ← (number 4).decode s
    let a ← all[n]?
    pure (a, s)

/-- A value that may be absent. -/
def option (c : Codec α) : Codec (Option α) where
  encode
    | none => [0]
    | some a => 1 :: c.encode a
  decode s :=
    match s.next? with
    | some (0, s) => some (none, s)
    | some (1, s) => (c.decode s).map fun r => (some r.1, r.2)
    | _ => none

/-- So many values one after the other. -/
def decodeMany (c : Codec α) : Nat → Content → Option (List α × Content)
  | 0, s => some ([], s)
  | n + 1, s => do
    let (a, s) ← c.decode s
    let (as, s) ← decodeMany c n s
    pure (a :: as, s)

/-- A list: its length, then its items. -/
def list (c : Codec α) : Codec (List α) where
  encode as := Bytes.littleEndian 8 as.length ++ as.flatMap c.encode
  decode s := do
    let (n, s) ← (number 8).decode s
    decodeMany c n s

/-- Two values one after the other. -/
def pair (c : Codec α) (d : Codec β) : Codec (α × β) where
  encode p := c.encode p.1 ++ d.encode p.2
  decode s := do
    let (a, s) ← c.decode s
    let (b, s) ← d.decode s
    pure ((a, b), s)

end Codec

end CodeAtlas
