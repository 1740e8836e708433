/-!
# Bytes

Byte strings as lists, the bytes of numbers and texts, and their writing in base sixteen.

## Architecture

- **Layer A**: numbers, texts, and digits of base sixteen;
- **Layer B**: the text of bytes from a source that promises nothing. Every piece that is no
  character, and could not become one by reading on, is replaced by the replacement character.
-/

namespace CodeAtlas

/-! ## Layer A: numbers and texts -/

/-- **A byte string.** -/
abbrev Bytes := List UInt8

namespace Bytes

/-- The lowest `width` bytes of a number, the lowest first. -/
def littleEndian : (width : Nat) → Nat → Bytes
  | 0, _ => []
  | width + 1, n => (n % 256).toUInt8 :: littleEndian width (n / 256)

/-- The number whose bytes are given, the lowest first. -/
def toNat : Bytes → Nat
  | [] => 0
  | b :: rest => b.toNat + 256 * toNat rest

/-- The bytes of a text. -/
def ofText (s : String) : Bytes := s.toUTF8.data.toList

/-- The text that bytes spell, if they spell one. -/
def text? (bs : Bytes) : Option String := String.fromUTF8? ⟨bs.toArray⟩

/-- The digits of base sixteen. -/
def hexDigits : List Char := "0123456789abcdef".toList

/-- A digit of base sixteen. -/
def hexDigit (n : Nat) : Char := hexDigits.getD n '0'

/-- Two digits for every byte. -/
def hex (bs : Bytes) : String :=
  String.ofList (bs.flatMap fun b => [hexDigit (b.toNat / 16), hexDigit (b.toNat % 16)])

/-- The value of a digit of base sixteen. -/
def hexValue? (c : Char) : Option Nat := hexDigits.findIdx? (· == c.toLower)

/-- The bytes that pairs of digits stand for. -/
def ofHexDigits? : List Char → Option Bytes
  | [] => some []
  | [_] => none
  | a :: b :: rest => do
    let hi ← hexValue? a
    let lo ← hexValue? b
    let bs ← ofHexDigits? rest
    pure ((16 * hi + lo).toUInt8 :: bs)

/-- The bytes written in base sixteen. -/
def ofHex? (s : String) : Option Bytes := ofHexDigits? s.toList

end Bytes

/-! ## Layer B: bytes that may be no text -/

namespace Bytes

/-- What stands for bytes that are no character. -/
def replacement : Char := '\uFFFD'

/-- A character of which some bytes have been read. -/
structure Partial where
  /-- The bits so far. -/
  bits : Nat
  /-- How many bytes are missing. -/
  missing : Nat
  /-- What the next byte may be. -/
  least : UInt8 := 0x80
  most : UInt8 := 0xBF
  deriving Repr, DecidableEq, Inhabited

/-- What a first byte begins: a character of one byte, one of several, or none. -/
inductive Lead where
  | whole (c : Char)
  | more (p : Partial)
  | wrong
  deriving Repr, DecidableEq, Inhabited

/-- What a first byte begins. The bounds of the second byte rule out long forms, surrogates, and
numbers beyond the last character. -/
def lead (b : UInt8) : Lead :=
  let n := b.toNat
  if n < 0x80 then .whole (Char.ofNat n)
  else if n < 0xC2 then .wrong
  else if n < 0xE0 then .more ⟨n - 0xC0, 1, 0x80, 0xBF⟩
  else if n == 0xE0 then .more ⟨0, 2, 0xA0, 0xBF⟩
  else if n == 0xED then .more ⟨0xD, 2, 0x80, 0x9F⟩
  else if n < 0xF0 then .more ⟨n - 0xE0, 2, 0x80, 0xBF⟩
  else if n == 0xF0 then .more ⟨0, 3, 0x90, 0xBF⟩
  else if n < 0xF4 then .more ⟨n - 0xF0, 3, 0x80, 0xBF⟩
  else if n == 0xF4 then .more ⟨4, 3, 0x80, 0x8F⟩
  else .wrong

/-- The characters of bytes behind a character that has been read in part. -/
def decodeFrom : Option Partial → Bytes → List Char
  | none, [] => []
  | some _, [] => [replacement]
  | none, b :: rest =>
    match lead b with
    | .whole c => c :: decodeFrom none rest
    | .more p => decodeFrom (some p) rest
    | .wrong => replacement :: decodeFrom none rest
  | some p, b :: rest =>
    if p.least ≤ b && b ≤ p.most then
      let bits := p.bits * 64 + (b.toNat - 0x80)
      if p.missing == 1 then Char.ofNat bits :: decodeFrom none rest
      else decodeFrom (some { bits := bits, missing := p.missing - 1 }) rest
    else
      -- the byte that does not fit may begin a character of its own
      match lead b with
      | .whole c => replacement :: c :: decodeFrom none rest
      | .more q => replacement :: decodeFrom (some q) rest
      | .wrong => replacement :: replacement :: decodeFrom none rest

/-- **The text of bytes**, with replacements where they are no text. -/
def lossyText (bs : Bytes) : String := String.ofList (decodeFrom none bs)

end Bytes

end CodeAtlas
