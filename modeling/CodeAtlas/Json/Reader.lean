import CodeAtlas.Decimal.Writing
import CodeAtlas.Json.Basic

/-!
# Reading JSON

A text is cut into tokens, and the tokens are put together to a value. Both steps are total: they
carry a bound on the number of steps that the length of their input gives them.

## Architecture

- **Layer A**: the characters of a string;
- **Layer B**: numbers;
- **Layer C**: tokens;
- **Layer D**: values.
-/

namespace CodeAtlas

namespace Json

/-! ## Layer A: strings -/

/-- A character of a string, or half of a surrogate pair. -/
inductive Piece where
  | char (c : Char)
  | unit (n : Nat)
  deriving Repr, DecidableEq

/-- The value of a hexadecimal digit. -/
def hexValue? (c : Char) : Option Nat :=
  let n := c.toNat
  if 0x30 ≤ n && n ≤ 0x39 then some (n - 0x30)
  else if 0x41 ≤ n && n ≤ 0x46 then some (n - 0x41 + 10)
  else if 0x61 ≤ n && n ≤ 0x66 then some (n - 0x61 + 10)
  else none

/-- The code unit that four hexadecimal digits denote. -/
def hexUnit? (a b c d : Char) : Option Nat := do
  let a ← hexValue? a
  let b ← hexValue? b
  let c ← hexValue? c
  let d ← hexValue? d
  pure (((a * 16 + b) * 16 + c) * 16 + d)

/-- The character behind a backslash. -/
def shortEscape? (c : Char) : Option Char :=
  if c == '"' then some '"'
  else if c == '\\' then some '\\'
  else if c == '/' then some '/'
  else if c == 'b' then some (Char.ofNat 8)
  else if c == 'f' then some (Char.ofNat 12)
  else if c == 'n' then some '\n'
  else if c == 'r' then some '\r'
  else if c == 't' then some '\t'
  else none

/-- The pieces up to the closing quote, and what follows it. -/
def scanString : List Char → Option (List Piece × List Char)
  | [] => none
  | '"' :: rest => some ([], rest)
  | '\\' :: 'u' :: a :: b :: c :: d :: rest => do
    let unit ← hexUnit? a b c d
    let (pieces, rest) ← scanString rest
    pure (.unit unit :: pieces, rest)
  | '\\' :: c :: rest => do
    let c ← shortEscape? c
    let (pieces, rest) ← scanString rest
    pure (.char c :: pieces, rest)
  | c :: rest =>
    if c.toNat < 0x20 || c == '\\' then none
    else do
      let (pieces, rest) ← scanString rest
      pure (.char c :: pieces, rest)

/-- Joins surrogate pairs; an unpaired half denotes no text. -/
def joinPieces : List Piece → Option (List Char)
  | [] => some []
  | .char c :: rest => (joinPieces rest).map (c :: ·)
  | .unit n :: rest =>
    if n < 0xD800 || 0xE000 ≤ n then (joinPieces rest).map (Char.ofNat n :: ·)
    else
      match rest with
      | .unit m :: rest =>
        if n < 0xDC00 && 0xDC00 ≤ m && m < 0xE000 then
          (joinPieces rest).map (Char.ofNat (0x10000 + (n - 0xD800) * 0x400 + (m - 0xDC00)) :: ·)
        else none
      | _ => none

/-! ## Layer B: numbers -/

/-- The parts of a written number. -/
structure NumberText where
  negative : Bool
  whole : List Char
  fraction : List Char
  exponent : Option (Bool × List Char)
  deriving Repr, DecidableEq

/-- The digits at the start of a text, and the rest. -/
def spanDigits (cs : List Char) : List Char × List Char :=
  (cs.takeWhile Char.isDigit, cs.dropWhile Char.isDigit)

/-- Reads the exponent behind its mark. -/
def scanExponent (cs : List Char) : Option ((Bool × List Char) × List Char) :=
  let (down, cs) :=
    match cs with
    | '+' :: rest => (false, rest)
    | '-' :: rest => (true, rest)
    | _ => (false, cs)
  let (digits, rest) := spanDigits cs
  if digits.isEmpty then none else some ((down, digits), rest)

/-- Reads what may follow the whole part. -/
def scanTail (negative : Bool) (whole cs : List Char) : Option (NumberText × List Char) := do
  let (fraction, cs) ←
    match cs with
    | '.' :: rest =>
      let (digits, rest) := spanDigits rest
      if digits.isEmpty then none else some (digits, rest)
    | _ => some ([], cs)
  match cs with
  | 'e' :: rest | 'E' :: rest => do
    let (e, rest) ← scanExponent rest
    pure (⟨negative, whole, fraction, some e⟩, rest)
  | _ => pure (⟨negative, whole, fraction, none⟩, cs)

/-- Reads a number; a whole part of several digits does not start with zero. -/
def scanNumber (cs : List Char) : Option (NumberText × List Char) :=
  let (negative, cs) :=
    match cs with
    | '-' :: rest => (true, rest)
    | _ => (false, cs)
  let (whole, rest) := spanDigits cs
  match whole with
  | [] => none
  | '0' :: _ :: _ => none
  | _ => scanTail negative whole rest

/-- The number a list of digits denotes. -/
def digitsValue (ds : List Char) : Nat :=
  ds.foldl (fun n c => n * 10 + (c.toNat - 0x30)) 0

/-- The first number that does not fit in 64 bits. -/
def wordLimit : Nat := 0x10000000000000000

/-- Takes digits into a significand while it fits in 64 bits; says how many were left over. -/
def takeDigits (significand : Nat) : List Char → Nat × Nat
  | [] => (significand, 0)
  | c :: rest =>
    let next := significand * 10 + (c.toNat - 0x30)
    if next < wordLimit then takeDigits next rest else (significand, rest.length + 1)

/-- Scales a significand by a power of ten, in steps that the largest power allows. -/
def scaleFloat : Nat → Float → Int → Option Float
  | 0, f, _ => some f
  | fuel + 1, f, e =>
    if e.natAbs ≤ 308 then
      if e ≥ 0 then
        let g := f * Float.ofScientific 1 false e.toNat
        if g.isInf then none else some g
      else some (f / Float.ofScientific 1 false (-e).toNat)
    -- zero stays zero under any power, even one that is too large
    else if f == 0.0 then some f
    else if e ≥ 0 then none
    else scaleFloat fuel (f / Float.ofScientific 1 false 308) (e + 308)

/-- Exponents beyond this size are not counted out. -/
def exponentLimit : Nat := 0x80000000

/-- The nearest binary fraction as far as the significand reaches, or `none` if it is too large.
Digits behind the point are taken as long as they fit, also behind dropped ones. -/
def NumberText.toFloat? (t : NumberText) : Option Float := do
  let (significand, dropped) := takeDigits 0 t.whole
  let (significand, left) := takeDigits significand t.fraction
  let point := Int.ofNat dropped - Int.ofNat (t.fraction.length - left)
  let magnitude ←
    match t.exponent with
    | none => scaleFloat 8 significand.toUInt64.toFloat point
    | some (down, digits) =>
      let e := digitsValue digits
      if exponentLimit ≤ e then
        if significand != 0 && !down then none else some 0.0
      else scaleFloat 8 significand.toUInt64.toFloat (if down then point - e else point + e)
  pure (if t.negative then -magnitude else magnitude)

/-- Numbers are shown without an exponent from five places behind the point up to sixteen digits
before it, and always with a fraction. -/
def floatLayout : FloatLayout := ⟨some (-5, 15), true⟩

/-- The number that a written number denotes. -/
def NumberText.value (t : NumberText) : JsonNumber :=
  let n := digitsValue t.whole
  if t.fraction.isEmpty && t.exponent.isNone && n < wordLimit && !t.negative then .natural n
  -- `-0` is no negative whole number; only a fraction has a zero with a sign
  else if t.fraction.isEmpty && t.exponent.isNone && 0 < n && n ≤ 0x8000000000000000
      && t.negative then
    .negative n
  else
    match t.toFloat? with
    | some f => .fraction (floatLayout.shown f)
    | none => .tooLarge

/-! ## Layer C: tokens -/

/-- A lexical unit of a JSON text. -/
inductive Token where
  | null
  | bool (b : Bool)
  | num (n : JsonNumber)
  | str (s : Option String)
  | openArr
  | closeArr
  | openObj
  | closeObj
  | comma
  | colon
  deriving Repr, DecidableEq

/-- The token at the start of a text that is not blank there. -/
def scanToken : List Char → Option (Token × List Char)
  | '[' :: rest => some (.openArr, rest)
  | ']' :: rest => some (.closeArr, rest)
  | ',' :: rest => some (.comma, rest)
  | ':' :: rest => some (.colon, rest)
  | 'n' :: 'u' :: 'l' :: 'l' :: rest => some (.null, rest)
  | 't' :: 'r' :: 'u' :: 'e' :: rest => some (.bool true, rest)
  | 'f' :: 'a' :: 'l' :: 's' :: 'e' :: rest => some (.bool false, rest)
  | '"' :: rest => (scanString rest).map fun p => (.str ((joinPieces p.1).map String.ofList), p.2)
  | c :: rest =>
    if c.toNat == 0x7B then some (.openObj, rest)
    else if c.toNat == 0x7D then some (.closeObj, rest)
    else (scanNumber (c :: rest)).map fun p => (.num p.1.value, p.2)
  | [] => none

/-- Whether a character may stand between tokens. -/
def isGap (c : Char) : Bool := c == ' ' || c == '\n' || c == '\t' || c == '\r'

/-- All tokens of a text. -/
def tokens : Nat → List Char → Option (List Token)
  | 0, _ => none
  | fuel + 1, cs =>
    match cs.dropWhile isGap with
    | [] => some []
    | cs => do
      let (t, rest) ← scanToken cs
      let ts ← tokens fuel rest
      pure (t :: ts)

/-! ## Layer D: values -/

mutual

/-- The value at the start of a list of tokens. -/
def value : Nat → List Token → Option (Json × List Token)
  | 0, _ => none
  | _ + 1, .null :: rest => some (.null, rest)
  | _ + 1, .bool b :: rest => some (.bool b, rest)
  | _ + 1, .num n :: rest => some (.num n, rest)
  | _ + 1, .str s :: rest => some (.str s, rest)
  | _ + 1, .openArr :: .closeArr :: rest => some (.arr [], rest)
  | fuel + 1, .openArr :: rest => (items fuel rest).map fun p => (.arr p.1, p.2)
  | _ + 1, .openObj :: .closeObj :: rest => some (.obj [], rest)
  | fuel + 1, .openObj :: rest => (members fuel rest).map fun p => (.obj p.1, p.2)
  | _ + 1, _ => none

/-- The items of a non-empty array, up to its closing bracket. -/
def items : Nat → List Token → Option (List Json × List Token)
  | 0, _ => none
  | fuel + 1, ts => do
    let (v, rest) ← value fuel ts
    match rest with
    | .closeArr :: rest => some ([v], rest)
    | .comma :: rest => do
      let (vs, rest) ← items fuel rest
      pure (v :: vs, rest)
    | _ => none

/-- The members of a non-empty object, up to its closing brace. -/
def members : Nat → List Token → Option (List (Option String × Json) × List Token)
  | 0, _ => none
  | fuel + 1, .str k :: .colon :: ts => do
    let (v, rest) ← value fuel ts
    match rest with
    | .closeObj :: rest => some ([(k, v)], rest)
    | .comma :: rest => do
      let (vs, rest) ← members fuel rest
      pure ((k, v) :: vs, rest)
    | _ => none
  | _ + 1, _ => none

end

/-- **The value of a JSON text**, or `none` if the text is not well formed. -/
def read? (s : String) : Option Json := do
  let cs := s.toList
  let ts ← tokens (cs.length + 1) cs
  -- an item takes two steps: one into the list, one into its value
  match ← value (2 * ts.length + 1) ts with
  | (v, []) => some v
  | _ => none

end Json

end CodeAtlas
