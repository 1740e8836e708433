import CodeAtlas.Bytes.Basic
import CodeAtlas.Shell.Format

/-!
# Values of records

A value is a number or a text. A text that comes from outside and looks like a number is both.

## Architecture

- **Layer A**: numbers in texts;
- **Layer B**: numbers as texts;
- **Layer C**: values;
- **Layer D**: formats.
-/

namespace CodeAtlas

namespace Shell

namespace Awk

/-! ## Layer A: numbers in texts -/

/-- Bytes as characters of one byte each. -/
def charsOf (bs : Bytes) : List Char := bs.map fun b => Char.ofNat b.toNat

/-- The value of a digit in base sixteen. -/
def hexValue? (c : Char) : Option Nat :=
  let n := c.toNat
  if c.isDigit then some (n - 48)
  else if 'a' ≤ c && c ≤ 'f' then some (n - 87)
  else if 'A' ≤ c && c ≤ 'F' then some (n - 55)
  else none

/-- The number at the start of a text, and what is left. Behind `0x` it is in base sixteen. -/
def numeralAt (cs : List Char) : Float × List Char :=
  let body := cs.dropWhile isGap
  let (negative, digits) := Decimal.sign body
  let signed (f : Float) : Float := if negative then -f else f
  match digits with
  | '0' :: x :: rest =>
    let hex := rest.takeWhile fun c => (hexValue? c).isSome
    if (x == 'x' || x == 'X') && !hex.isEmpty then
      let n := (hex.filterMap hexValue?).foldl (fun n d => 16 * n + d) 0
      (signed (Decimal.nearest n 0), rest.drop hex.length)
    else
      let (f, _, left) := fractionAt cs
      (f, left)
  | _ =>
    let (f, _, left) := fractionAt cs
    (f, left)

/-- The number that a text begins with; zero if there is none. -/
def leadingNumber (bs : Bytes) : Float := (numeralAt (charsOf bs)).1

/-- The number that a text is, with blanks around it. It begins with a digit, a sign or a point,
and ends with a digit or a point. -/
def wholeNumber? (bs : Bytes) : Option Float :=
  let body := (charsOf bs).dropWhile isGap
  let body := (body.reverse.dropWhile isGap).reverse
  let begins := body.head?.any fun c => c.isDigit || ['+', '-', '.'].contains c
  let ends := body.getLast?.any fun c => c.isDigit || c == '.'
  if begins && ends then
    let (f, left) := numeralAt body
    if left.isEmpty then some f else none
  else none

/-! ## Layer B: numbers as texts -/

/-- The whole number that a binary fraction is, if it is one. -/
def exactInt? (f : Float) : Option Int :=
  if f.isNaN || f.isInf then none
  else
    let b := Decimal.Binary.ofFloat f
    let n : Option Nat :=
      if 0 ≤ b.power then some (b.mantissa * Nat.pow 2 b.power.toNat)
      else
        let unit := Nat.pow 2 (-b.power).toNat
        if b.mantissa % unit == 0 then some (b.mantissa / unit) else none
    n.map fun n => if f < 0 then -Int.ofNat n else Int.ofNat n

/-- A binary fraction without its part behind the point, within bounds. -/
def truncatedWithin (least most : Int) (f : Float) : Int :=
  if f.isNaN then least
  else if f.isInf then (if f < 0 then least else most)
  else
    let b := Decimal.Binary.ofFloat f
    let n := if 0 ≤ b.power then b.mantissa * Nat.pow 2 b.power.toNat
      else b.mantissa / Nat.pow 2 (-b.power).toNat
    let i : Int := if f < 0 then -Int.ofNat n else Int.ofNat n
    max least (min most i)

/-- A binary fraction as a whole number of 64 bits with a sign. -/
def truncated (f : Float) : Int := truncatedWithin (-0x8000000000000000) 0x7fffffffffffffff f

/-- A binary fraction as a place or a number of bytes. -/
def toCount (f : Float) : Nat := (truncated f).toNat

/-- The remainder of a division, with the sign of the first number. -/
def remainder (x y : Float) : Float :=
  if x.isNaN || y.isNaN || x.isInf || y == 0 then 0.0 / 0.0
  else if y.isInf then x
  else
    let a := Decimal.Binary.ofFloat x
    let b := Decimal.Binary.ofFloat y
    let low := min a.power b.power
    let m := a.mantissa * Nat.pow 2 (a.power - low).toNat
    let n := b.mantissa * Nat.pow 2 (b.power - low).toNat
    let r := Float.scaleB (Float.ofNat (m % n)) low
    if x < 0 then -r else r

/-! ## Layer C: values -/

/-- **A value.** -/
inductive Value where
  /-- The value of what was never set. -/
  | missing
  | number (f : Float)
  | text (bs : Bytes)
  /-- A text from outside that looks like a number. -/
  | numeral (bs : Bytes) (f : Float)
  deriving Inhabited

namespace Value

/-- The value of a text from outside. -/
def ofInput (bs : Bytes) : Value :=
  match wholeNumber? bs with
  | some f => numeral bs f
  | none => text bs

/-- A value that tells whether something holds. -/
def ofBool (b : Bool) : Value := number (if b then 1 else 0)

/-- A whole number. -/
def ofNat (n : Nat) : Value := number n.toFloat

/-- A value as a number. -/
def toFloat : Value → Float
  | missing => 0
  | number f => f
  | text bs => leadingNumber bs
  | numeral _ f => f

/-- Whether a value counts as true. -/
def isTrue : Value → Bool
  | missing => false
  | number f => f != 0
  | text bs => !bs.isEmpty
  | numeral _ f => f != 0

end Value

/-! ## Layer D: formats -/

/-- What is wrong with a format. -/
inductive FormatFault where
  | tooFew
  /-- The directive with a number is none. -/
  | improper (number : Nat)
  deriving Repr, DecidableEq, Inhabited

/-- The largest whole number of 64 bits without a sign. -/
def wordLimit : Int := 0xffffffffffffffff

/-- A number as text. Whole numbers are written out; others are shown by a directive. -/
def numberText (shown : Float → Bytes) (f : Float) : Bytes :=
  let whole := if f < 0 then truncated f else truncatedWithin 0 wordLimit f
  let back := Decimal.nearest whole.natAbs 0
  if !f.isNaN && !f.isInf && (if f < 0 then -back else back) == f then
    Bytes.ofText (toString whole)
  else shown f

/-- Shows a fraction. What is no number has a sign. -/
def shownFraction (d : Directive) (f : Float) : Bytes :=
  if f.isNaN then d.paddedNumber false "-" "nan" else d.fraction f

/-- What a directive makes of a value. -/
def filled? (d : Directive) (toText : Value → Bytes) (v : Value) : Option Bytes :=
  let f := v.toFloat
  match d.kind with
  | 's' => some (d.text (toText v))
  | 'c' =>
    let ofNumber := [UInt8.ofNat (truncated f % 256).toNat]
    some (d.padded (match v with
      | .number _ => ofNumber
      | .numeral _ _ => ofNumber
      | .text (b :: _) => [b]
      | _ => [0]))
  | c =>
    if ['d', 'i'].contains c then some (d.integer (truncated f))
    else if ['o', 'x', 'X', 'u'].contains c then
      some (d.integer (if f < 0 then truncated f else truncatedWithin 0 wordLimit f))
    else if ['e', 'E', 'f', 'F', 'g', 'G'].contains c then some (shownFraction d f)
    else none

/-- A number in a directive: digits, or the next value where there is a star. -/
def starOrDigits (cs : List Char) (vs : List Value) : Option (Int × List Char × List Value) :=
  match cs, vs with
  | '*' :: rest, v :: vs => some (truncated v.toFloat, rest, vs)
  | '*' :: _, [] => none
  | _, _ =>
    let ds := cs.takeWhile Char.isDigit
    some (valueIn 10 ds, cs.drop ds.length, vs)

/-- Reads a directive behind its percent sign, up to its kind. -/
def directiveAt (cs : List Char) (vs : List Value) :
    Option (Directive × List Char × List Value) := do
  let flags := cs.takeWhile fun c => ['#', '-', '+', ' ', '0'].contains c
  let (width, rest, vs) ← starOrDigits (cs.drop flags.length) vs
  let (precision, rest, vs) ← match rest with
    | '.' :: rest => do
      let (n, rest, vs) ← starOrDigits rest vs
      pure (if n < 0 then none else some n.toNat, rest, vs)
    | _ => pure (none, rest, vs)
  let rest := rest.dropWhile fun c => ['h', 'l'].contains c
  pure ({ flags := if width < 0 then '-' :: flags else flags, width := width.natAbs
          precision := precision, kind := rest.headD '\x00' }, rest.drop 1, vs)

/-- **Fills in a format with values.** What is printed before a fault is given with it. -/
def fillFormat (toText : Value → Bytes) : Nat → Nat → List Char → List Value → Bytes →
    Bytes × Option FormatFault
  | 0, _, _, _, done => (done, none)
  | _ + 1, _, [], _, done => (done, none)
  | fuel + 1, number, '%' :: '%' :: cs, vs, done =>
    fillFormat toText fuel number cs vs (done ++ [37])
  | fuel + 1, number, '%' :: cs, vs, done =>
    match directiveAt cs vs with
    | none => (done, some .tooFew)
    | some (d, rest, vs) =>
      if (filled? d toText .missing).isNone then (done, some (.improper number))
      else
        match vs with
        | [] => (done, some .tooFew)
        | v :: vs =>
          fillFormat toText fuel (number + 1) rest vs (done ++ (filled? d toText v).getD [])
  | fuel + 1, number, c :: cs, vs, done =>
    fillFormat toText fuel number cs vs (done ++ [UInt8.ofNat c.toNat])

/-- A number by a format with one directive. -/
def formattedNumber (format : Bytes) (f : Float) : Bytes :=
  (fillFormat (fun _ => []) (format.length + 1) 1 (charsOf format) [.number f] []).1

namespace Value

/-- A value as text, where numbers that are not whole are shown by a format. -/
def toText (format : Bytes) : Value → Bytes
  | missing => []
  | number f => numberText (formattedNumber format) f
  | text bs => bs
  | numeral bs _ => bs

/-- Whether a value can be compared as a number. -/
def isNumeric : Value → Bool
  | text _ => false
  | _ => true

/-- The order of two values: of numbers, or else of texts. What is no number equals all numbers. -/
def order (format : Bytes) (a b : Value) : Ordering :=
  if a.isNumeric && b.isNumeric then
    if a.toFloat > b.toFloat then .gt else if a.toFloat < b.toFloat then .lt else .eq
  else compare (a.toText format) (b.toText format)

end Value

end Awk

end Shell

end CodeAtlas
