/-!
# Writing decimals

A binary fraction as decimal digits: the fewest that read back as the same number, or as many as
are asked for.

## Architecture

- **Layer A**: the fewest digits that read back, and among those the nearest. A finite number is
  taken apart into a mantissa and a power of two; for one digit, two digits, and so on, the two
  neighbours on the decimal grid are tested against the interval of reals that round to it;
- **Layer B**: a number of places or of digits. The value is exact, so a half goes to the even
  neighbour only where the binary fraction really lies in the middle.
-/

namespace CodeAtlas

/-! ## Layer A: the fewest digits -/

namespace Decimal

/-- A positive number `mantissa * 2 ^ power` with the neighbours that round to it. -/
structure Binary where
  mantissa : Nat
  power : Int
  /-- Whether the gap to the next number below is half the gap to the next one above. -/
  narrowBelow : Bool
  deriving Repr, DecidableEq

/-- The parts of a finite number, its sign dropped. -/
def Binary.ofFloat (f : Float) : Binary :=
  let bits := f.toBits.toNat
  let exponent := bits / 0x10000000000000 % 0x800
  let fraction := bits % 0x10000000000000
  if exponent == 0 then ⟨fraction, -1074, false⟩
  else ⟨fraction + 0x10000000000000, Int.ofNat exponent - 1075, fraction == 0 && 1 < exponent⟩

/-- Whether `d * 10 ^ e` rounds to the number; both sides are compared in quarters of a gap. -/
def Binary.accepts (b : Binary) (d : Nat) (e : Int) : Bool :=
  let scale := 4 * d * Nat.pow 10 e.toNat * Nat.pow 2 (-b.power).toNat
  let unit := Nat.pow 10 (-e).toNat * Nat.pow 2 b.power.toNat
  let low := (4 * b.mantissa - (if b.narrowBelow then 1 else 2)) * unit
  let high := (4 * b.mantissa + 2) * unit
  if b.mantissa % 2 == 0 then low ≤ scale && scale ≤ high else low < scale && scale < high

/-- The largest `d` with `d * 10 ^ e` at most the number, and whether `d + 1` is nearer. -/
def Binary.floorAt (b : Binary) (e : Int) : Nat × Bool :=
  let num := b.mantissa * Nat.pow 2 b.power.toNat * Nat.pow 10 (-e).toNat
  let den := Nat.pow 10 e.toNat * Nat.pow 2 (-b.power).toNat
  (num / den, den < 2 * (num % den))

/-- The exponent of the leading decimal digit, searched downwards. -/
def Binary.leading (b : Binary) : Nat → Int → Int
  | 0, e => e
  | fuel + 1, e => if 0 < (b.floorAt e).1 then e else b.leading fuel (e - 1)

/-- The first grid with a hit, as digits and the exponent of the last one. -/
def Binary.search (b : Binary) : Nat → Int → Nat × Int
  | 0, e => ((b.floorAt e).1, e)
  | fuel + 1, e =>
    let (d, up) := b.floorAt e
    let below := b.accepts d e
    let above := b.accepts (d + 1) e
    if below && (!above || !up) then (d, e)
    else if above then (d + 1, e)
    else b.search fuel (e - 1)

/-- Digits with a decimal point, without an exponent and without a fraction that is zero. -/
def positional (digits : List Char) (e : Int) : List Char :=
  let places := (-e).toNat
  if e ≥ 0 then digits ++ List.replicate e.toNat '0'
  else if digits.length ≤ places then
    '0' :: '.' :: (List.replicate (places - digits.length) '0' ++ digits)
  else digits.take (digits.length - places) ++ '.' :: digits.drop (digits.length - places)

/-- Cuts trailing zeros of the digits and moves the exponent along. -/
def trimZeros (digits : List Char) (e : Int) : List Char × Int :=
  let kept := (digits.reverse.dropWhile (· == '0')).reverse
  (kept, e + Int.ofNat (digits.length - kept.length))

/-- One digit before the point and the others behind it, with a signed exponent. -/
def scientific (digits : List Char) (lead : Int) : List Char :=
  let point := if digits.length ≤ 1 then [] else ['.']
  let exponent := (if lead < 0 then '-' else '+') :: Nat.toDigits 10 lead.natAbs
  digits.take 1 ++ point ++ digits.drop 1 ++ 'e' :: exponent

end Decimal

/-- How a number is laid out: the exponents of the leading digit between which it is written
without an exponent (any, if there is no such window), and whether a whole number has a zero behind
the point. -/
structure FloatLayout where
  window : Option (Int × Int)
  wholePoint : Bool
  deriving Repr, DecidableEq

namespace FloatLayout

/-- Whether a leading digit with this exponent is written without an exponent. -/
def admits (l : FloatLayout) (lead : Int) : Bool :=
  match l.window with
  | some (least, most) => least ≤ lead && lead ≤ most
  | none => true

/-- **A number with as few digits as read back, in a layout.** -/
def shown (l : FloatLayout) (f : Float) : String :=
  if f.isNaN then "NaN"
  else if f.isInf then (if f < 0 then "-inf" else "inf")
  else
    let sign := if f.toBits.toNat / 0x8000000000000000 == 1 then ['-'] else []
    let b := Decimal.Binary.ofFloat f
    let (d, e) := if b.mantissa == 0 then (0, 0) else b.search 18 (b.leading 800 310)
    let (digits, e) := if d == 0 then (['0'], 0) else Decimal.trimZeros (Nat.toDigits 10 d) e
    let lead := e + Int.ofNat digits.length - 1
    let body :=
      if l.admits lead then
        let whole := Decimal.positional digits e
        if l.wholePoint && !whole.contains '.' then whole ++ ['.', '0'] else whole
      else Decimal.scientific digits lead
    String.ofList (sign ++ body)

end FloatLayout

/-! ## Layer B: a given number of digits -/

namespace Decimal

/-- A quotient rounded to the nearest number, a half to the even one. -/
def roundDiv (num den : Nat) : Nat :=
  let q := num / den
  let twice := 2 * (num % den)
  if den < twice || (twice == den && q % 2 == 1) then q + 1 else q

/-- The number in units of `10 ^ e`, rounded. -/
def Binary.inUnits (b : Binary) (e : Int) : Nat :=
  roundDiv (b.mantissa * Nat.pow 2 b.power.toNat * Nat.pow 10 (-e).toNat)
    (Nat.pow 10 e.toNat * Nat.pow 2 (-b.power).toNat)

/-- Digits with a point before the last `places` of them, and at least one digit before it. -/
def withPoint (n places : Nat) (keepPoint : Bool) : List Char :=
  let ds := Nat.toDigits 10 n
  let ds := List.replicate (places + 1 - ds.length) '0' ++ ds
  let whole := ds.take (ds.length - places)
  if places == 0 then whole ++ (if keepPoint then ['.'] else [])
  else whole ++ '.' :: ds.drop (ds.length - places)

/-- **A number with a number of places**, its sign dropped. -/
def fixed (f : Float) (places : Nat) (keepPoint : Bool) : List Char :=
  withPoint ((Binary.ofFloat f).inUnits (-places)) places keepPoint

/-- The digits of a number rounded to `places + 1` of them, and the exponent of the first. -/
def leadingDigits (f : Float) (places : Nat) : Nat × Int :=
  let b := Binary.ofFloat f
  if b.mantissa == 0 then (0, 0)
  else
    let e := b.leading 700 310
    let n := b.inUnits (e - places)
    if Nat.pow 10 (places + 1) ≤ n then (b.inUnits (e + 1 - places), e + 1) else (n, e)

/-- An exponent behind its mark: a sign and at least two digits. -/
def exponentText (mark : Char) (e : Int) : List Char :=
  let ds := Nat.toDigits 10 e.natAbs
  mark :: (if e < 0 then '-' else '+') :: List.replicate (2 - ds.length) '0' ++ ds

/-- **A number with one digit before the point and an exponent**, its sign dropped. -/
def withExponent (f : Float) (places : Nat) (keepPoint : Bool) (mark : Char) : List Char :=
  let (n, e) := leadingDigits f places
  withPoint n places keepPoint ++ exponentText mark e

/-- Drops zeros at the end of a fraction, and a point with nothing behind it. -/
def trimFraction (cs : List Char) : List Char :=
  if cs.contains '.' then
    let cs := cs.reverse.dropWhile (· == '0')
    (if cs.head? == some '.' then cs.drop 1 else cs).reverse
  else cs

/-- **A number with a number of digits**, with an exponent only where it is very small or large. -/
def general (f : Float) (digits : Nat) (keepZeros : Bool) (mark : Char) : List Char :=
  let places := max digits 1 - 1
  let (n, e) := leadingDigits f places
  let trim (cs : List Char) : List Char := if keepZeros then cs else trimFraction cs
  if -4 ≤ e && e ≤ places then trim (fixed f (places - e).toNat keepZeros)
  else trim (withPoint n places keepZeros) ++ exponentText mark e

end Decimal

end CodeAtlas
