/-!
# Reading decimals

The binary fraction nearest to a decimal, and the texts that spell one.
-/

namespace CodeAtlas

namespace Decimal

/-- The nearest binary fraction to `m * 10 ^ e`. -/
def nearest (m : Nat) (e : Int) : Float :=
  if m == 0 then 0.0
  else
    let size : Int := (Nat.toDigits 10 m).length
    if 400 < size + e then 1.0 / 0.0
    else if size + e < -400 then 0.0
    else if e ≥ 0 then Float.ofScientific m false e.toNat
    else Float.ofScientific m true (-e).toNat

/-- The number that decimal digits spell. -/
def digitsValue (ds : List Char) : Nat := ds.foldl (fun n c => n * 10 + (c.toNat - 0x30)) 0

/-- A sign, and whether it is a minus. -/
def sign : List Char → Bool × List Char
  | '-' :: rest => (true, rest)
  | '+' :: rest => (false, rest)
  | cs => (false, cs)

/-- The number in decimal digits behind an optional plus sign. -/
def natural? (cs : List Char) : Option Nat :=
  let ds := match cs with
    | '+' :: rest => rest
    | cs => cs
  if ds.isEmpty || !ds.all Char.isDigit then none else some (digitsValue ds)

/-- The number in 64 bits that a text spells in digits, behind an optional plus sign. -/
def word? (s : String) : Option Nat := (natural? s.toList).filter (· < 0x10000000000000000)

/-- The exponent at the end of a decimal; without one it is zero. -/
def exponent? : List Char → Option Int
  | [] => some 0
  | c :: rest =>
    if c == 'e' || c == 'E' then
      let (down, ds) := sign rest
      if ds.isEmpty || !ds.all Char.isDigit then none
      else some (if down then -Int.ofNat (digitsValue ds) else Int.ofNat (digitsValue ds))
    else none

/-- A decimal without a sign: digits with at most one point, and an exponent. -/
def unsigned? (cs : List Char) : Option Float := do
  let whole := cs.takeWhile Char.isDigit
  let (fraction, rest) := match cs.drop whole.length with
    | '.' :: rest => (rest.takeWhile Char.isDigit, rest.dropWhile Char.isDigit)
    | rest => ([], rest)
  if whole.isEmpty && fraction.isEmpty then none
  else
    let e ← exponent? rest
    pure (nearest (digitsValue (whole ++ fraction)) (e - fraction.length))

/-- **The number that a text spells**: a decimal, an infinity, or the text for no number. -/
def read? (s : String) : Option Float :=
  let (negative, cs) := sign s.toList
  let word := String.ofList (cs.map Char.toLower)
  let magnitude :=
    if word == "inf" || word == "infinity" then some (1.0 / 0.0)
    else if word == "nan" then some (0.0 / 0.0)
    else unsigned? cs
  magnitude.map fun f => if negative then -f else f

end Decimal

end CodeAtlas
