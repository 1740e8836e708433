import CodeAtlas.Bytes.Basic
import CodeAtlas.Decimal.Reading
import CodeAtlas.Decimal.Writing
import CodeAtlas.Shell.Arithmetic

/-!
# Formatted output

Texts with escapes, and formats that are filled in with arguments.

## Architecture

- **Layer A**: escapes;
- **Layer B**: directives;
- **Layer C**: numbers in arguments;
- **Layer D**: whole formats.
-/

namespace CodeAtlas

namespace Shell

/-! ## Layer A: escapes -/

/-- Whether a character is a digit below eight. -/
def isOctal (c : Char) : Bool := '0' ≤ c && c ≤ '7'

/-- The byte that a letter behind a backslash stands for. -/
def letterEscape? : Char → Option UInt8
  | 'a' => some 7
  | 'b' => some 8
  | 't' => some 9
  | 'n' => some 10
  | 'v' => some 11
  | 'f' => some 12
  | 'r' => some 13
  | 'e' => some 27
  | '\\' => some 92
  | _ => none

/-- What an escape stands for, behind its backslash, and what is left. Up to three octal digits are
a byte. Any other backslash stands for itself. -/
def escape (cs : List Char) : Bytes × List Char :=
  match cs with
  | [] => ([92], [])
  | c :: rest =>
    match letterEscape? c with
    | some b => ([b], rest)
    | none =>
      if isOctal c then
        let ds := (cs.take 3).takeWhile isOctal
        ([(valueIn 8 ds % 256).toUInt8], cs.drop ds.length)
      else ([92], cs)

/-- The bytes of a text with escapes, and whether output ends there. A zero may stand before octal
digits. -/
def unescape : Nat → List Char → Bytes × Bool
  | 0, _ => ([], false)
  | _ + 1, [] => ([], false)
  | fuel + 1, c :: rest =>
    if c == '\\' then
      if rest.head? == some 'c' then ([], true)
      else
        let digits := if rest.head? == some '0' && ((rest.drop 1).head?).any isOctal
          then rest.drop 1 else rest
        let (b, left) := escape digits
        let (bs, stop) := unescape fuel left
        (b ++ bs, stop)
    else
      let (bs, stop) := unescape fuel rest
      (Bytes.ofText (String.singleton c) ++ bs, stop)

/-! ## Layer B: directives -/

/-- A directive of a format. -/
structure Directive where
  flags : List Char := []
  width : Nat := 0
  precision : Option Nat := none
  kind : Char := '%'
  deriving Repr, DecidableEq, Inhabited

namespace Directive

/-- Whether a flag is set. -/
def has (d : Directive) (flag : Char) : Bool := d.flags.contains flag

/-- Fills bytes up to the width. -/
def padded (d : Directive) (bs : Bytes) : Bytes :=
  let gap := List.replicate (d.width - bs.length) (32 : UInt8)
  if d.has '-' then bs ++ gap else gap ++ bs

/-- Fills a number up to the width, with zeros behind its sign if that is asked for. -/
def paddedNumber (d : Directive) (zeros : Bool) (sign digits : String) : Bytes :=
  let size := sign.length + digits.length
  let fill := if zeros && d.has '0' && !d.has '-' then d.width - size else 0
  d.padded (Bytes.ofText (sign ++ String.ofList (List.replicate fill '0') ++ digits))

/-- A sign in front of a number. -/
def signOf (d : Directive) (negative : Bool) : String :=
  if negative then "-" else if d.has '+' then "+" else if d.has ' ' then " " else ""

/-- The digits of a number in a base. -/
def digitsIn (base n : Nat) : String := String.ofList (Nat.toDigits base n)

/-- A whole number as a directive shows it. -/
def integer (d : Directive) (n : Int) : Bytes :=
  let bits := (n % 0x10000000000000000).toNat
  let (sign, digits) := match d.kind with
    | 'x' => (if d.has '#' && bits != 0 then "0x" else "", digitsIn 16 bits)
    | 'X' => (if d.has '#' && bits != 0 then "0X" else "", (digitsIn 16 bits).toUpper)
    | 'o' => (if d.has '#' && bits != 0 then "0" else "", digitsIn 8 bits)
    | 'u' => ("", digitsIn 10 bits)
    | _ => (d.signOf (n < 0), toString n.natAbs)
  let digits := if d.precision == some 0 && n == 0 then "" else digits
  let zeros := String.ofList (List.replicate (d.precision.getD 0 - digits.length) '0')
  d.paddedNumber d.precision.isNone sign (zeros ++ digits)

/-- A binary fraction as a directive shows it. -/
def fraction (d : Directive) (f : Float) : Bytes :=
  let places := d.precision.getD 6
  let upper := d.kind.isUpper
  let mark := if upper then 'E' else 'e'
  let sign := d.signOf (f.toBits.toNat ≥ 0x8000000000000000)
  if f.isNaN || f.isInf then
    let word := if f.isNaN then "nan" else "inf"
    d.paddedNumber false sign (if upper then word.toUpper else word)
  else
    let cs := match d.kind.toLower with
      | 'f' => Decimal.fixed f places (d.has '#')
      | 'e' => Decimal.withExponent f places (d.has '#') mark
      | _ => Decimal.general f places (d.has '#') mark
    d.paddedNumber true sign (String.ofList cs)

/-- A text as a directive shows it. -/
def text (d : Directive) (bs : Bytes) : Bytes :=
  d.padded (match d.precision with
    | some p => bs.take p
    | none => bs)

end Directive

/-! ## Layer C: numbers in arguments -/

/-- What is wrong with an argument that should be a number. -/
inductive NumeralFault where
  | noNumber (arg : String)
  /-- There is more behind the number. -/
  | notAll (arg : String)
  | outOfRange (arg : String)
  deriving Repr, DecidableEq, Inhabited

/-- The wording of a fault. -/
def NumeralFault.message : NumeralFault → String
  | noNumber arg => arg ++ ": expected numeric value"
  | notAll arg => arg ++ ": not completely converted"
  | outOfRange arg => arg ++ ": Numerical result out of range"

/-- A number that an argument was read as, and what is wrong with the argument. -/
structure Numeral (α : Type) where
  value : α
  fault : Option NumeralFault := none
  deriving Repr, Inhabited

/-- What is wrong with an argument of which some characters are left. -/
def conversionFault (used left : List Char) (arg : String) : Option NumeralFault :=
  if left.isEmpty then none
  else if used.isEmpty then some (.noNumber arg)
  else some (.notAll arg)

/-- The whole number that an argument holds, in 64 bits with a sign or without. A quote stands
before a character whose number is meant. -/
def integerArg (signed : Bool) (arg : String) : Numeral Int :=
  match arg.toList with
  | '"' :: c :: _ => ⟨c.toNat, none⟩
  | '\'' :: c :: _ => ⟨c.toNat, none⟩
  | cs =>
    let body := cs.dropWhile isGap
    let (negative, digits) := Decimal.sign body
    let (n, left) := numberAt digits
    let used := digits.take (digits.length - left.length)
    let left := if used.isEmpty then cs else left
    let most := if !signed then 0xffffffffffffffff else if negative then 0x8000000000000000
      else 0x7fffffffffffffff
    let value : Int := if negative then -Int.ofNat (min n most) else Int.ofNat (min n most)
    ⟨value, conversionFault used left arg
      <|> if most < n then some (.outOfRange arg) else none⟩

/-- The binary fraction at the start of a text, and what is left. -/
def fractionAt (cs : List Char) : Float × List Char × List Char :=
  let body := cs.dropWhile isGap
  let (negative, rest) := Decimal.sign body
  let signed (f : Float) : Float := if negative then -f else f
  let word := (rest.take 3).map Char.toLower
  if word == ['i', 'n', 'f'] then (signed (1.0 / 0.0), rest.take 3, rest.drop 3)
  else if word == ['n', 'a', 'n'] then (signed (0.0 / 0.0), rest.take 3, rest.drop 3)
  else
    let whole := rest.takeWhile Char.isDigit
    let behind := rest.drop whole.length
    let places := if behind.head? == some '.' then (behind.drop 1).takeWhile Char.isDigit else []
    if whole.isEmpty && places.isEmpty then (0.0, [], cs)
    else
      let behind := if behind.head? == some '.' then behind.drop (places.length + 1) else behind
      let (e, left) := match behind with
        | c :: tail =>
          let (down, ds) := Decimal.sign tail
          let digits := ds.takeWhile Char.isDigit
          if (c == 'e' || c == 'E') && !digits.isEmpty then
            let n := Int.ofNat (valueIn 10 digits)
            (if down then -n else n, ds.drop digits.length)
          else (0, behind)
        | [] => (0, [])
      let f := Decimal.nearest (valueIn 10 (whole ++ places)) (e - places.length)
      (signed f, whole ++ places, left)

/-- The binary fraction that an argument holds. -/
def fractionArg (arg : String) : Numeral Float :=
  match arg.toList with
  | '"' :: c :: _ => ⟨c.toNat.toFloat, none⟩
  | '\'' :: c :: _ => ⟨c.toNat.toFloat, none⟩
  | cs =>
    let (f, used, left) := fractionAt cs
    ⟨f, conversionFault used left arg⟩

/-! ## Layer D: formats -/

/-- What a format printed. -/
structure Printed where
  bytes : Bytes := []
  /-- The arguments that are left. -/
  rest : List String := []
  /-- What is wrong with arguments. -/
  faults : List NumeralFault := []
  /-- What ended the printing because the format is wrong. -/
  fatal : Option String := none
  /-- Whether an argument ended the printing. -/
  stopped : Bool := false
  deriving Repr, DecidableEq, Inhabited

namespace Printed

/-- Output and faults in front of others. -/
def after (p : Printed) (bytes : Bytes) (faults : List NumeralFault) : Printed :=
  { p with bytes := bytes ++ p.bytes, faults := faults ++ p.faults }

end Printed

/-- A number in a directive: digits, or the next argument where there is a star. -/
def directiveNumber (cs : List Char) (args : List String) : Int × List Char × List String :=
  match cs with
  | '*' :: rest => ((integerArg true (args.headD "")).value, rest, args.drop 1)
  | _ =>
    let ds := cs.takeWhile Char.isDigit
    (valueIn 10 ds, cs.drop ds.length, args)

/-- Reads a directive behind its percent sign, up to its kind, and takes the arguments that are
numbers of it. -/
def readDirective (cs : List Char) (args : List String) : Directive × List Char × List String :=
  let flags := cs.takeWhile fun c => ['#', '-', '+', ' ', '0'].contains c
  let (width, rest, args) := directiveNumber (cs.drop flags.length) args
  let (precision, rest, args) := match rest with
    | '.' :: rest =>
      let (n, rest, args) := directiveNumber rest args
      (if n < 0 then none else some n.toNat, rest, args)
    | _ => (none, rest, args)
  ({ flags := if width < 0 then '-' :: flags else flags, width := width.natAbs
     precision := precision, kind := rest.headD '%' }, rest, args)

/-- What a directive makes of an argument, and whether that ends the printing. There is no answer
for a kind that is none. -/
def fill (d : Directive) (arg : String) : Option (Bytes × Option NumeralFault × Bool) :=
  match d.kind with
  | 's' => some (d.text (Bytes.ofText arg), none, false)
  | 'b' =>
    let (bs, stop) := unescape (arg.length + 1) arg.toList
    some (d.text bs, none, stop)
  | 'c' => some (d.padded ((Bytes.ofText arg ++ [0]).take 1), none, false)
  | c =>
    if ['d', 'i'].contains c then
      let n := integerArg true arg
      some (d.integer n.value, n.fault, false)
    else if ['o', 'u', 'x', 'X'].contains c then
      let n := integerArg false arg
      some (d.integer n.value, n.fault, false)
    else if ['e', 'E', 'f', 'F', 'g', 'G'].contains c then
      let n := fractionArg arg
      some (d.fraction n.value, n.fault, false)
    else none

/-- Fills in a format once. -/
def fillOnce : Nat → List Char → List String → Printed
  | 0, _, args => { rest := args }
  | _ + 1, [], args => { rest := args }
  | fuel + 1, c :: cs, args =>
    if c == '\\' then
      let (b, left) := escape cs
      (fillOnce fuel left args).after b []
    else if c != '%' then
      (fillOnce fuel cs args).after (Bytes.ofText (String.singleton c)) []
    else if cs.head? == some '%' then (fillOnce fuel (cs.drop 1) args).after [37] []
    else
      let (d, left, args) := readDirective cs args
      if left.isEmpty then { fatal := some "missing format character", rest := args }
      else
        match fill d (args.headD "") with
        | none =>
          let written := cs.take (cs.length - left.length + 1)
          { fatal := some ("%" ++ String.ofList written ++ ": invalid directive"), rest := args }
        | some (bs, fault, true) =>
          { bytes := bs, faults := fault.toList, stopped := true }
        | some (bs, fault, false) =>
          (fillOnce fuel (left.drop 1) (args.drop 1)).after bs fault.toList

/-- Fills in a format again while it uses up arguments and some are left. -/
def fillAll : Nat → List Char → List String → Printed
  | 0, _, args => { rest := args }
  | fuel + 1, format, args =>
    let p := fillOnce (format.length + 1) format args
    if p.rest.isEmpty || p.rest.length == args.length || p.stopped || p.fatal.isSome then p
    else (fillAll fuel format p.rest).after p.bytes p.faults

/-- **Fills in a format with arguments.** -/
def formatted (format : String) (args : List String) : Printed :=
  fillAll (args.length + 1) format.toList args

end Shell

end CodeAtlas
