import CodeAtlas.Decimal.Reading
import CodeAtlas.Decimal.Writing
import CodeAtlas.Log.Pattern

/-!
# Levels and fields of log filters

A directive of a log filter says how much is logged, by name or by number. It may ask for fields by
name, and for a value of each: a truth value, a number, or else a pattern.

## Architecture

- **Layer A**: levels;
- **Layer B**: fields.
-/

namespace CodeAtlas

/-! ## Layer A: levels -/

/-- How much is logged. -/
inductive LogLevel where
  | off
  | error
  | warn
  | info
  | debug
  | trace
  deriving Repr, DecidableEq, Inhabited

namespace LogLevel

/-- All levels, in the order of the numbers that stand for them. -/
def all : List LogLevel := [.off, .error, .warn, .info, .debug, .trace]

/-- The written name of a level. -/
def name : LogLevel → String
  | .off => "off"
  | .error => "error"
  | .warn => "warn"
  | .info => "info"
  | .debug => "debug"
  | .trace => "trace"

/-- **The level with a given name in any case, or number**; an empty text stands for errors. -/
def ofText? (s : String) : Option LogLevel :=
  match (Decimal.word? s).bind fun n => all[n]? with
  | some l => some l
  | none => if s.isEmpty then some .error else all.find? fun l => l.name == s.map Char.toLower

end LogLevel

/-! ## Layer B: fields -/

/-- **A value that a field is to have.** A fraction is kept by its bits. -/
inductive FieldValue where
  | bool (b : Bool)
  | fraction (bits : UInt64)
  | noNumber
  | natural (n : Nat)
  | integer (n : Int)
  | pattern (text : String)
  deriving Repr, DecidableEq, Inhabited

namespace FieldValue

/-- Fractions are shown in full, and whole ones without a point. -/
def floatLayout : FloatLayout := ⟨none, false⟩

/-- The number with a minus in 64 bits that a text spells. -/
def negative? (s : String) : Option Int :=
  match s.toList with
  | '-' :: c :: rest =>
    if c == '+' then none
    else ((Decimal.natural? (c :: rest)).filter (· ≤ 0x8000000000000000)).map Int.negOfNat
  | _ => none

/-- **The value that a text asks for.** -/
def ofText (s : String) : Except PatternFault FieldValue :=
  if s == "true" then .ok (.bool true)
  else if s == "false" then .ok (.bool false)
  else
    match Decimal.word? s, negative? s, Decimal.read? s with
    | some n, _, _ => .ok (.natural n)
    | none, some n, _ => .ok (.integer n)
    | none, none, some f => .ok (if f.isNaN then .noNumber else .fraction f.toBits)
    | none, none, none => (Pattern.check s).map fun _ => .pattern s

/-- How a value is shown. -/
def shown : FieldValue → String
  | .bool b => if b then "true" else "false"
  | .fraction bits => floatLayout.shown (Float.ofBits bits)
  | .noNumber => "NaN"
  | .natural n => toString n
  | .integer n => toString n
  | .pattern text => text

/-- The place of a fraction in the order of numbers; both zeros have the same. -/
def rank (bits : UInt64) : Int :=
  let magnitude := Int.ofNat (bits.toNat % 0x8000000000000000)
  if bits.toNat < 0x8000000000000000 then magnitude else -magnitude

/-- The place of a kind of value among the others. -/
def kind : FieldValue → Nat
  | .bool _ => 0
  | .fraction _ => 1
  | .noNumber => 2
  | .natural _ => 3
  | .integer _ => 4
  | .pattern _ => 5

/-- Values are ordered by kind, and inside of a kind by themselves. -/
instance : Ord FieldValue where
  compare
    | .bool a, .bool b => compare a b
    | .fraction a, .fraction b => compare (rank a) (rank b)
    | .natural a, .natural b => compare a b
    | .integer a, .integer b => compare a b
    | .pattern a, .pattern b => compare a b
    | a, b => compare a.kind b.kind

end FieldValue

/-- **A field that a directive asks for**, with a value or with any. -/
structure FieldMatch where
  name : String
  value : Option FieldValue
  deriving Repr, DecidableEq, Inhabited

namespace FieldMatch

/-- The field that a text asks for: its name, and the value behind the first equals sign. -/
def ofChars (cs : List Char) : Except PatternFault FieldMatch :=
  match cs.splitOn '=' with
  | name :: value :: _ =>
    (FieldValue.ofText (String.ofList value)).map fun v => ⟨String.ofList name, some v⟩
  | _ => .ok ⟨String.ofList cs, none⟩

/-- How a field is shown. -/
def shown (m : FieldMatch) : String :=
  match m.value with
  | some v => m.name ++ "=" ++ v.shown
  | none => m.name

/-- Fields with a value come behind those without; then names and values decide. -/
instance : Ord FieldMatch where
  compare a b :=
    match a.value, b.value with
    | some _, none => .gt
    | none, some _ => .lt
    | some v, some w => (compare a.name b.name).then (compare v w)
    | none, none => compare a.name b.name

end FieldMatch

end CodeAtlas
