import CodeAtlas.Json.Basic
import CodeAtlas.Text.Character

/-!
# Decoding records from JSON

Records are read from objects, or from arrays of their fields in order. Members are checked in the
order in which they are written; only then are missing fields looked for, in the order in which the
record declares them.

## Architecture

- **Layer A**: what can be wrong with a value, and how that is said;
- **Layer B**: scalars, lists and choices;
- **Layer C**: records.
-/

namespace CodeAtlas

/-! ## Layer A: faults -/

/-- What is wrong with a value. -/
inductive DecodeFault where
  | wrongType (found expected : String)
  | wrongValue (found expected : String)
  | unknownVariant (name : String) (known : List String)
  | unknownField (name : String) (known : List String)
  | missingField (name : String)
  | duplicateField (name : String)
  | tooShort (count : Nat) (expected : String)
  | trailing
  | notAChoice
  | unpairedSurrogate
  | numberTooLarge
  deriving Repr, DecidableEq, Inhabited

namespace DecodeFault

/-- A name between backquotes. -/
def ticked (s : String) : String := "\x60" ++ s ++ "\x60"

/-- The names that would have been accepted. -/
def oneOf : List String → String
  | [] => "there are no fields"
  | [a] => "expected " ++ ticked a
  | [a, b] => "expected " ++ ticked a ++ " or " ++ ticked b
  | names => "expected one of " ++ ", ".intercalate (names.map ticked)

/-- The wording of a fault. -/
def message : DecodeFault → String
  | .wrongType found expected => "invalid type: " ++ found ++ ", expected " ++ expected
  | .wrongValue found expected => "invalid value: " ++ found ++ ", expected " ++ expected
  | .unknownVariant name known => "unknown variant " ++ ticked name ++ ", " ++ oneOf known
  | .unknownField name known => "unknown field " ++ ticked name ++ ", " ++ oneOf known
  | .missingField name => "missing field " ++ ticked name
  | .duplicateField name => "duplicate field " ++ ticked name
  | .tooShort count expected => "invalid length " ++ toString count ++ ", expected " ++ expected
  | .trailing => "trailing characters"
  | .notAChoice => "expected value"
  | .unpairedSurrogate => "unexpected end of hex escape"
  | .numberTooLarge => "number out of range"

end DecodeFault

namespace Json

/-- How a value of the wrong type is described. -/
def described : Json → Except DecodeFault String
  | .null => .ok "null"
  | .bool b => .ok ("boolean " ++ DecodeFault.ticked (if b then "true" else "false"))
  | .num (.natural n) => .ok ("integer " ++ DecodeFault.ticked (toString n))
  | .num (.negative n) => .ok ("integer " ++ DecodeFault.ticked ("-" ++ toString n))
  | .num (.fraction shown) => .ok ("floating point " ++ DecodeFault.ticked shown)
  | .num .tooLarge => .error .numberTooLarge
  | .str (some s) => .ok ("string " ++ quoted s)
  | .str none => .error .unpairedSurrogate
  | .arr _ => .ok "sequence"
  | .obj _ => .ok "map"

/-- Refuses a value because of its type. -/
def refuse {α : Type} (v : Json) (expected : String) : Except DecodeFault α := do
  let found ← v.described
  throw (.wrongType found expected)

/-! ## Layer B: scalars, lists and choices -/

/-- A text; `expected` says what it is a text of. -/
def asText (expected : String) : Json → Except DecodeFault String
  | .str (some s) => .ok s
  | v => v.refuse expected

/-- A truth value. -/
def asBool : Json → Except DecodeFault Bool
  | .bool b => .ok b
  | v => v.refuse "a boolean"

/-- A natural number below `limit`. -/
def asNat (limit : Nat) (expected : String) : Json → Except DecodeFault Nat
  | .num (.natural n) =>
    if n < limit then .ok n
    else .error (.wrongValue ("integer " ++ DecodeFault.ticked (toString n)) expected)
  | .num (.negative n) =>
    .error (.wrongValue ("integer " ++ DecodeFault.ticked ("-" ++ toString n)) expected)
  | v => v.refuse expected

/-- A 32-bit number. -/
def asWord32 (v : Json) : Except DecodeFault UInt32 :=
  (v.asNat 0x100000000 "u32").map Nat.toUInt32

/-- A list whose items `item` reads. -/
def asList {α : Type} (item : Json → Except DecodeFault α) : Json → Except DecodeFault (List α)
  | .arr items => items.mapM item
  | v => v.refuse "a sequence"

/-- A value that may be null. -/
def asOption {α : Type} (item : Json → Except DecodeFault α) : Json → Except DecodeFault (Option α)
  | .null => .ok none
  | v => (item v).map some

/-- One of several names. A name may also be written as an object that maps it to null. -/
def asChoice {α : Type} (choices : List (String × α)) : Json → Except DecodeFault α
  | .str (some s) => pick s
  | .str none => .error .unpairedSurrogate
  | .obj ((some s, v) :: rest) => do
    let a ← pick s
    match v with
    -- an object with one member only
    | .null => if rest.isEmpty then pure a else throw .notAChoice
    | v => v.refuse "unit"
  | .obj ((none, _) :: _) => .error .unpairedSurrogate
  | _ => .error .notAChoice
where
  /-- The choice with a given name. -/
  pick (s : String) : Except DecodeFault α :=
    match choices.find? fun c => c.1 == s with
    | some c => .ok c.2
    | none => .error (.unknownVariant s (choices.map (·.1)))

/-! ## Layer C: records -/

/-- What a record's fields were given, and what it means that one was not. -/
structure Fields where
  get? : String → Option Json
  absent : String → DecodeFault

namespace Fields

variable {α : Type}

/-- A field that has to be there. -/
def required (f : Fields) (name : String) (item : Json → Except DecodeFault α) :
    Except DecodeFault α :=
  match f.get? name with
  | some v => item v
  | none => .error (f.absent name)

/-- A field with a value of its own where none is given. -/
def defaulted (f : Fields) (name : String) (fallback : α) (item : Json → Except DecodeFault α) :
    Except DecodeFault α :=
  match f.get? name with
  | some v => item v
  | none => .ok fallback

end Fields

/-- How a kind of record is read. -/
structure RecordShape (α : Type) where
  /-- The record as messages name it. -/
  title : String
  /-- The names of the fields in order, each with the check that its value is fit. -/
  fields : List (String × (Json → Except DecodeFault Unit))
  /-- Puts the record together. -/
  build : Fields → Except DecodeFault α
  /-- Whether a member that is no field is an error. -/
  closed : Bool
  /-- Whether an array with more items than fields is an error. -/
  exactLength : Bool

namespace RecordShape

variable {α : Type}

/-- Checks the members in the order in which they are written. -/
def checkMembers (s : RecordShape α) (seen : List String) :
    List (Option String × Json) → Except DecodeFault Unit
  | [] => .ok ()
  | (none, _) :: _ => .error .unpairedSurrogate
  | (some k, v) :: rest =>
    match s.fields.find? fun f => f.1 == k with
    | some f => do
      -- a repeated member is refused before its value is looked at
      if seen.contains k then throw (.duplicateField k)
      f.2 v
      checkMembers s (k :: seen) rest
    | none =>
      if s.closed then .error (.unknownField k (s.fields.map (·.1)))
      else checkMembers s seen rest

/-- The fields that an array gives by position. -/
def positional (s : RecordShape α) (items : List Json) : Fields where
  get? name := ((s.fields.map (·.1)).zip items).lookup name
  absent _ :=
    let n := s.fields.length
    let count := toString n ++ (if n == 1 then " element" else " elements")
    .tooShort items.length (s.title ++ " with " ++ count)

/-- The fields that an object gives by name. -/
def named (members : List (Option String × Json)) : Fields where
  get? name := members.lookup (some name)
  absent name := .missingField name

/-- **Reads a record.** -/
def decode (s : RecordShape α) : Json → Except DecodeFault α
  | .obj members => do
    s.checkMembers [] members
    s.build (named members)
  | .arr items => do
    -- missing items are found before surplus ones
    let a ← s.build (s.positional items)
    if s.exactLength && s.fields.length < items.length then throw .trailing
    pure a
  | v => v.refuse s.title

end RecordShape

/-- The check that a value can be read. -/
def fit {α : Type} (item : Json → Except DecodeFault α) (v : Json) : Except DecodeFault Unit :=
  (item v).map fun _ => ()

end Json

end CodeAtlas
