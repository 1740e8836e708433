/-!
# JSON values

Values as they are read from a text. Two things a text may hold denote no value although they are
well formed: a string with an unpaired surrogate escape, and a number too large to represent. They
are kept as what they are, since a reader that skips them does not mind.
-/

namespace CodeAtlas

/-- A number of a JSON text. -/
inductive JsonNumber where
  /-- A natural number below `2 ^ 64`. -/
  | natural (n : Nat)
  /-- The negative of `n`, which is positive and at most `2 ^ 63`. -/
  | negative (n : Nat)
  /-- Any other number, as it is shown in messages. -/
  | fraction (shown : String)
  /-- A number too large to represent. -/
  | tooLarge
  deriving Repr, DecidableEq, Inhabited

/-- **A JSON value.** A text that is `none` holds an unpaired surrogate. -/
inductive Json where
  | null
  | bool (b : Bool)
  | num (n : JsonNumber)
  | str (s : Option String)
  | arr (items : List Json)
  | obj (members : List (Option String × Json))
  deriving Repr, Inhabited

namespace Json

/-- A text. -/
def text (s : String) : Json := .str (some s)

/-- A natural number. -/
def nat (n : Nat) : Json := .num (.natural n)

/-- An integer. -/
def int (n : Int) : Json := if n < 0 then .num (.negative n.natAbs) else .nat n.toNat

/-- An object whose member names are known texts. -/
def ofFields (fields : List (String × Json)) : Json := .obj (fields.map fun f => (some f.1, f.2))

/-- The value of `f`, or null. -/
def ofOption {α : Type} (f : α → Json) : Option α → Json
  | some a => f a
  | none => .null

/-- An array of the values of `f`. -/
def ofList {α : Type} (f : α → Json) (xs : List α) : Json := .arr (xs.map f)

mutual

/-- Whether a value denotes something at every place, and nests less than `depth` levels. -/
def isSound : Nat → Json → Bool
  | _, .null => true
  | _, .bool _ => true
  | _, .num n => n != .tooLarge
  | _, .str s => s.isSome
  | depth, .arr items => 0 < depth && areSound (depth - 1) items
  | depth, .obj members => 0 < depth && haveSoundValues (depth - 1) members

/-- `isSound` for the items of an array. -/
def areSound : Nat → List Json → Bool
  | _, [] => true
  | depth, v :: rest => isSound depth v && areSound depth rest

/-- `isSound` for the members of an object. -/
def haveSoundValues : Nat → List (Option String × Json) → Bool
  | _, [] => true
  | depth, (k, v) :: rest => k.isSome && isSound depth v && haveSoundValues depth rest

end

/-- The number of levels a generic reader enters before it gives up. -/
def depthLimit : Nat := 127

/-- Whether a generic reader accepts a value. -/
def isReadable (v : Json) : Bool := v.isSound depthLimit

/-- The first member with a given name. -/
def member? (v : Json) (name : String) : Option Json :=
  match v with
  | .obj members => (members.find? fun m => m.1 == some name).map (·.2)
  | _ => none

end Json

end CodeAtlas
