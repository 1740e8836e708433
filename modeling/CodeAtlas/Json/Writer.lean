import CodeAtlas.Json.Basic

/-!
# Writing JSON

The compact form: no blanks, members in their order. Quotes, backslashes and controls are escaped,
everything else is written as it is.
-/

namespace CodeAtlas

namespace Json

/-- A digit in base sixteen. -/
def hexDigit (n : Nat) : Char := (Nat.toDigits 16 (n % 16)).headD '0'

/-- A character as it stands between the quotes. -/
def escapeChar (c : Char) : List Char :=
  if c == '"' then ['\\', '"']
  else if c == '\\' then ['\\', '\\']
  else if c == '\n' then ['\\', 'n']
  else if c == '\r' then ['\\', 'r']
  else if c == '\t' then ['\\', 't']
  else if c.toNat == 8 then ['\\', 'b']
  else if c.toNat == 12 then ['\\', 'f']
  else if c.toNat < 0x20 then ['\\', 'u', '0', '0', hexDigit (c.toNat / 16), hexDigit c.toNat]
  else [c]

/-- The characters of a string, quotes included. -/
def stringChars (s : String) : List Char := '"' :: (s.toList.flatMap escapeChar ++ ['"'])

/-- A string between quotes. -/
def writeString (s : String) : String := String.ofList (stringChars s)

/-- A number as it is written. -/
def writeNumber : JsonNumber → String
  | .natural n => toString n
  | .negative n => "-" ++ toString n
  | .fraction shown => shown
  | .tooLarge => "null"

mutual

/-- **The compact text of a value.** -/
def write : Json → String
  | .null => "null"
  | .bool true => "true"
  | .bool false => "false"
  | .num n => writeNumber n
  | .str s => writeString (s.getD "")
  | .arr items => "[" ++ ",".intercalate (writeItems items) ++ "]"
  | .obj members => "\x7b" ++ ",".intercalate (writeMembers members) ++ "\x7d"

/-- The texts of the items of an array. -/
def writeItems : List Json → List String
  | [] => []
  | v :: rest => write v :: writeItems rest

/-- The texts of the members of an object. -/
def writeMembers : List (Option String × Json) → List String
  | [] => []
  | (k, v) :: rest => (writeString (k.getD "") ++ ":" ++ write v) :: writeMembers rest

end

end Json

end CodeAtlas
