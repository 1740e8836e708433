import CodeAtlas.Text.CodeRanges

/-!
# Classes of characters and quoted texts

The characters that count as white space, and the removal of those at both ends of a text; letters
and numbers, and the texts that may name a definition: a letter or an underscore, then letters,
numbers and underscores, and not the underscore alone.

How a text is shown inside a message: between double quotes, with quotes, backslashes, controls and
everything that would not be visible on its own written as escapes.

## Architecture

- **Layer A**: classes of characters;
- **Layer B**: quoted texts.
-/

namespace CodeAtlas

/-! ## Layer A: classes -/

/-- Whether a character has the Unicode property White_Space. -/
def isBlank (c : Char) : Bool :=
  let n := c.toNat
  (9 ≤ n && n ≤ 13) || n == 0x20 || n == 0x85 || n == 0xA0 || n == 0x1680
    || (0x2000 ≤ n && n ≤ 0x200A) || n == 0x2028 || n == 0x2029 || n == 0x202F || n == 0x205F
    || n == 0x3000

/-- The characters without the blank ones at both ends. -/
def trimChars (cs : List Char) : List Char :=
  ((cs.dropWhile isBlank).reverse.dropWhile isBlank).reverse

/-- **A text without the blanks at both ends.** -/
def trim (s : String) : String := String.ofList (trimChars s.toList)

/-- Whether a character is a letter in any script. -/
def isLetter (c : Char) : Bool := CodeRanges.covers CodeRanges.alphabetic c.toNat

/-- Whether a character is a number in any script. -/
def isNumber (c : Char) : Bool := CodeRanges.covers CodeRanges.numeric c.toNat

/-- **Whether a text may name a definition** (`is_identifier`). -/
def isIdentifier (s : String) : Bool :=
  match s.toList with
  | [] => false
  | c :: rest =>
    s != "_" && (c == '_' || isLetter c) && rest.all fun d => d == '_' || isLetter d || isNumber d

/-! ## Layer B: quoted texts -/

namespace Quoted

/-- The digits of a number in base sixteen, in lower case. -/
def hex (n : Nat) : List Char := Nat.toDigits 16 n

/-- An escape by code point. -/
def codeEscape (c : Char) : List Char :=
  '\\' :: 'u' :: Char.ofNat 0x7B :: (hex c.toNat ++ [Char.ofNat 0x7D])

/-- Whether a character is shown as itself. -/
def isVisible (c : Char) : Bool :=
  c == ' ' || !(CodeRanges.covers CodeRanges.graphemeExtend c.toNat
    || CodeRanges.covers CodeRanges.unprintable c.toNat)

/-- A character as it stands between the quotes. -/
def escape (c : Char) : List Char :=
  if c.toNat == 0 then ['\\', '0']
  else if c == '\t' then ['\\', 't']
  else if c == '\r' then ['\\', 'r']
  else if c == '\n' then ['\\', 'n']
  else if c == '\\' then ['\\', '\\']
  else if c == '"' then ['\\', '"']
  else if isVisible c then [c]
  else codeEscape c

/-- The characters of a quoted text. -/
def chars (cs : List Char) : List Char := '"' :: (cs.flatMap escape ++ ['"'])

end Quoted

/-- **A text between quotes.** -/
def quoted (s : String) : String := String.ofList (Quoted.chars s.toList)

/-- A text between quotes in which single quotes are escaped as well. -/
def quotedFully (s : String) : String :=
  let escape (c : Char) : List Char := if c == '\'' then ['\\', '\''] else Quoted.escape c
  String.ofList ('"' :: (s.toList.flatMap escape ++ ['"']))

end CodeAtlas
