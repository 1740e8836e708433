import CodeAtlas.Decimal.Reading
import CodeAtlas.Decimal.Writing
import CodeAtlas.Json.Reader

/-!
# The lexemes of TOML

Spaces, comments, keys, strings, numbers and dates. Every function takes the characters that are
left and gives what it read with the characters behind it, or nothing if they do not fit.

## Architecture

- **Layer A**: spaces, line ends, comments;
- **Layer B**: strings;
- **Layer C**: keys;
- **Layer D**: numbers and dates.
-/

namespace CodeAtlas

namespace Toml

/-! ## Layer A: spaces, line ends, comments -/

/-- Whether a character is a space or a tab. -/
def isSpace (c : Char) : Bool := c == ' ' || c == '\t'

/-- Whether a character may stand in a comment or a string: no control but the tab. -/
def isVisible (c : Char) : Bool := c == '\t' || (0x20 ≤ c.toNat && c.toNat != 0x7F)

/-- Skips spaces. -/
def skipSpace (cs : List Char) : List Char := cs.dropWhile isSpace

/-- The characters behind a line end. -/
def newline? : List Char → Option (List Char)
  | '\n' :: rest => some rest
  | '\r' :: '\n' :: rest => some rest
  | _ => none

/-- Skips a comment up to the end of its line. -/
def skipComment : List Char → List Char
  | '#' :: rest => rest.dropWhile isVisible
  | cs => cs

/-- Skips spaces and a comment; then the line or the text has to end. -/
def endLine? (cs : List Char) : Option (List Char) :=
  match skipComment (skipSpace cs) with
  | [] => some []
  | cs => newline? cs

/-- Skips spaces, line ends and comments, which have to end before the text does. -/
def skipLines (inComment : Bool) : List Char → Option (List Char)
  | [] => if inComment then none else some []
  | '\n' :: rest => skipLines false rest
  | '\r' :: '\n' :: rest => skipLines false rest
  | c :: rest =>
    if inComment then (if isVisible c then skipLines true rest else none)
    else if isSpace c then skipLines false rest
    else if c == '#' then skipLines true rest
    else if c == '\r' then none
    else some (c :: rest)

/-! ## Layer B: strings -/

/-- The single quote. -/
def apostrophe : Char := Char.ofNat 0x27

/-- The number that hexadecimal digits denote. -/
def hexNumber? (digits : List Char) : Option Nat :=
  digits.foldlM (fun n c => (Json.hexValue? c).map fun d => n * 16 + d) 0

/-- The character with a code that hexadecimal digits denote. -/
def hexChar? (digits : List Char) : Option Char := do
  let n ← hexNumber? digits
  if n.isValidChar then pure (Char.ofNat n) else none

/-- The character behind a backslash. -/
def shortEscape? (c : Char) : Option Char := if c == '/' then none else Json.shortEscape? c

/-- The characters of a basic string behind its opening quote. -/
def basicString : List Char → Option (List Char × List Char)
  | [] => none
  | '"' :: rest => some ([], rest)
  | '\\' :: 'u' :: a :: b :: c :: d :: rest => do
    let e ← hexChar? [a, b, c, d]
    let (cs, rest) ← basicString rest
    pure (e :: cs, rest)
  | '\\' :: 'U' :: a :: b :: c :: d :: e :: f :: g :: h :: rest => do
    let e ← hexChar? [a, b, c, d, e, f, g, h]
    let (cs, rest) ← basicString rest
    pure (e :: cs, rest)
  | '\\' :: c :: rest => do
    let e ← shortEscape? c
    let (cs, rest) ← basicString rest
    pure (e :: cs, rest)
  | c :: rest =>
    if isVisible c && c != '\\' then do
      let (cs, rest) ← basicString rest
      pure (c :: cs, rest)
    else none

/-- Whether a backslash here, at the end of a line, joins the lines. -/
def joinsLines (cs : List Char) : Bool := (newline? (skipSpace cs)).isSome

/-- The characters of a basic string of several lines. After a backslash that joins lines,
`joining` skips everything up to the next visible character. Up to two quotes may stand before the
three that close the string. -/
def basicLines (joining : Bool) : List Char → Option (List Char × List Char)
  | [] => none
  | '"' :: '"' :: '"' :: '"' :: '"' :: rest => some (['"', '"'], rest)
  | '"' :: '"' :: '"' :: '"' :: rest => some (['"'], rest)
  | '"' :: '"' :: '"' :: rest => some ([], rest)
  | '\r' :: '\n' :: rest => do
    let (cs, rest) ← basicLines joining rest
    pure (if joining then cs else '\n' :: cs, rest)
  | '\n' :: rest => do
    let (cs, rest) ← basicLines joining rest
    pure (if joining then cs else '\n' :: cs, rest)
  | '\\' :: 'u' :: a :: b :: c :: d :: rest => do
    let e ← hexChar? [a, b, c, d]
    let (cs, rest) ← basicLines false rest
    pure (e :: cs, rest)
  | '\\' :: 'U' :: a :: b :: c :: d :: e :: f :: g :: h :: rest => do
    let e ← hexChar? [a, b, c, d, e, f, g, h]
    let (cs, rest) ← basicLines false rest
    pure (e :: cs, rest)
  | '\\' :: c :: rest =>
    if joinsLines (c :: rest) then basicLines true (c :: rest)
    else do
      let e ← shortEscape? c
      let (cs, rest) ← basicLines false rest
      pure (e :: cs, rest)
  | c :: rest =>
    if joining && isSpace c then basicLines true rest
    else if isVisible c && c != '\\' then do
      let (cs, rest) ← basicLines false rest
      pure (c :: cs, rest)
    else none

/-- The characters of a literal string behind its opening quote. -/
def literalString : List Char → Option (List Char × List Char)
  | [] => none
  | c :: rest =>
    if c == apostrophe then some ([], rest)
    else if isVisible c then do
      let (cs, rest) ← literalString rest
      pure (c :: cs, rest)
    else none

/-- How many single quotes stand in front. -/
def quoteRun (cs : List Char) : Nat := (cs.takeWhile (· == apostrophe)).length

/-- The characters of a literal string of several lines. -/
def literalLines : List Char → Option (List Char × List Char)
  | [] => none
  | '\n' :: rest => do
    let (cs, rest) ← literalLines rest
    pure ('\n' :: cs, rest)
  | '\r' :: '\n' :: rest => do
    let (cs, rest) ← literalLines rest
    pure ('\n' :: cs, rest)
  | c :: rest =>
    let run := quoteRun (c :: rest)
    if 3 ≤ run then
      let extra := min (run - 3) 2
      some (List.replicate extra apostrophe, (c :: rest).drop (extra + 3))
    else if isVisible c then do
      let (cs, rest) ← literalLines rest
      pure (c :: cs, rest)
    else none

/-- Skips the line end right behind the opening of a string of several lines. -/
def skipFirstNewline (cs : List Char) : List Char := (newline? cs).getD cs

/-- A string of any kind. -/
def string? (cs : List Char) : Option (List Char × List Char) :=
  match cs with
  | '"' :: '"' :: '"' :: rest => basicLines false (skipFirstNewline rest)
  | '"' :: rest => basicString rest
  | c :: rest =>
    if c == apostrophe then
      if 3 ≤ quoteRun cs then literalLines (skipFirstNewline (cs.drop 3)) else literalString rest
    else none
  | [] => none

/-! ## Layer C: keys -/

/-- Whether a character may stand in a key without quotes. -/
def isKeyChar (c : Char) : Bool := c.isAlphanum || c == '_' || c == '-'

/-- One part of a key. -/
def keyPart? (cs : List Char) : Option (String × List Char) :=
  match cs with
  | '"' :: rest => (basicString rest).map fun r => (String.ofList r.1, r.2)
  | c :: rest =>
    if c == apostrophe then (literalString rest).map fun r => (String.ofList r.1, r.2)
    else if isKeyChar c then
      some (String.ofList (cs.takeWhile isKeyChar), cs.dropWhile isKeyChar)
    else none
  | [] => none

/-- The parts of a key between dots, with spaces around each. -/
def keyParts? : Nat → List Char → Option (List String × List Char)
  | 0, _ => none
  | fuel + 1, cs => do
    let (part, cs) ← keyPart? (skipSpace cs)
    match skipSpace cs with
    | '.' :: rest => do
      let (parts, rest) ← keyParts? fuel rest
      pure (part :: parts, rest)
    | rest => pure ([part], rest)

/-- The most parts a key can have, and the most levels values can nest. -/
def depthLimit : Nat := 80

/-- A key with its parts. -/
def key? (cs : List Char) : Option (List String × List Char) := keyParts? (depthLimit - 1) cs

/-! ## Layer D: numbers and dates -/

/-- Digits behind a first one, with single underscores between them. -/
def digitsTail (isDigit : Char → Bool) : List Char → Option (List Char × List Char)
  | [] => some ([], [])
  | '_' :: c :: rest =>
    if isDigit c then (digitsTail isDigit rest).map fun r => (c :: r.1, r.2) else none
  | c :: rest =>
    if isDigit c then (digitsTail isDigit rest).map fun r => (c :: r.1, r.2)
    else if c == '_' then none
    else some ([], c :: rest)

/-- Digits with single underscores between them. -/
def digits (isDigit : Char → Bool) : List Char → Option (List Char × List Char)
  | c :: rest =>
    if isDigit c then (digitsTail isDigit rest).map fun r => (c :: r.1, r.2) else none
  | [] => none

/-- A sign and whether it is a minus. -/
def sign : List Char → Bool × List Char
  | '-' :: rest => (true, rest)
  | '+' :: rest => (false, rest)
  | cs => (false, cs)

/-- The digits of a decimal number: several do not start with zero. -/
def wholePart : List Char → Option (List Char × List Char)
  | '0' :: rest => some (['0'], rest)
  | cs => digits Char.isDigit cs

/-- The first number too large for an integer. -/
def integerLimit : Nat := 0x8000000000000000

/-- A number with a sign, if it is no larger than integers can be. -/
def integer? (negative : Bool) (n : Nat) : Option Json :=
  if negative then
    if n ≤ integerLimit then some (if n == 0 then .nat 0 else .num (.negative n)) else none
  else if n < integerLimit then some (.nat n) else none

/-- The number that digits of a base denote. -/
def radixNumber (radix : Nat) (ds : List Char) : Nat :=
  ds.foldl (fun n c => n * radix + (Json.hexValue? c).getD 0) 0

/-- An integer behind the mark of its base. -/
def radixInteger? (radix : Nat) (cs : List Char) : Option (Json × List Char) := do
  let isDigit (c : Char) : Bool := (Json.hexValue? c).any (· < radix)
  let (ds, rest) ← digits isDigit cs
  let v ← integer? false (radixNumber radix ds)
  pure (v, rest)

/-- An integer. -/
def integerValue? (cs : List Char) : Option (Json × List Char) :=
  match cs with
  | '0' :: 'x' :: rest => radixInteger? 16 rest
  | '0' :: 'o' :: rest => radixInteger? 8 rest
  | '0' :: 'b' :: rest => radixInteger? 2 rest
  | _ => do
    let (negative, cs) := sign cs
    let (ds, rest) ← wholePart cs
    let v ← integer? negative (radixNumber 10 ds)
    pure (v, rest)

/-- The exponent behind its mark. -/
def exponent? (cs : List Char) : Option (Int × List Char) := do
  let (down, cs) := sign cs
  let (ds, rest) ← digits Char.isDigit cs
  let n := radixNumber 10 ds
  pure (if down then -n else n, rest)

/-- Numbers are shown in full, with a fraction even if it is zero. -/
def floatLayout : FloatLayout := ⟨none, true⟩

/-- A fraction as a value; one that is too large is no value unless it is negative. -/
def floatValue? (negative : Bool) (ds fraction : List Char) (e : Int) : Option Json :=
  let f := Decimal.nearest (radixNumber 10 (ds ++ fraction)) (e - fraction.length)
  if negative then some (.num (.fraction (floatLayout.shown (-f))))
  else if f.isInf then none
  else some (.num (.fraction (floatLayout.shown f)))

/-- A number with a fraction or an exponent. -/
def fraction? (cs : List Char) : Option (Json × List Char) := do
  let (negative, cs) := sign cs
  let (ds, cs) ← wholePart cs
  let (fraction, cs) ← match cs with
    | '.' :: rest => (digits Char.isDigit rest).map fun r => (some r.1, r.2)
    | cs => some (none, cs)
  let (e, cs) ← match cs with
    | 'e' :: rest | 'E' :: rest => (exponent? rest).map fun r => (some r.1, r.2)
    | cs => some (none, cs)
  if fraction.isNone && e.isNone then none
  else do
    let v ← floatValue? negative ds (fraction.getD []) (e.getD 0)
    pure (v, cs)

/-- A number that is written as a word. -/
def wordNumber? (cs : List Char) : Option (Json × List Char) :=
  match sign cs with
  | (negative, 'i' :: 'n' :: 'f' :: rest) =>
    some (.num (.fraction (if negative then "-inf" else "inf")), rest)
  | (_, 'n' :: 'a' :: 'n' :: rest) => some (.num (.fraction "NaN"), rest)
  | _ => none

/-- A number of exactly so many digits within bounds. -/
def fixedNumber? (width low high : Nat) (cs : List Char) : Option (Nat × List Char) :=
  let ds := cs.take width
  let n := radixNumber 10 ds
  if ds.length == width && ds.all Char.isDigit && low ≤ n && n ≤ high then some (n, cs.drop width)
  else none

/-- The characters behind a given one. -/
def expect? (c : Char) : List Char → Option (List Char)
  | d :: rest => if d == c then some rest else none
  | [] => none

/-- The number of days of a month. -/
def daysIn (year month : Nat) : Nat :=
  if month == 2 then
    if year % 4 == 0 && (year % 100 != 0 || year % 400 == 0) then 29 else 28
  else if [4, 6, 9, 11].contains month then 30
  else 31

/-- The characters behind a date. -/
def date? (cs : List Char) : Option (List Char) := do
  let (year, cs) ← fixedNumber? 4 0 9999 cs
  let (month, cs) ← fixedNumber? 2 1 12 (← expect? '-' cs)
  let (_, cs) ← fixedNumber? 2 1 (daysIn year month) (← expect? '-' cs)
  pure cs

/-- The characters behind a time of day, whose hour is at most `lastHour`. -/
def time? (lastHour : Nat) (cs : List Char) : Option (List Char) := do
  let (_, cs) ← fixedNumber? 2 0 lastHour cs
  let (_, cs) ← fixedNumber? 2 0 59 (← expect? ':' cs)
  let (_, cs) ← fixedNumber? 2 0 60 (← expect? ':' cs)
  match cs with
  | '.' :: rest =>
    match rest.dropWhile Char.isDigit with
    | after => if after.length == rest.length then none else some after
  | _ => some cs

/-- The characters behind a distance from universal time, which may be missing. -/
def skipOffset? (cs : List Char) : Option (List Char) :=
  match cs with
  | 'Z' :: rest | 'z' :: rest => some rest
  | '+' :: rest | '-' :: rest => do
    let (_, rest) ← fixedNumber? 2 0 23 rest
    let (_, rest) ← fixedNumber? 2 0 59 (← expect? ':' rest)
    pure rest
  | _ => some cs

/-- The characters behind the time that may follow a date. -/
def afterDate? (cs : List Char) : Option (List Char) :=
  match cs with
  | 'T' :: rest | 't' :: rest | ' ' :: rest =>
    match time? 23 rest with
    | some rest => skipOffset? rest
    | none => some cs
  | _ => some cs

/-- The name under which a date is handed on, as the only member of an object. -/
def dateKey : String := "$__toml_private_datetime"

/-- A date, a time, or both. -/
def dateTime? (cs : List Char) : Option (Json × List Char) := do
  let rest ← match date? cs with
    | some rest => afterDate? rest
    | none => time? 23 cs
  let written := String.ofList (cs.take (cs.length - rest.length))
  pure (.ofFields [(dateKey, .text written)], rest)

/-- A number or a date. -/
def number? (cs : List Char) : Option (Json × List Char) :=
  dateTime? cs <|> fraction? cs <|> wordNumber? cs <|> integerValue? cs

end Toml

end CodeAtlas
