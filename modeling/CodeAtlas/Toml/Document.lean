import CodeAtlas.Toml.Lexeme
import CodeAtlas.Toml.Table

/-!
# Reading TOML

A document is a sequence of headers and keys with values, one to a line. It is read to a JSON value
whose members stand in the order in which the document introduces them.
-/

namespace CodeAtlas

namespace Toml

/-- The characters that open and close an inline table. -/
def openBrace : Char := Char.ofNat 0x7B

/-- The character that closes an inline table. -/
def closeBrace : Char := Char.ofNat 0x7D

mutual

/-- A value. `depth` counts the arrays and inline tables that may still be entered. -/
def value? : (fuel depth : Nat) → List Char → Option (Json × List Char)
  | 0, _, _ => none
  | fuel + 1, depth, cs =>
    match cs with
    | [] => none
    | c :: rest =>
      if c == '"' || c == apostrophe then
        (string? cs).map fun r => (.text (String.ofList r.1), r.2)
      else if c == '[' then
        match depth with
        | 0 => none
        | depth + 1 => do
          let (items, rest) ← items? fuel depth rest
          pure (.arr items, rest)
      else if c == openBrace then
        match depth with
        | 0 => none
        | depth + 1 =>
          match skipSpace rest with
          | d :: rest' =>
            if d == closeBrace then some (.obj [], rest')
            else do
              let (t, rest) ← members? fuel depth default (d :: rest')
              pure (tableJson t, rest)
          | [] => none
      else
        match cs with
        | 't' :: 'r' :: 'u' :: 'e' :: rest => some (.bool true, rest)
        | 'f' :: 'a' :: 'l' :: 's' :: 'e' :: rest => some (.bool false, rest)
        | _ => number? cs

/-- The items of an array up to its end. A comma may follow the last one. -/
def items? : (fuel depth : Nat) → List Char → Option (List Json × List Char)
  | 0, _, _ => none
  | fuel + 1, depth, cs => do
    match ← skipLines false cs with
    | ']' :: rest => pure ([], rest)
    | cs =>
      let (v, cs) ← value? fuel depth cs
      match ← skipLines false cs with
      | ']' :: rest => pure ([v], rest)
      | ',' :: rest => do
        let (vs, rest) ← items? fuel depth rest
        pure (v :: vs, rest)
      | _ => none

/-- The members of an inline table up to its end, added to those before. -/
def members? : (fuel depth : Nat) → TableNode → List Char → Option (TableNode × List Char)
  | 0, _, _, _ => none
  | fuel + 1, depth, t, cs => do
    let (path, cs) ← key? cs
    let cs ← expect? '=' cs
    let (v, cs) ← value? fuel depth (skipSpace cs)
    let t ← t.addValue path v
    match skipSpace cs with
    -- a comma calls for one more member, other than in an array
    | ',' :: rest => members? fuel depth t rest
    | c :: rest => if c == closeBrace then pure (t, rest) else none
    | [] => none

end

/-- How many steps the value in a text can take at most. -/
def fuelFor (cs : List Char) : Nat := 3 * cs.length + 3

/-- One header or key with its value, up to the end of its line. -/
def line? (d : Draft) (cs : List Char) : Option (Draft × List Char) :=
  match cs with
  | '[' :: '[' :: rest => do
    let (header, cs) ← key? rest
    let cs ← expect? ']' cs
    let cs ← expect? ']' cs
    let cs ← endLine? cs
    let d ← d.openRepeated header
    pure (d, cs)
  | '[' :: rest => do
    let (header, cs) ← key? rest
    let cs ← expect? ']' cs
    let cs ← endLine? cs
    let d ← d.openTable header
    pure (d, cs)
  | _ => do
    let (path, cs) ← key? cs
    let cs ← expect? '=' cs
    let cs := skipSpace cs
    let (v, cs) ← value? (fuelFor cs) (depthLimit - 1) cs
    let cs ← endLine? cs
    let d ← d.add path v
    pure (d, cs)

/-- All lines. -/
def lines? : Nat → Draft → List Char → Option Draft
  | 0, _, _ => none
  | fuel + 1, d, cs =>
    match skipSpace cs with
    | [] => some d
    | '#' :: rest => do
      let cs ← endLine? ('#' :: rest)
      lines? fuel d cs
    | c :: rest =>
      match newline? (c :: rest) with
      | some cs => lines? fuel d cs
      | none => do
        let (d, cs) ← line? d (c :: rest)
        lines? fuel d cs

/-! ## Dates by name -/

/-- Whether characters are a distance from universal time of at most a day, or none at all. -/
def isOffset (cs : List Char) : Bool :=
  match cs with
  | [] | ['Z'] | ['z'] => true
  | c :: rest =>
    (c == '+' || c == '-') && (do
      let (hours, rest) ← fixedNumber? 2 0 99 rest
      let (minutes, rest) ← fixedNumber? 2 0 99 (← expect? ':' rest)
      pure (rest.isEmpty && hours * 60 + minutes ≤ 24 * 60)).getD false

/-- Whether characters are a date, a time, or both. A day may end at hour 24 here. -/
def isDateTime (cs : List Char) : Bool :=
  if cs[2]? == some ':' then time? 24 cs == some []
  else
    match date? cs with
    | some [] => true
    | some (c :: rest) => (c == 'T' || c == 't' || c == ' ') && (time? 24 rest).any isOffset
    | none => false

mutual

/-- Whether every table that starts with the name of dates holds the text of one there. What else
is in such a table does not matter. The table of the whole document is no such table. -/
def datesHold : Json → Bool
  | .arr items => itemDatesHold items
  | .obj [] => true
  | .obj ((k, v) :: rest) =>
    if k == some dateKey then
      match v with
      | .str (some s) => isDateTime s.toList
      | _ => false
    else datesHold v && memberDatesHold rest
  | _ => true

/-- `datesHold` for the items of an array. -/
def itemDatesHold : List Json → Bool
  | [] => true
  | v :: rest => datesHold v && itemDatesHold rest

/-- `datesHold` for the values of members. -/
def memberDatesHold : List (Option String × Json) → Bool
  | [] => true
  | (_, v) :: rest => datesHold v && memberDatesHold rest

end

/-! ## Whole documents -/

/-- The mark that may stand in front of a text to tell its byte order. -/
def byteOrderMark : Char := Char.ofNat 0xFEFF

/-- **Reads a document.** -/
def read? (s : String) : Option Json := do
  let cs := match s.toList with
    | c :: rest => if c == byteOrderMark then rest else c :: rest
    | [] => []
  let d ← lines? (cs.length + 1) Draft.empty cs
  let t ← d.close
  let v := tableJson t
  match v with
  | .obj members => if memberDatesHold members then some v else none
  | _ => some v

end Toml

end CodeAtlas
