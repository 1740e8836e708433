import CodeAtlas.Shell.Awk.Value
import CodeAtlas.Shell.Regex.Reader

/-!
# Records and fields

How an input is divided into records and a record into fields, and how texts are searched and
replaced.

## Architecture

- **Layer A**: regular expressions as programs write them;
- **Layer B**: dividing a text into parts;
- **Layer C**: dividing an input into records;
- **Layer D**: replacing.
-/

namespace CodeAtlas

namespace Shell

namespace Awk

/-! ## Layer A: regular expressions -/

/-- The signs that a backslash makes ordinary. -/
def regexSigns : List Char :=
  ['.', '[', ']', '(', ')', '*', '+', '?', '\x7b', '\x7d', '|', '^', '$', '\\']

/-- A character that a regular expression takes as it stands. -/
def ordinary (c : Char) : List Char := if regexSigns.contains c then ['\\', c] else [c]

/-- The character behind a backslash: of a control character, by its octal number, or itself. Also
what is left. -/
def behindBackslash (cs : List Char) : Option (Char × List Char) :=
  match cs with
  | [] => none
  | c :: rest =>
    if isOctal c then
      let ds := (cs.take 3).takeWhile isOctal
      some (Char.ofNat (valueIn 8 ds % 256), cs.drop ds.length)
    else
      match if c == 'e' then none else letterEscape? c with
      | some b => some (Char.ofNat b.toNat, rest)
      | none => some (c, rest)

mutual

/-- An expression in which a backslash has its meaning between square brackets too, as one in which
it has not. -/
def plainRegex : Nat → List Char → List Char
  | 0, cs => cs
  | _ + 1, [] => []
  | fuel + 1, '\\' :: rest =>
    match behindBackslash rest with
    | some (c, rest) => ordinary c ++ plainRegex fuel rest
    | none => ['\\', '\\']
  | fuel + 1, '[' :: '^' :: ']' :: rest => ['[', '^', ']'] ++ plainSet fuel rest
  | fuel + 1, '[' :: ']' :: rest => ['[', ']'] ++ plainSet fuel rest
  | fuel + 1, '[' :: '^' :: rest => ['[', '^'] ++ plainSet fuel rest
  | fuel + 1, '[' :: rest => '[' :: plainSet fuel rest
  | fuel + 1, c :: rest => c :: plainRegex fuel rest

/-- The same between square brackets. -/
def plainSet : Nat → List Char → List Char
  | 0, cs => cs
  | _ + 1, [] => []
  | fuel + 1, ']' :: rest => ']' :: plainRegex fuel rest
  | fuel + 1, '[' :: ':' :: rest =>
    let name := rest.takeWhile Char.isAlpha
    ['[', ':'] ++ name ++ (rest.drop name.length).take 2
      ++ plainSet fuel (rest.drop (name.length + 2))
  | fuel + 1, '\\' :: rest =>
    match behindBackslash rest with
    | some (c, rest) => ['[', '.', c, '.', ']'] ++ plainSet fuel rest
    | none => ['\\']
  | fuel + 1, c :: rest => c :: plainSet fuel rest

end

/-- What is wrong with a regular expression. -/
def regexProblem : RegexFault → String
  | .unmatchedOpening => "missing ')'"
  | .unmatchedClosing => "missing '('"
  | .unmatchedBracket => "bad class -- [], [^] or ["
  | _ => "missing operand"

/-- The regular expression that a text is. -/
def regexOf (source : Bytes) : Except String Regex :=
  let cs := charsOf source
  let plain := plainRegex (cs.length + 1) cs
  match Regex.read ⟨true, false⟩ (plain.map fun c => UInt8.ofNat c.toNat) with
  | .ok (r, _) =>
    if cs.head?.any fun c => c == '+' || c == '?' then .error "missing operand" else .ok r
  | .error fault => .error (regexProblem fault)

/-! ## Layer B: parts -/

/-- What stands between the parts of a text. -/
inductive Divider where
  /-- Blanks, which are also dropped at both ends. -/
  | blanks
  | byte (b : UInt8)
  | regex (r : Regex)
  /-- Nothing: every byte is a part. -/
  | nothing

/-- The divider that a text stands for. A text of one byte divides as it stands. -/
def dividerOf (source : Bytes) : Except String Divider :=
  match source with
  | [] => .ok .nothing
  | [32] => .ok .blanks
  | [b] => .ok (.byte b)
  | _ => (regexOf source).map .regex

/-- Whether a byte divides fields. -/
def isBlankByte (b : UInt8) : Bool := b == 32 || b == 9 || b == 10

/-- The parts of a text between bytes of a kind, which stand for themselves. -/
def partsBetween (isDivider : UInt8 → Bool) (bs : Bytes) : List Bytes :=
  bs.foldr (fun b parts =>
    match parts with
    | p :: rest => if isDivider b then [] :: p :: rest else (b :: p) :: rest
    | [] => [[b]]) [[]]

/-- The parts of a text between matches that are not empty. -/
def partsAround (r : Regex) (t : Array UInt8) : Nat → Nat → Nat → List Bytes
  | 0, start, _ => [(t.extract start t.size).toList]
  | fuel + 1, start, i =>
    match r.search t i with
    | none => [(t.extract start t.size).toList]
    | some (b, e, _) =>
      if e == b then
        if t.size ≤ b then [(t.extract start t.size).toList]
        else partsAround r t fuel start (b + 1)
      else (t.extract start b).toList :: partsAround r t fuel e e

/-- **The parts of a text.** A text that is empty has none. -/
def Divider.parts (d : Divider) (bs : Bytes) : List Bytes :=
  if bs.isEmpty then []
  else
    match d with
    | .blanks => (partsBetween isBlankByte bs).filter (!·.isEmpty)
    | .byte b => partsBetween (· == b) bs
    | .nothing => bs.map fun b => [b]
    | .regex r => partsAround r bs.toArray (bs.length + 1) 0 0

/-! ## Layer C: records -/

/-- The bytes before the first match of a kind that is not empty, and those behind it. -/
def cutAt (r : Regex) (bs : Bytes) : Bytes × Bytes :=
  let t := bs.toArray
  match partsAround r t 1 0 0 with
  | [first] => (first, [])
  | first :: _ =>
    match r.search t first.length with
    | some (_, e, _) => (first, (t.extract e t.size).toList)
    | none => (first, [])
  | [] => (bs, [])

/-- The text of a paragraph, and what is left behind the empty lines that end it. -/
def paragraph : Bytes → Bytes × Bytes
  | [] => ([], [])
  | 10 :: 10 :: rest => ([], rest.dropWhile (· == 10))
  | [10] => ([], [])
  | b :: rest =>
    let (p, left) := paragraph rest
    (b :: p, left)

/-- **The next record of an input**, and what is left. The separator is one byte or a regular
expression; if it is empty, records are paragraphs. -/
def nextOf (separator input : Bytes) : Except String (Option (Bytes × Bytes)) :=
  match separator with
  | [] =>
    let body := input.dropWhile (· == 10)
    .ok (if body.isEmpty then none else some (paragraph body))
  | [b] =>
    if input.isEmpty then .ok none
    else
      let first := input.takeWhile (· != b)
      .ok (some (first, input.drop (first.length + 1)))
  | _ =>
    if input.isEmpty then .ok none else (regexOf separator).map fun r => some (cutAt r input)

/-! ## Layer D: replacing -/

/-- What a replacement stands for, given what was found. -/
def replacementFor (found : Bytes) : Bytes → Bytes
  | 92 :: 92 :: 38 :: rest => 92 :: found ++ replacementFor found rest
  | 92 :: 38 :: rest => 38 :: replacementFor found rest
  | 38 :: rest => found ++ replacementFor found rest
  | b :: rest => b :: replacementFor found rest
  | [] => []

/-- Replaces matches from a place on, and counts them. A match that is empty does not count directly
behind another one. -/
def replacedFrom (r : Regex) (new : Bytes) (t : Array UInt8) (every : Bool) :
    Nat → Nat → Option Nat → Bytes × Nat
  | 0, i, _ => ((t.extract i t.size).toList, 0)
  | fuel + 1, i, behind =>
    match r.search t i with
    | none => ((t.extract i t.size).toList, 0)
    | some (b, e, _) =>
      let before := (t.extract i b).toList
      let found := (t.extract b e).toList
      if e == b && behind == some b then
        let (rest, n) := replacedFrom r new t every fuel (b + 1) none
        if t.size ≤ b then ([], 0) else (before ++ (t.extract b (b + 1)).toList ++ rest, n)
      else if !every then
        (before ++ replacementFor found new ++ (t.extract e t.size).toList, 1)
      else if e == b then
        let next := (t.extract b (b + 1)).toList
        let (rest, n) := if t.size ≤ b then ([], 0)
          else replacedFrom r new t every fuel (b + 1) none
        (before ++ replacementFor found new ++ next ++ rest, n + 1)
      else
        let (rest, n) := replacedFrom r new t every fuel e (some e)
        (before ++ replacementFor found new ++ rest, n + 1)

/-- **Replaces the first match, or every match.** The result tells how many there were. -/
def replaced (r : Regex) (new bs : Bytes) (every : Bool) : Bytes × Nat :=
  replacedFrom r new bs.toArray every (bs.length + 2) 0 none

end Awk

end Shell

end CodeAtlas
