import CodeAtlas.Shell.Arithmetic
import CodeAtlas.Shell.Glob
import CodeAtlas.Shell.Regex.Basic

/-!
# Reading regular expressions

Two ways to write the same expressions: in one the signs for groups, choices and numbers of times
stand behind a backslash, in the other a backslash makes them ordinary characters.

## Architecture

- **Layer A**: faults and dialects;
- **Layer B**: sets of bytes;
- **Layer C**: expressions.
-/

namespace CodeAtlas

namespace Shell

/-! ## Layer A: faults and dialects -/

/-- Why a text is no regular expression. -/
inductive RegexFault where
  | unmatchedBracket
  | unmatchedOpening
  | unmatchedClosing
  | unmatchedBrace
  | badCount
  | badRepetition
  | badReference
  | badClass
  | badRange
  | trailingBackslash
  deriving Repr, DecidableEq, Inhabited

/-- The wording of a fault. -/
def RegexFault.message : RegexFault → String
  | unmatchedBracket => "Unmatched [, [^, [:, [., or [="
  | unmatchedOpening => "Unmatched ( or \\("
  | unmatchedClosing => "Unmatched ) or \\)"
  | unmatchedBrace => "Unmatched \\\x7b"
  | badCount => "Invalid content of \\\x7b\\\x7d"
  | badRepetition => "Invalid preceding regular expression"
  | badReference => "Invalid back reference"
  | badClass => "Invalid character class name"
  | badRange => "Invalid range end"
  | trailingBackslash => "Trailing backslash"

/-- How an expression is written. -/
structure Dialect where
  /-- Whether signs have their meaning without a backslash. -/
  extended : Bool
  /-- Whether case does not matter. -/
  caseless : Bool := false
  deriving Repr, DecidableEq, Inhabited

/-- A token of an expression. -/
inductive RegexSign where
  | plain (b : UInt8)
  | any
  /-- One of a set, which stands behind a backslash. -/
  | set (members : UInt8 → Bool)
  | bracket
  | anchor (a : Anchor)
  | opening
  | closing
  | choice
  /-- At least and at most so many times. -/
  | times (least : Nat) (most : Option Nat)
  /-- The start of a number of times. -/
  | brace
  | reference (n : Nat)

/-- A byte of a character. -/
def charByte (c : Char) : UInt8 := c.toNat.toUInt8

/-- What a letter behind a backslash stands for. -/
def escapedLetter? (c : Char) : Option RegexSign :=
  let blank (b : UInt8) : Bool := b == 32 || (9 ≤ b && b ≤ 13)
  match c with
  | 'w' => some (.set isWordByte)
  | 'W' => some (.set fun b => !isWordByte b)
  | 's' => some (.set blank)
  | 'S' => some (.set fun b => !blank b)
  | 'b' => some (.anchor (.wordEdge false))
  | 'B' => some (.anchor (.wordEdge true))
  | '<' => some (.anchor .wordStart)
  | '>' => some (.anchor .wordEnd)
  | '\x60' => some (.anchor .start)
  | '\'' => some (.anchor .finish)
  | 'n' => some (.plain 10)
  | 't' => some (.plain 9)
  | _ => none

/-- The sign that a character is, behind a backslash or not. -/
def signOf (d : Dialect) (escaped : Bool) (c : Char) : RegexSign :=
  let special := d.extended != escaped
  match c with
  | '(' => if special then .opening else .plain 40
  | ')' => if special then .closing else .plain 41
  | '|' => if special then .choice else .plain 124
  | '+' => if special then .times 1 none else .plain 43
  | '?' => if special then .times 0 (some 1) else .plain 63
  | '\x7b' => if special then .brace else .plain 123
  | _ =>
    if escaped then
      if '1' ≤ c && c ≤ '9' then .reference (c.toNat - 48)
      else (escapedLetter? c).getD (.plain (charByte c))
    else
      match c with
      | '.' => .any
      | '[' => .bracket
      | '*' => .times 0 none
      | _ => .plain (charByte c)

/-! ## Layer B: sets -/

/-- A named set between brackets, from behind its first sign on. -/
def namedBracket (cs : List Char) : Except RegexFault ((UInt8 → Bool) × List Char) :=
  let name := cs.takeWhile Char.isAlpha
  match cs.drop name.length with
  | ':' :: ']' :: rest =>
    match byteClass? (String.ofList name) with
    | some f => .ok (f, rest)
    | none => .error .badClass
  | _ => .error .unmatchedBracket

/-- The set of a bracket, from its first item on. -/
def bracketSet : Nat → Bool → (UInt8 → Bool) → List Char →
    Except RegexFault ((UInt8 → Bool) × List Char)
  | 0, _, _, _ => .error .unmatchedBracket
  | _ + 1, _, _, [] => .error .unmatchedBracket
  | fuel + 1, first, set, c :: rest =>
    if c == ']' && !first then .ok (set, rest)
    else
      match c, rest with
      | '[', ':' :: more => do
        let (f, rest) ← namedBracket more
        bracketSet fuel false (fun b => set b || f b) rest
      | '[', '=' :: x :: '=' :: ']' :: rest =>
        bracketSet fuel false (fun b => set b || b == charByte x) rest
      | '[', '.' :: x :: '.' :: ']' :: rest =>
        bracketSet fuel false (fun b => set b || b == charByte x) rest
      | _, '-' :: z :: more =>
        if z == ']' then bracketSet fuel false (fun b => set b || b == charByte c) rest
        else if charByte z < charByte c then .error .badRange
        else bracketSet fuel false (fun b => set b || (charByte c ≤ b && b ≤ charByte z)) more
      | _, _ => bracketSet fuel false (fun b => set b || b == charByte c) rest

/-- The set of a bracket, from behind the bracket on. -/
def bracketAt (cs : List Char) : Except RegexFault ((UInt8 → Bool) × List Char) := do
  let none_ (_ : UInt8) : Bool := false
  match cs with
  | '^' :: rest =>
    let (set, rest) ← bracketSet (rest.length + 1) true none_ rest
    pure (fun b => !set b, rest)
  | _ => bracketSet (cs.length + 1) true none_ cs

/-- A set in which case does not matter. -/
def caselessSet (set : UInt8 → Bool) (b : UInt8) : Bool :=
  set b || (65 ≤ b && b ≤ 90 && set (b + 32)) || (97 ≤ b && b ≤ 122 && set (b - 32))

/-! ## Layer C: expressions -/

/-- A number of times between braces, from behind the first one on. -/
def timesAt (d : Dialect) (cs : List Char) :
    Except RegexFault (Nat × Option Nat × List Char) :=
  let a := cs.takeWhile Char.isDigit
  let rest := cs.drop a.length
  let close (least : Nat) (most : Option Nat) (rest : List Char) :
      Except RegexFault (Nat × Option Nat × List Char) :=
    match d.extended, rest with
    | true, '\x7d' :: rest => .ok (least, most, rest)
    | false, '\\' :: '\x7d' :: rest => .ok (least, most, rest)
    | _, [] => .error .unmatchedBrace
    | _, _ => .error .badCount
  match rest with
  | ',' :: rest =>
    let b := rest.takeWhile Char.isDigit
    let most := if b.isEmpty then none else some (valueIn 10 b)
    if most.any (· < valueIn 10 a) then .error .badCount
    else close (valueIn 10 a) most (rest.drop b.length)
  | _ => if a.isEmpty then .error .badCount else close (valueIn 10 a) (some (valueIn 10 a)) rest

/-- The state of reading: what is left, and how many groups were opened. -/
structure RegexRest where
  left : List Char
  groups : Nat
  /-- The groups that are closed. -/
  closed : List Nat

/-- What is read of an expression. -/
abbrev RegexResult := Except RegexFault (Regex × RegexRest)

/-- The next token, and what is left behind it. -/
def nextSign (d : Dialect) : List Char → Except RegexFault (Option (RegexSign × List Char))
  | [] => .ok none
  | ['\\'] => .error .trailingBackslash
  | '\\' :: c :: rest => .ok (some (signOf d true c, rest))
  | c :: rest => .ok (some (signOf d false c, rest))

/-- Whether a choice or the end of a group comes next. -/
def atBranchEnd (d : Dialect) (cs : List Char) : Bool :=
  match nextSign d cs with
  | .ok none => true
  | .ok (some (.choice, _)) => true
  | .ok (some (.closing, _)) => true
  | _ => false

/-- The expression for one byte of a set. -/
def Regex.ofSet (d : Dialect) (set : UInt8 → Bool) : Regex :=
  .one (if d.caseless then caselessSet set else set)

mutual

/-- Reads branches between choices. -/
def branchesOf (d : Dialect) : Nat → Nat → RegexRest → RegexResult
  | 0, _, _ => .error .badRepetition
  | fuel + 1, depth, s => do
    let (a, s) ← branchOf d fuel depth true .empty s
    match ← nextSign d s.left with
    | some (.choice, rest) =>
      let (b, s) ← branchesOf d fuel depth { s with left := rest }
      pure (.either a b, s)
    | _ => pure (a, s)

/-- Reads on in a branch; `first` tells whether nothing of it has been read. -/
def branchOf (d : Dialect) : Nat → Nat → Bool → Regex → RegexRest → RegexResult
  | 0, _, _, _, _ => .error .badRepetition
  | fuel + 1, depth, first, before, s => do
    match ← nextSign d s.left with
    | none => pure (before, s)
    | some (.choice, _) => pure (before, s)
    | some (.closing, rest) =>
      if 0 < depth then pure (before, s)
      else if d.extended then
        let (a, s) ← repeated d fuel (.ofSet d (· == 41)) { s with left := rest }
        branchOf d fuel depth false (.both before a) s
      else throw .unmatchedClosing
    | some (sign, rest) =>
      let s := { s with left := rest }
      let (a, s) ← match sign with
        | .plain b =>
          if b == 94 && (first || d.extended) then pure (Regex.anchor .start, s)
          else if b == 36 && (atBranchEnd d rest || d.extended) then
            pure (Regex.anchor .finish, s)
          else repeated d fuel (.ofSet d (· == b)) s
        | .any => repeated d fuel (.ofSet d (· != 0)) s
        | .set set => repeated d fuel (.ofSet d set) s
        | .bracket => do
          let (set, left) ← bracketAt rest
          repeated d fuel (.ofSet d set) { s with left := left }
        | .anchor a => repeated d fuel (.anchor a) s
        | .opening => do
          let number := s.groups + 1
          let (a, s) ← branchesOf d fuel (depth + 1) { s with groups := number }
          match ← nextSign d s.left with
          | some (.closing, rest) =>
            repeated d fuel (.group number a)
              { s with left := rest, closed := number :: s.closed }
          | _ => throw .unmatchedOpening
        | .times _ _ =>
          if first && !d.extended then repeated d fuel (.ofSet d (· == 42)) s
          else if first then pure (.empty, s)
          else throw .badRepetition
        | .brace =>
          if d.extended then repeated d fuel (.ofSet d (· == 123)) s
          else throw .badRepetition
        | .reference n =>
          if s.closed.contains n then repeated d fuel (.same n) s else throw .badReference
        | .choice => pure (.empty, s)
        | .closing => pure (.empty, s)
      let isStart := match a with
        | .anchor .start => first
        | _ => false
      branchOf d fuel depth isStart (.both before a) s

/-- Reads the numbers of times behind an expression. -/
def repeated (d : Dialect) : Nat → Regex → RegexRest → RegexResult
  | 0, a, s => .ok (a, s)
  | fuel + 1, a, s =>
    match nextSign d s.left with
    | .ok (some (.times least most, rest)) =>
      repeated d fuel (.again a least most) { s with left := rest }
    | .ok (some (.brace, rest)) =>
      match timesAt d rest with
      | .ok (least, most, rest) =>
        repeated d fuel (.again a least most) { s with left := rest }
      | .error fault => if d.extended then .ok (a, s) else .error fault
    | _ => .ok (a, s)

end

/-- **Reads a regular expression**, with the number of its groups. -/
def Regex.read (d : Dialect) (pattern : Bytes) : Except RegexFault (Regex × Nat) := do
  let cs := pattern.map fun b => Char.ofNat b.toNat
  let (r, s) ← branchesOf d (8 * cs.length + 16) 0 ⟨cs, 0, []⟩
  match s.left with
  | [] => pure (r, s.groups)
  | _ => throw .unmatchedClosing

/-- The expression for bytes as they stand. -/
def Regex.literal (d : Dialect) (bs : Bytes) : Regex :=
  bs.foldl (fun r b => .both r (.ofSet d (· == b))) .empty

end Shell

end CodeAtlas
