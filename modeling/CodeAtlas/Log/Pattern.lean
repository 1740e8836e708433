import CodeAtlas.Json.Reader
import CodeAtlas.Text.Character

/-!
# Patterns of field values

A field of a log filter may ask for a value that fits a regular expression. The filter keeps the
text of the expression; what is decided here is whether it is one. Classes that need the tables of
a script, and matching without regard to case over all scripts, are not available. How deeply an
expression may be nested is limited.

## Architecture

- **Layer A**: switches;
- **Layer B**: nesting;
- **Layer C**: escapes;
- **Layer D**: bracketed classes;
- **Layer E**: groups and whole patterns.
-/

namespace CodeAtlas

/-- What is wrong with a pattern. -/
inductive PatternFault where
  /-- It is no regular expression, or needs tables that are not there. -/
  | malformed
  /-- It asks for the bounds of words over all scripts. -/
  | wordBounds
  deriving Repr, DecidableEq, Inhabited

namespace Pattern

/-! ## Layer A: switches -/

/-- The switches that decide what may stand in a pattern. -/
structure Switches where
  /-- Blanks and comments are skipped. -/
  spaced : Bool
  /-- Case does not matter. -/
  caseless : Bool
  /-- Characters of all scripts are matched, rather than bytes. -/
  allScripts : Bool
  deriving Repr, DecidableEq, Inhabited

/-- The switches at the start of a pattern. -/
def Switches.start : Switches := ⟨false, false, true⟩

/-- The letters of the switches. -/
def Switches.letters : List Char := ['i', 'm', 's', 'U', 'u', 'R', 'x']

/-- Turns a switch on or off; the others do not bear on what may stand in a pattern. -/
def Switches.set (w : Switches) (letter : Char) (on : Bool) : Switches :=
  match letter with
  | 'x' => { w with spaced := on }
  | 'i' => { w with caseless := on }
  | 'u' => { w with allScripts := on }
  | _ => w

/-- Skips blanks and comments where they do not count. -/
def skip (w : Switches) (cs : List Char) : List Char :=
  if w.spaced then go false cs else cs
where
  /-- Skips from inside or outside of a comment. -/
  go (inComment : Bool) : List Char → List Char
    | [] => []
    | c :: rest =>
      if inComment then go (c != '\n') rest
      else if isBlank c then go false rest
      else if c == '#' then go true rest
      else c :: rest

/-- Skips, and refuses the end. -/
def skipOn (w : Switches) (cs : List Char) : Except PatternFault (List Char) :=
  match skip w cs with
  | [] => .error .malformed
  | cs => .ok cs

/-- Reads switches up to the bracket or colon behind them. No letter stands twice, and the minus
that turns switches off is followed by one. -/
def readSwitches (w : Switches) (seen : List Char) (on : Bool) :
    List Char → Except PatternFault (Switches × List Char × Char × List Char)
  | [] => .error .malformed
  | c :: rest =>
    if c == ':' || c == ')' then
      if seen.head? == some '-' then .error .malformed else .ok (w, seen, c, rest)
    else if seen.contains c then .error .malformed
    else if c == '-' then readSwitches w ('-' :: seen) false rest
    else if Switches.letters.contains c then readSwitches (w.set c on) (c :: seen) on rest
    else .error .malformed

/-! ## Layer B: nesting -/

/-- How deeply the parts of a pattern may be nested. -/
def nestingLimit : Nat := 250

/-- Parts that stand in a row, by how deeply each of them is nested. -/
structure Row where
  count : Nat
  /-- The depth of the deepest part but the last. -/
  deepest : Nat
  /-- The depth of the last part. -/
  last : Nat
  deriving Repr, DecidableEq, Inhabited

namespace Row

/-- No parts. -/
def empty : Row := ⟨0, 0, 0⟩

/-- Adds a part. -/
def push (r : Row) (depth : Nat) : Row := ⟨r.count + 1, max r.deepest r.last, depth⟩

/-- Adds parts that are not nested. -/
def pushFlat (r : Row) (parts : Nat) : Row := parts.repeat (·.push 0) r

/-- Wraps the last part, as a repetition does. -/
def wrapLast (r : Row) : Row := { r with last := r.last + 1 }

/-- How deep a row is: one part is no deeper than it is by itself, several are nested in the row. -/
def depth (r : Row) : Nat := if r.count ≤ 1 then r.last else max r.deepest r.last + 1

end Row

/-! ## Layer C: escapes -/

/-- What one character or escape stands for. -/
inductive Atom where
  /-- A character; `byte` says that it was written as a byte. -/
  | literal (c : Char) (byte : Bool)
  /-- A class by letter, such as that of digits. -/
  | letterClass (negated : Bool)
  /-- A place; `ofWord` says that it is the bound of a word. -/
  | place (ofWord : Bool)
  deriving Repr, DecidableEq, Inhabited

/-- Whether a character that is not a letter or digit may stand behind a backslash. -/
def mayBeEscaped (c : Char) : Bool :=
  c.toNat < 0x80 && !c.isAlphanum && c != '<' && c != '>'

/-- Reads digits of base sixteen, between which blanks may be skipped. -/
def hexDigits (w : Switches) : Nat → Nat → List Char → Except PatternFault (Nat × List Char)
  | 0, n, cs => .ok (n, cs)
  | count + 1, n, cs =>
    match cs with
    | [] => .error .malformed
    | c :: rest =>
      match Json.hexValue? c with
      | some d => hexDigits w count (16 * n + d) (skip w rest)
      | none => .error .malformed

/-- A character by the number of its code point. -/
def codePoint (w : Switches) (count : Nat) (cs : List Char) :
    Except PatternFault (Atom × List Char) := do
  let (n, rest) ← hexDigits w count 0 (skip w cs)
  if n.isValidChar then pure (.literal (Char.ofNat n) (count == 2), rest) else .error .malformed

/-- What stands behind a backslash. -/
def escape (w : Switches) : List Char → Except PatternFault (Atom × List Char)
  | [] => .error .malformed
  | c :: rest =>
    if mayBeEscaped c then .ok (.literal c false, rest)
    else
      match c with
      | 'x' => codePoint w 2 rest
      | 'u' => codePoint w 4 rest
      | 'U' => codePoint w 8 rest
      | 'd' | 's' | 'w' => .ok (.letterClass false, rest)
      | 'D' | 'S' | 'W' => .ok (.letterClass true, rest)
      | 'A' | 'z' => .ok (.place false, rest)
      | 'b' | 'B' | '<' | '>' => .ok (.place true, rest)
      | 'a' => .ok (.literal (Char.ofNat 7) false, rest)
      | 't' => .ok (.literal '\t' false, rest)
      | 'n' => .ok (.literal '\n' false, rest)
      | 'v' => .ok (.literal (Char.ofNat 11) false, rest)
      | 'f' => .ok (.literal (Char.ofNat 12) false, rest)
      | 'r' => .ok (.literal '\r' false, rest)
      | _ => .error .malformed

/-- Whether an atom may stand outside of a class. A byte beyond ASCII is no character, and a class
of bytes must not reach beyond ASCII. -/
def Atom.fits (w : Switches) : Atom → Bool
  | .literal c byte => if w.allScripts then !w.caseless else c.toNat < 0x80 || !byte
  | .letterClass negated => !w.allScripts && !negated
  | .place _ => true

/-- Whether an atom may stand inside of a class. -/
def Atom.fitsClass (w : Switches) : Atom → Bool
  | .literal c _ => if w.allScripts then !w.caseless else c.toNat < 0x80
  | .letterClass negated => !w.allScripts && !negated
  | .place _ => false

/-! ## Layer D: bracketed classes -/

/-- The names of classes between colons. -/
def classNames : List String :=
  ["alnum", "alpha", "ascii", "blank", "cntrl", "digit", "graph", "lower", "print", "punct",
   "space", "upper", "word", "xdigit"]

/-- A named class behind its bracket: whether it is negated, and what is left. -/
def namedClass? (cs : List Char) : Option (Bool × List Char) :=
  match cs with
  | ':' :: rest =>
    let (negated, rest) := match rest with
      | '^' :: rest => (true, rest)
      | rest => (false, rest)
    let name := rest.takeWhile (· != ':')
    match rest.drop name.length with
    | ':' :: ']' :: rest =>
      if classNames.contains (String.ofList name) then some (negated, rest) else none
    | _ => none
  | _ => none

/-- Whether a named class may stand in a class. -/
def namedFits (w : Switches) (negated : Bool) : Bool :=
  if w.allScripts then !w.caseless else !negated

/-- A class that is open: what its last operator stands behind, and the items since. -/
structure OpenClass where
  left : Option Nat
  items : Row
  deriving Repr, DecidableEq, Inhabited

namespace OpenClass

/-- How deeply nested what the class holds so far is. -/
def depth (o : OpenClass) : Nat :=
  match o.left with
  | none => o.items.depth
  | some left => max left o.items.depth + 1

/-- Adds an item. -/
def push (o : OpenClass) (depth : Nat) : OpenClass := { o with items := o.items.push depth }

/-- Puts an operator behind what the class holds so far. -/
def operate (o : OpenClass) : OpenClass := ⟨some o.depth, .empty⟩

end OpenClass

/-- Skips the hyphens at the start of a class, and counts them. -/
def hyphens (w : Switches) : Nat → Nat → List Char → Except PatternFault (Nat × List Char)
  | 0, met, cs => .ok (met, cs)
  | fuel + 1, met, cs =>
    match cs with
    | '-' :: rest => do hyphens w fuel (met + 1) (← skipOn w rest)
    | cs => .ok (met, cs)

/-- The start of a class behind its bracket: hyphens there, or one closing bracket, are meant as
they stand. -/
def openClass (w : Switches) (cs : List Char) : Except PatternFault (OpenClass × List Char) := do
  let cs ← skipOn w cs
  let (negated, cs) ← match cs with
    | '^' :: rest => (skipOn w rest).map fun cs => (true, cs)
    | cs => pure (false, cs)
  if negated && !w.allScripts then .error .malformed
  else
    let (met, cs) ← hyphens w cs.length 0 cs
    let (met, cs) ← match met, cs with
      | 0, ']' :: rest => (skipOn w rest).map fun cs => (1, cs)
      | met, cs => pure (met, cs)
    if 0 < met && !(Atom.literal '-' false).fitsClass w then .error .malformed
    else pure (⟨none, Row.empty.pushFlat met⟩, cs)

/-- One character of a class. -/
def classAtom (w : Switches) : List Char → Except PatternFault (Atom × List Char)
  | [] => .error .malformed
  | '\\' :: rest => escape w rest
  | c :: rest => .ok (.literal c false, rest)

/-- Whether two atoms are the ends of a range. -/
def isRange : Atom → Atom → Bool
  | .literal a _, .literal b _ => a ≤ b
  | _, _ => false

/-- One character or range of a class. -/
def classItem (w : Switches) (cs : List Char) : Except PatternFault (List Char) := do
  let (a, cs) ← classAtom w cs
  let cs ← skipOn w cs
  let alone := match cs with
    | '-' :: rest => [some ']', some '-'].contains (skip w rest).head?
    | _ => true
  if !a.fitsClass w then .error .malformed
  else if alone then pure cs
  else
    let (b, cs) ← classAtom w (← skipOn w (cs.drop 1))
    if b.fitsClass w && isRange a b then pure cs else .error .malformed

/-- How deeply nested a class is, and what is left behind it; `around` are the open classes around
the one that is read. -/
def classRest (w : Switches) :
    Nat → OpenClass → List OpenClass → List Char → Except PatternFault (Nat × List Char)
  | 0, _, _, _ => .error .malformed
  | fuel + 1, inner, around, cs =>
    match skip w cs with
    | [] => .error .malformed
    | '[' :: rest =>
      match namedClass? rest with
      | some (negated, rest) =>
        if namedFits w negated then classRest w fuel (inner.push 0) around rest
        else .error .malformed
      | none => do
        let (opened, rest) ← openClass w rest
        classRest w fuel opened (inner :: around) rest
    | ']' :: rest =>
      match around with
      | [] => .ok (inner.depth + 1, rest)
      | outer :: around => classRest w fuel (outer.push (inner.depth + 1)) around rest
    | '&' :: '&' :: rest => classRest w fuel inner.operate around rest
    | '-' :: '-' :: rest => classRest w fuel inner.operate around rest
    | '~' :: '~' :: rest => classRest w fuel inner.operate around rest
    | cs => do classRest w fuel (inner.push 0) around (← classItem w cs)

/-- How deeply nested a class is, and what is left behind it, from behind its bracket on. -/
def bracketed (w : Switches) (cs : List Char) : Except PatternFault (Nat × List Char) := do
  let (opened, rest) ← openClass w cs
  classRest w (rest.length + 1) opened [] rest

/-! ## Layer E: groups and whole patterns -/

/-- The alternatives of a group or of a whole pattern. -/
structure Branches where
  /-- The branches that are complete. -/
  before : Row
  /-- The parts of the one that is read. -/
  parts : Row
  deriving Repr, DecidableEq, Inhabited

namespace Branches

/-- No branches yet. -/
def empty : Branches := ⟨.empty, .empty⟩

/-- Completes a branch. -/
def turn (b : Branches) : Branches := ⟨b.before.push b.parts.depth, .empty⟩

/-- How deeply nested the branches are. -/
def depth (b : Branches) : Nat := b.turn.before.depth

end Branches

/-- Where the reading of a pattern stands. -/
structure Place where
  switches : Switches
  branches : Branches
  /-- The switches and the branches around each open group, innermost first. -/
  opened : List (Switches × Branches)
  /-- Whether a repetition may follow. -/
  operand : Bool
  names : List (List Char)
  /-- Whether the bound of a word over all scripts was asked for. -/
  wordBounds : Bool
  deriving Repr, DecidableEq, Inhabited

/-- The start of a pattern. -/
def Place.start : Place := ⟨.start, .empty, [], false, [], false⟩

/-- Adds a part, which a repetition may follow. -/
def Place.push (p : Place) (depth : Nat) : Place :=
  { p with
    branches := { p.branches with parts := p.branches.parts.push depth }
    operand := true }

/-- Enters a group. -/
def Place.enter (p : Place) (inner : Switches) : Place :=
  { p with
    switches := inner
    branches := .empty
    opened := (p.switches, p.branches) :: p.opened
    operand := false }

/-- Leaves a group, if one is open. -/
def Place.leave? (p : Place) : Option Place :=
  match p.opened with
  | [] => none
  | (w, around) :: opened =>
    some ({ p with switches := w, branches := around, opened := opened }.push
      (p.branches.depth + 1))

/-- Repeats the last part. -/
def Place.again (p : Place) : Place :=
  { p with branches := { p.branches with parts := p.branches.parts.wrapLast } }

/-- Whether a character may stand in the name of a group. -/
def inGroupName (c : Char) : Bool :=
  c == '_' || c == '.' || c == '[' || c == ']' || isLetter c || isNumber c

/-- A group with a name, from the name on. -/
def namedGroup (p : Place) (cs : List Char) : Except PatternFault (Place × List Char) :=
  let name := cs.takeWhile inGroupName
  match name, cs.drop name.length with
  | c :: _, '>' :: rest =>
    if (c == '_' || isLetter c) && !p.names.contains name then
      .ok ({ p.enter p.switches with names := name :: p.names }, rest)
    else .error .malformed
  | _, _ => .error .malformed

/-- A group, or switches for the rest of the group around them, from behind the bracket on. -/
def group (p : Place) (cs : List Char) : Except PatternFault (Place × List Char) :=
  match skip p.switches cs with
  | '?' :: 'P' :: '<' :: rest => namedGroup p rest
  | '?' :: '<' :: rest => namedGroup p rest
  | '?' :: rest => do
    let (w, seen, closing, rest) ← readSwitches p.switches [] true rest
    if closing == ':' then pure (p.enter w, rest)
    else if seen.isEmpty then .error .malformed
    else pure ({ p.push 0 with switches := w, operand := false }, rest)
  | rest => .ok (p.enter p.switches, rest)

/-- An atom outside of classes. -/
def Place.take (p : Place) (a : Atom) : Except PatternFault Place :=
  if a.fits p.switches then
    let asked := a == .place true && p.switches.allScripts
    .ok { p.push 0 with wordBounds := p.wordBounds || asked }
  else .error .malformed

/-- One step from a character on. A counted repetition would have to be closed by a brace, which
ends the field before. -/
def step (p : Place) (c : Char) (rest : List Char) : Except PatternFault (Place × List Char) :=
  match c with
  | '(' => group p rest
  | ')' =>
    match p.leave? with
    | none => .error .malformed
    | some p => .ok (p, rest)
  | '|' => .ok ({ p with branches := p.branches.turn, operand := false }, rest)
  | '[' => (bracketed p.switches rest).map fun (depth, rest) => (p.push depth, rest)
  | '*' | '+' | '?' =>
    if p.operand then .ok (p.again, if rest.head? == some '?' then rest.drop 1 else rest)
    else .error .malformed
  | '\\' => do
    let (a, rest) ← escape p.switches rest
    pure (← p.take a, rest)
  | '.' => if p.switches.allScripts then .ok (p.push 0, rest) else .error .malformed
  | '^' | '$' => .ok (p.push 0, rest)
  | c =>
    if c.toNat == 0x7B then .error .malformed
    else (p.take (.literal c false)).map fun p => (p, rest)

/-- All steps; every one of them takes at least one character. -/
def run : Nat → Place → List Char → Except PatternFault Place
  | 0, _, _ => .error .malformed
  | fuel + 1, p, cs =>
    match skip p.switches cs with
    | [] => .ok p
    | c :: rest => do
      let (p, rest) ← step p c rest
      run fuel p rest

/-- **Whether a text is a pattern that can be used.** -/
def check (s : String) : Except PatternFault Unit := do
  let p ← run (s.length + 1) .start s.toList
  if !p.opened.isEmpty || nestingLimit < p.branches.depth then .error .malformed
  else if p.wordBounds then .error .wordBounds
  else pure ()

end Pattern

end CodeAtlas
