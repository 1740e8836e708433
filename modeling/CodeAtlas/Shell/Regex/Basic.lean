import CodeAtlas.Bytes.Basic

/-!
# Regular expressions

Regular expressions over bytes, and where they match. Of all matches the one that begins first
counts, and of those the longest. Which bytes the groups take is decided by taking as much as
possible from left to right.

## Architecture

- **Layer A**: expressions;
- **Layer B**: where a match can end;
- **Layer C**: what the groups take;
- **Layer D**: searching.
-/

namespace CodeAtlas

namespace Shell

/-! ## Layer A: expressions -/

/-- A condition on a place between bytes. -/
inductive Anchor where
  | start
  | finish
  | wordStart
  | wordEnd
  /-- Either end of a word, or neither. -/
  | wordEdge (negated : Bool)
  /-- No byte of a word before the place. -/
  | outsideBefore
  /-- No byte of a word behind the place. -/
  | outsideAfter
  deriving Repr, DecidableEq, Inhabited

/-- **A regular expression.** -/
inductive Regex where
  | empty
  /-- One byte of a set. -/
  | one (set : UInt8 → Bool)
  | anchor (a : Anchor)
  | both (first second : Regex)
  | either (first second : Regex)
  /-- An expression again and again, at least and at most so many times. -/
  | again (body : Regex) (least : Nat) (most : Option Nat)
  | group (number : Nat) (body : Regex)
  /-- What a group has taken. -/
  | same (number : Nat)

instance : Inhabited Regex := ⟨.empty⟩

/-- Whether a byte belongs to a word. -/
def isWordByte (b : UInt8) : Bool :=
  b == 95 || (48 ≤ b && b ≤ 57) || (65 ≤ b && b ≤ 90) || (97 ≤ b && b ≤ 122)

namespace Anchor

/-- Whether a condition holds at a place. -/
def holds (a : Anchor) (t : Array UInt8) (i : Nat) : Bool :=
  let before := 0 < i && (t[i - 1]?).any isWordByte
  let after := (t[i]?).any isWordByte
  match a with
  | start => i == 0
  | finish => i == t.size
  | wordStart => !before && after
  | wordEnd => before && !after
  | wordEdge negated => (before != after) != negated
  | outsideBefore => !before
  | outsideAfter => !after

end Anchor

/-! ## Layer B: ends -/

/-- Adds places that are not there yet. -/
def addPlaces (seen new : List Nat) : List Nat :=
  new.foldl (fun s i => if s.contains i then s else i :: s) seen

/-- The places that can be reached by steps, within a number of rounds. -/
def reached (step : Nat → List Nat) : Nat → List Nat → List Nat → List Nat
  | 0, seen, _ => seen
  | fuel + 1, seen, border =>
    let next := (border.flatMap step).filter fun i => !seen.contains i
    if next.isEmpty then seen else reached step fuel (addPlaces seen next) (addPlaces [] next)

/-- The places behind exactly so many steps. -/
def stepped (step : Nat → List Nat) : Nat → List Nat → List Nat
  | 0, places => places
  | n + 1, places => stepped step n (addPlaces [] (places.flatMap step))

/-- The places behind at most so many steps. -/
def steppedUpTo (step : Nat → List Nat) : Nat → List Nat → List Nat
  | 0, places => places
  | n + 1, places => addPlaces places (steppedUpTo step n (addPlaces [] (places.flatMap step)))

namespace Regex

/-- The places where a match that begins at a place can end. What a group has taken could be
anything here. -/
def ends (t : Array UInt8) : Regex → Nat → List Nat
  | empty, i => [i]
  | one set, i => if (t[i]?).any set then [i + 1] else []
  | anchor a, i => if a.holds t i then [i] else []
  | both a b, i => addPlaces [] ((ends t a i).flatMap (ends t b))
  | either a b, i => addPlaces (ends t a i) (ends t b i)
  | again a least most, i =>
    let start := stepped (ends t a) least [i]
    match most with
    | none => reached (ends t a) (t.size + 1) start start
    | some m => steppedUpTo (ends t a) (m - least) start
  | group _ a, i => ends t a i
  | same _, i => (List.range (t.size + 1 - i)).map (· + i)

/-! ## Layer C: groups -/

/-- What groups have taken: for each number the first place and the one behind the last. -/
abbrev Taken := List (Nat × Nat × Nat)

/-- What a group took last. -/
def taken? (g : Taken) (number : Nat) : Option (Nat × Nat) := g.lookup number

/-- Does something again and again, as often as possible, before going on. A round that takes
nothing is the last. -/
def rounds (step : Nat → Taken → (Nat → Taken → Option Taken) → Option Taken) :
    Nat → Nat → Option Nat → Nat → Taken → (Nat → Taken → Option Taken) → Option Taken
  | 0, _, _, i, g, k => k i g
  | fuel + 1, least, most, i, g, k =>
    let more := if most == some 0 then none
      else step i g fun j h =>
        if j == i && least == 0 then none
        else rounds step fuel (least - 1) (most.map (· - 1)) j h k
    match more with
    | some r => some r
    | none => if least == 0 then k i g else none

/-- Follows an expression from a place, and goes on behind it. -/
def follow (t : Array UInt8) : Regex → Nat → Taken → (Nat → Taken → Option Taken) → Option Taken
  | empty, i, g, k => k i g
  | one set, i, g, k => if (t[i]?).any set then k (i + 1) g else none
  | anchor a, i, g, k => if a.holds t i then k i g else none
  | both a b, i, g, k => follow t a i g fun j h => follow t b j h k
  | either a b, i, g, k =>
    match follow t a i g k with
    | some r => some r
    | none => follow t b i g k
  | again a least most, i, g, k => rounds (follow t a) (t.size + least + 1) least most i g k
  | group n a, i, g, k => follow t a i g fun j h => k j ((n, i, j) :: h)
  | same n, i, g, k =>
    match taken? g n with
    | none => none
    | some (x, y) =>
      if t.extract x y == t.extract i (i + (y - x)) && i + (y - x) ≤ t.size then k (i + (y - x)) g
      else none

/-! ## Layer D: searching -/

/-- The longest match that begins at a place: where it ends, and what the groups take. -/
def matchAt (r : Regex) (t : Array UInt8) (i : Nat) : Option (Nat × Taken) :=
  let candidates := (r.ends t i).mergeSort fun a b => b ≤ a
  candidates.findSome? fun e =>
    (r.follow t i [] fun j g => if j == e then some g else none).map fun g => (e, g)

/-- The first match from a place on. -/
def searchFrom (r : Regex) (t : Array UInt8) : Nat → Nat → Option (Nat × Nat × Taken)
  | 0, _ => none
  | fuel + 1, i =>
    match r.matchAt t i with
    | some (e, g) => some (i, e, g)
    | none => searchFrom r t fuel (i + 1)

/-- **The first match from a place on**: where it begins and ends, and what the groups take. -/
def search (r : Regex) (t : Array UInt8) (i : Nat) : Option (Nat × Nat × Taken) :=
  r.searchFrom t (t.size + 1 - i) i

end Regex

end Shell

end CodeAtlas
