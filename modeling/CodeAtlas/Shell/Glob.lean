import CodeAtlas.Bytes.Basic
import CodeAtlas.Disk.Basic
import CodeAtlas.Ordered.Sorting

/-!
# Patterns

A pattern is a text in which some signs stand for others: a star for any bytes, a question mark for
one byte, a bracket for one byte of a set. Signs that were quoted stand for themselves.

## Architecture

- **Layer A**: patterns and brackets;
- **Layer B**: matching and cutting;
- **Layer C**: names of files.
-/

namespace CodeAtlas

namespace Shell

/-! ## Layer A: patterns -/

/-- A byte of a pattern; if it is not active, it stands for itself. -/
structure Glyph where
  byte : UInt8
  active : Bool
  deriving Repr, DecidableEq, Inhabited

/-- A text with signs that may stand for others. -/
abbrev Glob := List Glyph

/-- The pattern of a text. -/
def Glob.ofText (s : String) (active : Bool) : Glob := (Bytes.ofText s).map (⟨·, active⟩)

/-- The bytes of a pattern as they stand. -/
def Glob.toBytes (g : Glob) : Bytes := g.map (·.byte)

/-- Whether a byte of a pattern is a sign. -/
def Glyph.isSign (g : Glyph) (c : Char) : Bool := g.active && g.byte == c.toNat.toUInt8

/-- Named sets of bytes. -/
def byteClass? (name : String) : Option (UInt8 → Bool) :=
  let between (a b : Nat) (x : UInt8) : Bool := a ≤ x.toNat && x.toNat ≤ b
  let upper := between 65 90
  let lower := between 97 122
  let digit := between 48 57
  let alpha (x : UInt8) : Bool := upper x || lower x
  match name with
  | "upper" => some upper
  | "lower" => some lower
  | "digit" => some digit
  | "alpha" => some alpha
  | "alnum" => some fun x => alpha x || digit x
  | "xdigit" => some fun x => digit x || between 65 70 x || between 97 102 x
  | "space" => some fun x => x == 32 || between 9 13 x
  | "blank" => some fun x => x == 32 || x == 9
  | "cntrl" => some fun x => x.toNat < 32 || x == 127
  | "print" => some (between 32 126)
  | "graph" => some (between 33 126)
  | "punct" => some fun x => between 33 126 x && !alpha x && !digit x
  | _ => none

/-- The named set at the start of what stands behind a bracket, and what is left. -/
def namedSet? (cs : Bytes) : Option ((UInt8 → Bool) × Nat) :=
  match cs with
  | 58 :: rest =>
    let name := rest.takeWhile fun b => (byteClass? "lower").any fun f => f b
    match rest.drop name.length with
    | 58 :: 93 :: _ =>
      (byteClass? (String.ofList (name.map fun b => Char.ofNat b.toNat))).map fun f =>
        (f, name.length + 3)
    | _ => none
  | _ => none

/-- Whether a byte is in the set of a bracket, and what is left behind it. There is no answer if the
bracket is not closed. -/
def bracketItems (b : UInt8) : Nat → Bool → Bool → Glob → Option (Bool × Glob)
  | 0, _, _, _ => none
  | _ + 1, _, _, [] => none
  | fuel + 1, first, found, g :: rest =>
    if !first && g.isSign ']' then some (found, rest)
    else
      match (if g.isSign '[' then namedSet? (Glob.toBytes rest) else none) with
      | some (f, n) => bracketItems b fuel false (found || f b) (rest.drop n)
      | none =>
        match rest with
        | dash :: last :: left =>
          if dash.isSign '-' && !last.isSign ']' then
            bracketItems b fuel false (found || (g.byte ≤ b && b ≤ last.byte)) left
          else bracketItems b fuel false (found || g.byte == b) rest
        | _ => bracketItems b fuel false (found || g.byte == b) rest

/-- Whether a bracket takes a byte, from behind the bracket on. -/
def bracket? (b : UInt8) (g : Glob) : Option (Bool × Glob) :=
  match g with
  | first :: rest =>
    if first.isSign '!' then
      (bracketItems b (g.length + 1) true false rest).map fun r => (!r.1, r.2)
    else bracketItems b (g.length + 1) true false g
  | [] => none

/-! ## Layer B: matching -/

/-- Whether a pattern fits bytes as a whole, within a number of steps. -/
def fitsWithin : Nat → Glob → Bytes → Bool
  | 0, _, _ => false
  | _ + 1, [], bs => bs.isEmpty
  | fuel + 1, g :: rest, bs =>
    if g.isSign '*' then
      fitsWithin fuel rest bs ||
        match bs with
        | [] => false
        | _ :: left => fitsWithin fuel (g :: rest) left
    else
      match bs with
      | [] => false
      | b :: left =>
        if g.isSign '?' then fitsWithin fuel rest left
        else
          match (if g.isSign '[' then bracket? b rest else none) with
          | some (true, rest) => fitsWithin fuel rest left
          | some (false, _) => false
          | none => g.byte == b && fitsWithin fuel rest left

/-- **Whether a pattern fits bytes as a whole.** -/
def Glob.fits (g : Glob) (bs : Bytes) : Bool := fitsWithin (g.length + bs.length + 1) g bs

/-- How many bytes at one end of a text fit a pattern: the fewest, or the most. -/
def Glob.reach? (g : Glob) (atEnd longest : Bool) (bs : Bytes) : Option Nat :=
  let counts := List.range (bs.length + 1)
  (if longest then counts.reverse else counts).find? fun n =>
    g.fits (if atEnd then bs.drop (bs.length - n) else bs.take n)

/-- Cuts what fits a pattern off one end of a text. -/
def Glob.cut (g : Glob) (atEnd longest : Bool) (bs : Bytes) : Bytes :=
  match g.reach? atEnd longest bs with
  | some n => if atEnd then bs.take (bs.length - n) else bs.drop n
  | none => bs

/-! ## Layer C: names of files -/

/-- Whether a pattern has signs that stand for others. -/
def Glob.isActive (g : Glob) : Bool :=
  g.any fun x => x.isSign '*' || x.isSign '?' || x.isSign '['

/-- The names in a folder that fit a pattern. A leading dot has to be written. -/
def Glob.among (g : Glob) (names : List String) : List String :=
  names.filter fun n =>
    (!n.startsWith "." || g.head?.any (·.byte == 46)) && g.fits (Bytes.ofText n)

/-- The names in a folder of a disk. -/
def namesIn (d : Disk) (p : Path) : List String :=
  match d.target? p with
  | some ⟨place, some .folder⟩ => (d.folders.getD place Table.empty).keys
  | _ => []

/-- The parts of a pattern between separators. -/
def Glob.parts (g : Glob) : List Glob :=
  g.foldr (fun x ps =>
    match ps with
    | p :: rest => if x.byte == 47 then [] :: p :: rest else (x :: p) :: rest
    | [] => [[x]]) [[]]

/-- Follows a pattern part by part; `walked` are the texts of the paths so far. -/
def followParts (d : Disk) (cwd : Path) : List Glob → List String → List String
  | [], walked => walked
  | g :: rest, walked =>
    let close (s : String) : String := if rest.isEmpty then s else s ++ "/"
    let next := walked.flatMap fun base =>
      if g.isActive then
        (g.among (namesIn d (cwd.join ⟨base⟩))).map fun n => close (base ++ n)
      else [close (base ++ ((Bytes.text? g.toBytes).getD ""))]
    followParts d cwd rest (next.filter fun s => d.has (cwd.join ⟨s⟩))

/-- **The paths that fit a pattern**, in the order of their bytes. -/
def pathsFor (d : Disk) (cwd : Path) (g : Glob) : List String :=
  sortBy (fun s => (Bytes.ofText s).map UInt8.toNat) (followParts d cwd g.parts [""])

end Shell

end CodeAtlas
