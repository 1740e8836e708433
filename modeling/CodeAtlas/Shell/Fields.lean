import CodeAtlas.Bytes.Basic
import CodeAtlas.Shell.Glob

/-!
# Fields of a command

When the pieces of a word have been expanded, what was quoted stays together and the results of
expansions are divided at certain bytes. The parts are the fields from which a command is made.
Blanks that divide count once however many they are; any other byte that divides counts every time.
-/

namespace CodeAtlas

namespace Shell

/-- What a piece of a word has been expanded to. -/
inductive Expanded where
  /-- A text that stands in the script outside of quotes. -/
  | literal (s : String)
  /-- A text that stays together. It makes a field even if it is empty. -/
  | quoted (s : String)
  /-- A text that is divided. -/
  | result (s : String)
  /-- Texts of which each is a field; if they are not quoted, they are also divided. -/
  | each (texts : List String) (quoted : Bool)
  deriving Repr, DecidableEq, Inhabited

/-- The bytes at which texts are divided. -/
structure Dividers where
  bytes : Bytes
  deriving Repr, DecidableEq, Inhabited

namespace Dividers

/-- Texts are divided at blanks unless something else is set. -/
def standard : Dividers := ⟨[32, 9, 10]⟩

/-- Whether a byte divides and is blank. -/
def isBlank (d : Dividers) (b : UInt8) : Bool := d.bytes.contains b && standard.bytes.contains b

/-- Whether a byte divides and is not blank. -/
def isMark (d : Dividers) (b : UInt8) : Bool := d.bytes.contains b && !standard.bytes.contains b

/-- What joins texts into one. -/
def joint (d : Dividers) : String :=
  match d.bytes.head? with
  | some b => Bytes.lossyText [b]
  | none => ""

end Dividers

/-- What stands before the next field. -/
inductive Gap where
  /-- Nothing that divides. -/
  | none
  /-- Blanks behind a field. -/
  | blank
  /-- A mark, possibly between blanks. -/
  | mark
  deriving Repr, DecidableEq, Inhabited

/-- Fields of which the last may still grow. -/
structure Fields where
  /-- The fields that are complete, the last one first. -/
  complete : List Glob := []
  /-- The field that is being made, its last byte first. -/
  growing : Option Glob := none
  gap : Gap := .none
  deriving Repr, DecidableEq, Inhabited

namespace Fields

/-- Adds text to the last field. -/
def add (f : Fields) (s : String) (active : Bool) : Fields :=
  { f with growing := some ((Glob.ofText s active).reverse ++ f.growing.getD []), gap := .none }

/-- Ends the last field. -/
def close (f : Fields) (gap : Gap) : Fields :=
  match f.growing with
  | some g => ⟨g.reverse :: f.complete, none, gap⟩
  | none => f

/-- Adds a byte that may divide fields. -/
def addByte (d : Dividers) (f : Fields) (b : UInt8) : Fields :=
  if d.isBlank b then f.close .blank
  else if d.isMark b then
    match f.growing, f.gap with
    | some _, _ => f.close .mark
    | none, .blank => { f with gap := .mark }
    | none, _ => ⟨[] :: f.complete, none, .mark⟩
  else { f with growing := some (⟨b, true⟩ :: f.growing.getD []), gap := .none }

/-- Adds a text that is divided. -/
def addDivided (d : Dividers) (f : Fields) (s : String) : Fields :=
  (Bytes.ofText s).foldl (addByte d) f

/-- Adds what a piece was expanded to. -/
def extend (d : Dividers) (f : Fields) : Expanded → Fields
  | .literal s => f.add s true
  | .quoted s => f.add s false
  | .result s => f.addDivided d s
  | .each [] _ => f
  | .each (s :: rest) true =>
    rest.foldl (fun g t => (g.close .none).add t false) (f.add s false)
  | .each (s :: rest) false =>
    rest.foldl (fun g t => (g.close .none).addDivided d t) (f.addDivided d s)

/-- All fields in order. -/
def toList (f : Fields) : List Glob := (f.close .none).complete.reverse

/-- **The fields of one word.** -/
def ofWord (d : Dividers) (pieces : List Expanded) : List Glob :=
  (pieces.foldl (extend d) {}).toList

end Fields

/-- The text of a word that is not divided. -/
def undivided (d : Dividers) (pieces : List Expanded) : String :=
  "".intercalate (pieces.map fun p =>
    match p with
    | .literal s => s
    | .quoted s => s
    | .result s => s
    | .each texts _ => d.joint.intercalate texts)

/-- The pattern of a word that is not divided. -/
def patternOf (d : Dividers) (pieces : List Expanded) : Glob :=
  pieces.flatMap fun p =>
    match p with
    | .literal s => Glob.ofText s true
    | .quoted s => Glob.ofText s false
    | .result s => Glob.ofText s true
    | .each texts quoted => Glob.ofText (d.joint.intercalate texts) (!quoted)

/-- What stands in for an expansion is divided like the result of one. -/
def Expanded.asResult : Expanded → Expanded
  | .literal s => .result s
  | e => e

end Shell

end CodeAtlas
