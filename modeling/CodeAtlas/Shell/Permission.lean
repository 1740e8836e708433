import CodeAtlas.Disk.Basic
import CodeAtlas.Shell.Format

/-!
# Permissions and names of files

What is known of the entries of a disk besides their content: who may do what with them, and which
names lead to the same file.

## Architecture

- **Layer A**: permissions as numbers and letters;
- **Layer B**: changes of permissions;
- **Layer C**: what is known of entries.
-/

namespace CodeAtlas

namespace Shell

/-! ## Layer A: permissions -/

/-- The letters of three bits: reading, writing, running. -/
def threeLetters (bits : Nat) (special : Option Char) : String :=
  let run := bits &&& 1 != 0
  let last := match special with
    | some c => if run then c else c.toUpper
    | none => if run then 'x' else '-'
  String.ofList [if bits &&& 4 != 0 then 'r' else '-', if bits &&& 2 != 0 then 'w' else '-', last]

/-- The letters of permissions. -/
def modeLetters (mode : Nat) : String :=
  let special (bit : Nat) (c : Char) : Option Char := if mode &&& bit != 0 then some c else none
  threeLetters (mode / 64 % 8) (special 2048 's') ++ threeLetters (mode / 8 % 8) (special 1024 's')
    ++ threeLetters (mode % 8) (special 512 't')

/-- The letter of the kind of an entry, in listings. -/
def kindLetter : Entry → Char
  | .file _ => '-'
  | .link _ => 'l'
  | .folder => 'd'

/-- The permissions of a new entry, before some are taken away. -/
def fullMode : Entry → Nat
  | .file _ => 438
  | .link _ => 511
  | .folder => 511

/-- Numbers without the bits of a mask. -/
def without (bits mask : Nat) : Nat := bits - (bits &&& mask)

/-- The permissions of an entry that was made with the usual mask. -/
def usualMode : Entry → Nat
  | .file _ => 420
  | .link _ => 511
  | .folder => 493

/-! ## Layer B: changes -/

/-- A change of permissions: for whom, how, and which. -/
structure ModeChange where
  /-- The bits that may change; none stands for all but those of the mask. -/
  who : Option Nat
  sign : Char
  letters : List Char
  deriving Repr, DecidableEq, Inhabited

/-- A mode: a number, or changes one after another. -/
inductive Mode where
  | bits (n : Nat)
  | changes (cs : List ModeChange)
  deriving Repr, DecidableEq, Inhabited

/-- The bits of a letter for whom a change is. -/
def whoBits : Char → Nat
  | 'u' => 2496
  | 'g' => 1080
  | 'o' => 519
  | _ => 4095

/-- The changes of one clause: one or more signs with letters. -/
def clauseChanges? (who : Option Nat) : Nat → List Char → Option (List ModeChange)
  | 0, _ => none
  | _ + 1, [] => some []
  | fuel + 1, sign :: rest =>
    if !(['+', '-', '='].contains sign) then none
    else
      let copied := rest.takeWhile fun c => ['u', 'g', 'o'].contains c
      let plain := rest.takeWhile fun c => ['r', 'w', 'x', 'X', 's', 't'].contains c
      let letters := if copied.isEmpty then plain else copied.take 1
      (clauseChanges? who fuel (rest.drop letters.length)).map (⟨who, sign, letters⟩ :: ·)

namespace Mode

/-- Reads a mode. -/
def read? (s : String) : Option Mode :=
  let cs := s.toList
  if cs.isEmpty then none
  else if cs.all isOctal then
    if valueIn 8 cs ≤ 4095 then some (.bits (valueIn 8 cs)) else none
  else do
    let changes ← (cs.splitOn ',').mapM fun clause => do
      let who := clause.takeWhile fun c => ['u', 'g', 'o', 'a'].contains c
      let rest := clause.drop who.length
      if rest.isEmpty then none
      else
        clauseChanges? (if who.isEmpty then none
          else some (who.foldl (fun n c => n ||| whoBits c) 0)) (rest.length + 1) rest
    pure (.changes changes.flatten)

/-- Carries out a change. -/
def change (mask : Nat) (isFolder : Bool) (mode : Nat) (c : ModeChange) : Nat :=
  let copied (shift : Nat) : Nat := mode / Nat.pow 8 shift % 8 * 73
  let value := c.letters.foldl (fun n l => n ||| match l with
    | 'r' => 292
    | 'w' => 146
    | 'x' => 73
    | 'X' => if isFolder || mode &&& 73 != 0 then 73 else 0
    | 's' => 3072
    | 't' => 512
    | 'u' => copied 2
    | 'g' => copied 1
    | _ => copied 0) 0
  let bits := match c.who with
    | some who => value &&& who
    | none => without value mask
  match c.sign with
  | '+' => mode ||| bits
  | '-' => without mode bits
  | _ => without mode (c.who.getD 4095) ||| bits

/-- The permissions after a mode was applied. -/
def apply (m : Mode) (mask : Nat) (isFolder : Bool) (mode : Nat) : Nat :=
  match m with
  | bits n => n
  | changes cs => cs.foldl (change mask isFolder) mode

end Mode

/-! ## Layer C: entries -/

/-- **What is known of the entries of a disk.** -/
structure FileFacts where
  /-- The permissions of entries that were made in an unusual way or changed. -/
  modes : Table Place Nat := Table.empty
  /-- The places that lead to the same file, group by group. -/
  twins : List (List Place) := []
  deriving Repr, Inhabited

namespace FileFacts

/-- The permissions of an entry. -/
def modeOf (f : FileFacts) (place : Place) (e : Entry) : Nat :=
  match e with
  | .link _ => 511
  | _ => (f.modes.get? place).getD (usualMode e)

/-- Sets the permissions of an entry. -/
def withMode (f : FileFacts) (place : Place) (mode : Nat) : FileFacts :=
  { f with modes := f.modes.insert place mode }

/-- The places that lead to the same file as a place. -/
def groupOf (f : FileFacts) (place : Place) : List Place :=
  (f.twins.find? (·.contains place)).getD [place]

/-- Two places lead to the same file. -/
def joined (f : FileFacts) (a b : Place) : FileFacts :=
  let group := b :: f.groupOf a
  { modes := match f.modes.get? a with
      | some m => f.modes.insert b m
      | none => f.modes.erase b
    twins := group :: f.twins.filter fun g => !g.contains a }

/-- Forgets a place and all below it. -/
def without (f : FileFacts) (place : Place) : FileFacts :=
  { modes := f.modes.filter fun p _ => !place.isPrefixOf p
    twins := (f.twins.map fun g => g.filter fun p => !place.isPrefixOf p).filter (1 < ·.length) }

/-- The places of a disk. -/
def placesOf (d : Disk) : List Place :=
  d.folders.entries.flatMap fun x => x.2.keys.map fun n => x.1 ++ [n]

/-- A change of the file at one of several places is one at all of them. -/
def shared (f : FileFacts) (old new : Disk) : Disk :=
  f.twins.foldl (fun d group =>
    match group.find? fun p => (new.entry? p).isSome && new.entry? p != old.entry? p with
    | some p =>
      match new.entry? p with
      | some (.file content) => group.foldl (fun d q =>
          if (d.entry? q).isSome then d.put q (.file content) else d) d
      | _ => d
    | none => d) new

/-- **What is known after the disk has changed**: entries that are gone are forgotten, and new ones
do not have the permissions of the mask. -/
def after (f : FileFacts) (mask : Nat) (old new : Disk) : FileFacts :=
  let isThere (p : Place) : Bool := (new.entry? p).isSome
  let kept : FileFacts :=
    { modes := f.modes.filter fun p _ => isThere p
      twins := (f.twins.map fun g => g.filter isThere).filter (1 < ·.length) }
  if mask == 18 then kept
  else
    let made := (placesOf new).filter fun p => (old.entry? p).isNone && !kept.modes.contains p
    made.foldl (fun f p =>
      match new.entry? p with
      | some (.link _) => f
      | some e => f.withMode p (Shell.without (fullMode e) mask)
      | none => f) kept

/-- Files that may be run. -/
def ofExecutable (d : Disk) (files : List Path) : FileFacts :=
  { modes := Table.ofList (files.filterMap fun p => (d.target? p).map fun s => (s.place, 493)) }

end FileFacts

end Shell

end CodeAtlas
