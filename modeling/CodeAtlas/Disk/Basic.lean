import CodeAtlas.Disk.File
import CodeAtlas.Ordered.Table

/-!
# Disks

A disk is a set of folders, each with its entries. Paths are walked segment by segment from the
root; links are followed, and every segment that is walked through has to be a folder. Relative
paths name nothing: nothing is known of a current folder.

## Architecture

- **Layer A**: entries, folders, disks;
- **Layer B**: walking along a path;
- **Layer C**: reading;
- **Layer D**: changing.
-/

namespace CodeAtlas

/-! ## Layer A: entries and folders -/

/-- What a name in a folder stands for. -/
inductive Entry where
  | file (content : Content)
  | link (target : Path)
  | folder
  deriving Repr, DecidableEq, Inhabited

/-- The entries of one folder. -/
abbrev Folder := Table String Entry

/-- The names that lead from the root to a place. -/
abbrev Place := List String

/-- **A disk**: its folders by place. -/
structure Disk where
  folders : Table Place Folder
  deriving Repr, DecidableEq

namespace Disk

/-- A disk with nothing but its root. -/
def empty : Disk := ⟨Table.ofList [([], Table.empty)]⟩

instance : Inhabited Disk := ⟨empty⟩

/-- The entry at a place. -/
def entry? (d : Disk) (place : Place) : Option Entry :=
  match place.getLast? with
  | none => some .folder
  | some name => (d.folders.get? place.dropLast).bind fun f => f.get? name

/-- The path of a place. -/
def pathOf (place : Place) : Path := ⟨"/" ++ "/".intercalate place⟩

/-! ## Layer B: walking -/

/-- The segments of a path that are walked: `.` and a trailing separator ask for a folder. -/
def steps (p : Path) : List String :=
  let cut := (p.segments.map String.ofList).filter fun s => !s.isEmpty
  if p.text.toList.getLast? == some '/' then cut ++ ["."] else cut

/-- The longest name an entry can have, in bytes. -/
def longestName : Nat := 255

/-- The longest path that is walked, in bytes. -/
def longestPath : Nat := 4095

/-- How many links are followed on the way to one entry. -/
def mostLinks : Nat := 40

/-- Where a walk ends: the place, and its entry if there is one. -/
structure Spot where
  place : Place
  entry : Option Entry
  deriving Repr, DecidableEq, Inhabited

/-- Walks on from a place that exists. The last segment may be missing, and is followed if it is a
link only when `follow` says so. The fuel bounds the number of segments, those of links included. -/
def walk (d : Disk) (follow : Bool) : Nat → Nat → Place → List String → Except IoFault Spot
  | 0, _, _, _ => .error .linkLoop
  | _ + 1, _, place, [] => .ok ⟨place, d.entry? place⟩
  | fuel + 1, links, place, s :: rest =>
    -- also `.` and `..` ask for a folder to be in
    if d.entry? place != some .folder then .error .notDirectory
    else if s == "." then walk d follow fuel links place rest
    else if s == ".." then walk d follow fuel links place.dropLast rest
    else if longestName < s.utf8ByteSize then .error .nameTooLong
    else
      let there := place ++ [s]
      match d.entry? there with
      | none => if rest.isEmpty then .ok ⟨there, none⟩ else .error .noEntry
      | some (.link target) =>
        if rest.isEmpty && !follow then .ok ⟨there, some (.link target)⟩
        else if links == 0 then .error .linkLoop
        else
          -- a relative target is meant from where the link lies
          let start := if target.isAbsolute then [] else place
          walk d follow fuel (links - 1) start (steps target ++ rest)
      | some _ => walk d follow fuel links there rest

/-- The most segments one walk can take. -/
def walkFuel (d : Disk) (p : Path) : Nat :=
  let inLinks := d.folders.values.flatMap fun f => f.values.map fun e =>
    match e with
    | .link target => (steps target).length
    | _ => 0
  (steps p).length + mostLinks * inLinks.foldl (· + ·) 0 + 1

/-- **What a path leads to.** -/
def locate (d : Disk) (follow : Bool) (p : Path) : Except IoFault Spot :=
  if p.text.toList.contains '\x00' then .error .innerNull
  else if longestPath < p.text.utf8ByteSize then .error .nameTooLong
  else if !p.isAbsolute then .error .noEntry
  else d.walk follow (d.walkFuel p) mostLinks [] (steps p)

/-! ## Layer C: reading -/

/-- The contents of a file. -/
def read (d : Disk) (p : Path) : Except IoFault Content := do
  match (← d.locate true p).entry with
  | some (.file c) => pure c
  | some _ => throw .isDirectory
  | none => throw .noEntry

/-- The text of a file. -/
def readText (d : Disk) (p : Path) : Except IoFault String := do
  match (← d.read p).toBytes.text? with
  | some s => pure s
  | none => throw .notText

/-- What a path leads to in the end, if there is something. -/
def target? (d : Disk) (p : Path) : Option Spot :=
  match d.locate true p with
  | .ok s => if s.entry.isSome then some s else none
  | .error _ => none

/-- Whether a path leads to something. -/
def has (d : Disk) (p : Path) : Bool := (d.target? p).isSome

/-- Whether a path leads to a file. -/
def isFile (d : Disk) (p : Path) : Bool :=
  match (d.target? p).bind (·.entry) with
  | some (.file _) => true
  | _ => false

/-- Whether a path leads to a folder. -/
def isFolder (d : Disk) (p : Path) : Bool := ((d.target? p).bind (·.entry)) == some .folder

/-- The path without links, `.` and `..` of something that exists. -/
def canonicalize (d : Disk) (p : Path) : Except IoFault Path := do
  let s ← d.locate true p
  match s.entry with
  | some _ => pure (pathOf s.place)
  | none => throw .noEntry

/-- The disk as something to read below an overlay (`LocalFs`). -/
def source (d : Disk) : FileSource := ⟨d.readText, d.has⟩

/-! ## Layer D: changing -/

/-- Puts an entry at a place whose folder exists. -/
def put (d : Disk) (place : Place) (e : Entry) : Disk :=
  match place.getLast?, d.folders.get? place.dropLast with
  | some name, some f =>
    let folders := d.folders.insert place.dropLast (f.insert name e)
    -- a folder begins without entries
    ⟨if e == .folder then folders.insert place Table.empty else folders⟩
  | _, _ => d

/-- Removes the entry at a place, with everything below it. -/
def drop (d : Disk) (place : Place) : Disk :=
  match place.getLast?, d.folders.get? place.dropLast with
  | some name, some f =>
    -- with a folder goes everything below it
    let kept := d.folders.filter fun q _ => !place.isPrefixOf q
    ⟨kept.insert place.dropLast (f.erase name)⟩
  | _, _ => d

/-- Makes one folder. -/
def makeFolder (d : Disk) (p : Path) : Except IoFault Disk := do
  let s ← d.locate false p
  match s.entry with
  | some _ => throw .entryExists
  | none => pure (d.put s.place .folder)

/-- The path and the folders it lies in, innermost first. -/
def lineage : Nat → Path → List Path
  | 0, p => [p]
  | n + 1, p =>
    match p.parent? with
    | some q => p :: lineage n q
    | none => [p]

/-- Makes a folder if what is there is not already one. -/
def ensureFolder (d : Disk) (p : Path) : Except IoFault Disk :=
  match d.makeFolder p with
  | .ok d => .ok d
  -- a folder that is there already, or behind a link, will do
  | .error fault => if d.isFolder p then .ok d else .error fault

/-- Makes a folder after the folders it lies in; `missing` are those that have to be made before. -/
def ensureFrom (d : Disk) : List Path → Except IoFault Disk
  | [] => .ok d
  | p :: outer =>
    match d.makeFolder p with
    | .ok d => .ok d
    | .error fault =>
      if fault.kind == .notFound then do
        let d ← ensureFrom d outer
        d.ensureFolder p
      else if d.isFolder p then .ok d
      else .error fault

/-- **Makes a folder and all that are missing above it.** -/
def makeFolders (d : Disk) (p : Path) : Except IoFault Disk :=
  if p.text.isEmpty then .ok d
  else d.ensureFrom ((lineage p.parts.length p).filter fun q => !q.text.isEmpty)

/-- Writes a file, through a link if there is one. -/
def write (d : Disk) (p : Path) (c : Content) : Except IoFault Disk := do
  let s ← d.locate true p
  match s.entry with
  | some .folder => throw .isDirectory
  | _ => pure (d.put s.place (.file c))

/-- Puts bytes at the end of a file, if it can be written. -/
def append (d : Disk) (p : Path) (bs : Bytes) : Disk :=
  let before := match d.read p with
    | .ok c => c.toBytes
    | .error _ => []
  match d.write p ⟨before ++ bs, 0⟩ with
  | .ok d => d
  | .error _ => d

/-- Removes a file or a link. -/
def remove (d : Disk) (p : Path) : Except IoFault Disk := do
  let s ← d.locate false p
  match s.entry with
  | some .folder => throw .isDirectory
  | some _ => pure (d.drop s.place)
  | none => throw .noEntry

/-- Writes a file below folders that are made as needed. -/
def plant (d : Disk) (p : Path) (c : Content) : Except IoFault Disk := do
  let d ← d.makeFolders ((p.parent?).getD ⟨""⟩)
  d.write p c

end Disk

end CodeAtlas
