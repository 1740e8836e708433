import CodeAtlas.Project.Graph

/-!
# What has to be rebuilt

Changed files, the units that still have to be rebuilt because of them, and units that have to be
rebuilt whatever the files say. Every mark gets a version of its own. A build pass takes a ticket
with the versions it saw; completing a unit against a ticket clears only marks that have not been
renewed since, so an edit that lands during a pass is never taken for done.

## Architecture

- **Layer A**: marks and tickets;
- **Layer B**: marking;
- **Layer C**: completing against a ticket;
- **Layer D**: following a newly discovered project.
-/

namespace CodeAtlas

/-! ## Layer A: marks and tickets -/

/-- A changed file. -/
structure DirtyFile where
  /-- The version of its last change. -/
  version : Nat
  /-- The units that have not been rebuilt since. -/
  pending : KeySet UnitId
  deriving Repr, DecidableEq, Inhabited

/-- **Changed files and units that have to be rebuilt.** -/
structure DirtySet where
  files : Table Path DirtyFile
  /-- Units that have to be rebuilt regardless of files, each with the version of its mark. -/
  units : Table UnitId Nat
  /-- The last version that was given out. Versions have no bound: one mark after the other does not
  use up the 64 bits of a counter. -/
  lastVersion : Nat
  deriving Repr, DecidableEq

/-- The versions that were current when a pass began. -/
structure DirtyTicket where
  files : Table Path Nat
  units : Table UnitId Nat
  deriving Repr, DecidableEq

namespace DirtyTicket

/-- The ticket that saw nothing. -/
def empty : DirtyTicket := ⟨Table.empty, Table.empty⟩

instance : Inhabited DirtyTicket := ⟨empty⟩

/-- Whether nothing was dirty. -/
def isEmpty (t : DirtyTicket) : Bool := t.files.isEmpty && t.units.isEmpty

end DirtyTicket

namespace DirtySet

/-- Nothing has changed. -/
def empty : DirtySet := ⟨Table.empty, Table.empty, 0⟩

instance : Inhabited DirtySet := ⟨empty⟩

/-- The units that have to be rebuilt (`pending_units`). -/
def pendingUnits (d : DirtySet) : KeySet UnitId :=
  (KeySet.ofList (d.files.values.flatMap fun f => f.pending.toList)).insertAll d.units.keys

/-- The changed files, in order (`dirty_files`). -/
def dirtyFiles (d : DirtySet) : List Path := d.files.keys

/-- Whether a unit has to be rebuilt (`is_dirty`). -/
def isDirty (d : DirtySet) (u : UnitId) : Bool :=
  d.units.contains u || d.files.values.any fun f => f.pending.contains u

/-- Whether nothing has to be rebuilt (`is_clean`). -/
def isClean (d : DirtySet) : Bool := d.files.isEmpty && d.units.isEmpty

/-- The versions that are current. -/
def ticket (d : DirtySet) : DirtyTicket := ⟨d.files.mapValues fun _ f => f.version, d.units⟩

/-! ## Layer B: marking -/

/-- Records a change of a file that concerns its owners besides those it already waits for
(`mark_file`). -/
def markFile (d : DirtySet) (p : Path) (owners : List UnitId) : DirtySet :=
  let p := p.normalize
  let version := d.lastVersion + 1
  -- whoever still waits for an older change waits for this one
  let before := ((d.files.get? p).map (·.pending)).getD KeySet.empty
  { d with
    files := d.files.insert p ⟨version, before.insertAll owners⟩
    lastVersion := version }

/-- Records that a unit has to be rebuilt regardless of files (`mark_unit`). -/
def markUnit (d : DirtySet) (u : UnitId) : DirtySet :=
  { d with units := d.units.insert u (d.lastVersion + 1), lastVersion := d.lastVersion + 1 }

/-! ## Layer C: completing -/

/-- A file without the mark of a unit, if it has not changed since the ticket. -/
def completeFile (u : UnitId) (t : DirtyTicket) (p : Path) (f : DirtyFile) : Option DirtyFile :=
  -- a file that has changed since was not read as it is now
  if t.files.get? p == some f.version then
    let pending := f.pending.erase u
    if pending.isEmpty then none else some { f with pending := pending }
  else some f

/-- **Clears the marks of a unit that a ticket saw.** A file is forgotten with its last unit. -/
def complete (d : DirtySet) (u : UnitId) (t : DirtyTicket) : DirtySet :=
  let files := d.files.entries.filterMap fun e => (completeFile u t e.1 e.2).map (e.1, ·)
  -- a mark that was renewed since the ticket stays
  let seen := (d.units.get? u).isSome && d.units.get? u == t.units.get? u
  { d with files := ⟨files⟩, units := if seen then d.units.erase u else d.units }

/-- Clears the marks of a unit that a ticket saw, and answers whether the unit is clean now
(`complete`). -/
def finish (d : DirtySet) (u : UnitId) (t : DirtyTicket) : DirtySet × Bool :=
  let d := d.complete u t
  (d, !(d.units.contains u || d.files.values.any fun f => f.pending.contains u))

/-! ## Layer D: a new project -/

/-- The owners of a changed file in a new project. -/
def reclaimFile (g : UnitGraph) (p : Path) (f : DirtyFile) : Option DirtyFile :=
  match g.owners p with
  | [] => none
  | us => some { f with pending := KeySet.ofList us }

/-- Derives the owners of all files anew and forgets units that are no more. -/
def reclaim (d : DirtySet) (g : UnitGraph) : DirtySet :=
  -- versions stay as they are, so a ticket from before still says what it saw
  let files := d.files.entries.filterMap fun e => (reclaimFile g e.1 e.2).map (e.1, ·)
  { d with files := ⟨files⟩, units := d.units.filter fun u _ => (g.unit? u).isSome }

/-- Forgets all marks, but not which versions were given out. -/
def clear (d : DirtySet) : DirtySet := { d with files := Table.empty, units := Table.empty }

end DirtySet

end CodeAtlas
