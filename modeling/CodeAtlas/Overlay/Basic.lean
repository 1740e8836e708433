import CodeAtlas.Disk.File
import CodeAtlas.Ordered.Sorting
import CodeAtlas.Ordered.Table
import CodeAtlas.Overlay.Buffer
import CodeAtlas.Path.Basic
import CodeAtlas.Text.Character

/-!
# The overlay of open buffers

Buffers layered over a file source. Paths are normalized before every look-up, so all spellings of
a path share one buffer. Buffers are spread over shards by a function of the normalized path, which
no answer shows.
-/

namespace CodeAtlas

/-- **Open buffers over a file source.** -/
structure Overlay where
  /-- Which shard a path belongs to, up to the number of shards. -/
  shardOf : Path → Nat
  shards : List (Table Path Buffer)

/-- Why an operation on the overlay failed (`VfsError`). -/
inductive OverlayFault where
  | notFound (path : Path)
  | unreadable (path : Path) (fault : IoFault)
  | notOpen (path : Path)
  | outOfBounds (path : Path)
  /-- The version after the largest one was asked for. -/
  | versionExhausted
  deriving Repr, DecidableEq, Inhabited

namespace OverlayFault

/-- The wording of a fault. -/
def message : OverlayFault → String
  | .notFound p => "file not found: " ++ p.text
  | .unreadable p fault => "failed to read " ++ p.text ++ ": " ++ fault.message
  | .notOpen p => "no in-memory buffer for " ++ p.text
  | .outOfBounds p => "edit range is out of bounds for " ++ p.text
  | .versionExhausted => "attempt to add with overflow"

/-- Whether the file does not exist (`is_not_found`). -/
def isNotFound : OverlayFault → Bool
  | .notFound _ => true
  | _ => false

/-- The fault of reading a file from the source below (`from_io`). -/
def ofIo (p : Path) (fault : IoFault) : OverlayFault :=
  if fault.kind == .notFound then .notFound p else .unreadable p fault

end OverlayFault

namespace Overlay

/-- The largest version a buffer may have. -/
def maxVersion : Int := 2147483647

/-- An overlay without buffers. -/
def empty (shardOf : Path → Nat) (count : Nat) : Overlay :=
  ⟨shardOf, List.replicate count Table.empty⟩

/-- A number computed from the text of a path. -/
def scatter (p : Path) : Nat := p.text.toList.foldl (fun h c => (h * 31 + c.toNat) % 0x100000000) 7

/-- An overlay of sixteen shards without buffers. -/
def fresh : Overlay := empty scatter 16

instance : Inhabited Overlay := ⟨fresh⟩

/-- The shard of a normalized path. -/
def index (o : Overlay) (p : Path) : Nat := o.shardOf p % o.shards.length

/-- The buffers of a shard (`shard_for`). -/
def shard (o : Overlay) (i : Nat) : Table Path Buffer := o.shards.getD i Table.empty

/-- Changes the shard of a normalized path. -/
def updateShard (o : Overlay) (p : Path) (f : Table Path Buffer → Table Path Buffer) : Overlay :=
  { o with shards := o.shards.modify (o.index p) f }

/-- The buffer of a path (`buffer_text`). -/
def buffer? (o : Overlay) (p : Path) : Option Buffer :=
  (o.shard (o.index p.normalize)).get? p.normalize

/-- Puts a buffer under a path. -/
def put (o : Overlay) (p : Path) (b : Buffer) : Overlay :=
  o.updateShard p.normalize fun t => t.insert p.normalize b

/-- Replaces the text of a path; the version follows the one before, or is zero. -/
def write (o : Overlay) (p : Path) (text : String) : Except OverlayFault Overlay :=
  match o.buffer? p with
  | some b =>
    -- versions have 32 bits with a sign, and a write never wraps around
    if b.version < maxVersion then .ok (o.put p ⟨text, b.version + 1⟩)
    else .error .versionExhausted
  | none => .ok (o.put p ⟨text, 0⟩)

/-- Opens a buffer with a version that the editor supplies (`open`). -/
def openBuffer (o : Overlay) (p : Path) (text : String) (version : Int) : Overlay :=
  o.put p ⟨text, version⟩

/-- Applies edits to an open buffer (`apply_edits`). -/
def applyEdits (o : Overlay) (p : Path) (version : Int) (edits : List BufferEdit) :
    Except OverlayFault Overlay :=
  match o.buffer? p with
  | none => .error (.notOpen p.normalize)
  | some b =>
    match b.applyEdits version edits with
    | some b => .ok (o.put p b)
    | none => .error (.outOfBounds p.normalize)

/-- Whether a path has a buffer (`is_overridden`). -/
def isOverridden (o : Overlay) (p : Path) : Bool := (o.buffer? p).isSome

/-- Drops the buffer of a path. -/
def clear (o : Overlay) (p : Path) : Overlay :=
  o.updateShard p.normalize fun t => t.erase p.normalize

/-- Reads a path from its buffer, or else from below. -/
def read (o : Overlay) (base : FileSource) (p : Path) : Except OverlayFault String :=
  match o.buffer? p with
  | some b => .ok b.text
  | none =>
    match base.readText p.normalize with
    | .ok text => .ok text
    | .error fault => .error (.ofIo p.normalize fault)

/-- Whether a path has a buffer or an entry below (`exists`). -/
def has (o : Overlay) (base : FileSource) (p : Path) : Bool :=
  o.isOverridden p || base.has p.normalize

/-- The version of the buffer of a path. -/
def version? (o : Overlay) (p : Path) : Option Int := (o.buffer? p).map (·.version)

/-- All paths with a buffer, in order (`overridden_paths`). -/
def overridden (o : Overlay) : List Path := sortBy id (o.shards.flatMap Table.keys)

/-- How an overlay is shown. -/
def shown (o : Overlay) : String :=
  let paths := o.overridden.map fun p => quotedFully p.text
  "Overlay \x7b overridden: [" ++ ", ".intercalate paths ++ "], .. \x7d"

end Overlay

end CodeAtlas
