import CodeAtlas.Cache.Location
import CodeAtlas.Digest.Fingerprint
import CodeAtlas.Snapshot.Binary

/-!
# The snapshot store

One file per key in one folder. An entry that cannot be used because it is broken, too large, no
plain file, or not of the program in use is removed when it is met; one whose fingerprint differs
stays, since the next store replaces it. Entries are written beside their place and moved there, so
no reader ever sees half of one.

## Architecture

- **Layer A**: stored snapshots and their binary form;
- **Layer B**: the entries of one folder;
- **Layer C**: the folder on a disk.
-/

namespace CodeAtlas

/-! ## Layer A: stored snapshots

A stored snapshot is preceded by what decides whether it may be used: the schema and program
version that wrote it, the key it was stored under, and the fingerprint of what it was made from. -/

/-- **A snapshot as it is stored** (`PersistedEntryOwned`). -/
structure StoredSnapshot where
  schema : UInt32
  version : String
  key : String
  fingerprint : Fingerprint
  /-- When it was stored, in milliseconds. -/
  savedAt : UInt64
  snapshot : Snapshot
  deriving Repr, DecidableEq, Inhabited

namespace StoredSnapshot

/-- The schema in use (`SNAPSHOT_CACHE_SCHEMA_VERSION`). -/
def currentSchema : UInt32 := 1

/-- The program version in use. -/
def currentVersion : String := "0.1.0"

/-- The binary form of a fingerprint. -/
def fingerprintCodec : Codec Fingerprint := Codec.text.via Fingerprint.text Fingerprint.mk

/-- The binary form of a stored snapshot (`bincode_options`). -/
def codec : Codec StoredSnapshot :=
  (Codec.pair Codec.word32 (Codec.pair Codec.text (Codec.pair Codec.text
    (Codec.pair fingerprintCodec (Codec.pair Codec.word64 Snapshot.codec))))).via
    (fun e => (e.schema, e.version, e.key, e.fingerprint, e.savedAt, e.snapshot))
    (fun (n, v, k, f, t, s) => ⟨n, v, k, f, t, s⟩)

/-- A snapshot that is stored now. -/
def new (key : String) (fingerprint : Fingerprint) (savedAt : UInt64) (s : Snapshot) :
    StoredSnapshot :=
  ⟨currentSchema, currentVersion, key, fingerprint, savedAt, s⟩

/-- What stands before the time in a stored snapshot. -/
def headCodec : Codec (UInt32 × String × String × Fingerprint) :=
  Codec.pair Codec.word32 (Codec.pair Codec.text (Codec.pair Codec.text fingerprintCodec))

/-- A stored snapshot with its time set to zero, so that the same snapshot always looks the same. -/
def withoutTime (c : Content) : Content :=
  match headCodec.decode c with
  | none => c
  | some (head, rest) =>
    match Codec.word64.decode rest with
    | none => c
    | some (_, rest) =>
      ⟨headCodec.encode head ++ Codec.word64.encode 0 ++ rest.written, rest.hole⟩

/-- Whether it was stored under a key by the program in use. -/
def isOf (e : StoredSnapshot) (key : String) : Bool :=
  e.schema == currentSchema && e.version == currentVersion && e.key == key

end StoredSnapshot

/-! ## Layer B: one folder -/

namespace Folder

/-- The name beside another under which a file is written first: it tells which program writes, and
how often it did so before. -/
def stagingName (name : String) (n : Nat) : String := name ++ ".tmp.10000." ++ toString n

/-- The first staging name that is not taken (`open_unique_tmp_file`). -/
def freshName (f : Folder) (name : String) : Nat → Nat → String
  | 0, n => stagingName name n
  | fuel + 1, n =>
    let candidate := stagingName name n
    if f.contains candidate then freshName f name fuel (n + 1) else candidate

/-- Whether the staging name is one that an entry can have. -/
def canStage (f : Folder) (name : String) : Bool :=
  (f.freshName name f.size 0).utf8ByteSize ≤ Disk.longestName

/-- Moves the file at one name to another, where it takes the place of all but a folder
(`replace_file`). -/
def rename (f : Folder) (source target : String) : Except IoFault Folder :=
  match f.get? source with
  | none => .error .noEntry
  | some e => if f.get? target == some .folder then .error .isDirectory
    else .ok ((f.erase source).insert target e)

/-- **Replaces a file at one stroke** (`atomic_write`). If that fails, the folder is as before: the
staged file is taken away again, which always succeeds here, as it does for all plain files. -/
def replace (f : Folder) (name : String) (c : Content) : Folder × Except IoFault Unit :=
  if !f.canStage name then (f, .error .nameTooLong)
  else
    let fresh := f.freshName name f.size 0
    -- written beside its place first: at no time is there half of it
    let written := f.insert fresh (.file c)
    match Folder.rename written fresh name with
    | .ok f => (f, .ok ())
    | .error fault => (written.erase fresh, .error fault)

/-- Removes a file or a link (`remove_file_best_effort`); whether there is none afterwards. Only a
folder resists: a disk that does not let go of a plain file is not considered. -/
def discard (f : Folder) (name : String) : Folder × Bool :=
  match f.get? name with
  | some .folder => (f, false)
  | some _ => (f.erase name, true)
  | none => (f, true)

end Folder

namespace SnapshotStore

/-- The largest entry that is read, in bytes (`BINCODE_PAYLOAD_LIMIT_BYTES`). -/
def sizeLimit : Nat := 64 * 1024 * 1024

/-- The name of a key's entry (`entry_path`). -/
def entryName (h : Hash) (key : String) : String := (h.ofText key).text ++ ".snap"

/-- The name of the lock that writers hold. -/
def lockName : String := ".lock"

/-- **Looks up a snapshot**, and removes an entry that can never be used. -/
def load (h : Hash) (f : Folder) (key : String) (fingerprint : Fingerprint) :
    Folder × Option Snapshot :=
  let name := entryName h key
  let discarded := ((f.discard name).1, none)
  match f.get? name with
  | none => (f, none)
  | some (.file c) =>
    if sizeLimit < c.size then discarded
    else
      match StoredSnapshot.codec.decodeAll? c with
      | none => discarded
      | some e =>
        if !e.isOf key then discarded
        -- outdated but sound: it stays for the next store to replace
        else if e.fingerprint != fingerprint then (f, none)
        else (f, some e.snapshot)
  -- a link is taken away; a folder stays where it is
  | some _ => discarded

/-- Takes the lock, which is a file that is made if it is missing (`lock_exclusive`). -/
def takeLock (f : Folder) : Except IoFault Folder :=
  match f.get? lockName with
  | some .folder => .error .isDirectory
  | some _ => .ok f
  | none => .ok (f.insert lockName (.file ⟨[], 0⟩))

/-- **Stores a snapshot** under a key, in place of what was there. -/
def store (h : Hash) (f : Folder) (key : String) (fingerprint : Fingerprint) (savedAt : UInt64)
    (s : Snapshot) : Folder × Except IoFault Unit :=
  match takeLock f with
  | .error fault => (f, .error fault)
  | .ok f =>
    f.replace (entryName h key)
      ⟨StoredSnapshot.codec.encode (.new key fingerprint savedAt s), 0⟩

/-- Removes a key's entry; whether there is none afterwards. -/
def remove (h : Hash) (f : Folder) (key : String) : Folder × Bool := f.discard (entryName h key)

end SnapshotStore

/-! ## Layer C: on a disk -/

namespace Disk

/-- The folder a path leads to, with its place. -/
def folderAt (d : Disk) (p : Path) : Except IoFault (Place × Folder) := do
  let s ← d.locate true p
  match s.entry with
  | none => throw .noEntry
  | some .folder => pure (s.place, d.folders.getD s.place Table.empty)
  | some _ => throw .notDirectory

/-- The disk with other entries in a folder. -/
def withFolder (d : Disk) (place : Place) (f : Folder) : Disk := ⟨d.folders.insert place f⟩

/-- Looks up a snapshot; where there is no folder, there is none. -/
def loadSnapshot (h : Hash) (d : Disk) (root : Path) (key : String) (fingerprint : Fingerprint) :
    Disk × Option Snapshot :=
  match d.folderAt root with
  | .error _ => (d, none)
  | .ok (place, f) =>
    let (f, s) := SnapshotStore.load h f key fingerprint
    (d.withFolder place f, s)

/-- Stores a snapshot, and makes the folder first if it is missing. -/
def storeSnapshot (h : Hash) (d : Disk) (root : Path) (key : String) (fingerprint : Fingerprint)
    (savedAt : UInt64) (s : Snapshot) : Disk × Except CacheFault Unit :=
  match d.makeFolders root with
  | .error fault => (d, .error (.io fault))
  | .ok d =>
    match d.folderAt root with
    | .error fault => (d, .error (.io fault))
    | .ok (place, f) =>
      let (f, r) := SnapshotStore.store h f key fingerprint savedAt s
      (d.withFolder place f, orCacheFault r)

/-- Removes a snapshot; whether there is none afterwards. -/
def removeSnapshot (h : Hash) (d : Disk) (root : Path) (key : String) : Disk × Bool :=
  match d.folderAt root with
  -- without a folder there is no entry either, so nothing is left to remove
  | .error fault => (d, fault.kind == .notFound)
  | .ok (place, f) =>
    let (f, r) := SnapshotStore.remove h f key
    (d.withFolder place f, r)

/-- Why no file can be moved to a path, judging by its end: a separator there asks for a folder,
and `.` stands for one that is in use. -/
def unfitEnd? (d : Disk) (p : Path) : Option IoFault :=
  let ends := p.segments.reverse.dropWhile List.isEmpty
  match ends with
  | ['.'] :: before =>
    match d.folderAt ⟨"/".intercalate (before.reverse.map String.ofList)⟩ with
    | .ok _ => some .busy
    | .error fault => some fault
  | _ => if ends.length < p.segments.length then some .notDirectory else none

/-- Writes a file at one stroke, below folders that are made as needed. -/
def writeWhole (d : Disk) (p : Path) (c : Content) : Disk × Except CacheFault Unit :=
  let refuse (d : Disk) (fault : IoFault) : Disk × Except CacheFault Unit := (d, .error (.io fault))
  match p.parent? with
  | none => refuse d ⟨.other, "path has no parent"⟩
  | some parent =>
    let parent : Path := if parent.text.isEmpty then ⟨"."⟩ else parent
    match d.makeFolders parent with
    | .error fault => refuse d fault
    | .ok d =>
      match p.fileName?, d.folderAt parent with
      | none, _ => refuse d ⟨.other, "destination path has no file name"⟩
      | some _, .error fault => refuse d fault
      | some name, .ok (place, f) =>
        match if f.canStage name then d.unfitEnd? p else none with
        | some fault => refuse d fault
        | none =>
          let (f, r) := f.replace name c
          (d.withFolder place f, orCacheFault r)

end Disk

end CodeAtlas
