import CodeAtlas.Path.Basic
import CodeAtlas.Shell.Permission

/-!
# Files as a process sees them

The files of a disk from a folder, with those that may be run, and the few files and folders of the
system that are not on the disk.
-/

namespace CodeAtlas

namespace Shell

/-- The folders with the programs of the system. -/
def systemFolders : List Path := [⟨"/bin"⟩, ⟨"/usr/bin"⟩]

/-- The folders of the system itself, which hold nothing that is looked at but programs. -/
def systemPlaces : List Path :=
  ["/", "/bin", "/boot", "/dev", "/etc", "/home", "/lib", "/media", "/mnt", "/opt", "/proc",
   "/root", "/run", "/sbin", "/srv", "/sys", "/usr", "/usr/bin", "/usr/lib", "/usr/local",
   "/usr/local/bin", "/usr/local/sbin", "/usr/sbin", "/usr/share", "/var"].map Path.mk

/-- The devices that are known. -/
def devices : List Path := ["/dev/null", "/dev/zero", "/dev/full"].map Path.mk

/-- Files of the system that are always there. -/
def systemFiles : List Path :=
  ["/etc/passwd", "/etc/group", "/etc/hosts", "/etc/hostname", "/etc/resolv.conf"].map Path.mk

/-- **Files as they are seen from a folder.** -/
structure FileView where
  disk : Disk
  facts : FileFacts
  cwd : Path
  /-- The permissions that new files do not get. -/
  mask : Nat := 18
  /-- The names of the programs of the system. -/
  programs : List String := []

namespace FileView

/-- The path that an argument names. -/
def path (v : FileView) (arg : String) : Path := v.cwd.join ⟨arg⟩

/-- Whether a path leads to a folder of the system. -/
def isSystemPlace (v : FileView) (arg : String) : Bool :=
  systemPlaces.any (·.same (v.path arg).normalize)

/-- Whether a path leads to a device. -/
def isDevice (v : FileView) (arg : String) : Bool := devices.any (·.same (v.path arg).normalize)

/-- Whether a path leads to a program of the system. -/
def isProgram (v : FileView) (arg : String) : Bool :=
  let p := (v.path arg).normalize
  (p.fileName?).any v.programs.contains
    && (p.parent?).any fun folder => systemFolders.any (·.same folder)

/-- Whether a path leads to a file of the system. -/
def isSystemFile (v : FileView) (arg : String) : Bool :=
  v.isProgram arg || systemFiles.any (·.same (v.path arg).normalize)

/-- Whether a path leads to something. -/
def has (v : FileView) (arg : String) : Bool :=
  !arg.isEmpty && (v.disk.has (v.path arg) || v.isSystemPlace arg || v.isDevice arg
    || v.isSystemFile arg)

/-- Whether a path leads to a file. -/
def isFile (v : FileView) (arg : String) : Bool :=
  !arg.isEmpty && (v.disk.isFile (v.path arg) || v.isSystemFile arg)

/-- Whether a path leads to a folder. -/
def isFolder (v : FileView) (arg : String) : Bool :=
  !arg.isEmpty && (v.disk.isFolder (v.path arg) || v.isSystemPlace arg)

/-- Whether a path is a link. -/
def isLink (v : FileView) (arg : String) : Bool :=
  match v.disk.locate false (v.path arg) with
  | .ok ⟨_, some (.link _)⟩ => true
  | _ => false

/-- The permissions of the entry at a place. -/
def modeAt (v : FileView) (place : Place) : Nat :=
  ((v.disk.entry? place).map (v.facts.modeOf place)).getD 0

/-- Whether the file at a place may be run. -/
def isMarked (v : FileView) (place : Place) : Bool := v.modeAt place &&& 73 != 0

/-- Whether the file at a path may be run, or the folder be entered. -/
def mayRun (v : FileView) (arg : String) : Bool :=
  v.isFolder arg || v.isProgram arg ||
    (v.disk.target? (v.path arg)).any fun spot => v.isMarked spot.place

/-- The number of bytes of a file. -/
def size? (v : FileView) (arg : String) : Option Nat :=
  match v.disk.read (v.path arg) with
  | .ok content => some content.size
  | .error _ => if v.isSystemFile arg then some 1 else none

/-- Whether two paths lead to the same entry. -/
def sameEntry (v : FileView) (a b : String) : Bool :=
  match v.disk.target? (v.path a), v.disk.target? (v.path b) with
  | some x, some y => (v.facts.groupOf x.place).contains y.place
  | _, _ => false

end FileView

end Shell

end CodeAtlas
