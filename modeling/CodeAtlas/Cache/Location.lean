import CodeAtlas.Command.Basic
import CodeAtlas.Digest.Fingerprint
import CodeAtlas.Disk.Basic
import CodeAtlas.Text.Character

/-!
# Where caches live

Every project has a cache folder of its own, named after a fingerprint of the project's path or of
an identifier from the environment, so that checkouts can share one.
-/

namespace CodeAtlas

/-- What goes wrong with a cache (`CacheError`). -/
inductive CacheFault where
  | noHome
  | io (fault : IoFault)
  deriving Repr, DecidableEq, Inhabited

namespace CacheFault

/-- The wording of a fault. -/
def message : CacheFault → String
  | .noHome => "failed to determine home directory for default cache path"
  | .io fault => "io error: " ++ fault.message

end CacheFault

/-- Takes a fault of the disk for one of the cache. -/
def orCacheFault {α : Type} : Except IoFault α → Except CacheFault α
  | .ok a => .ok a
  | .error fault => .error (.io fault)

/-- The name of a project: an identifier from the environment that is not blank, or the project's
canonical path. -/
def projectName (env : Environment) (disk : Disk) (root : Path) : Except CacheFault String :=
  let canonical := orCacheFault ((disk.canonicalize root).map Path.text)
  match env.get? "KILN_PROJECT_ID" with
  -- blanks around an identifier are part of it
  | some id => if (trim id).isEmpty then canonical else .ok id
  | none => canonical

/-- The fingerprint of a project (`for_project_root`). -/
def projectFingerprint (h : Hash) (env : Environment) (disk : Disk) (root : Path) :
    Except CacheFault Fingerprint :=
  (projectName env disk root).map h.ofText

/-- **A project's cache folder** (`CacheDir`). -/
structure CacheFolder where
  projectRoot : Path
  project : Fingerprint
  root : Path
  deriving Repr, DecidableEq, Inhabited

namespace CacheFolder

/-- Where caches live unless the user says otherwise (`default_cache_root`). -/
def defaultBase (env : Environment) : Except CacheFault Path :=
  match env.get? "HOME", env.get? "USERPROFILE" with
  | some home, _ => .ok (((⟨home⟩ : Path).child ".kiln").child "cache")
  | none, some home => .ok (((⟨home⟩ : Path).child ".kiln").child "cache")
  | none, none => .error .noHome

/-- Where the environment puts caches, if it does. -/
def baseOf (env : Environment) : Option Path := (env.get? "KILN_CACHE_DIR").map Path.mk

/-- The folder of the snapshots (`snapshots_dir`). -/
def snapshots (c : CacheFolder) : Path := c.root.child "snapshots"

/-- The folder of a project below a base. -/
def locate (h : Hash) (env : Environment) (disk : Disk) (project : Path) (base : Option Path) :
    Except CacheFault CacheFolder := do
  -- the project has to be there, even if an identifier stands for it
  let root ← orCacheFault (disk.canonicalize project)
  let name ← projectFingerprint h env disk root
  let base ← match base with
    | some base => pure base
    | none => defaultBase env
  pure ⟨root, name, base.child name.text⟩

/-- **Finds a project's cache folder and makes it.** -/
def prepare (h : Hash) (env : Environment) (disk : Disk) (project : Path) (base : Option Path) :
    Except CacheFault (CacheFolder × Disk) := do
  let c ← locate h env disk project base
  let disk ← orCacheFault (disk.makeFolders c.snapshots)
  pure (c, disk)

end CacheFolder

end CodeAtlas
