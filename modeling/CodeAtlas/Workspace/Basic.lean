import CodeAtlas.Build.Queue
import CodeAtlas.Config.Basic
import CodeAtlas.Schedule.Task

/-!
# Workspaces

One project: its open buffers, its build queue, and the index the queue fills. Editors tell the
workspace what changes, in a buffer or on disk, and it has the units concerned rebuilt.

## Architecture

- **Layer A**: workspaces, and what goes wrong when one is opened;
- **Layer B**: opening;
- **Layer C**: changes.
-/

namespace CodeAtlas

/-! ## Layer A: workspaces -/

/-- A quick way to guess a definition from the text of a file alone (`FallbackProvider`). -/
structure Fallback where
  /-- How long a guess takes, in milliseconds. -/
  delay : Nat
  definition : Path → String → Position → Option Span

/-- **A project that is worked on.** -/
structure Workspace (τ : Type) where
  root : Path
  config : Config
  queue : Queue τ
  fallback : Option Fallback

/-- Why a workspace cannot be opened. -/
inductive SetupFault where
  /-- Its configuration cannot be loaded. -/
  | unloadable (root : Path) (fault : ConfigFault)
  /-- The configuration at hand is unfit. -/
  | unfit (fault : ConfigFault)
  | cache (root : Path) (fault : CacheFault)
  deriving Repr, DecidableEq, Inhabited

namespace SetupFault

/-- A configuration fault with what caused it. -/
def configCauses : ConfigFault → List String
  | .unreadable p fault => (ConfigFault.unreadable p fault).message?.toList ++ [fault.message]
  | .notToml => ["failed to parse toml config"]
  | fault => fault.message?.toList

/-- A cache fault with what caused it. -/
def cacheCauses : CacheFault → List String
  | .io fault => [(CacheFault.io fault).message, fault.message]
  | fault => [fault.message]

/-- The fault of the configuration that ended everything, if that is what happened. -/
def fatal? : SetupFault → Option ConfigFault
  | .unloadable _ fault => if fault.isFatal then some fault else none
  | .unfit fault => if fault.isFatal then some fault else none
  | .cache _ _ => none

/-- The wording of a fault: what failed, and behind it every cause in turn. -/
def message : SetupFault → String
  | .unloadable root fault =>
    ": ".intercalate (("failed to load configuration for " ++ root.text) :: configCauses fault)
  | .unfit fault => ": ".intercalate ("invalid configuration" :: configCauses fault)
  | .cache root fault =>
    ": ".intercalate (("failed to open the cache directory for " ++ root.text)
      :: cacheCauses fault)

end SetupFault

namespace Workspace

variable {τ : Type}

/-! ## Layer B: opening -/

/-- The build settings of a configuration (`build_settings`). -/
def settingsOf (c : Config) : BuildSettings :=
  { compiler := ⟨c.build.compiler⟩
    edition := c.build.edition
    target := c.build.target
    extraArgs := c.build.extraArgs }

/-- The waits of a configuration (`queue_config`). -/
def timingOf (c : Config) : BuildTiming :=
  { debounce := c.build.debounceMs
    backoffBase := c.build.backoffBaseMs
    backoffCap := c.build.backoffCapMs }

/-- The configuration, if it is fit. -/
def fitConfig (c : Config) : Except SetupFault Unit :=
  match c.validate with
  | .ok _ => .ok ()
  | .error fault => .error (.unfit fault)

/-- Where snapshots are stored, if the configuration wants them to be (`snapshot_cache`); the folder
is made. -/
def openStore (h : Hash) (env : Environment) (disk : Disk) (root : Path) (c : Config) :
    Except SetupFault (Option Path × Disk) :=
  if !c.cache.enabled then .ok (none, disk)
  else
    match CacheFolder.prepare h env disk root c.cache.dir with
    | .ok (folder, disk) => .ok (some folder.snapshots, disk)
    | .error fault => .error (.cache root fault)

/-- **Opens a workspace with a configuration** (`with_config`). Nothing is built yet. -/
def openWith (h : Hash) (env : Environment) (team : Collaborators τ) (own : τ)
    (fallback : Option Fallback) (disk : Disk) (root : Path) (c : Config) :
    Except SetupFault (Workspace τ) := do
  fitConfig c
  -- an unfit configuration leaves no folder behind
  let (folder, disk) ← openStore h env disk root c
  pure
    { root := root
      config := c
      fallback := fallback
      queue :=
        { setup := ⟨root, timingOf c, ⟨h, folder⟩, team⟩
          state := { place := { disk := disk, own := own }, plans := .new (settingsOf c) } } }

/-- Opens a workspace with the configuration that is found in it (`open`). -/
def openAt (h : Hash) (env : Environment) (team : Collaborators τ) (own : τ)
    (fallback : Option Fallback) (disk : Disk) (root : Path) : Except SetupFault (Workspace τ) :=
  match Config.load env disk root with
  | .ok (c, _) => openWith h env team own fallback disk root c
  | .error fault => .error (.unloadable root fault)

/-! ## Layer C: changes -/

/-- The open buffers. -/
def overlay (w : Workspace τ) : Overlay := w.queue.state.place.overlay

/-- The files on disk. -/
def files (w : Workspace τ) : FileSource := w.queue.state.place.disk.source

/-- The index as the last indexed unit left it. -/
def view (w : Workspace τ) : View := w.queue.state.index.view

/-- The workspace with other buffers. -/
def withOverlay (w : Workspace τ) (o : Overlay) : Workspace τ :=
  let place := { w.queue.state.place with overlay := o }
  { w with queue := { w.queue with state := { w.queue.state with place := place } } }

/-- Has the units that a file concerns rebuilt. -/
def fileChanged (w : Workspace τ) (p : Path) : Workspace τ :=
  { w with queue := w.queue.fileChanged p }

/-- Discovers the project and builds all of it (`initial_load`). -/
def load (w : Workspace τ) : Workspace τ := { w with queue := w.queue.request .full }

/-- An editor opens a buffer (`open_buffer`). -/
def openBuffer (w : Workspace τ) (p : Path) (text : String) (version : Int) : Workspace τ :=
  (w.withOverlay (w.overlay.openBuffer p text version)).fileChanged p

/-- An editor changes a buffer (`edit_buffer`). -/
def editBuffer (w : Workspace τ) (p : Path) (version : Int) (edits : List BufferEdit) :
    Except OverlayFault (Workspace τ) :=
  match w.overlay.applyEdits p version edits with
  | .ok o => .ok ((w.withOverlay o).fileChanged p)
  | .error fault => .error fault

/-- A buffer was written to disk and is no longer needed (`save_buffer`). -/
def saveBuffer (w : Workspace τ) (p : Path) : Workspace τ :=
  (w.withOverlay (w.overlay.clear p)).fileChanged p

/-- A buffer is dropped (`close_buffer`). Where there is none, nothing changes. -/
def closeBuffer (w : Workspace τ) (p : Path) : Workspace τ :=
  if w.overlay.isOverridden p then w.saveBuffer p else w

/-- A file changed on disk, which does not matter while a buffer covers it
(`file_changed_on_disk`). -/
def diskChanged (w : Workspace τ) (p : Path) : Workspace τ :=
  if w.overlay.isOverridden p then w else w.fileChanged p

/-- What a front end that keeps buffers by itself tells the workspace (`ChangeEvent`). -/
inductive Change where
  | onDisk (path : Path)
  | buffer (path : Path) (version : Int)
  | bufferCleared (path : Path)
  deriving Repr, DecidableEq, Inhabited

/-- Takes note of a change; news of a buffer that has another version by now are stale. -/
def notify (w : Workspace τ) : Change → Workspace τ
  | .onDisk p => w.diskChanged p
  | .buffer p version => if w.overlay.version? p == some version then w.fileChanged p else w
  | .bufferCleared p => w.fileChanged p

/-- Takes over a new configuration and builds all of the project (`configuration_changed`). The
waits stay as they were when the workspace was opened, and so does the store. -/
def configure (w : Workspace τ) (c : Config) : Except SetupFault (Workspace τ) := do
  fitConfig c
  pure { w with queue := w.queue.configurationChanged (settingsOf c), config := c }

end Workspace

end CodeAtlas
