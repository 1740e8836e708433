import CodeAtlas.Command.Basic
import CodeAtlas.Shell.Execution

/-!
# Hosts

A system of processes that can be computed: programs are the tools of a usual system and scripts,
which are carried out on a disk.

## Architecture

- **Layer A**: hosts, and what a command finds there;
- **Layer B**: carrying out a command.
-/

namespace CodeAtlas

/-! ## Layer A: hosts -/

/-- The variables that commands inherit unless they are set. -/
def usualVariables : Environment :=
  Table.ofList [("HOME", "/root"), ("PATH", Shell.standardFolders)]

/-- Where commands are run. -/
structure Host where
  disk : Disk
  /-- The files that may be run. -/
  executable : List Path := []
  deriving Repr, Inhabited

/-- What is run for a command: the folder, and the tool with its name and arguments. -/
def CommandSpec.prepare (c : CommandSpec) (program : String) (w : Shell.World) :
    Except IoFault (Path × String × String × List String) := do
  let cwd ← w.disk.canonicalize c.cwd
  if !w.disk.isFolder cwd then throw .notDirectory
  let found ← w.program c.env cwd program
  let (tool, shown, args) ← w.resolve Shell.mostInterpreters found program c.args
  pure (cwd, tool, shown, args)

/-! ## Layer B: carrying out a command -/

namespace Host

/-- The number of the process that a command becomes. -/
def firstProcess : Nat := 100

/-- What the background jobs of a command have written when the command is asked to end: they end
with it. -/
def cutAt (time : Nat) (w : Shell.World) : Shell.World :=
  { w with pipes := w.pipes.mapValues fun _ cs => cs.filter fun c => c.job == 0 || c.time < time }

/-- Runs the program of a command. -/
def start (host : Host) (c : CommandSpec) (program : String) (alarms : List (Nat × Nat)) :
    Except IoFault EndedProcess := do
  let world : Shell.World := { disk := host.disk, facts := .ofExecutable host.disk host.executable }
  let (cwd, tool, shown, args) ← c.prepare program world
  let self : Shell.Process :=
    { pid := firstProcess, shell := firstProcess, cwd := cwd, alarms := alarms }
  let env := c.env.entries.foldl (fun e v => e.insert v.1 v.2) usualVariables
  let (flow, m) := world.perform self env tool shown args
  let world := match alarms with
    | (term, _) :: _ => if term ≤ m.self.now then cutAt term m.world else m.world
    | [] => m.world
  pure
    { status := match flow with
        | .killed s => .signalled s
        | _ => .exited m.self.status
      ended := m.self.now
      stdout := world.piped 1
      stderr := world.piped 2 }

/-- The system of processes of a host. -/
def system (host : Host) : ProcessSystem := ⟨host.start⟩

/-- **Runs a command.** -/
def run (host : Host) (c : CommandSpec) (limits : RunLimits) : Except IoFault CommandOutput :=
  host.system.run c limits

end Host

end CodeAtlas
