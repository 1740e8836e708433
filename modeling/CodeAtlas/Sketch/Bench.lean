import CodeAtlas.Build.Collaborators
import CodeAtlas.Sketch.Reading

/-!
# The bench

Collaborators that understand sketches, with a script of what is to go wrong. They keep a log of
what they were asked to do.

## Architecture

- **Layer A**: the state of the bench and its gate;
- **Layer B**: a compiler inside the program;
- **Layer C**: commands;
- **Layer D**: discovery.
-/

namespace CodeAtlas

namespace Sketch

/-! ## Layer A: the bench -/

/-- Something the bench was asked to do. -/
inductive BenchRun where
  | discovery (root : Path)
  | analysis (unit : UnitId)
  | compilation (unit : UnitId)
  /-- A command whose outcome was given in advance. -/
  | scripted (command : CommandSpec)
  | generation (command : CommandSpec)
  deriving Repr, DecidableEq, Inhabited

/-- **The state of the bench.** -/
structure Bench where
  /-- The project that is discovered, or why there is none. -/
  project : Except BuildFault ProjectModel
  /-- Outcomes of the next commands. -/
  responses : List (Except IoFault CommandOutput) := []
  /-- Units that stop at the gate the next time they come there. -/
  held : KeySet UnitId := .empty
  /-- How often units are still to crash. -/
  crashes : Table UnitId Nat := .empty
  /-- What was done, the latest first. -/
  runs : List BenchRun := []

/-- Work of the bench. -/
abbrev BenchWork (α : Type) := Activity (Workplace Bench) α

/-- Changes the state of the bench. -/
def alter (f : Bench → Bench) : BenchWork Unit := .modify fun w => { w with own := f w.own }

/-- Adds to the log. -/
def log (r : BenchRun) : BenchWork Unit := alter fun b => { b with runs := r :: b.runs }

/-- Stops at the gate if the unit is held, and lifts the hold. -/
def passGate (u : UnitId) : BenchWork Unit := do
  if (← Activity.current).own.held.contains u then
    alter fun b => { b with held := b.held.erase u }
    Activity.stopAt u

/-! ## Layer B: inside the program -/

/-- Counts down the crashes of a unit, and says whether it is to crash now. -/
def crashesNow (u : UnitId) : BenchWork Bool := do
  match (← Activity.current).own.crashes.get? u with
  | some (n + 1) =>
    alter fun b => { b with crashes := b.crashes.insert u n }
    pure true
  | _ => pure false

/-- How a line ends an analysis inside the program. -/
def ending? (u : UnitId) (l : Line) : Option BuildFault :=
  match l.directive with
  | "crash" => some (.crash u (.reported l.arg))
  | "cancelled" => some .cancelled
  | "io" => some (.io ⟨.other, l.arg⟩)
  | "panic" => some (.crash u (.panicked l.arg))
  | _ => none

/-- Goes through the lines of a sketch up to one that ends the analysis. -/
def follow (u : UnitId) : List Line → Work (Workplace Bench) Unit
  | [] => pure ()
  | l :: rest => do
    match ending? u l with
    | some fault => throw fault
    | none =>
      if l.directive == "read" then
        let _ ← Workplace.load ⟨l.arg⟩
      follow u rest

/-- **Analyzes a unit inside the program.** -/
def analyze (u : CompilationUnit) (_ : Plan) : Work (Workplace Bench) (Option Snapshot) := do
  (log (.analysis u.id) : BenchWork Unit)
  let text ← Workplace.load u.rootFile
  (passGate u.id : BenchWork Unit)
  if ← (crashesNow u.id : BenchWork Bool) then throw (.crash u.id (.reported "injected crash"))
  follow u.id (lines text)
  pure (draft u (lines text)).delivered

/-! ## Layer C: commands -/

/-- The last line with one of some directives. -/
def lastOf (ls : List Line) (directives : List String) : Option Line :=
  (ls.filter fun l => directives.contains l.directive).getLast?

/-- A number of 32 bits in decimal digits with an optional sign; another text stands for zero. -/
def number (s : String) : Int :=
  let n : Int := match s.toList with
    | '-' :: cs => if cs.head? == some '+' then 0 else -((word? cs).getD 0 : Nat)
    | cs => (word? cs).getD 0
  if -0x80000000 ≤ n && n < 0x80000000 then n else 0

/-- The status that a sketch asks for. -/
def askedStatus (ls : List Line) : ExitStatus :=
  match lastOf ls ["exit", "signal"] with
  | none => .exited 0
  | some l => if l.directive == "exit" then .exited (number l.arg) else .signalled (number l.arg)

/-- The outcome of a command that compiles a sketch. -/
def compiled (u : CompilationUnit) (ls : List Line) : Except IoFault CommandOutput :=
  match lastOf ls ["io"] with
  | some l => .error ⟨.other, l.arg⟩
  | none =>
    let printed := ((draft u ls).delivered.map Snapshot.toText).getD ""
    .ok
      { status := askedStatus ls
        stdout := ((lastOf ls ["garbage"]).map (·.arg)).getD printed
        stderr := ""
        timedOut := (lastOf ls ["timeout"]).isSome
        cancelled := (lastOf ls ["cancelled"]).isSome }

/-- Takes the next outcome that was given in advance. -/
def takeResponse : BenchWork (Option (Except IoFault CommandOutput)) :=
  .transform fun w =>
    match w.own.responses with
    | [] => (w, none)
    | r :: rest => ({ w with own := { w.own with responses := rest } }, some r)

/-- Compiles the first unit whose root file is an argument. -/
def compile (c : CommandSpec) : BenchWork (Except IoFault CommandOutput) := do
  let w ← Activity.current
  let units := match w.own.project with
    | .ok m => m.units
    | .error _ => []
  match units.find? fun u => c.args.any fun a => u.rootFile.same ⟨a⟩ with
  | none => pure (.error ⟨.other, "no unit for \x60" ++ c.display ++ "\x60"⟩)
  | some u => do
    log (.compilation u.id)
    match w.read u.rootFile with
    | .error fault => pure (.error ⟨.other, fault.message⟩)
    | .ok text => do
      passGate u.id
      pure (compiled u (lines text))

/-- **Runs a command.** -/
def run (c : CommandSpec) : BenchWork (Except IoFault CommandOutput) := do
  match ← takeResponse with
  | some r => do
    log (.scripted c)
    pure r
  | none =>
    if c.program.same ⟨"codegen"⟩ then
      log (.generation c)
      pure (.ok { status := .exited 0, stdout := "", stderr := "" })
    else if c.program.same ⟨"codegen-fail"⟩ then
      log (.generation c)
      pure (.ok { status := .exited 3, stdout := "", stderr := "  no schema \n" })
    else compile c

/-! ## Layer D: discovery -/

/-- **Describes the project.** -/
def discover (root : Path) : Work (Workplace Bench) ProjectModel := do
  (log (.discovery root) : BenchWork Unit)
  let w ← (Activity.current : BenchWork (Workplace Bench))
  match w.own.project with
  | .error fault => throw fault
  | .ok m => pure m

/-- The collaborators of the bench. -/
def collaborators : Collaborators Bench := ⟨discover, analyze, run⟩

end Sketch

end CodeAtlas
