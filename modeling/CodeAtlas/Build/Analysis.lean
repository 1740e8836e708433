import CodeAtlas.Build.Collaborators
import CodeAtlas.Cache.Store
import CodeAtlas.Text.Character

/-!
# Analyses

Analyzing one unit by its plan. Members of the workspace are analyzed inside the program. All other
units are analyzed by a command that prints a snapshot; such snapshots are stored under the
fingerprints of the plan and served again while these are the same.

## Architecture

- **Layer A**: analyses, and what a plan has to say about them;
- **Layer B**: inside the program;
- **Layer C**: by a command.
-/

namespace CodeAtlas

/-! ## Layer A: analyses -/

/-- Where an analysis comes from (`SnapshotSource`). -/
inductive AnalysisSource where
  | inProcess
  | outOfProcess
  | cache
  deriving Repr, DecidableEq, Inhabited

/-- **The analysis of a unit** (`InvocationOutcome`). -/
structure Analysis where
  unit : UnitId
  snapshot : Snapshot
  source : AnalysisSource
  /-- All files that were read for it, in order. -/
  readFiles : List Path
  deriving Repr, DecidableEq, Inhabited

namespace Analysis

/-- An analysis whose reads are those of its snapshot (`outcome`). -/
def of (u : UnitId) (s : Snapshot) (source : AnalysisSource) : Analysis :=
  ⟨u, s, source, (KeySet.ofList (s.readFiles.map Path.normalize)).toList⟩

/-- The number of errors in the unit (`compile_errors`). -/
def compileErrors (a : Analysis) : Nat := (a.snapshot.diagnostics.filter Diagnostic.isError).length

/-- The errors in the unit as a fault (`compile_error`). -/
def compileFault? (a : Analysis) : Option BuildFault :=
  if a.compileErrors == 0 then none else some (.compileErrors a.unit a.compileErrors)

/-- **The files that were read although the plan does not account for them** (`undeclared_reads`):
it does not declare them, and they do not lie below the unit's source root. -/
def undeclaredReads (u : CompilationUnit) (p : Plan) (a : Analysis) : List Path :=
  a.readFiles.filter fun f =>
    !p.declares f && (u.srcRoot.text.isEmpty || !f.startsWith u.srcRoot)

/-- The fault of a plan that does not account for all that was read (`check_plan`). -/
def staleness? (u : CompilationUnit) (p : Plan) (a : Analysis) : Option BuildFault :=
  let reads := undeclaredReads u p a
  reads.head?.map fun first => .planStale p.unit reads.length first

/-! ## Layer B: inside the program -/

variable {τ : Type}

/-- Analyzes a unit inside the program (`invoke_in_process`). -/
def inProcess (t : Collaborators τ) (u : CompilationUnit) (p : Plan) :
    Work (Workplace τ) Analysis := do
  (Activity.modify fun s : Workplace τ => { s with loaded := .empty })
  match ← t.analyze u p with
  | none => throw (.crash u.id .noAnalysis)
  | some snapshot =>
    let s ← (Activity.current : Activity (Workplace τ) (Workplace τ))
    let reads := s.loaded.insertAll (snapshot.readFiles.map Path.normalize)
    pure ⟨u.id, snapshot, .inProcess, reads.toList⟩

/-! ## Layer C: by a command -/

/-- Where snapshots are stored, if anywhere, and how plans are told apart. -/
structure Storage where
  hash : Hash := .standard
  folder : Option Path := none

/-- Looks up a stored snapshot. -/
def stored? (st : Storage) (u : UnitId) (f : Fingerprint) :
    Activity (Workplace τ) (Option Snapshot) :=
  match st.folder with
  | none => pure none
  | some root => .transform fun s =>
    let (disk, found) := s.disk.loadSnapshot st.hash root u.cacheKey f
    ({ s with disk := disk }, found)

/-- Stores a snapshot. If that fails, it is as if nothing were stored. -/
def keep (st : Storage) (u : UnitId) (f : Fingerprint) (snapshot : Snapshot) :
    Activity (Workplace τ) Unit :=
  match st.folder with
  | none => pure ()
  | some root => .modify fun s =>
    { s with disk := (s.disk.storeSnapshot st.hash root u.cacheKey f 0 snapshot).1 }

/-- The snapshot that a command printed. The exit code does not matter: a unit with errors may
well be printed by a command that fails. -/
def ofOutput (u : UnitId) (o : CommandOutput) : Except BuildFault Snapshot :=
  if o.cancelled then .error .cancelled
  else if o.timedOut then .error (.crash u .timedOut)
  else
    match o.status.signal? with
    | some n => .error (.crash u (.killed n))
    | none =>
      match Snapshot.ofText (trim o.stdout) with
      | .ok snapshot => .ok snapshot
      | .error fault => .error (.crash u (.unreadable o.status fault))

/-- Analyzes a unit by a command, unless its analysis is stored (`invoke_out_of_process`). -/
def outOfProcess (st : Storage) (t : Collaborators τ) (u : CompilationUnit) (p : Plan) :
    Work (Workplace τ) Analysis := do
  let f := p.storeFingerprint st.hash
  match ← (stored? st u.id f : Activity (Workplace τ) (Option Snapshot)) with
  | some snapshot => pure (of u.id snapshot .cache)
  | none =>
    let command := p.invocation.command
    match ← (t.run command : Activity (Workplace τ) (Except IoFault CommandOutput)) with
    | .error fault => throw (.io fault)
    | .ok o =>
      let snapshot ← (ofOutput u.id o : Except BuildFault Snapshot)
      (keep st u.id f snapshot : Activity (Workplace τ) Unit)
      pure (of u.id snapshot .outOfProcess)

/-- **Analyzes a unit by its plan** (`invoke`). -/
def make (st : Storage) (t : Collaborators τ) (u : CompilationUnit) (p : Plan) :
    Work (Workplace τ) Analysis :=
  if u.member then inProcess t u p else outOfProcess st t u p

end Analysis

end CodeAtlas
