import CodeAtlas.Command.Basic
import CodeAtlas.Index.Lowering
import CodeAtlas.Overlay.Basic
import CodeAtlas.Project.Model
import CodeAtlas.Snapshot.Json
import CodeAtlas.Text.Character

/-!
# What goes wrong in a build

All faults but an invalid project concern one unit. Those that may pass by themselves are retried.
-/

namespace CodeAtlas

/-- Why a unit's toolchain broke down. -/
inductive CrashCause where
  /-- A code generation step did not end well. -/
  | prebuild (step : String) (status : ExitStatus) (stderr : String)
  | noAnalysis
  | timedOut
  | killed (signal : Int)
  | unreadable (status : ExitStatus) (fault : Snapshot.TextFault)
  /-- The index does not take the analysis. -/
  | rejected (fault : IndexFault)
  | panicked (message : String)
  /-- The toolchain gave a reason of its own. -/
  | reported (reason : String)
  deriving Repr, DecidableEq, Inhabited

namespace CrashCause

/-- The wording of a cause. What is wrong with unreadable output is not repeated. -/
def message : CrashCause → String
  | .prebuild step status stderr =>
    "prebuild step \x60" ++ step ++ "\x60 failed (" ++ status.shown ++ "): " ++ trim stderr
  | .noAnalysis => "toolchain produced no analysis"
  | .timedOut => "toolchain timed out"
  | .killed signal => "toolchain killed by signal " ++ toString signal
  | .unreadable status _ =>
    "unreadable toolchain output (" ++ status.shown ++ "): malformed analysis snapshot"
  | .rejected fault => "analysis rejected: " ++ fault.message
  | .panicked message => "task panicked: " ++ message
  | .reported reason => reason

end CrashCause

/-- **A fault of the build** (`BuildError`). -/
inductive BuildFault where
  | inputNotFound (path : Path)
  | compileErrors (unit : UnitId) (count : Nat)
  | crash (unit : UnitId) (cause : CrashCause)
  /-- The toolchain read files the plan does not account for. -/
  | planStale (unit : UnitId) (count : Nat) (first : Path)
  | configurationInvalid (fault : ModelFault)
  | io (fault : IoFault)
  | cancelled
  deriving Repr, DecidableEq, Inhabited

namespace BuildFault

/-- The wording of a fault. -/
def message : BuildFault → String
  | .inputNotFound p => "input not found: " ++ p.text
  | .compileErrors u n => u.display ++ " failed to compile with " ++ toString n ++ " error(s)"
  | .crash u cause => "toolchain crashed while analyzing " ++ u.display ++ ": " ++ cause.message
  | .planStale u n first =>
    "plan for " ++ u.display ++ " is stale: toolchain read " ++ toString n
      ++ " undeclared file(s), first " ++ first.text
  | .configurationInvalid fault => "project configuration is invalid: " ++ fault.message
  | .io fault => fault.message
  | .cancelled => "build cancelled"

/-- Whether a unit is retried by itself (`is_transient`). -/
def isTransient : BuildFault → Bool
  | .crash _ _ => true
  | .io _ => true
  | _ => false

/-- A source that cannot be read is a missing input or an input fault. -/
def ofOverlay : OverlayFault → BuildFault
  | .notFound p => .inputNotFound p
  | .unreadable _ fault => .io fault
  | fault => .io ⟨.other, fault.message⟩

end BuildFault

end CodeAtlas
