import CodeAtlas.Build.Plan
import CodeAtlas.Disk.Basic
import CodeAtlas.Schedule.Activity

/-!
# Collaborators

What a build leaves to others: discovering the project, the compiler that runs inside the program,
and running commands. They see sources through the overlay and have a state of their own.
-/

namespace CodeAtlas

/-- Work that may fail. -/
abbrev Work (σ : Type) (α : Type) := ExceptT BuildFault (Activity σ) α

/-- **Where collaborators work**: sources, the disk, and a state of their own. -/
structure Workplace (τ : Type) where
  overlay : Overlay := .fresh
  disk : Disk := .empty
  /-- The paths that the present analysis has loaded. -/
  loaded : KeySet Path := .empty
  own : τ

namespace Workplace

variable {τ : Type}

/-- Reads a source through the overlay. -/
def read (s : Workplace τ) : SourceReader := s.overlay.read s.disk.source

/-- Loads a source for an analysis, and takes down its path. -/
def load (p : Path) : Work (Workplace τ) String := do
  let s ← (Activity.current : Activity (Workplace τ) (Workplace τ))
  match s.read p.normalize with
  | .error fault => throw (.ofOverlay fault)
  | .ok text =>
    (Activity.modify fun s : Workplace τ => { s with loaded := s.loaded.insert p.normalize })
    pure text

end Workplace

/-- **The collaborators of a build.** -/
structure Collaborators (τ : Type) where
  /-- Describes the project at a root. -/
  discover : Path → Work (Workplace τ) ProjectModel
  /-- Analyzes a unit inside the program. A unit with errors has an analysis too; no analysis at all
  means that the compiler broke down. -/
  analyze : CompilationUnit → Plan → Work (Workplace τ) (Option Snapshot)
  /-- Runs a command to its end. -/
  run : CommandSpec → Activity (Workplace τ) (Except IoFault CommandOutput)

end CodeAtlas
