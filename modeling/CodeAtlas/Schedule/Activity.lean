import CodeAtlas.Unit

/-!
# Activities

Work on a state that others change as well. An activity reads and changes the state, looks up at
checkpoints whether its result is still wanted, and may stop at a gate. While it stands there the
state may change; opened, it goes on with the state it finds then.

## Architecture

- **Layer A**: activities as trees and their composition;
- **Layer B**: running up to the next gate;
- **Layer C**: work on a part of a state.
-/

namespace CodeAtlas

/-! ## Layer A: composition -/

/-- **An activity on a state.** -/
inductive Activity (σ : Type) (α : Type) where
  | done (a : α)
  | observe (next : σ → Activity σ α)
  | change (s : σ) (next : Activity σ α)
  /-- Goes on knowing whether the result is no longer wanted. -/
  | checkpoint (next : Bool → Activity σ α)
  /-- Stands at the gate of a unit. -/
  | gate (unit : UnitId) (next : Activity σ α)

namespace Activity

variable {σ ρ α β : Type}

/-- One activity after another. -/
def bind (f : α → Activity σ β) : Activity σ α → Activity σ β
  | .done a => f a
  | .observe next => .observe fun s => bind f (next s)
  | .change s next => .change s (bind f next)
  | .checkpoint next => .checkpoint fun b => bind f (next b)
  | .gate u next => .gate u (bind f next)

instance : Monad (Activity σ) where
  pure := .done
  bind a f := bind f a

instance [Inhabited α] : Inhabited (Activity σ α) := ⟨.done default⟩

/-- The present state. -/
def current : Activity σ σ := .observe .done

/-- Changes the state. -/
def modify (f : σ → σ) : Activity σ Unit := .observe fun s => .change (f s) (.done ())

/-- Changes the state and gives a value. -/
def transform (f : σ → σ × α) : Activity σ α :=
  .observe fun s => .change (f s).1 (.done (f s).2)

/-- Whether the result is no longer wanted. -/
def isUnwanted : Activity σ Bool := .checkpoint .done

/-- Stops at the gate of a unit. -/
def stopAt (u : UnitId) : Activity σ Unit := .gate u (.done ())

/-! ## Layer B: running -/

/-- How far an activity got. -/
inductive Reached (σ : Type) (α : Type) where
  | finished (a : α)
  /-- It stands at the gate of a unit, with what is left to do. -/
  | standing (unit : UnitId) (rest : Activity σ α)

/-- **Runs an activity to its end or to the next gate.** -/
def run (unwanted : Bool) (s : σ) : Activity σ α → σ × Reached σ α
  | .done a => (s, .finished a)
  | .observe next => run unwanted s (next s)
  | .change s next => run unwanted s next
  | .checkpoint next => run unwanted s (next unwanted)
  | .gate u next => (s, .standing u next)

/-- Runs an activity to its end, with all gates open. -/
def runThrough (unwanted : Bool) (s : σ) : Activity σ α → σ × α
  | .done a => (s, a)
  | .observe next => runThrough unwanted s (next s)
  | .change s next => runThrough unwanted s next
  | .checkpoint next => runThrough unwanted s (next unwanted)
  | .gate _ next => runThrough unwanted s next

/-! ## Layer C: parts -/

/-- An activity on a part of a state as one on the whole. -/
def within (get : ρ → σ) (set : ρ → σ → ρ) : Activity σ α → Activity ρ α
  | .done a => .done a
  | .observe next => .observe fun r => within get set (next (get r))
  | .change s next => .observe fun r => .change (set r s) (within get set next)
  | .checkpoint next => .checkpoint fun b => within get set (next b)
  | .gate u next => .gate u (within get set next)

end Activity

end CodeAtlas
