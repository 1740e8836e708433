import CodeAtlas.Build.Event
import CodeAtlas.Project.Dirty

/-!
# Build passes

The units of one build on their way: those that wait for others, those that may start, and what
became of the rest. A unit may start when no unit it depends on is left in the pass. Failed units
let their dependents start; skipped ones take their dependents along.

## Architecture

- **Layer A**: passes;
- **Layer B**: units that end;
- **Layer C**: units that are skipped.
-/

namespace CodeAtlas

/-! ## Layer A: passes -/

/-- **A build pass.** -/
structure Pass where
  build : Nat
  priority : Priority
  graph : UnitGraph
  /-- What was marked when the pass began. -/
  ticket : DirtyTicket
  /-- All units of the pass, dependencies first. -/
  order : List UnitId
  /-- How many dependencies each unit still waits for. -/
  waiting : Table UnitId Nat
  /-- The units that may start. -/
  ready : KeySet UnitId
  indexed : List UnitId := []
  failed : List UnitId := []
  skipped : List UnitId := []
  /-- The number of units that ended, or were met and not started. -/
  finished : Nat := 0
  deriving Repr, DecidableEq

namespace Pass

/-- The pass over some units of a graph, before its first unit. -/
def new (build : Nat) (priority : Priority) (g : UnitGraph) (targets : KeySet UnitId)
    (ticket : DirtyTicket) : Pass :=
  let order := g.topoOrder targets
  let counts := Table.ofList (order.map fun u => (u, (g.depsWithin u targets).length))
  { build := build
    priority := priority
    graph := g
    ticket := ticket
    order := order
    -- whoever waits for nothing in the pass may start at once
    waiting := counts.filter fun _ n => n != 0
    ready := KeySet.ofList (counts.filter fun _ n => n == 0).keys }

/-- What became of the units. -/
def summary (p : Pass) : BuildSummary := ⟨p.build, p.priority, p.indexed, p.failed, p.skipped⟩

/-- The least unit that may start, and the pass without it. -/
def next? (p : Pass) : Option (UnitId × Pass) :=
  p.ready.toList.head?.map fun u => (u, { p with ready := p.ready.erase u })

/-- Counts a unit that ended, or that was met and not started. -/
def count (p : Pass) : Pass := { p with finished := p.finished + 1 }

/-! ## Layer B: ending -/

/-- Counts down what a unit waits for. -/
def countDown (p : Pass) (u : UnitId) : Pass :=
  match p.waiting.get? u with
  -- a unit that does not wait is done already, or was skipped
  | none => p
  | some n =>
    if n - 1 == 0 then { p with waiting := p.waiting.erase u, ready := p.ready.insert u }
    else { p with waiting := p.waiting.insert u (n - 1) }

/-- Lets the dependents of a unit go on without waiting for it. -/
def release (p : Pass) (u : UnitId) : Pass := (p.graph.dependentsOf u).foldl countDown p

/-- A unit was indexed. -/
def noteIndexed (p : Pass) (u : UnitId) : Pass :=
  { p with indexed := p.indexed ++ [u] }.release u

/-- A unit failed. Its dependents are built on what is known of it from before. -/
def noteFailed (p : Pass) (u : UnitId) : Pass :=
  { p with failed := p.failed ++ [u] }.release u

/-! ## Layer C: skipping -/

/-- Takes units off a stack, each with the waiting units that depend on it. -/
def skipFrom (g : UnitGraph) :
    Nat → Table UnitId Nat → List UnitId → List UnitId × Table UnitId Nat
  | 0, waiting, _ => ([], waiting)
  | _ + 1, waiting, [] => ([], waiting)
  | fuel + 1, waiting, u :: stack =>
    -- they stop waiting as they are met, so none is met twice
    let behind := (g.dependentsOf u).filter waiting.contains
    let left := behind.foldl Table.erase waiting
    let (skipped, waiting) := skipFrom g fuel left (behind.reverse ++ stack)
    (u :: skipped, waiting)

/-- The units that are skipped with a unit, in order, and the pass without them. -/
def skip (p : Pass) (u : UnitId) : List UnitId × Pass :=
  -- each round takes one unit off the stack, and all but the first were waiting
  let (skipped, waiting) := skipFrom p.graph (p.waiting.size + 1) p.waiting [u]
  (skipped, { p with waiting := waiting, skipped := p.skipped ++ skipped })

/-- The units that were never reached, and the pass that skips them. -/
def skipRest (p : Pass) : List UnitId × Pass :=
  (p.waiting.keys, { p with waiting := .empty, skipped := p.skipped ++ p.waiting.keys })

end Pass

end CodeAtlas
