import CodeAtlas.Path.Basic
import CodeAtlas.Project.Model

/-!
# The unit dependency graph

The units of one discovered project and who depends on whom. Building a graph validates the model
and refuses it if not all units can be put in order.

## Architecture

- **Layer A**: the graph and its edges;
- **Layer B**: putting units in order;
- **Layer C**: building a graph;
- **Layer D**: which units a file belongs to, and what a change affects.
-/

namespace CodeAtlas

/-! ## Layer A: edges -/

/-- **The units of a project and their dependents.** -/
structure UnitGraph where
  root : Path
  units : Table UnitId CompilationUnit
  /-- The units that depend directly on a unit. -/
  dependents : Table UnitId (KeySet UnitId)
  manifests : List Path
  buildScriptFiles : List Path
  deriving Repr, DecidableEq

namespace UnitGraph

instance : Inhabited UnitGraph := ⟨⟨⟨""⟩, Table.empty, Table.empty, [], []⟩⟩

/-- The unit with an identity. -/
def unit? (g : UnitGraph) (id : UnitId) : Option CompilationUnit := g.units.get? id

/-- All identities, in order (`unit_ids`). -/
def unitIds (g : UnitGraph) : KeySet UnitId := ⟨g.units.keys⟩

/-- The direct dependencies of a unit in a set, as often as the unit lists them (`deps_within`). -/
def depsWithin (g : UnitGraph) (id : UnitId) (subset : KeySet UnitId) : List UnitId :=
  match g.unit? id with
  | some u => u.deps.filter subset.contains
  | none => []

/-- The direct dependents of a unit, in order (`dependents_of`). -/
def dependentsOf (g : UnitGraph) (id : UnitId) : List UnitId :=
  (g.dependents.getD id KeySet.empty).toList

/-! ## Layer B: order -/

/-- How many dependencies each unit still waits for, and which units wait for none. -/
structure Frontier where
  waiting : Table UnitId Nat
  ready : KeySet UnitId
  deriving Repr, DecidableEq

namespace Frontier

/-- Counts down the dependencies of one unit. -/
def countDown (f : Frontier) (id : UnitId) : Frontier :=
  match f.waiting.get? id with
  | none => f
  | some n =>
    { waiting := f.waiting.insert id (n - 1)
      ready := if n - 1 == 0 then f.ready.insert id else f.ready }

/-- Takes out a unit and counts down its dependents. -/
def finish (g : UnitGraph) (f : Frontier) (id : UnitId) : Frontier :=
  (g.dependentsOf id).foldl countDown ⟨f.waiting.erase id, f.ready.erase id⟩

end Frontier

/-- The dependency counts of the known units of a set, and those that depend on none of it. -/
def frontier (g : UnitGraph) (subset : KeySet UnitId) : Frontier :=
  let known := subset.toList.filter g.units.contains
  -- a dependency that is listed twice counts twice, but its dependents are a set, so it is counted
  -- down once: such a unit is never ready
  let counts := known.map fun id => (id, (g.depsWithin id subset).length)
  ⟨⟨counts⟩, ⟨(counts.filter fun c => c.2 == 0).map (·.1)⟩⟩

/-- Takes out the least unit that waits for none, again and again. -/
def drain (g : UnitGraph) : Nat → Frontier → List UnitId
  | 0, _ => []
  | fuel + 1, f =>
    match f.ready.toList with
    | [] => []
    | id :: _ => id :: drain g fuel (f.finish g id)

/-- **The units of a set, dependencies first**, the least unit first among those that may come next
(`topo_order`). Units that are never ready are left out. -/
def topoOrder (g : UnitGraph) (subset : KeySet UnitId) : List UnitId :=
  -- every round takes out a unit, and no set has more
  g.drain subset.size (g.frontier subset)

/-! ## Layer C: building -/

/-- A unit with all its paths normalized. -/
def normalizeUnit (u : CompilationUnit) : CompilationUnit :=
  { u with
    rootFile := u.rootFile.normalize
    srcRoot := u.srcRoot.normalize
    inputs := u.inputs.map Path.normalize }

/-- Records a unit as a dependent of its dependencies. -/
def addDependents (t : Table UnitId (KeySet UnitId)) (u : CompilationUnit) :
    Table UnitId (KeySet UnitId) :=
  -- a unit is a dependent once, however often it lists the dependency
  u.deps.foldl (fun t d => t.insert d ((t.getD d KeySet.empty).insert u.id)) t

/-- The graph of a model, before it is known whether the units can be put in order. -/
def assemble (m : ProjectModel) : UnitGraph :=
  { root := m.root.normalize
    units := Table.ofList (m.units.map fun u => (u.id, normalizeUnit u))
    dependents := m.units.foldl addDependents Table.empty
    manifests := m.manifests.map Path.normalize
    buildScriptFiles := m.buildScriptFiles.map Path.normalize }

/-- **The graph of a model.** -/
def ofModel (m : ProjectModel) : Except ModelFault UnitGraph := do
  m.validate
  let g := assemble m
  -- on a circle no unit is ever ready, so the order comes out too short
  if (g.topoOrder g.unitIds).length == g.units.size then pure g else throw .cycle

/-! ## Layer D: files and changes -/

/-- Whether a unit declares a normalized path. -/
def declares (u : CompilationUnit) (p : Path) : Bool := u.rootFile == p || u.inputs.contains p

/-- The number of components of a unit's source root, if the path lies below it. -/
def rootDepth? (u : CompilationUnit) (p : Path) : Option Nat :=
  if u.srcRoot.text.isEmpty || !p.startsWith u.srcRoot then none else some u.srcRoot.parts.length

/-- The units that compile a file: those that declare it, and those with the deepest source root
above it. -/
def owners (g : UnitGraph) (p : Path) : List UnitId :=
  let p := p.normalize
  let units := g.units.values
  -- below several source roots a file belongs to the innermost one
  let deepest := (units.filterMap fun u => rootDepth? u p).foldl max 0
  let owns (u : CompilationUnit) : Bool :=
    declares u p || (0 < deepest && rootDepth? u p == some deepest)
  (units.filter owns).map (·.id)

/-- How a changed file affects the build. -/
inductive FileClass where
  /-- The project has to be discovered anew. -/
  | manifest
  /-- The project has to be discovered anew. -/
  | buildScript
  /-- These units compile the file. -/
  | source (owners : List UnitId)
  /-- No known unit has to do with the file. -/
  | unowned
  deriving Repr, DecidableEq, Inhabited

/-- What a file is to the project. -/
def classify (g : UnitGraph) (p : Path) : FileClass :=
  let p := p.normalize
  if g.manifests.contains p then .manifest
  else if g.buildScriptFiles.contains p then .buildScript
  else
    match g.owners p with
    | [] => .unowned
    | us => .source us

/-- The units that have to be rebuilt after a change of a file, given those that turned out to read
it (`file_changed`). There is no answer if the project has to be discovered anew. -/
def concerned (g : UnitGraph) (readers : List UnitId) (p : Path) : Option (KeySet UnitId) :=
  match g.classify p with
  | .manifest => none
  | .buildScript => none
  | .source owners => some (KeySet.ofList (owners ++ readers))
  -- nothing compiles the file, so it concerns those alone that were seen to read it
  | .unowned => if readers.isEmpty then none else some (KeySet.ofList readers)

/-- Whether a unit is a member of the workspace. -/
def isMember (g : UnitGraph) (id : UnitId) : Bool := (g.unit? id).any (·.member)

/-- Adds the members that depend on units of the stack, and what depends on those. -/
def spread (g : UnitGraph) : Nat → KeySet UnitId → List UnitId → KeySet UnitId
  | 0, found, _ => found
  | _ + 1, found, [] => found
  | fuel + 1, found, id :: stack =>
    -- a dependent that is no member ends the way: what is behind it is not looked at
    let fresh := (g.dependentsOf id).filter fun d => g.isMember d && !found.contains d
    spread g fuel (found.insertAll fresh) (fresh ++ stack)

/-- **What has to be rebuilt**: the known units among the dirty ones, and the members that depend
on one of them directly or through members. -/
def affected (g : UnitGraph) (dirty : KeySet UnitId) : KeySet UnitId :=
  let known := dirty.filter g.units.contains
  -- every unit comes onto the stack once at most
  g.spread (g.units.size + 1) known known.toList

end UnitGraph

end CodeAtlas
