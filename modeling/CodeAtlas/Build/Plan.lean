import CodeAtlas.Build.Fault
import CodeAtlas.Build.Invocation
import CodeAtlas.Digest.Fingerprint

/-!
# Plans

The invocation of a unit with the fingerprints that tell whether it, and what was made by it, may be
used again. There is one plan per unit; it is made when it is asked for and kept until something it
rests on changes.

## Architecture

- **Layer A**: plans and the fields of their fingerprints;
- **Layer B**: the plan cache and its inputs;
- **Layer C**: dropping plans;
- **Layer D**: making plans, dependencies first.
-/

namespace CodeAtlas

/-! ## Layer A: plans -/

/-- **The plan of a unit** (`PlanEntry`). -/
structure Plan where
  unit : UnitId
  invocation : Invocation
  /-- Stands for the contents of all inputs. -/
  inputFingerprint : Fingerprint
  /-- Stands for the inputs of all dependencies, also of indirect ones. -/
  depsFingerprint : Fingerprint
  /-- Stands for all that decides the invocation itself. -/
  shape : Fingerprint
  deriving Repr, DecidableEq, Inhabited

namespace Plan

/-- Whether a path is an input. -/
def declares (p : Plan) (path : Path) : Bool := p.invocation.inputs.any (·.same path)

/-- The fingerprint under which an analysis made by a plan is stored (`cache_fingerprint`). -/
def storeFingerprint (h : Hash) (p : Plan) : Fingerprint :=
  .ofFields h [p.inputFingerprint.nested, p.depsFingerprint.nested, p.shape.nested]

end Plan

open Fingerprint (textField pathField)

/-- The fields of a plan's shape (`shape_fingerprint`). -/
def shapeFields (u : CompilationUnit) (s : BuildSettings) (inputs : List Path) : List Bytes :=
  [textField u.id.cacheKey, pathField u.rootFile] ++ inputs.map pathField
    ++ [textField "features"] ++ u.features.toList.map textField
    ++ [textField (u.target.getD ""), textField "deps"]
    ++ u.deps.map (fun d => textField d.cacheKey)
    ++ [pathField s.compiler, textField s.edition, textField (s.target.getD ""),
        pathField s.outDir]
    ++ s.extraArgs.map textField

/-- A way to read sources. -/
abbrev SourceReader := Path → Except OverlayFault String

/-- The fields that stand for files (`fingerprint_inputs`): each path with its content. -/
def contentFields (read : SourceReader) (paths : List Path) : Except BuildFault (List Bytes) := do
  let fields ← paths.mapM fun p =>
    match read p with
    | .ok text => .ok [pathField p, textField text]
    | .error fault => .error (.ofOverlay fault)
  pure fields.flatten

/-- The fields that stand for a dependency whose plan was asked for (`deps_fingerprint`). One that
cannot be planned looks like none that can. -/
def dependencyFields : Except BuildFault Plan → List Bytes
  | .ok p => [p.inputFingerprint.nested, p.depsFingerprint.nested]
  | .error fault => [textField "unplannable", textField fault.message]

/-! ## Layer B: the cache -/

/-- **The plans that were made.** -/
structure PlanCache where
  settings : BuildSettings
  entries : Table UnitId Plan
  /-- Files that units turned out to read although nothing declares them. -/
  learned : Table UnitId (KeySet Path)
  deriving Repr, DecidableEq

namespace PlanCache

/-- No plans. -/
def new (s : BuildSettings) : PlanCache := ⟨s, Table.empty, Table.empty⟩

instance : Inhabited PlanCache := ⟨new {}⟩

/-- The plan of a unit, if there is one. -/
def get? (c : PlanCache) (u : UnitId) : Option Plan := c.entries.get? u

/-- The files a unit was learned to read. -/
def learnedOf (c : PlanCache) (u : UnitId) : KeySet Path := c.learned.getD u KeySet.empty

/-- The inputs of a unit, declared and learned, in order (`inputs_of`). -/
def inputsOf (c : PlanCache) (u : CompilationUnit) : List Path :=
  ((KeySet.ofList (u.allInputs.map Path.normalize)).insertAll (c.learnedOf u.id).toList).toList

/-- The units that were learned to read a file, in order (`learned_readers`). -/
def learnedReaders (c : PlanCache) (p : Path) : List UnitId :=
  (c.learned.entries.filter fun e => e.2.contains p.normalize).map (·.1)

/-- How a cache is shown to developers. -/
def shown (c : PlanCache) : String :=
  "PlanCache \x7b entries: " ++ toString c.entries.size ++ ", .. \x7d"

/-! ## Layer C: dropping plans -/

/-- Why plans are dropped (`InvalidationReason`). -/
inductive Invalidation where
  | unit (u : UnitId)
  /-- The features of a unit changed. -/
  | features (u : UnitId)
  /-- Files changed, and with them all plans that declare one of them. -/
  | inputs (paths : List Path)
  | all
  deriving Repr, DecidableEq, Inhabited

/-- Whether a reason covers a plan. -/
def Invalidation.covers (r : Invalidation) (u : UnitId) (p : Plan) : Bool :=
  match r with
  | .unit v => u == v
  | .features v => u == v
  | .inputs paths => (paths.map Path.normalize).any p.declares
  | .all => true

/-- The units whose plans a reason covers, in order. -/
def covered (c : PlanCache) (r : Invalidation) : List UnitId :=
  (c.entries.entries.filter fun e => r.covers e.1 e.2).map (·.1)

/-- **Drops the plans that a reason covers.** -/
def invalidate (c : PlanCache) (r : Invalidation) : PlanCache :=
  { c with entries := c.entries.filter fun u p => !r.covers u p }

/-- Records files that a unit was seen to read. -/
def addLearned (c : PlanCache) (u : UnitId) (paths : List Path) : PlanCache :=
  { c with learned := c.learned.insert u ((c.learnedOf u).insertAll (paths.map Path.normalize)) }

/-- **Learns which files a unit reads**, and says whether one of them is new (`learn_inputs`). If
so, the plan of the unit is dropped. -/
def learnInputs (c : PlanCache) (u : UnitId) (paths : List Path) : PlanCache × Bool :=
  let d := c.addLearned u paths
  -- the paths are kept in one spelling, so a set that does not grow has learned nothing
  if (d.learnedOf u).size == (c.learnedOf u).size then (d, false)
  else (d.invalidate (.unit u), true)

/-- Forgets all plans and all that was learned. -/
def reset (c : PlanCache) : PlanCache :=
  { c.invalidate .all with learned := Table.empty }

/-- Changes the settings, and says whether they differ (`set_settings`). If so, all plans are
dropped. -/
def setSettings (c : PlanCache) (s : BuildSettings) : PlanCache × Bool :=
  if c.settings.same s then (c, false) else ({ c with settings := s }.invalidate .all, true)

/-! ## Layer D: making plans -/

/-- Keeps a plan. -/
def keep (c : PlanCache) (p : Plan) : PlanCache := { c with entries := c.entries.insert p.unit p }

/-- The plan of a unit whose dependencies are planned: the plan at hand if it still has the right
shape, brought up to date with the dependencies, or else a new one. -/
def planKnowing (h : Hash) (read : SourceReader) (root : Path) (c : PlanCache)
    (u : CompilationUnit) (deps : Fingerprint) : PlanCache × Except BuildFault Plan :=
  let inputs := c.inputsOf u
  let shape := Fingerprint.ofFields h (shapeFields u c.settings inputs)
  -- contents are no part of the shape: a plan whose inputs changed has to be dropped before
  match (c.get? u.id).filter (·.shape == shape) with
  | some p =>
    if p.depsFingerprint == deps then (c, .ok p)
    else
      let p := { p with depsFingerprint := deps }
      (c.keep p, .ok p)
  | none =>
    match contentFields read inputs with
    | .error fault => (c, .error fault)
    | .ok fields =>
      let p : Plan :=
        { unit := u.id
          invocation := .of root c.settings u inputs
          inputFingerprint := .ofFields h fields
          depsFingerprint := deps
          shape := shape }
      (c.keep p, .ok p)

/-- Plans a unit after its dependencies, along chains of dependencies up to a length. There is no
answer for a unit with longer ones. -/
def planWithin (h : Hash) (read : SourceReader) (g : UnitGraph) :
    Nat → PlanCache → CompilationUnit → PlanCache × Option (Except BuildFault Plan)
  | 0, c, _ => (c, none)
  | depth + 1, c, u =>
    let step (acc : PlanCache × Option (List Bytes)) (d : UnitId) :
        PlanCache × Option (List Bytes) :=
      match g.unit? d with
      -- what the project does not know still makes a difference, by its name
      | none => (acc.1, acc.2.map (· ++ [textField d.cacheKey, textField "unknown"]))
      | some dep =>
        let (c, r) := planWithin h read g depth acc.1 dep
        (c, do
          let fields ← acc.2
          let r ← r
          pure (fields ++ textField d.cacheKey :: dependencyFields r))
    match u.deps.foldl step (c, some []) with
    | (c, none) => (c, none)
    | (c, some fields) =>
      let (c, r) := planKnowing h read g.root c u (.ofFields h fields)
      (c, some r)

/-- The longest chain of dependencies that is followed: every unit once, and one unit besides. -/
def planDepth (g : UnitGraph) : Nat := g.units.size + 2

/-- **The plan of a unit** (`plan_for`). Dependencies are planned first. -/
def planFor (h : Hash) (read : SourceReader) (g : UnitGraph) (c : PlanCache)
    (u : CompilationUnit) : PlanCache × Except BuildFault Plan :=
  match planWithin h read g (planDepth g) c u with
  | (c, some r) => (c, r)
  -- in a graph without circles no chain is as long as the bound
  | (c, none) => (c, .error (.configurationInvalid .cycle))

end PlanCache

end CodeAtlas
