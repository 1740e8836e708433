/-!
# Compilation units

A unit is a package's target compiled in one way. A library and its test-enabled recompilation
share package and target names, so the kind is part of the identity. The order of units (package,
target, kind) is the tie-break wherever scheduling has to be deterministic.
-/

namespace CodeAtlas

/-- What a compilation unit builds, in the order used to break ties. -/
inductive UnitKind where
  | lib
  | bin
  | test
  | bench
  | sample
  | buildScript
  deriving Repr, DecidableEq, Inhabited

namespace UnitKind

/-- All kinds, in order. -/
def all : List UnitKind := [.lib, .bin, .test, .bench, .sample, .buildScript]

/-- The position of a kind in the order. -/
def rank : UnitKind → Nat
  | .lib => 0
  | .bin => 1
  | .test => 2
  | .bench => 3
  | .sample => 4
  | .buildScript => 5

/-- The written name of a kind (`as_str`). -/
def name : UnitKind → String
  | .lib => "lib"
  | .bin => "bin"
  | .test => "test"
  | .bench => "bench"
  | .sample => "example"
  | .buildScript => "build-script"

/-- The kind with a given written name. -/
def ofName? (s : String) : Option UnitKind := all.find? fun k => k.name == s

/-- Whether the unit is compiled with the test harness (`is_test`). -/
def isTest : UnitKind → Bool
  | .test | .bench => true
  | _ => false

instance : Ord UnitKind := ⟨compareOn rank⟩

end UnitKind

/-- **Identity of a compilation unit.** -/
structure UnitId where
  package : String
  target : String
  kind : UnitKind
  deriving Repr, DecidableEq, Inhabited

namespace UnitId

/-- Units are ordered by package, then target, then kind. -/
instance : Ord UnitId :=
  ⟨compareLex (compareOn package) (compareLex (compareOn target) (compareOn kind))⟩

/-- The library unit whose target is named after its package. -/
def lib (package : String) : UnitId := ⟨package, package, .lib⟩

/-- The test-enabled variant of a unit's target (`test_variant`). -/
def testVariant (u : UnitId) : UnitId := { u with kind := .test }

/-- Whether two units compile the same target in different ways (`is_homonym_of`). -/
def isHomonymOf (u v : UnitId) : Bool :=
  u.package == v.package && u.target == v.target && u.kind != v.kind

/-- The text under which a unit is filed (`cache_key`): its three parts joined by slashes. -/
def cacheKey (u : UnitId) : String := s!"{u.package}/{u.target}/{u.kind.name}"

/-- How a unit is shown to people: the target is named only if it differs from the package. -/
def display (u : UnitId) : String :=
  if u.package == u.target then s!"{u.package} ({u.kind.name})"
  else s!"{u.package}::{u.target} ({u.kind.name})"

end UnitId

end CodeAtlas
