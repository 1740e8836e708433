import CodeAtlas.Snapshot.Record

/-!
# Records of the index

What a unit's snapshot becomes once its identifiers are qualified and its places are checked.

Every unit identity gets a namespace number on first sight, which it keeps for good. An identifier
of a definition is a namespace together with a serial number; it always denotes the same place.

## Architecture

- **Layer A**: identifiers and namespaces;
- **Layer B**: records and the answers that queries make of them.
-/

namespace CodeAtlas

/-! ## Layer A: identifiers -/

/-- The identifier of a definition across all units. -/
structure GlobalId where
  space : Nat
  serial : Nat
  deriving Repr, DecidableEq, Inhabited

namespace GlobalId

/-- Identifiers are ordered by namespace, then serial number. -/
instance : Ord GlobalId := ⟨compareLex (compareOn space) (compareOn serial)⟩

/-- The number of values of each half. -/
def halfSize : Nat := 0x100000000

/-- The identifier of nothing. -/
def null : GlobalId := ⟨halfSize - 1, halfSize - 1⟩

/-- Whether an identifier denotes nothing (`is_null`). -/
def isNull (i : GlobalId) : Bool := i == null

/-- Both halves packed into one number (`as_u64`). -/
def raw (i : GlobalId) : Nat := i.space * halfSize + i.serial

/-- The identifier packed into a number. -/
def ofRaw (n : Nat) : GlobalId := ⟨n / halfSize, n % halfSize⟩

/-- How an identifier is shown to developers. -/
def shown (i : GlobalId) : String :=
  if i.isNull then "GlobalId(NULL)" else s!"GlobalId({i.space}:{i.serial})"

end GlobalId

/-- An identifier that a unit's own namespace makes unique, before places are compared
(`UnitLocalId`). -/
structure ScopedId where
  space : Nat
  index : UInt32
  deriving Repr, DecidableEq, Inhabited

/-- The unit identities seen so far (`NamespaceTable`); the position in the list is the
namespace. -/
structure Namespaces where
  units : List UnitId
  deriving Repr, DecidableEq, Inhabited

namespace Namespaces

/-- No unit was seen yet. -/
def empty : Namespaces := ⟨[]⟩

/-- The namespace of a unit. -/
def get? (n : Namespaces) (u : UnitId) : Option Nat := n.units.idxOf? u

/-- The namespace of a unit, which is assigned now if it has none. -/
def intern (n : Namespaces) (u : UnitId) : Namespaces × Nat :=
  match n.get? u with
  | some space => (n, space)
  | none => (⟨n.units ++ [u]⟩, n.units.length)

end Namespaces

/-! ## Layer B: records -/

/-- The place of a definition, shared by every unit that compiles it (`DefSite`). -/
structure Site where
  file : Path
  start : UInt32
  stop : UInt32
  kind : DefKind
  name : String
  deriving Repr, DecidableEq, Inhabited

/-- A definition as a unit reports it. -/
structure DefRecord where
  kind : DefKind
  name : String
  qualname : String
  span : Span
  signature : Option String
  docs : String
  parent : Option ScopedId
  children : List ScopedId
  deriving Repr, DecidableEq, Inhabited

namespace DefRecord

/-- The place a record is about. -/
def site (r : DefRecord) : Site :=
  ⟨r.span.file, r.span.bytes.start, r.span.bytes.stop, r.kind, r.name⟩

end DefRecord

/-- An implementation block as a unit reports it. -/
structure ImplRecord where
  span : Span
  selfType : ScopedId
  traitId : Option ScopedId
  deriving Repr, DecidableEq, Inhabited

/-- A name in a file: that of a definition, or a reference. -/
structure Occurrence where
  span : Span
  target : ScopedId
  isDef : Bool
  deriving Repr, DecidableEq, Inhabited

/-- **A definition as queries answer it.** -/
structure Definition where
  id : GlobalId
  kind : DefKind
  name : String
  qualname : String
  span : Span
  signature : Option String
  docs : String
  parent : Option GlobalId
  /-- The unit the record was taken from. -/
  unit : UnitId
  deriving Repr, DecidableEq, Inhabited

/-- The name under a cursor and what it denotes. -/
structure Hover where
  span : Span
  definition : Definition
  deriving Repr, DecidableEq, Inhabited

end CodeAtlas
