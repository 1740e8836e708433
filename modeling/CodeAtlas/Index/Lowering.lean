import CodeAtlas.Index.Record
import CodeAtlas.Path.Basic

/-!
# Lowering of snapshots

A snapshot is turned into records: identifiers are qualified by the namespace of the unit they
belong to, places become zero-based and their files absolute, and what has no place is dropped.
Lowering changes nothing in the index but the table of namespaces.

## Architecture

- **Layer A**: what makes a snapshot unfit;
- **Layer B**: unit numbers;
- **Layer C**: identifiers and places;
- **Layer D**: definitions, references and implementations;
- **Layer E**: the whole snapshot.
-/

namespace CodeAtlas

/-! ## Layer A: faults -/

/-- What is wrong with a place. -/
inductive SpanFault where
  | notOneBased
  | bytesReversed
  | rangeReversed
  deriving Repr, DecidableEq, Inhabited

namespace SpanFault

/-- The wording of a fault. -/
def message : SpanFault → String
  | .notOneBased => "lines and columns are 1-based"
  | .bytesReversed => "byte range is reversed"
  | .rangeReversed => "line/column range is reversed"

end SpanFault

/-- **Why a snapshot is rejected** (`IndexError`). -/
inductive IndexFault where
  /-- A number of an extern unit is reserved. -/
  | reservedNumber
  /-- A number of an extern unit is given twice. -/
  | duplicateNumber (num : UInt32)
  | unknownNumber (num : UInt32)
  | badSpan (file : Path) (fault : SpanFault)
  deriving Repr, DecidableEq, Inhabited

namespace IndexFault

/-- The wording of a fault. -/
def message : IndexFault → String
  | .reservedNumber => "invalid prelude entry 0: unit number 0 is reserved for the analyzed unit"
  | .duplicateNumber num => s!"invalid prelude entry {num.toNat}: duplicate unit number"
  | .unknownNumber num =>
    s!"identifier refers to unit number {num.toNat}, which is not in the prelude"
  | .badSpan file fault => "invalid span in " ++ file.text ++ ": " ++ fault.message

end IndexFault

/-! ## Layer B: unit numbers -/

/-- The namespaces that the unit numbers of a snapshot stand for. -/
abbrev UnitNumbers := List (UInt32 × Nat)

/-- Assigns namespaces to the extern units in order; those before a fault stay assigned. -/
def numberExterns (names : Namespaces) (numbers : UnitNumbers) :
    List ExternUnit → Namespaces × Except IndexFault UnitNumbers
  | [] => (names, .ok numbers)
  | e :: rest =>
    if e.num == 0 then (names, .error .reservedNumber)
    else
      -- assigned before the number is checked: a duplicate leaves its namespace behind
      let (names, space) := names.intern e.unit
      if (numbers.lookup e.num).isSome then (names, .error (.duplicateNumber e.num))
      else numberExterns names (numbers ++ [(e.num, space)]) rest

/-- What lowering needs to know about a snapshot as a whole (`Reader`). -/
structure LoweringScope where
  /-- The namespace of the analyzed unit. -/
  own : Nat
  numbers : UnitNumbers
  /-- Base of relative file names. -/
  directory : Path
  crateName : String
  deriving Repr, DecidableEq

namespace LoweringScope

/-! ## Layer C: identifiers and places -/

/-- Qualifies an identifier (`local_id`); that of nothing stays nothing. -/
def qualify (c : LoweringScope) (i : LocalId) : Except IndexFault (Option ScopedId) :=
  if i.isNone then .ok none
  else
    match c.numbers.lookup i.unit with
    | some space => .ok (some ⟨space, i.index⟩)
    | none => .error (.unknownNumber i.unit)

/-- Qualifies an identifier that may be missing. -/
def qualify? (c : LoweringScope) : Option LocalId → Except IndexFault (Option ScopedId)
  | some i => c.qualify i
  | none => .ok none

/-- The normalized path of a file (`resolve_path`). -/
def resolve (c : LoweringScope) (file : Path) : Path :=
  if file.isAbsolute then file.normalize else (c.directory.join file).normalize

/-- The zero-based form of a place (`lower_span`). -/
def span (c : LoweringScope) (raw : RawSpan) : Except IndexFault Span :=
  if raw.lineStart == 0 || raw.lineEnd == 0 || raw.columnStart == 0 || raw.columnEnd == 0 then
    .error (.badSpan raw.fileName .notOneBased)
  else if raw.byteEnd < raw.byteStart then .error (.badSpan raw.fileName .bytesReversed)
  else
    let start : Position := ⟨raw.lineStart - 1, raw.columnStart - 1⟩
    let stop : Position := ⟨raw.lineEnd - 1, raw.columnEnd - 1⟩
    if start.le stop then .ok ⟨c.resolve raw.fileName, ⟨raw.byteStart, raw.byteEnd⟩, ⟨start, stop⟩⟩
    else .error (.badSpan raw.fileName .rangeReversed)

end LoweringScope

/-! ## Layer D: definitions, references and implementations -/

/-- A definition with its number inside the unit. -/
structure LoweredDef where
  index : UInt32
  record : DefRecord
  deriving Repr, DecidableEq, Inhabited

/-- A reference to something of any unit. -/
structure LoweredRef where
  target : ScopedId
  span : Span
  deriving Repr, DecidableEq, Inhabited

namespace RawDef

/-- Whether a definition has a place of its own and a number of the analyzed unit. -/
def isPlaced (d : RawDef) : Bool :=
  -- an empty place at the very start of a file is one for modules only
  !d.span.isSynthetic && !(d.kind != .module && d.span.byteStart == 0 && d.span.byteEnd == 0)
    && !d.id.isNone && d.id.unit == 0

end RawDef

/-- The placed definitions, the first of each number (`read_defs`). -/
def keptDefs (seen : List UInt32) : List RawDef → List RawDef
  | [] => []
  | d :: rest =>
    -- a definition without a place does not take its number from a later one
    if d.isPlaced && !seen.contains d.id.index then d :: keptDefs (d.id.index :: seen) rest
    else keptDefs seen rest

namespace LoweringScope

/-- Lowers a definition (`read_defs`); one that implements a declared item also refers to it. -/
def definition (c : LoweringScope) (d : RawDef) :
    Except IndexFault (LoweredDef × List LoweredRef) := do
  let span ← c.span d.span
  let decl ← c.qualify? d.declId
  let parent ← c.qualify? d.parent
  let children ← d.children.mapM c.qualify
  let record : DefRecord :=
    ⟨d.kind, d.name, c.crateName ++ d.qualname, span, d.signature, d.docs, parent,
      children.filterMap id⟩
  pure (⟨d.id.index, record⟩, decl.toList.map fun target => ⟨target, span⟩)

/-- Lowers a reference, unless it refers to nothing or was made up (`read_refs`). -/
def reference (c : LoweringScope) (span : RawSpan) (target : Option LocalId) :
    Except IndexFault (List LoweredRef) :=
  if span.isSynthetic then .ok []
  else do
    match ← c.qualify? target with
    | some target => do
      let span ← c.span span
      pure [⟨target, span⟩]
    | none => pure []

/-- Lowers a relation to an implementation block, the last one with its number (`read_impls`). -/
def implementation (c : LoweringScope) (impls : List RawImpl) (r : RawRelation) :
    Except IndexFault (List ImplRecord) :=
  -- of several blocks with one number the last one counts
  match impls.reverse.find? fun i => i.id == r.implId with
  | none => .ok []
  | some i =>
    if i.span.isSynthetic then .ok []
    else do
      match ← c.qualify r.selfType with
      -- an implementation for nothing says nothing
      | none => pure []
      | some selfType => do
        let traitId ← c.qualify? r.traitId
        let span ← c.span i.span
        pure [⟨span, selfType, traitId⟩]

end LoweringScope

/-- Every listed child with the definition that lists it, in order. -/
def listedParents (own : Nat) (defs : List LoweredDef) : List (ScopedId × ScopedId) :=
  defs.flatMap fun d => d.record.children.map fun child => (child, ⟨own, d.index⟩)

/-- Gives a definition without parent the first one that lists it as a child (`read_defs`). -/
def adoptParent (own : Nat) (listed : List (ScopedId × ScopedId)) (d : LoweredDef) : LoweredDef :=
  match d.record.parent with
  | some _ => d
  | none => { d with record := { d.record with parent := listed.lookup ⟨own, d.index⟩ } }

/-! ## Layer E: whole snapshots -/

/-- The records of a unit before global identifiers are assigned. -/
structure LoweredUnit where
  unit : UnitId
  space : Nat
  defs : List LoweredDef
  refs : List LoweredRef
  impls : List ImplRecord
  diagnostics : List Diagnostic
  deriving Repr, DecidableEq

/-- Lowers the records of a snapshot whose unit numbers are known. -/
def lowerRecords (c : LoweringScope) (unit : UnitId) (s : Snapshot) :
    Except IndexFault LoweredUnit := do
  -- the first list with something unfit in it decides the fault
  let defs ← (keptDefs [] s.defs).mapM c.definition
  let refs ← s.refs.mapM fun r => c.reference r.span (some r.target)
  let imports ← s.imports.mapM fun i => c.reference i.span i.target
  let impls ← s.relations.mapM (c.implementation s.impls)
  let lowered := defs.map (·.1)
  pure
    { unit := unit
      space := c.own
      defs := lowered.map (adoptParent c.own (listedParents c.own lowered))
      -- what definitions implement goes first, then what was written, then imports
      refs := defs.flatMap (·.2) ++ refs.flatten ++ imports.flatten
      impls := impls.flatten
      diagnostics := s.diagnostics.map fun d => { d with file := c.resolve d.file } }

/-- **Lowers a snapshot.** Namespaces stay assigned even if the snapshot is rejected. -/
def lower (names : Namespaces) (unit : UnitId) (s : Snapshot) :
    Namespaces × Except IndexFault LoweredUnit :=
  let (names, own) := names.intern unit
  -- number 0 is the analyzed unit itself
  match numberExterns names [(0, own)] s.externs with
  | (names, .error fault) => (names, .error fault)
  | (names, .ok numbers) => (names, lowerRecords ⟨own, numbers, s.directory, s.crateName⟩ unit s)

end CodeAtlas
