import CodeAtlas.Index.Record
import CodeAtlas.Ordered.KeySet
import CodeAtlas.Ordered.Sorting
import CodeAtlas.Ordered.Table
import CodeAtlas.Path.Basic
import CodeAtlas.Text.Lowercase

/-!
# Views of the index

A view is an immutable state of the index; queries on one view agree with each other. References
are kept with the unit and the number they point at and resolved when a query is asked, so a
reference that was merged before its target shows up once the target is there.

## Architecture

- **Layer A**: the records of a unit;
- **Layer B**: resolving identifiers;
- **Layer C**: single definitions and what is under a cursor;
- **Layer D**: references, implementations, children and parents;
- **Layer E**: symbols, searches and diagnostics.
-/

namespace CodeAtlas

/-! ## Layer A: the records of a unit -/

/-- **Everything one unit contributes** (`UnitAnalysis`). -/
structure UnitRecords where
  unit : UnitId
  space : Nat
  /-- The first record of each identifier, in order. -/
  defs : List (GlobalId × DefRecord)
  /-- The identifier of each number of the unit. -/
  locals : List (UInt32 × GlobalId)
  /-- The sites held for as long as these records are indexed. -/
  sites : List Site
  /-- References in order. -/
  refs : List (ScopedId × Span)
  /-- Names of definitions in order, then references in order. -/
  occurrences : List Occurrence
  impls : List ImplRecord
  diagnostics : List Diagnostic
  deriving Repr, DecidableEq

/-- **A consistent state of the index** (`IndexSnapshot`). -/
structure View where
  units : Table UnitId UnitRecords
  /-- The number of changes so far, which is taken to fit the 64 bits of a counter. -/
  generation : Nat
  deriving Repr, DecidableEq

namespace View

/-- The view without units. -/
def empty : View := ⟨Table.empty, 0⟩

instance : Inhabited View := ⟨empty⟩

/-- The indexed units, in order (`indexed_units`). -/
def indexedUnits (v : View) : List UnitId := v.units.keys

/-- Whether a unit is indexed (`contains_unit`). -/
def containsUnit (v : View) (u : UnitId) : Bool := v.units.contains u

/-- The records of all units, in the order of the units. -/
def records (v : View) : List UnitRecords := v.units.values

/-! ## Layer B: resolving -/

/-- The identifier that a number of an indexed unit stands for. -/
def resolve (v : View) (i : ScopedId) : Option GlobalId := do
  let r ← v.records.find? fun r => r.space == i.space
  r.locals.lookup i.index

/-- The first unit with a record of an identifier, and the record. -/
def record? (v : View) (id : GlobalId) : Option (UnitRecords × DefRecord) :=
  v.records.findSome? fun r => (r.defs.lookup id).map fun d => (r, d)

/-- A record as queries answer it (`to_definition`). -/
def toDefinition (v : View) (id : GlobalId) (r : UnitRecords) (d : DefRecord) : Definition :=
  { id := id
    kind := d.kind
    name := d.name
    qualname := d.qualname
    span := d.span
    signature := d.signature
    docs := d.docs
    parent := d.parent.bind v.resolve
    unit := r.unit }

/-! ## Layer C: definitions and cursors -/

/-- The definition of an identifier. -/
def definition (v : View) (id : GlobalId) : Option Definition :=
  if id.isNull then none
  else (v.record? id).map fun p => v.toDefinition id p.1 p.2

/-- The names at a position, innermost first; a definition goes before a reference of its width. -/
def occurrencesAt (v : View) (file : Path) (p : Position) : List Occurrence :=
  let file := file.normalize
  let hits := v.records.flatMap fun r =>
    r.occurrences.filter fun o => o.span.file == file && o.span.range.contains p
  -- stable: names of the same width stay in the order of their units
  hits.mergeSort fun a b =>
    (compareLex (compareOn (·.span.width)) (compareOn fun o => !o.isDef) a b) != .gt

/-- The innermost name at a position that resolves, and what it denotes (`occurrence_at`). -/
def occurrenceAt (v : View) (file : Path) (p : Position) : Option (Span × GlobalId) :=
  (v.occurrencesAt file p).findSome? fun o => (v.resolve o.target).map fun id => (o.span, id)

/-- The identifier at a position (`id_at`). -/
def idAt (v : View) (file : Path) (p : Position) : Option GlobalId :=
  (v.occurrenceAt file p).map (·.2)

/-- The definition of the name at a position (`definition_at`). -/
def definitionAt (v : View) (file : Path) (p : Position) : Option Definition :=
  (v.idAt file p).bind v.definition

/-- The name at a position and its definition (`hover_at`). -/
def hoverAt (v : View) (file : Path) (p : Position) : Option Hover := do
  let (span, id) ← v.occurrenceAt file p
  let d ← v.definition id
  pure ⟨span, d⟩

/-! ## Layer D: relations between definitions -/

/-- The numbers of a unit that stand for an identifier. -/
def UnitRecords.numbersOf (r : UnitRecords) (id : GlobalId) : List ScopedId :=
  (r.locals.filter fun l => l.2 == id).map fun l => ⟨r.space, l.1⟩

/-- Every reference to an identifier from any unit, in order and without repetition
(`references_to`). -/
def referencesTo (v : View) (id : GlobalId) : List Span :=
  -- every unit that compiles the place has a number for it, and references go by numbers
  let targets := v.records.flatMap fun r => UnitRecords.numbersOf r id
  let spans := targets.flatMap fun t =>
    v.records.flatMap fun r => (r.refs.filter fun f => f.1 == t).map (·.2)
  (KeySet.ofList spans).toList

/-- The implementation blocks of a type or a trait, in order and without repetition
(`find_impls`). -/
def findImpls (v : View) (id : GlobalId) : List Span :=
  let hits := v.records.flatMap fun r =>
    r.impls.filter fun i =>
      v.resolve i.selfType == some id || i.traitId.bind v.resolve == some id
  (KeySet.ofList (hits.map (·.span))).toList

/-- The definitions that a definition lists as its children. -/
def children (v : View) (id : GlobalId) : List Definition :=
  match v.record? id with
  | none => []
  | some (_, d) => ((d.children.filterMap v.resolve).eraseDups).filterMap v.definition

/-- Follows parents from `next`, until there is none or one comes up again. -/
def climb (v : View) : Nat → List GlobalId → Option GlobalId → List Definition
  | 0, _, _ => []
  | _ + 1, _, none => []
  | fuel + 1, seen, some id =>
    if seen.contains id then []
    else
      match v.definition id with
      | none => []
      | some d => d :: climb v fuel (id :: seen) d.parent

/-- The number of definition records. -/
def defCount (v : View) : Nat := (v.records.map fun r => r.defs.length).foldl (· + ·) 0

/-- The definitions around a definition, outermost first. -/
def parents (v : View) (id : GlobalId) : List Definition :=
  -- no more definitions can come up than there are records
  (v.climb (v.defCount + 1) [id] ((v.definition id).bind (·.parent))).reverse

/-! ## Layer E: lists -/

/-- The definitions that `keep` selects, the first unit's record of each, ordered by identifier
(`collect_named`). -/
def collect (v : View) (keep : DefRecord → Bool) : Table GlobalId Definition :=
  v.records.foldl
    (fun found r =>
      (r.defs.filter fun d => keep d.2).foldl
        (fun found d =>
          -- units come in order, so the record that is there is that of an earlier one
          if found.contains d.1 then found else found.insert d.1 (v.toDefinition d.1 r d.2))
        found)
    Table.empty

/-- The definitions in a file, ordered by place. -/
def symbols (v : View) (file : Path) : List Definition :=
  let file := file.normalize
  sortBy (·.span) (v.collect fun d => d.span.file == file).values

/-- Definitions ordered by name, then qualified name, then place. -/
def sortedByName (ds : List Definition) : List Definition :=
  ds.mergeSort fun a b =>
    compareLex (compareOn (·.name)) (compareLex (compareOn (·.qualname)) (compareOn (·.span))) a b
      != .gt

/-- The definitions with a given name. -/
def search (v : View) (name : String) : List Definition :=
  sortedByName (v.collect fun d => d.name == name).values

/-- Whether a name starts with a text, whatever the case. -/
def hasLead (lead name : String) : Bool :=
  !name.isEmpty && (lowercase lead).toList.isPrefixOf (lowercase name).toList

/-- The definitions whose name starts with a text, whatever the case (`search_prefix`). -/
def searchLead (v : View) (lead : String) : List Definition :=
  sortedByName (v.collect fun d => hasLead lead d.name).values

/-- The diagnostics of a file from all units; neighbours that are equal are listed once. -/
def diagnostics (v : View) (file : Path) : List Diagnostic :=
  let file := file.normalize
  let found := v.records.flatMap fun r => r.diagnostics.filter fun d => d.file == file
  -- diagnostics may differ in what they are not sorted by, and then equal ones need not meet
  let sorted := found.mergeSort fun a b =>
    compareLex (compareOn (·.range)) (compareLex (compareOn (·.message)) (compareOn (·.code))) a b
      != .gt
  dropRepeats (fun a b => a == b) sorted

end View

end CodeAtlas
