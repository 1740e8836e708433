import CodeAtlas.Index.Lowering
import CodeAtlas.Index.Record
import CodeAtlas.Index.View
import CodeAtlas.Ordered.Table

/-!
# The index

The records of each unit are replaced as a whole. New records take hold of their sites before the
old ones give theirs up, so a site that occurs in both keeps its identifier. A site has one
identifier for as long as at least one unit holds it. Serial numbers are never given out twice, so an
identifier that disappears never comes to denote another place.

## Architecture

- **Layer A**: sites and their identifiers;
- **Layer B**: merging and removing units.
-/

namespace CodeAtlas

/-! ## Layer A: sites -/

/-- A held site. -/
structure SiteEntry where
  site : Site
  id : GlobalId
  /-- How many records of indexed units are about the site. The count has no bound, where a counter
  of 32 bits would: no site is taken to be held more often than that. -/
  holders : Nat
  deriving Repr, DecidableEq, Inhabited

/-- **The held sites and the next serial number of each namespace.** Serial numbers have no bound;
where identifiers are packed into words, it is assumed that they fit 32 bits. -/
structure SiteTable where
  entries : List SiteEntry
  nextSerial : Table Nat Nat
  deriving Repr, DecidableEq

namespace SiteTable

/-- No site is held. -/
def empty : SiteTable := ⟨[], Table.empty⟩

instance : Inhabited SiteTable := ⟨empty⟩

/-- The entry of a site. -/
def find? (t : SiteTable) (s : Site) : Option SiteEntry := t.entries.find? fun e => e.site == s

/-- Holds a site once more. -/
def hold (s : Site) (e : SiteEntry) : SiteEntry :=
  if e.site == s then { e with holders := e.holders + 1 } else e

/-- Takes a hold on a site, with a new identifier in `space` on first sight. -/
def acquire (t : SiteTable) (space : Nat) (s : Site) : SiteTable × GlobalId :=
  match t.find? s with
  | some e => ({ t with entries := t.entries.map (hold s) }, e.id)
  | none =>
    -- serial numbers only go up, so no identifier is ever given out again
    let serial := t.nextSerial.getD space 0
    let id : GlobalId := ⟨space, serial⟩
    (⟨t.entries ++ [⟨s, id, 1⟩], t.nextSerial.insert space (serial + 1)⟩, id)

/-- Gives up one hold, and the entry with the last one. -/
def drop (s : Site) (e : SiteEntry) : Option SiteEntry :=
  if e.site == s then
    if e.holders ≤ 1 then none else some { e with holders := e.holders - 1 }
  else some e

/-- Gives up one hold on a site. -/
def release (t : SiteTable) (s : Site) : SiteTable :=
  { t with entries := t.entries.filterMap (drop s) }

/-- Gives up one hold for each listed site (`release_all`). -/
def releaseAll (t : SiteTable) (ss : List Site) : SiteTable := ss.foldl release t

end SiteTable

/-! ## Layer B: units -/

/-- How much a unit contributes. -/
structure MergeStats where
  defs : Nat
  refs : Nat
  impls : Nat
  /-- The generation of the view that contains the unit. -/
  generation : Nat
  deriving Repr, DecidableEq, Inhabited

/-- **The cross-unit index** (`AnalysisIndex`). -/
structure Index where
  names : Namespaces
  sites : SiteTable
  view : View
  deriving Repr, DecidableEq

namespace Index

/-- The index without units. -/
def empty : Index := ⟨Namespaces.empty, SiteTable.empty, View.empty⟩

instance : Inhabited Index := ⟨empty⟩

/-- Takes hold of the sites of definitions in order, and pairs each with its identifier. -/
def acquireAll (t : SiteTable) (space : Nat) :
    List LoweredDef → SiteTable × List (LoweredDef × GlobalId)
  | [] => (t, [])
  | d :: rest =>
    let (t, id) := t.acquire space d.record.site
    let (t, ids) := acquireAll t space rest
    (t, (d, id) :: ids)

/-- The first record of each identifier. -/
def firstRecords (seen : List GlobalId) :
    List (LoweredDef × GlobalId) → List (GlobalId × DefRecord)
  | [] => []
  | (d, id) :: rest =>
    if seen.contains id then firstRecords seen rest
    else (id, d.record) :: firstRecords (id :: seen) rest

/-- The records of a lowered unit whose definitions have identifiers (`build`). -/
def assemble (u : LoweredUnit) (ids : List (LoweredDef × GlobalId)) : UnitRecords :=
  { unit := u.unit
    space := u.space
    -- the first record of a site speaks for it, and every number of the unit leads to it
    defs := firstRecords [] ids
    locals := ids.map fun p => (p.1.index, p.2)
    sites := u.defs.map (·.record.site)
    refs := u.refs.map fun r => (r.target, r.span)
    occurrences :=
      (u.defs.map fun d => ⟨d.record.span, ⟨u.space, d.index⟩, true⟩)
        ++ u.refs.map fun r => ⟨r.span, r.target, false⟩
    impls := u.impls
    diagnostics := u.diagnostics }

/-- Replaces the records of a lowered unit. -/
def commit (x : Index) (u : LoweredUnit) : Index × MergeStats :=
  let (sites, ids) := acquireAll x.sites u.space u.defs
  let records := assemble u ids
  -- given up last: a site that is in both never runs out of holders
  let sites :=
    match x.view.units.get? u.unit with
    | some previous => sites.releaseAll previous.sites
    | none => sites
  let generation := x.view.generation + 1
  ({ x with sites := sites, view := ⟨x.view.units.insert u.unit records, generation⟩ },
    ⟨records.defs.length, records.refs.length, records.impls.length, generation⟩)

/-- **Replaces a unit's records by those of a snapshot** (`lower_and_merge`). A rejected snapshot
changes no answer. -/
def merge (x : Index) (unit : UnitId) (s : Snapshot) : Index × Except IndexFault MergeStats :=
  match lower x.names unit s with
  -- the namespaces that were assigned on the way stay assigned
  | (names, .error fault) => ({ x with names := names }, .error fault)
  | (names, .ok u) =>
    let (x, stats) := commit { x with names := names } u
    (x, .ok stats)

/-- **Drops a unit's records**, and says whether there were any (`remove_unit`). -/
def removeUnit (x : Index) (unit : UnitId) : Index × Bool :=
  match x.view.units.get? unit with
  | none => (x, false)
  | some records =>
    ({ x with
        sites := x.sites.releaseAll records.sites
        view := ⟨x.view.units.erase unit, x.view.generation + 1⟩ }, true)

/-- How an index is shown to developers. -/
def shown (x : Index) : String :=
  let units := x.view.units.size
  let generation := x.view.generation
  s!"AnalysisIndex \x7b units: {units}, generation: {generation} \x7d"

end Index

end CodeAtlas
