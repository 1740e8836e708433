import CodeAtlas.Index.View
import CodeAtlas.Proofs.Index.Lowering
import CodeAtlas.Proofs.Ordered.Table
import Mathlib.Data.List.Perm.Basic

/-!
# Queries under other names

Namespaces and identifiers are names: they are compared with each other and otherwise only handed
out. So if the records of two views are the same up to a renaming of namespaces `ρ` and one of
identifiers `π`, both views answer every query alike, up to `π`.

## Architecture

- **Layer A**: renaming of records, definitions and views;
- **Layer B**: resolving and single definitions;
- **Layer C**: cursors;
- **Layer D**: relations between definitions;
- **Layer E**: lists of definitions, which are sorted by identifier on the way;
- **Layer F**: views that agree.
-/

namespace CodeAtlas

/-! ## Layer A: renaming -/

/-- A name in a file with its namespace renumbered. -/
def Occurrence.rename (ρ : Equiv.Perm Nat) (o : Occurrence) : Occurrence :=
  { o with target := o.target.rename ρ }

/-- The records of a unit under other names. -/
def UnitRecords.rename (ρ : Equiv.Perm Nat) (π : Equiv.Perm GlobalId) (r : UnitRecords) :
    UnitRecords :=
  { r with
    space := ρ r.space
    defs := r.defs.map fun p => (π p.1, p.2.rename ρ)
    locals := r.locals.map fun p => (p.1, π p.2)
    refs := r.refs.map fun p => (p.1.rename ρ, p.2)
    occurrences := r.occurrences.map (Occurrence.rename ρ)
    impls := r.impls.map (ImplRecord.rename ρ) }

/-- An answered definition under another name. -/
def Definition.rename (π : Equiv.Perm GlobalId) (d : Definition) : Definition :=
  { d with id := π d.id, parent := d.parent.map π }

/-- The name under a cursor with its definition under another name. -/
def Hover.rename (π : Equiv.Perm GlobalId) (h : Hover) : Hover :=
  { h with definition := h.definition.rename π }

/-- **The second view is the first one under other names.** -/
structure View.Renamed (ρ : Equiv.Perm Nat) (π : Equiv.Perm GlobalId) (v w : View) : Prop where
  units : w.indexedUnits = v.indexedUnits
  records : w.records = v.records.map (UnitRecords.rename ρ π)
  null : π GlobalId.null = GlobalId.null

namespace View.Renamed

variable {ρ : Equiv.Perm Nat} {π : Equiv.Perm GlobalId} {v w : View}

/-! ## Layer B: resolving -/

private theorem lookup_map_key {α β : Type} (π : Equiv.Perm GlobalId) (f : α → β) (id : GlobalId)
    (ps : List (GlobalId × α)) :
    (ps.map fun p => (π p.1, f p.2)).lookup (π id) = (ps.lookup id).map f := by
  induction ps with
  | nil => rfl
  | cons p rest ih =>
    obtain ⟨j, a⟩ := p
    have hkey : (π id == π j) = (id == j) := by
      rw [Bool.eq_iff_iff]
      simp
    rw [List.map_cons, List.lookup_cons, List.lookup_cons, hkey]
    cases id == j with
    | true => rfl
    | false => exact ih

theorem resolve (h : Renamed ρ π v w) (i : ScopedId) :
    w.resolve (i.rename ρ) = (v.resolve i).map π := by
  -- renumbering is injective, so the same unit is found
  have hsame : ((fun r : UnitRecords => r.space == ρ i.space) ∘ UnitRecords.rename ρ π) =
      fun r => r.space == i.space := by
    funext r
    rw [Bool.eq_iff_iff]
    simp [UnitRecords.rename]
  simp only [View.resolve, h.records, ScopedId.rename_space, ScopedId.rename_index,
    List.find?_map, hsame]
  cases v.records.find? fun r => r.space == i.space with
  | none => rfl
  | some r => exact lookup_map_value π i.index r.locals

theorem bind_resolve (h : Renamed ρ π v w) (i : Option ScopedId) :
    (i.map (ScopedId.rename ρ)).bind w.resolve = (i.bind v.resolve).map π := by
  cases i with
  | none => rfl
  | some i => exact h.resolve i

theorem record? (h : Renamed ρ π v w) (id : GlobalId) :
    w.record? (π id) = (v.record? id).map fun p => (p.1.rename ρ π, p.2.rename ρ) := by
  simp only [View.record?, h.records, List.findSome?_map]
  induction v.records with
  | nil => rfl
  | cons r rest ih =>
    have hlookup :
        (r.rename ρ π).defs.lookup (π id) = (r.defs.lookup id).map (DefRecord.rename ρ) :=
      lookup_map_key π (DefRecord.rename ρ) id r.defs
    simp only [List.findSome?_cons, Function.comp_apply, hlookup]
    cases r.defs.lookup id with
    | none => exact ih
    | some d => rfl

theorem toDefinition (h : Renamed ρ π v w) (id : GlobalId) (r : UnitRecords) (d : DefRecord) :
    w.toDefinition (π id) (r.rename ρ π) (d.rename ρ) = (v.toDefinition id r d).rename π := by
  simp only [View.toDefinition, Definition.rename, DefRecord.rename, UnitRecords.rename,
    h.bind_resolve]

theorem isNull (h : Renamed ρ π v w) (id : GlobalId) : (π id).isNull = id.isNull := by
  rw [Bool.eq_iff_iff]
  simp only [GlobalId.isNull, beq_iff_eq]
  constructor
  · intro hid
    exact π.injective (hid.trans h.null.symm)
  · rintro rfl
    exact h.null

theorem definition (h : Renamed ρ π v w) (id : GlobalId) :
    w.definition (π id) = (v.definition id).map (Definition.rename π) := by
  simp only [View.definition, h.isNull, h.record?]
  split
  · rfl
  · cases v.record? id with
    | none => rfl
    | some p => simp [h.toDefinition]

/-! ## Layer C: cursors -/

theorem occurrencesAt (h : Renamed ρ π v w) (file : Path) (p : Position) :
    w.occurrencesAt file p = (v.occurrencesAt file p).map (Occurrence.rename ρ) := by
  unfold View.occurrencesAt
  -- occurrences are compared by their spans, which have no names
  rw [List.map_mergeSort]
  · simp only [h.records, List.flatMap_map, List.map_flatMap, UnitRecords.rename, List.filter_map]
    rfl
  · intros
    rfl

theorem occurrenceAt (h : Renamed ρ π v w) (file : Path) (p : Position) :
    w.occurrenceAt file p = (v.occurrenceAt file p).map fun q => (q.1, π q.2) := by
  unfold View.occurrenceAt
  rw [h.occurrencesAt, List.findSome?_map]
  induction v.occurrencesAt file p with
  | nil => rfl
  | cons o rest ih =>
    have hres : w.resolve (o.rename ρ).target = (v.resolve o.target).map π := h.resolve o.target
    simp only [List.findSome?_cons, Function.comp_apply, hres]
    cases v.resolve o.target with
    | none => exact ih
    | some id => rfl

theorem idAt (h : Renamed ρ π v w) (file : Path) (p : Position) :
    w.idAt file p = (v.idAt file p).map π := by
  unfold View.idAt
  rw [h.occurrenceAt]
  cases v.occurrenceAt file p <;> rfl

theorem definitionAt (h : Renamed ρ π v w) (file : Path) (p : Position) :
    w.definitionAt file p = (v.definitionAt file p).map (Definition.rename π) := by
  unfold View.definitionAt
  rw [h.idAt]
  cases v.idAt file p with
  | none => rfl
  | some id => exact h.definition id

theorem hoverAt (h : Renamed ρ π v w) (file : Path) (p : Position) :
    w.hoverAt file p = (v.hoverAt file p).map (Hover.rename π) := by
  unfold View.hoverAt
  rw [h.occurrenceAt]
  cases v.occurrenceAt file p with
  | none => rfl
  | some q =>
    obtain ⟨span, id⟩ := q
    simp only [Option.map_some, Option.bind_eq_bind, Option.bind_some, h.definition]
    cases v.definition id <;> rfl

/-! ## Layer D: relations -/

private theorem numbersOf_rename (r : UnitRecords) (id : GlobalId) :
    View.UnitRecords.numbersOf (r.rename ρ π) (π id) =
      (View.UnitRecords.numbersOf r id).map (ScopedId.rename ρ) := by
  have hsame : ((fun l : UInt32 × GlobalId => l.2 == π id) ∘ fun l : UInt32 × GlobalId =>
      (l.1, π l.2)) = fun l => l.2 == id := by
    funext l
    rw [Bool.eq_iff_iff]
    simp
  simp only [View.UnitRecords.numbersOf, UnitRecords.rename, List.filter_map, hsame, List.map_map]
  rfl

private theorem refs_rename (r : UnitRecords) (t : ScopedId) :
    ((r.rename ρ π).refs.filter fun f => f.1 == t.rename ρ).map (·.2) =
      (r.refs.filter fun f => f.1 == t).map (·.2) := by
  have hsame : ((fun f : ScopedId × Span => f.1 == t.rename ρ) ∘ fun f : ScopedId × Span =>
      (f.1.rename ρ, f.2)) = fun f => f.1 == t := by
    funext f
    rw [Bool.eq_iff_iff]
    simp
  simp only [UnitRecords.rename, List.filter_map, hsame, List.map_map]
  rfl

theorem referencesTo (h : Renamed ρ π v w) (id : GlobalId) :
    w.referencesTo (π id) = v.referencesTo id := by
  simp only [View.referencesTo, h.records, List.flatMap_map, numbersOf_rename, refs_rename,
    List.flatMap_assoc]

theorem findImpls (h : Renamed ρ π v w) (id : GlobalId) : w.findImpls (π id) = v.findImpls id := by
  have hsame : ∀ i : ImplRecord,
      (w.resolve (i.rename ρ).selfType == some (π id) ||
        (i.rename ρ).traitId.bind w.resolve == some (π id)) =
      (v.resolve i.selfType == some id || i.traitId.bind v.resolve == some id) := by
    intro i
    have hinj : ∀ o : Option GlobalId, (o.map π == some (π id)) = (o == some id) := by
      intro o
      rw [Bool.eq_iff_iff]
      simp
    simp only [ImplRecord.rename, h.resolve, h.bind_resolve, hinj]
  -- the same blocks are hit, whatever the identifiers are called
  have hhits : ∀ r : UnitRecords,
      (((r.rename ρ π).impls.filter fun i =>
        w.resolve i.selfType == some (π id) || i.traitId.bind w.resolve == some (π id)).map
          (·.span)) =
      (r.impls.filter fun i =>
        v.resolve i.selfType == some id || i.traitId.bind v.resolve == some id).map (·.span) := by
    intro r
    simp only [UnitRecords.rename, List.filter_map, List.map_map]
    refine congrArg₂ _ rfl (List.filter_congr ?_)
    intro i _
    exact hsame i
  simp only [View.findImpls, h.records, List.flatMap_map, List.map_flatMap, hhits]

private theorem eraseDups_map (π : Equiv.Perm GlobalId) (n : Nat) (ids : List GlobalId)
    (hn : ids.length ≤ n) : (ids.map π).eraseDups = ids.eraseDups.map π := by
  -- each round filters the rest of the list, so the induction is on a bound of its length
  induction n generalizing ids with
  | zero =>
    obtain rfl := List.length_eq_zero_iff.1 (Nat.le_zero.1 hn)
    rfl
  | succ n ih =>
    cases ids with
    | nil => rfl
    | cons id rest =>
      have hsame : ((fun b => !b == π id) ∘ π) = fun b => !b == id := by
        funext b
        simp
      have hlen : (rest.filter fun b => !b == id).length ≤ n :=
        Nat.le_trans (List.length_filter_le ..) (Nat.le_of_succ_le_succ hn)
      rw [List.map_cons, List.eraseDups_cons, List.eraseDups_cons, List.filter_map, hsame,
        ih _ hlen, List.map_cons]

theorem children (h : Renamed ρ π v w) (id : GlobalId) :
    w.children (π id) = (v.children id).map (Definition.rename π) := by
  have hresolved : ∀ is : List ScopedId,
      (is.map (ScopedId.rename ρ)).filterMap w.resolve = (is.filterMap v.resolve).map π := by
    intro is
    rw [List.filterMap_map, List.map_filterMap]
    refine List.filterMap_congr ?_
    intro i _
    exact h.resolve i
  have hdefined : ∀ ids : List GlobalId, (ids.map π).filterMap w.definition =
      (ids.filterMap v.definition).map (Definition.rename π) := by
    intro ids
    rw [List.filterMap_map, List.map_filterMap]
    refine List.filterMap_congr ?_
    intro i _
    exact h.definition i
  -- the record lists the same children, which resolve and are defined under their new names
  simp only [View.children, h.record?]
  cases v.record? id with
  | none => rfl
  | some p =>
    simp only [Option.map_some, DefRecord.rename, hresolved]
    rw [eraseDups_map π _ _ (Nat.le_refl _), hdefined]

theorem climb (h : Renamed ρ π v w) (fuel : Nat) (seen : List GlobalId) (next : Option GlobalId) :
    w.climb fuel (seen.map π) (next.map π) =
      (v.climb fuel seen next).map (Definition.rename π) := by
  induction fuel generalizing seen next with
  | zero => rfl
  | succ fuel ih =>
    cases next with
    | none => rfl
    | some id =>
      -- a cycle is noticed at the same definition
      have hseen : (seen.map π).contains (π id) = seen.contains id := by
        rw [Bool.eq_iff_iff]
        simp
      simp only [Option.map_some, View.climb, hseen, h.definition]
      split
      · rfl
      · cases v.definition id with
        | none => rfl
        | some d => exact congrArg (_ :: ·) (ih (id :: seen) d.parent)

theorem parents (h : Renamed ρ π v w) (id : GlobalId) :
    w.parents (π id) = (v.parents id).map (Definition.rename π) := by
  -- both views climb with the same fuel
  have hcount : w.defCount = v.defCount := by
    simp only [View.defCount, h.records, List.map_map]
    refine congrArg _ (List.map_congr_left ?_)
    intro r _
    simp [UnitRecords.rename]
  have hnext : (w.definition (π id)).bind (·.parent) =
      ((v.definition id).bind (·.parent)).map π := by
    rw [h.definition]
    cases v.definition id <;> rfl
  unfold View.parents
  rw [hcount, hnext, List.map_reverse, ← h.climb]
  rfl

end View.Renamed

/-! ## Layer E: lists of definitions -/

instance : Std.TransOrd GlobalId :=
  inferInstanceAs (Std.TransCmp (compareLex (compareOn GlobalId.space) (compareOn GlobalId.serial)))

instance : Std.LawfulEqOrd GlobalId where
  eq_of_compare {a b} h := by
    have hlex : compareLex (compareOn GlobalId.space) (compareOn GlobalId.serial) a b = .eq := h
    simp only [compareLex_eq_eq, compareOn, Nat.compare_eq_eq] at hlex
    obtain ⟨hspace, hserial⟩ := hlex
    cases a
    cases b
    simp_all

namespace View

/-- Notes a record of `r` unless its identifier has one. -/
private def note (v : View) (r : UnitRecords) (found : Table GlobalId Definition)
    (d : GlobalId × DefRecord) : Table GlobalId Definition :=
  if found.contains d.1 then found else found.insert d.1 (v.toDefinition d.1 r d.2)

private theorem get?_note (v : View) (r : UnitRecords) (found : Table GlobalId Definition)
    (d : GlobalId × DefRecord) (id : GlobalId) :
    (v.note r found d).get? id =
      (found.get? id).or (if id = d.1 then some (v.toDefinition d.1 r d.2) else none) := by
  unfold note
  by_cases hid : id = d.1
  · subst hid
    cases hget : found.get? d.1 with
    | none => simp [Table.contains, hget]
    | some a => simp [Table.contains, hget]
  · rw [if_neg hid, Option.or_none]
    split
    · rfl
    · exact Table.get?_insert_of_ne hid _ _

private theorem get?_noteAll (v : View) (r : UnitRecords) (ds : List (GlobalId × DefRecord))
    (found : Table GlobalId Definition) (id : GlobalId) :
    (ds.foldl (v.note r) found).get? id =
      (found.get? id).or ((ds.lookup id).map (v.toDefinition id r)) := by
  induction ds generalizing found with
  | nil => simp
  | cons d rest ih =>
    obtain ⟨j, d⟩ := d
    rw [List.foldl_cons, ih, get?_note, List.lookup_cons, Option.or_assoc]
    by_cases hid : id = j
    · simp [hid]
    · have hne : (id == j) = false := by simpa using hid
      simp [hid, hne]

private theorem get?_noteUnits (v : View) (keep : DefRecord → Bool) (rs : List UnitRecords)
    (found : Table GlobalId Definition) (id : GlobalId) :
    (rs.foldl (fun found r => (r.defs.filter fun d => keep d.2).foldl (v.note r) found) found).get?
        id =
      (found.get? id).or (rs.findSome? fun r =>
        ((r.defs.filter fun d => keep d.2).lookup id).map (v.toDefinition id r)) := by
  induction rs generalizing found with
  | nil => simp
  | cons r rest ih =>
    rw [List.foldl_cons, ih, get?_noteAll, List.findSome?_cons, Option.or_assoc]
    cases (r.defs.filter fun d => keep d.2).lookup id <;> simp

/-- **The first unit's record wins**: what is collected for an identifier. -/
theorem get?_collect (v : View) (keep : DefRecord → Bool) (id : GlobalId) :
    (v.collect keep).get? id = v.records.findSome? fun r =>
      ((r.defs.filter fun d => keep d.2).lookup id).map (v.toDefinition id r) := by
  refine (v.get?_noteUnits keep v.records Table.empty id).trans ?_
  rw [Table.get?_empty, Option.none_or]

theorem ordered_collect (v : View) (keep : DefRecord → Bool) : (v.collect keep).Ordered := by
  have hnote : ∀ r (found : Table GlobalId Definition) d, found.Ordered →
      (v.note r found d).Ordered := by
    intro r found d hfound
    unfold note
    split
    · exact hfound
    · exact hfound.insert _ _
  unfold collect
  refine List.foldlRecOn v.records _ Table.ordered_empty ?_
  intro found hfound r _
  refine List.foldlRecOn (r.defs.filter fun d => keep d.2) _ hfound ?_
  intro found hfound d _
  exact hnote r found d hfound

end View

namespace View.Renamed

variable {ρ : Equiv.Perm Nat} {π : Equiv.Perm GlobalId} {v w : View}

theorem get?_collect (h : Renamed ρ π v w) {keep : DefRecord → Bool}
    (hkeep : ∀ d, keep (d.rename ρ) = keep d) (id : GlobalId) :
    (w.collect keep).get? (π id) = ((v.collect keep).get? id).map (Definition.rename π) := by
  rw [View.get?_collect, View.get?_collect, h.records, List.findSome?_map]
  -- the first record that has the identifier decides, before and after the renaming
  induction v.records with
  | nil => rfl
  | cons r rest ih =>
    have hlookup : ((r.rename ρ π).defs.filter fun d => keep d.2).lookup (π id) =
        ((r.defs.filter fun d => keep d.2).lookup id).map (DefRecord.rename ρ) := by
      have hsame : ((fun d : GlobalId × DefRecord => keep d.2) ∘ fun d : GlobalId × DefRecord =>
          (π d.1, d.2.rename ρ)) = fun d => keep d.2 := by
        funext d
        exact hkeep d.2
      simp only [UnitRecords.rename, List.filter_map, hsame]
      exact lookup_map_key π (DefRecord.rename ρ) id _
    simp only [List.findSome?_cons, Function.comp_apply, hlookup]
    cases (r.defs.filter fun d => keep d.2).lookup id with
    | none => exact ih
    | some d => simp [h.toDefinition]

theorem collect_values (h : Renamed ρ π v w) {keep : DefRecord → Bool}
    (hkeep : ∀ d, keep (d.rename ρ) = keep d) :
    (w.collect keep).values.Perm ((v.collect keep).values.map (Definition.rename π)) :=
  (v.ordered_collect keep).values_perm π _ (w.ordered_collect keep) (h.get?_collect hkeep)

/-- Sorting by whatever order keeps the definitions. -/
private theorem sorted_collect (h : Renamed ρ π v w) {keep : DefRecord → Bool}
    (hkeep : ∀ d, keep (d.rename ρ) = keep d) (le : Definition → Definition → Bool) :
    ((w.collect keep).values.mergeSort le).Perm
      (((v.collect keep).values.mergeSort le).map (Definition.rename π)) := by
  refine (List.mergeSort_perm _ le).trans ((h.collect_values hkeep).trans ?_)
  exact ((List.mergeSort_perm _ le).map _).symm

theorem symbols (h : Renamed ρ π v w) (file : Path) :
    (w.symbols file).Perm ((v.symbols file).map (Definition.rename π)) :=
  h.sorted_collect (fun _ => rfl) _

theorem search (h : Renamed ρ π v w) (name : String) :
    (w.search name).Perm ((v.search name).map (Definition.rename π)) :=
  h.sorted_collect (fun _ => rfl) _

theorem searchLead (h : Renamed ρ π v w) (lead : String) :
    (w.searchLead lead).Perm ((v.searchLead lead).map (Definition.rename π)) :=
  h.sorted_collect (fun _ => rfl) _

theorem diagnostics (h : Renamed ρ π v w) (file : Path) :
    w.diagnostics file = v.diagnostics file := by
  simp only [View.diagnostics, h.records, List.flatMap_map, UnitRecords.rename]

end View.Renamed

/-! ## Layer F: agreement -/

/-- **Two views give the same answers up to the bijection `π` of identifiers.** Definitions that
are listed by symbols and searches may come in another order. -/
structure View.Agrees (π : Equiv.Perm GlobalId) (v w : View) : Prop where
  indexedUnits : w.indexedUnits = v.indexedUnits
  definition : ∀ id, w.definition (π id) = (v.definition id).map (Definition.rename π)
  idAt : ∀ file p, w.idAt file p = (v.idAt file p).map π
  definitionAt : ∀ file p, w.definitionAt file p = (v.definitionAt file p).map (Definition.rename π)
  hoverAt : ∀ file p, w.hoverAt file p = (v.hoverAt file p).map (Hover.rename π)
  referencesTo : ∀ id, w.referencesTo (π id) = v.referencesTo id
  findImpls : ∀ id, w.findImpls (π id) = v.findImpls id
  children : ∀ id, w.children (π id) = (v.children id).map (Definition.rename π)
  parents : ∀ id, w.parents (π id) = (v.parents id).map (Definition.rename π)
  diagnostics : ∀ file, w.diagnostics file = v.diagnostics file
  symbols : ∀ file, (w.symbols file).Perm ((v.symbols file).map (Definition.rename π))
  search : ∀ name, (w.search name).Perm ((v.search name).map (Definition.rename π))
  searchLead : ∀ lead, (w.searchLead lead).Perm ((v.searchLead lead).map (Definition.rename π))

/-- **Renamed views agree.** -/
theorem View.Renamed.agrees {ρ : Equiv.Perm Nat} {π : Equiv.Perm GlobalId} {v w : View}
    (h : View.Renamed ρ π v w) : View.Agrees π v w where
  indexedUnits := h.units
  definition := h.definition
  idAt := h.idAt
  definitionAt := h.definitionAt
  hoverAt := h.hoverAt
  referencesTo := h.referencesTo
  findImpls := h.findImpls
  children := h.children
  parents := h.parents
  diagnostics := h.diagnostics
  symbols := h.symbols
  search := h.search
  searchLead := h.searchLead

end CodeAtlas
