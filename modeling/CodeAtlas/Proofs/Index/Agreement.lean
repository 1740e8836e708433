import CodeAtlas.Proofs.Index.Identifiers
import CodeAtlas.Proofs.Index.Independence

/-!
# Agreement of the queries

Every query walks the records of the units on its own, by number, by place or by name, and takes the
first record that suits it. Their answers still belong together: whatever a query answers about an
identifier is what `definition` answers about it. This rests on one fact that no single unit can
provide, namely that all records of an identifier, from all units, are about one site; so a filter
that looks at the file or the name of records keeps all records of an identifier or none.

## Architecture

- **Layer A**: coherent views, and that histories lead to coherent views;
- **Layer B**: numbers, cursors and single definitions;
- **Layer C**: children and parents;
- **Layer D**: symbols and searches;
- **Layer E**: the main result.
-/

namespace CodeAtlas

/-! ## Layer A: coherent views -/

/-- Records of one identifier are about one site. -/
def View.OneSite (v : View) : Prop :=
  ∀ r ∈ v.records, ∀ r' ∈ v.records, ∀ id d d',
    (id, d) ∈ r.defs → (id, d') ∈ r'.defs → d.site = d'.site

/-- **What the records of all units have to satisfy** for the queries to agree. -/
structure View.Coherent (v : View) : Prop where
  /-- The unit of a number has a record of the identifier that the number stands for. -/
  recorded : ∀ r ∈ v.records, ∀ n id, (n, id) ∈ r.locals → ∃ d, (id, d) ∈ r.defs
  one_site : v.OneSite
  /-- There is no record of the identifier of nothing. -/
  not_null : ∀ r ∈ v.records, ∀ d, (GlobalId.null, d) ∉ r.defs

/-- Each identifier that was not seen before has a first record. -/
theorem Index.exists_mem_firstRecords {seen : List GlobalId} {ids : List (LoweredDef × GlobalId)}
    {ld : LoweredDef} {id : GlobalId} (hmem : (ld, id) ∈ ids) (hseen : id ∉ seen) :
    ∃ d, (id, d) ∈ firstRecords seen ids := by
  induction ids generalizing seen with
  | nil => cases hmem
  | cons p rest ih =>
    obtain ⟨ld', j⟩ := p
    by_cases hj : id = j
    · subst hj
      have hhead : firstRecords seen ((ld', id) :: rest) =
          (id, ld'.record) :: firstRecords (id :: seen) rest := by
        simp [firstRecords, hseen]
      rw [hhead]
      exact ⟨ld'.record, List.mem_cons_self ..⟩
    · have hrest : (ld, id) ∈ rest := by
        rcases List.mem_cons.1 hmem with heq | hrest
        · exact absurd (Prod.mk.inj heq).2 hj
        · exact hrest
      simp only [firstRecords]
      split
      · exact ih hrest hseen
      · -- `j` counts as seen from here on, which `id` is not
        have hnew : id ∉ j :: seen := by
          simp [hj, hseen]
        obtain ⟨d, hd⟩ := ih hrest hnew
        exact ⟨d, List.mem_cons_of_mem _ hd⟩

theorem Ledger.Sound.oneSite {t : Ledger} (h : t.Sound) : t.index.view.OneSite := by
  intro r hr r' hr' id d d' hd hd'
  have hden : t.index.view.Denotes id d.site := ⟨r, hr, .inl ⟨d, hd, rfl⟩⟩
  have hden' : t.index.view.Denotes id d'.site := ⟨r', hr', .inl ⟨d', hd', rfl⟩⟩
  obtain ⟨hheld, hid⟩ := (h.denotes_iff id d.site).1 hden
  obtain ⟨hheld', hid'⟩ := (h.denotes_iff id d'.site).1 hden'
  exact h.proper.idOf_injective hheld hheld' (hid.symm.trans hid')

/-- **Histories lead to coherent views**, as long as there are namespaces left. -/
theorem Ledger.Sound.coherent {t : Ledger} (h : t.Sound)
    (hunits : t.index.names.units.length < 2 ^ 32) : t.index.view.Coherent where
  recorded := by
    intro r hr n id hn
    obtain ⟨l, rfl⟩ := exists_reflected h hr
    -- numbers and records are made of the same pairs
    obtain ⟨p, hp, heq⟩ := List.mem_map.1 hn
    obtain ⟨-, rfl⟩ := Prod.mk.inj heq
    exact Index.exists_mem_firstRecords hp List.not_mem_nil
  one_site := h.oneSite
  not_null := by
    intro r hr d hd
    have hden : t.index.view.Denotes GlobalId.null d.site := ⟨r, hr, .inl ⟨d, hd, rfl⟩⟩
    obtain ⟨hheld, hid⟩ := (h.denotes_iff GlobalId.null d.site).1 hden
    exact h.idOf_ne_null hunits hheld hid.symm

namespace View

variable {v : View}

/-! ## Layer B: numbers, cursors and single definitions -/

private theorem mem_of_lookup {κ α : Type} [BEq κ] [LawfulBEq κ] {es : List (κ × α)} {k : κ} {a : α}
    (h : es.lookup k = some a) : (k, a) ∈ es := by
  obtain ⟨front, back, rfl, -⟩ := List.lookup_eq_some_iff.1 h
  exact List.mem_append_right _ (List.mem_cons_self ..)

private theorem exists_lookup {κ α : Type} [BEq κ] [LawfulBEq κ] {es : List (κ × α)} {k : κ} {a : α}
    (h : (k, a) ∈ es) : ∃ b, es.lookup k = some b :=
  Option.isSome_iff_exists.1 (List.lookup_isSome_iff.2 ⟨(k, a), h, beq_self_eq_true k⟩)

theorem record?_spec {id : GlobalId} {r : UnitRecords} {d : DefRecord}
    (h : v.record? id = some (r, d)) : r ∈ v.records ∧ (id, d) ∈ r.defs := by
  obtain ⟨r', hr', hfound⟩ := List.exists_of_findSome?_eq_some h
  obtain ⟨d', hd', heq⟩ := Option.map_eq_some_iff.1 hfound
  obtain ⟨rfl, rfl⟩ := Prod.mk.inj heq
  exact ⟨hr', mem_of_lookup hd'⟩

theorem exists_record {id : GlobalId} {r : UnitRecords} {d : DefRecord} (hr : r ∈ v.records)
    (hd : (id, d) ∈ r.defs) : ∃ p, v.record? id = some p := by
  obtain ⟨d', hd'⟩ := exists_lookup hd
  refine Option.isSome_iff_exists.1 (List.findSome?_isSome_iff.2 ⟨r, hr, ?_⟩)
  rw [hd']
  rfl

/-- Definitions carry the identifier they were asked for. -/
theorem definition_id {id : GlobalId} {d : Definition} (h : v.definition id = some d) :
    d.id = id := by
  unfold definition at h
  split at h
  · cases h
  · obtain ⟨p, -, rfl⟩ := Option.map_eq_some_iff.1 h
    rfl

/-- A definition that was asked for agrees with what is answered for its own identifier. -/
theorem definition_self {id : GlobalId} {d : Definition} (h : v.definition id = some d) :
    v.definition d.id = some d := by
  rwa [definition_id h]

/-- An identifier denotes the site of its definition. -/
theorem denotes_of_definition {id : GlobalId} {d : Definition} (h : v.definition id = some d) :
    v.Denotes id d.site := by
  unfold definition at h
  split at h
  case isTrue => cases h
  case isFalse =>
    obtain ⟨⟨r, record⟩, hrecord, rfl⟩ := Option.map_eq_some_iff.1 h
    obtain ⟨hr, hmem⟩ := record?_spec hrecord
    exact ⟨r, hr, Or.inl ⟨record, hmem, rfl⟩⟩

namespace Coherent

theorem definition_eq (hv : v.Coherent) (id : GlobalId) :
    v.definition id = (v.record? id).map fun p => v.toDefinition id p.1 p.2 := by
  unfold definition
  split
  · rename_i hnull
    obtain rfl : id = GlobalId.null := by simpa [GlobalId.isNull] using hnull
    cases hrec : v.record? GlobalId.null with
    | none => rfl
    | some p =>
      obtain ⟨hr, hd⟩ := record?_spec hrec
      exact absurd hd (hv.not_null p.1 hr p.2)
  · rfl

/-- **What a number stands for has a definition.** -/
theorem definition_of_resolve (hv : v.Coherent) {i : ScopedId} {id : GlobalId}
    (h : v.resolve i = some id) : ∃ d, v.definition id = some d ∧ d.id = id := by
  obtain ⟨r, hr, hlocal⟩ := Option.bind_eq_some_iff.1 h
  obtain ⟨d, hd⟩ := hv.recorded r (List.mem_of_find?_eq_some hr) i.index id (mem_of_lookup hlocal)
  obtain ⟨p, hp⟩ := exists_record (List.mem_of_find?_eq_some hr) hd
  refine ⟨v.toDefinition id p.1 p.2, ?_, rfl⟩
  rw [hv.definition_eq, hp]
  rfl

theorem definition_of_idAt (hv : v.Coherent) {file : Path} {p : Position} {id : GlobalId}
    (h : v.idAt file p = some id) : ∃ d, v.definition id = some d ∧ d.id = id := by
  obtain ⟨⟨span, j⟩, hocc, rfl⟩ := Option.map_eq_some_iff.1 h
  obtain ⟨o, -, hres⟩ := List.exists_of_findSome?_eq_some hocc
  obtain ⟨k, hk, heq⟩ := Option.map_eq_some_iff.1 hres
  obtain ⟨-, rfl⟩ := Prod.mk.inj heq
  exact hv.definition_of_resolve hk

theorem definitionAt_eq_none_iff (hv : v.Coherent) (file : Path) (p : Position) :
    v.definitionAt file p = none ↔ v.idAt file p = none := by
  unfold definitionAt
  cases hid : v.idAt file p with
  | none => simp
  | some id =>
    obtain ⟨d, hd, -⟩ := hv.definition_of_idAt hid
    simp [hd]

end Coherent

theorem definitionAt_of_idAt {file : Path} {p : Position} {id : GlobalId}
    (h : v.idAt file p = some id) : v.definitionAt file p = v.definition id := by
  rw [definitionAt, h, Option.bind_some]

/-- A hover shows the definition at the position. -/
theorem hoverAt_definition (v : View) (file : Path) (p : Position) :
    (v.hoverAt file p).map (·.definition) = v.definitionAt file p := by
  unfold hoverAt definitionAt idAt
  cases v.occurrenceAt file p with
  | none => rfl
  | some q =>
    show ((v.definition q.2).bind fun d => some (Hover.mk q.1 d)).map (·.definition) =
      v.definition q.2
    cases v.definition q.2 <;> rfl

theorem definition_of_definitionAt {file : Path} {p : Position} {d : Definition}
    (h : v.definitionAt file p = some d) : v.definition d.id = some d := by
  obtain ⟨id, -, hd⟩ := Option.bind_eq_some_iff.1 h
  exact definition_self hd

/-! ## Layer C: children and parents -/

theorem definition_of_mem_children {id : GlobalId} {d : Definition} (h : d ∈ v.children id) :
    v.definition d.id = some d := by
  unfold children at h
  split at h
  · cases h
  · obtain ⟨id', -, hd⟩ := List.mem_filterMap.1 h
    exact definition_self hd

private theorem definition_of_mem_climb {fuel : Nat} {seen : List GlobalId} {next : Option GlobalId}
    {d : Definition} (h : d ∈ v.climb fuel seen next) : v.definition d.id = some d := by
  induction fuel generalizing seen next with
  | zero => cases h
  | succ fuel ih =>
    cases next with
    | none => cases h
    | some id =>
      simp only [climb] at h
      split at h
      · cases h
      · cases hdef : v.definition id with
        | none => simp [hdef] at h
        | some d' =>
          simp only [hdef] at h
          -- the first step of the way, or one of the rest
          rcases List.mem_cons.1 h with rfl | h
          · exact definition_self hdef
          · exact ih h

theorem definition_of_mem_parents {id : GlobalId} {d : Definition} (h : d ∈ v.parents id) :
    v.definition d.id = some d :=
  definition_of_mem_climb (List.mem_reverse.1 h)

/-! ## Layer D: symbols and searches -/

/-- **A complete list of definitions**: those that satisfy `P`, each once, as `definition` answers
them. -/
structure Lists (v : View) (ds : List Definition) (P : Definition → Prop) : Prop where
  agree : ∀ d ∈ ds, v.definition d.id = some d
  ids : ∀ id, id ∈ ds.map (·.id) ↔ ∃ d, v.definition id = some d ∧ P d
  once : (ds.map (·.id)).Nodup

/-- Order does not matter. -/
theorem Lists.perm {ds es : List Definition} {P : Definition → Prop} (h : v.Lists ds P)
    (hperm : es.Perm ds) : v.Lists es P where
  agree d hd := h.agree d (hperm.subset hd)
  ids id := (hperm.map _).mem_iff.trans (h.ids id)
  once := (hperm.map _).nodup_iff.2 h.once

private theorem lookup_filter_of_all {es : List (GlobalId × DefRecord)} {keep : DefRecord → Bool}
    {id : GlobalId} (h : ∀ d, (id, d) ∈ es → keep d = true) :
    (es.filter fun e => keep e.2).lookup id = es.lookup id := by
  induction es with
  | nil => rfl
  | cons e rest ih =>
    obtain ⟨j, d⟩ := e
    have hrest := ih fun d hd => h d (List.mem_cons_of_mem _ hd)
    by_cases hid : id = j
    · subst hid
      have hkeep : keep d = true := h d (List.mem_cons_self ..)
      simp [hkeep]
    · have hne : (id == j) = false := by simpa using hid
      rw [List.lookup_cons, hne, ← hrest, List.filter_cons]
      -- an entry of another key is kept or not, and is passed over either way
      split
      · rw [List.lookup_cons, hne]
      · rfl

private theorem lookup_filter_of_none {es : List (GlobalId × DefRecord)} {keep : DefRecord → Bool}
    {id : GlobalId} (h : ∀ d, (id, d) ∈ es → keep d = false) :
    (es.filter fun e => keep e.2).lookup id = none := by
  apply List.lookup_eq_none_iff.2
  rintro ⟨j, d⟩ hmem
  obtain ⟨hd, hkeep⟩ := List.mem_filter.1 hmem
  have hne : id ≠ j := by
    rintro rfl
    rw [h d hd] at hkeep
    cases hkeep
  simpa using hne

/-- **A filter by name and file keeps all records of an identifier or none.** -/
theorem OneSite.same_answer (hv : v.OneSite) (q : String → Path → Bool) {r r' : UnitRecords}
    (hr : r ∈ v.records) (hr' : r' ∈ v.records) {id : GlobalId} {d d' : DefRecord}
    (hd : (id, d) ∈ r.defs) (hd' : (id, d') ∈ r'.defs) :
    q d.name d.span.file = q d'.name d'.span.file := by
  have hsite := hv r hr r' hr' id d d' hd hd'
  have hname : d.name = d'.name := congrArg Site.name hsite
  have hfile : d.span.file = d'.span.file := congrArg Site.file hsite
  rw [hname, hfile]

/-- What is collected for an identifier is made of its first record, if that one is kept. -/
theorem OneSite.get?_collect (hv : v.OneSite) (q : String → Path → Bool) (id : GlobalId) :
    (v.collect fun d => q d.name d.span.file).get? id =
      ((v.record? id).map fun p => v.toDefinition id p.1 p.2).filter
        fun d => q d.name d.span.file := by
  rw [View.get?_collect]
  cases hrec : v.record? id with
  | none =>
    -- no unit has a record, let alone one that is kept
    refine List.findSome?_eq_none_iff.2 ?_
    intro r hr
    have hnone : ∀ d, (id, d) ∈ r.defs → q d.name d.span.file = false := by
      intro d hd
      obtain ⟨p, hp⟩ := exists_record hr hd
      rw [hrec] at hp
      cases hp
    rw [lookup_filter_of_none hnone]
    rfl
  | some p =>
    obtain ⟨hp, hpd⟩ := record?_spec hrec
    have hsame : ∀ r ∈ v.records, ∀ d, (id, d) ∈ r.defs →
        q d.name d.span.file = q p.2.name p.2.span.file :=
      fun r hr d hd => hv.same_answer q hr hp hd hpd
    cases hq : q p.2.name p.2.span.file with
    | false =>
      have hright : ((some p).map fun p => v.toDefinition id p.1 p.2).filter
          (fun d => q d.name d.span.file) = none := by
        simp [Option.filter, toDefinition, hq]
      rw [hright]
      refine List.findSome?_eq_none_iff.2 ?_
      intro r hr
      rw [lookup_filter_of_none fun d hd => (hsame r hr d hd).trans hq]
      rfl
    | true =>
      have hright : ((some p).map fun p => v.toDefinition id p.1 p.2).filter
          (fun d => q d.name d.span.file) = some (v.toDefinition id p.1 p.2) := by
        simp [Option.filter, toDefinition, hq]
      rw [hright]
      -- nothing is filtered out, so the first record overall is found
      obtain ⟨front, r, back, hsplit, hr, hfront⟩ := List.findSome?_eq_some_iff.1 hrec
      have hkept : ∀ r ∈ v.records, (r.defs.filter fun d => q d.2.name d.2.span.file).lookup id =
          r.defs.lookup id := by
        intro r hr
        exact @lookup_filter_of_all r.defs (fun d => q d.name d.span.file) id
          fun d hd => (hsame r hr d hd).trans hq
      refine List.findSome?_eq_some_iff.2 ⟨front, r, back, hsplit, ?_, ?_⟩
      · obtain ⟨d, hd, rfl⟩ := Option.map_eq_some_iff.1 hr
        rw [hkept r (by simp [hsplit]), hd]
        rfl
      · intro r' hr'
        have hmem : r' ∈ v.records := by
          simp [hsplit, hr']
        rw [hkept r' hmem, Option.map_eq_none_iff.1 (hfront r' hr')]
        rfl

namespace Coherent

theorem get?_collect (hv : v.Coherent) (q : String → Path → Bool) (id : GlobalId) :
    (v.collect fun d => q d.name d.span.file).get? id =
      (v.definition id).filter fun d => q d.name d.span.file := by
  rw [hv.one_site.get?_collect, hv.definition_eq]

/-- **What is collected is complete and agrees with the definitions.** -/
theorem collect_lists (hv : v.Coherent) (q : String → Path → Bool) :
    v.Lists (v.collect fun d => q d.name d.span.file).values
      fun d => q d.name d.span.file = true := by
  have hordered := v.ordered_collect fun d => q d.name d.span.file
  have hentry : ∀ id d, (id, d) ∈ (v.collect fun d => q d.name d.span.file).entries ↔
      v.definition id = some d ∧ q d.name d.span.file = true := by
    intro id d
    rw [← hordered.get?_eq_some_iff, hv.get?_collect, Option.filter_eq_some_iff]
  -- a definition is kept under its own identifier
  have hkeys : (v.collect fun d => q d.name d.span.file).values.map (·.id) =
      (v.collect fun d => q d.name d.span.file).keys := by
    rw [Table.values, List.map_map]
    refine List.map_congr_left ?_
    rintro ⟨id, d⟩ he
    exact definition_id ((hentry id d).1 he).1
  refine ⟨?_, ?_, ?_⟩
  · intro d hd
    obtain ⟨⟨id, d⟩, he, rfl⟩ := List.mem_map.1 hd
    exact definition_self ((hentry id d).1 he).1
  · intro id
    rw [hkeys]
    constructor
    · intro hid
      obtain ⟨⟨id, d⟩, he, rfl⟩ := List.mem_map.1 hid
      exact ⟨d, (hentry id d).1 he⟩
    · rintro ⟨d, hd⟩
      exact List.mem_map.2 ⟨(id, d), (hentry id d).2 hd, rfl⟩
  · rw [hkeys]
    exact hordered.keys_nodup

theorem symbols_lists (hv : v.Coherent) (file : Path) :
    v.Lists (v.symbols file) fun d => d.span.file = file.normalize := by
  have hlists := hv.collect_lists fun _ f => f == file.normalize
  simp only [beq_iff_eq] at hlists
  exact hlists.perm (List.mergeSort_perm _ _)

theorem search_lists (hv : v.Coherent) (name : String) :
    v.Lists (v.search name) fun d => d.name = name := by
  have hlists := hv.collect_lists fun n _ => n == name
  simp only [beq_iff_eq] at hlists
  exact hlists.perm (List.mergeSort_perm _ _)

theorem searchLead_lists (hv : v.Coherent) (lead : String) :
    v.Lists (v.searchLead lead) fun d => hasLead lead d.name = true :=
  (hv.collect_lists fun n _ => hasLead lead n).perm (List.mergeSort_perm _ _)

end Coherent

/-! ## Layer E: agreement -/

/-- **All queries about definitions agree with each other.** -/
structure QueriesAgree (v : View) : Prop where
  resolve : ∀ i id, v.resolve i = some id → ∃ d, v.definition id = some d ∧ d.id = id
  definitionAt_none : ∀ file p, v.definitionAt file p = none ↔ v.idAt file p = none
  definitionAt_some : ∀ file p id, v.idAt file p = some id →
    v.definitionAt file p = v.definition id
  definitionAt : ∀ file p d, v.definitionAt file p = some d → v.definition d.id = some d
  hoverAt : ∀ file p h, v.hoverAt file p = some h → v.definition h.definition.id = some h.definition
  children : ∀ id, ∀ d ∈ v.children id, v.definition d.id = some d
  parents : ∀ id, ∀ d ∈ v.parents id, v.definition d.id = some d
  symbols : ∀ file, v.Lists (v.symbols file) fun d => d.span.file = file.normalize
  search : ∀ name, v.Lists (v.search name) fun d => d.name = name
  searchLead : ∀ lead, v.Lists (v.searchLead lead) fun d => hasLead lead d.name = true

theorem Coherent.queriesAgree (hv : v.Coherent) : v.QueriesAgree where
  resolve _ _ := hv.definition_of_resolve
  definitionAt_none := hv.definitionAt_eq_none_iff
  definitionAt_some _ _ _ := definitionAt_of_idAt
  definitionAt _ _ _ := definition_of_definitionAt
  hoverAt := by
    intro file p h hh
    have hdef : v.definitionAt file p = some h.definition := by
      rw [← v.hoverAt_definition, hh, Option.map_some]
    exact definition_of_definitionAt hdef
  children _ _ := definition_of_mem_children
  parents _ _ := definition_of_mem_parents
  symbols := hv.symbols_lists
  search := hv.search_lists
  searchLead := hv.searchLead_lists

end View

namespace Ledger

/-- **After every history all queries about definitions agree.** -/
theorem queries_agree (h : List IndexUpdate)
    (hunits : (after h).index.names.units.length < 2 ^ 32) : (after h).index.view.QueriesAgree :=
  ((sound_after h).coherent hunits).queriesAgree

/-- The shared function is found by its name, also after one of its units was dropped. -/
theorem sharedFunction_is_found :
    ⟨0, 0⟩ ∈ ((after sharedFunction).index.view.search "run").map (·.id) := by
  have hagree := queries_agree sharedFunction (by decide)
  refine ((hagree.search "run").ids ⟨0, 0⟩).2 ⟨_, rfl, ?_⟩
  decide

end Ledger

end CodeAtlas
