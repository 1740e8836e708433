import CodeAtlas.Proofs.Index.Identifiers
import CodeAtlas.Proofs.Ordered.KeySet
import CodeAtlas.Proofs.Text.Position

/-!
# References and what they resolve to

References are found backwards: from an identifier to the numbers that stand for it, one unit after
the other, and from each number to the references of all units that point at it. Resolving goes the
other way, from the namespace of a number to the unit that has it, and on to the identifier. Both
ways meet because a namespace belongs to one unit and a number to one definition of it, so nothing
is lost when the tables are read from the wrong end.

## Architecture

- **Layer A**: the references of a snapshot, and what becomes of them when it is lowered;
- **Layer B**: the numbers of a unit, and resolving as a look-up of its records;
- **Layer C**: references as the inverse of resolving, and the main result.
-/

namespace CodeAtlas

/-! ## Layer A: references of a snapshot -/

/-- **A reference of a snapshot**: the place where it stands, and what it points at. -/
inductive Snapshot.Refers (s : Snapshot) : RawSpan → LocalId → Prop
  /-- The implementation of a declared item refers to the declaration. -/
  | declared {d : RawDef} {target : LocalId} (hd : d ∈ keptDefs [] s.defs)
      (htarget : d.declId = some target) : Refers s d.span target
  | written {r : RawRef} (hr : r ∈ s.refs) (hplace : r.span.isSynthetic = false) :
      Refers s r.span r.target
  /-- A targeted import refers to what it imports. -/
  | imported {i : RawImport} {target : LocalId} (hi : i ∈ s.imports)
      (hplace : i.span.isSynthetic = false) (htarget : i.target = some target) :
      Refers s i.span target

theorem forall₂_of_mapM {ε α β : Type} {f : α → Except ε β} {xs : List α} {ys : List β}
    (h : xs.mapM f = .ok ys) : List.Forall₂ (fun x y => f x = .ok y) xs ys := by
  induction xs generalizing ys with
  | nil =>
    obtain rfl := Except.ok.inj h
    exact .nil
  | cons x rest ih =>
    rw [List.mapM_cons] at h
    obtain ⟨z, hz, h⟩ := bind_ok h
    obtain ⟨zs, hzs, h⟩ := bind_ok h
    obtain rfl := Except.ok.inj h
    exact .cons hz (ih hzs)

/-- The results of a traversal are those of its function, which has one for every element. -/
theorem mapM_ok {ε α β : Type} {f : α → Except ε β} {xs : List α} {ys : List β}
    (h : xs.mapM f = .ok ys) :
    (∀ y, y ∈ ys ↔ ∃ x ∈ xs, f x = .ok y) ∧ ∀ x ∈ xs, ∃ y, f x = .ok y := by
  have hresults := forall₂_of_mapM h
  clear h
  -- on elements and results side by side
  induction hresults with
  | nil => simp
  | @cons x z rest zs hz _ ih =>
    obtain ⟨hmem, hall⟩ := ih
    refine ⟨?_, List.forall_mem_cons.2 ⟨⟨z, hz⟩, hall⟩⟩
    intro y
    simp only [List.mem_cons, hmem, exists_eq_or_imp, hz, Except.ok.injEq, eq_comm (a := y)]

namespace LoweringScope

variable {c : LoweringScope} {i : ScopedId} {span : Span}

/-- The file of a lowered place is normalized. -/
theorem normal_of_span {place : RawSpan} (h : c.span place = .ok span) :
    span.file.normalize = span.file := by
  have hresolve : ∀ file, (c.resolve file).normalize = c.resolve file := by
    intro file
    unfold resolve
    split <;> exact Path.normalize_normalize _
  unfold LoweringScope.span at h
  -- of all the ways through the checks only one leads to a place
  split at h
  · cases h
  · split at h
    · cases h
    · simp only at h
      split at h
      · obtain rfl := Except.ok.inj h
        exact hresolve _
      · cases h

/-- A definition is lowered to a record under its number. -/
theorem index_of_definition {d : RawDef} {ld : LoweredDef × List LoweredRef}
    (h : c.definition d = .ok ld) : ld.1.index = d.id.index := by
  unfold definition at h
  obtain ⟨place, -, h⟩ := bind_ok h
  obtain ⟨decl, -, h⟩ := bind_ok h
  obtain ⟨parent, -, h⟩ := bind_ok h
  obtain ⟨children, -, h⟩ := bind_ok h
  obtain rfl := Except.ok.inj h
  rfl

/-- A definition that implements a declared item is also lowered to a reference. -/
theorem definition_ok {d : RawDef} {ld : LoweredDef} {refs : List LoweredRef}
    (h : c.definition d = .ok (ld, refs)) :
    ⟨i, span⟩ ∈ refs ↔ ∃ target, d.declId = some target ∧ c.qualify target = .ok (some i) ∧
      c.span d.span = .ok span := by
  unfold definition at h
  obtain ⟨place, hplace, h⟩ := bind_ok h
  obtain ⟨decl, hdecl, h⟩ := bind_ok h
  obtain ⟨parent, -, h⟩ := bind_ok h
  obtain ⟨children, -, h⟩ := bind_ok h
  obtain ⟨rfl, rfl⟩ := Prod.mk.inj (Except.ok.inj h)
  rw [hplace]
  -- only the declared item leads to a reference; parent and children do not
  cases hid : d.declId with
  | none =>
    rw [hid] at hdecl
    obtain rfl := Except.ok.inj hdecl
    simp
  | some target =>
    rw [hid] at hdecl
    change c.qualify target = .ok decl at hdecl
    simp only [hdecl, List.mem_map, Option.mem_toList, LoweredRef.mk.injEq, Option.some.injEq,
      Except.ok.injEq, exists_eq_left']
    constructor
    · rintro ⟨j, hj, rfl, rfl⟩
      exact ⟨hj, rfl⟩
    · rintro ⟨hj, rfl⟩
      exact ⟨i, hj, rfl, rfl⟩

/-- A reference is lowered to one that has its target and its place, unless it was made up or
points at nothing. -/
theorem reference_ok {place : RawSpan} {target? : Option LocalId} {refs : List LoweredRef}
    (h : c.reference place target? = .ok refs) :
    ⟨i, span⟩ ∈ refs ↔ place.isSynthetic = false ∧ ∃ target, target? = some target ∧
      c.qualify target = .ok (some i) ∧ c.span place = .ok span := by
  unfold reference at h
  cases hsynthetic : place.isSynthetic with
  | true =>
    rw [hsynthetic, if_pos rfl] at h
    obtain rfl := Except.ok.inj h
    simp
  | false =>
    rw [hsynthetic, if_neg Bool.false_ne_true] at h
    obtain ⟨qualified, hqualified, h⟩ := bind_ok h
    cases target? with
    | none =>
      obtain rfl := Except.ok.inj hqualified
      obtain rfl := Except.ok.inj h
      simp
    | some target =>
      change c.qualify target = .ok qualified at hqualified
      -- the target may stand for nothing; its place is looked at only if it stands for something
      cases qualified with
      | none =>
        obtain rfl := Except.ok.inj h
        simp [hqualified]
      | some j =>
        obtain ⟨place', hplace', h⟩ := bind_ok h
        obtain rfl := Except.ok.inj h
        simp only [List.mem_singleton, LoweredRef.mk.injEq, true_and, Option.some.injEq,
          exists_eq_left', hqualified, hplace', Except.ok.injEq]
        exact and_congr eq_comm eq_comm

/-- What a lowered definition implements was qualified, and its place was fit. -/
theorem exists_of_definition {d : RawDef} {ld : LoweredDef × List LoweredRef}
    (h : c.definition d = .ok ld) {target : LocalId} (htarget : d.declId = some target) :
    (∃ i?, c.qualify target = .ok i?) ∧ ∃ span, c.span d.span = .ok span := by
  unfold definition at h
  obtain ⟨place, hplace, h⟩ := bind_ok h
  obtain ⟨decl, hdecl, -⟩ := bind_ok h
  rw [htarget] at hdecl
  exact ⟨⟨decl, hdecl⟩, place, hplace⟩

/-- The target of a lowered reference was qualified, and its place was fit if there is a target. -/
theorem exists_of_reference {place : RawSpan} {target : LocalId} {refs : List LoweredRef}
    (h : c.reference place (some target) = .ok refs) (hplace : place.isSynthetic = false) :
    (∃ i?, c.qualify target = .ok i?) ∧
      ∀ i, c.qualify target = .ok (some i) → ∃ span, c.span place = .ok span := by
  unfold reference at h
  rw [hplace, if_neg Bool.false_ne_true] at h
  obtain ⟨qualified, hqualified, h⟩ := bind_ok h
  change c.qualify target = .ok qualified at hqualified
  refine ⟨⟨qualified, hqualified⟩, ?_⟩
  intro i hi
  obtain rfl := Except.ok.inj (hqualified.symm.trans hi)
  obtain ⟨span, hspan, -⟩ := bind_ok h
  exact ⟨span, hspan⟩

end LoweringScope

namespace Snapshot

variable {s : Snapshot} {space : UnitId → Nat} {u : UnitId} {l : LoweredUnit}

private theorem adoptParent_index (own : Nat) (listed : List (ScopedId × ScopedId))
    (d : LoweredDef) : (adoptParent own listed d).index = d.index := by
  unfold adoptParent
  split <;> rfl

/-- **What an accepted snapshot is lowered to**: in the scope of the unit, each kept definition, each
reference and each import has been lowered. -/
theorem exists_of_lowered (h : s.lowered space u = .ok l) :
    ∃ defs refs imports, (keptDefs [] s.defs).mapM (s.scope space u).definition = .ok defs ∧
      s.refs.mapM (fun r => (s.scope space u).reference r.span (some r.target)) = .ok refs ∧
      s.imports.mapM (fun i => (s.scope space u).reference i.span i.target) = .ok imports ∧
      l.defs.map (·.index) = defs.map (·.1.index) ∧
      l.refs = defs.flatMap (·.2) ++ refs.flatten ++ imports.flatten := by
  obtain ⟨-, defs, refs, imports, -, hdefs, hrefs, himports, -, rfl⟩ := lowered_eq_ok_iff.1 h
  refine ⟨defs, refs, imports, hdefs, hrefs, himports, ?_, rfl⟩
  simp only [List.map_map, Function.comp_def, adoptParent_index]

/-- **The lowered references are those of the snapshot**, with their targets qualified and their
places checked. -/
theorem mem_refs_iff (h : s.lowered space u = .ok l) {i : ScopedId} {span : Span} :
    ⟨i, span⟩ ∈ l.refs ↔ ∃ place target, s.Refers place target ∧
      (s.scope space u).qualify target = .ok (some i) ∧ (s.scope space u).span place = .ok span := by
  obtain ⟨defs, refs, imports, hdefs, hrefs, himports, -, hl⟩ := exists_of_lowered h
  obtain ⟨hdefs, hdefs'⟩ := mapM_ok hdefs
  obtain ⟨hrefs, hrefs'⟩ := mapM_ok hrefs
  obtain ⟨himports, himports'⟩ := mapM_ok himports
  simp only [hl, List.mem_append, List.mem_flatMap, List.mem_flatten, or_assoc]
  constructor
  · rintro (⟨⟨ld, rs⟩, hld, hmem⟩ | ⟨rs, hrs, hmem⟩ | ⟨rs, hrs, hmem⟩)
    · obtain ⟨d, hd, hlowered⟩ := (hdefs _).1 hld
      obtain ⟨target, htarget, hqualify, hspan⟩ :=
        (LoweringScope.definition_ok hlowered).1 hmem
      exact ⟨_, _, .declared hd htarget, hqualify, hspan⟩
    · obtain ⟨r, hr, hlowered⟩ := (hrefs _).1 hrs
      obtain ⟨hplace, target, htarget, hqualify, hspan⟩ :=
        (LoweringScope.reference_ok hlowered).1 hmem
      obtain rfl := Option.some.inj htarget
      exact ⟨_, _, .written hr hplace, hqualify, hspan⟩
    · obtain ⟨r, hr, hlowered⟩ := (himports _).1 hrs
      obtain ⟨hplace, target, htarget, hqualify, hspan⟩ :=
        (LoweringScope.reference_ok hlowered).1 hmem
      exact ⟨_, _, .imported hr hplace htarget, hqualify, hspan⟩
  · -- the snapshot is accepted, so each of its references was lowered
    rintro ⟨place, target, hrefers, hqualify, hspan⟩
    cases hrefers with
    | declared hd htarget =>
      obtain ⟨⟨ld, rs⟩, hlowered⟩ := hdefs' _ hd
      have hmem := (LoweringScope.definition_ok hlowered).2 ⟨target, htarget, hqualify, hspan⟩
      exact Or.inl ⟨(ld, rs), (hdefs _).2 ⟨_, hd, hlowered⟩, hmem⟩
    | written hr hplace =>
      obtain ⟨rs, hlowered⟩ := hrefs' _ hr
      have hmem := (LoweringScope.reference_ok hlowered).2 ⟨hplace, _, rfl, hqualify, hspan⟩
      exact Or.inr (Or.inl ⟨rs, (hrefs _).2 ⟨_, hr, hlowered⟩, hmem⟩)
    | imported hi hplace htarget =>
      obtain ⟨rs, hlowered⟩ := himports' _ hi
      have hmem := (LoweringScope.reference_ok hlowered).2 ⟨hplace, target, htarget, hqualify, hspan⟩
      exact Or.inr (Or.inr ⟨rs, (himports _).2 ⟨_, hi, hlowered⟩, hmem⟩)

/-- **No reference of an accepted snapshot is lost**, unless it points at nothing. -/
theorem exists_of_refers (h : s.lowered space u = .ok l) {place : RawSpan} {target : LocalId}
    (hrefers : s.Refers place target) (htarget : target.isNone = false) :
    ∃ n span, (s.scope space u).numbers.lookup target.unit = some n ∧
      (s.scope space u).qualify target = .ok (some ⟨n, target.index⟩) ∧
      (s.scope space u).span place = .ok span := by
  -- the unit number of a target that was qualified is known
  have hknown : (∃ i?, (s.scope space u).qualify target = .ok i?) →
      ∃ n, (s.scope space u).numbers.lookup target.unit = some n ∧
        (s.scope space u).qualify target = .ok (some ⟨n, target.index⟩) := by
    rintro ⟨i?, hi⟩
    simp only [LoweringScope.qualify, htarget, Bool.false_eq_true, if_false] at hi ⊢
    cases hlookup : (s.scope space u).numbers.lookup target.unit with
    | none => simp [hlookup] at hi
    | some n => exact ⟨n, rfl, rfl⟩
  obtain ⟨defs, refs, imports, hdefs, hrefs, himports, -, -⟩ := exists_of_lowered h
  cases hrefers with
  | declared hd hdecl =>
    obtain ⟨ld, hlowered⟩ := (mapM_ok hdefs).2 _ hd
    obtain ⟨hqualified, span, hspan⟩ := LoweringScope.exists_of_definition hlowered hdecl
    obtain ⟨n, hn, hqualify⟩ := hknown hqualified
    exact ⟨n, span, hn, hqualify, hspan⟩
  | written hr hplace =>
    obtain ⟨rs, hlowered⟩ := (mapM_ok hrefs).2 _ hr
    obtain ⟨hqualified, hplaced⟩ := LoweringScope.exists_of_reference hlowered hplace
    obtain ⟨n, hn, hqualify⟩ := hknown hqualified
    obtain ⟨span, hspan⟩ := hplaced _ hqualify
    exact ⟨n, span, hn, hqualify, hspan⟩
  | imported hi hplace hdecl =>
    obtain ⟨rs, hlowered⟩ := (mapM_ok himports).2 _ hi
    rw [hdecl] at hlowered
    obtain ⟨hqualified, hplaced⟩ := LoweringScope.exists_of_reference hlowered hplace
    obtain ⟨n, hn, hqualify⟩ := hknown hqualified
    obtain ⟨span, hspan⟩ := hplaced _ hqualify
    exact ⟨n, span, hn, hqualify, hspan⟩

/-- The unit that a unit number of a snapshot of `u` stands for. -/
def unit? (s : Snapshot) (u : UnitId) (num : UInt32) : Option UnitId :=
  ((0, u) :: s.externs.map fun e => (e.num, e.unit)).lookup num

theorem unit?_mem {num : UInt32} {v : UnitId} (h : s.unit? u num = some v) : v ∈ s.named u := by
  obtain ⟨front, back, hsplit, -⟩ := List.lookup_eq_some_iff.1 h
  have hmem : (num, v) ∈ (0, u) :: s.externs.map fun e => (e.num, e.unit) := by
    rw [hsplit]
    exact List.mem_append_right _ (List.mem_cons_self ..)
  have hunit := List.mem_map_of_mem (f := Prod.snd) hmem
  simpa [named, Function.comp_def] using hunit

/-- The namespaces of unit numbers are those of the units they stand for. -/
theorem lookup_numbers (num : UInt32) :
    (s.scope space u).numbers.lookup num = (s.unit? u num).map space := by
  have hnumbers : (s.scope space u).numbers =
      ((0, u) :: s.externs.map fun e => (e.num, e.unit)).map fun p => (p.1, space p.2) := by
    simp [scope]
  rw [hnumbers, lookup_map_value]
  rfl

/-! ## Layer B: numbers -/

/-- The analyzed unit has a definition with the number `n`. -/
def Defines (s : Snapshot) (n : UInt32) : Prop := ∃ d ∈ keptDefs [] s.defs, d.id.index = n

private theorem keptDefs_nodup (seen : List UInt32) (ds : List RawDef) :
    ((keptDefs seen ds).map (·.id.index)).Nodup ∧
      ∀ d ∈ keptDefs seen ds, d.id.index ∉ seen := by
  induction ds generalizing seen with
  | nil => exact ⟨List.nodup_nil, by simp [keptDefs]⟩
  | cons d rest ih =>
    unfold keptDefs
    split
    · -- the number of a definition that is kept counts as seen from there on
      rename_i hkeep
      obtain ⟨hnodup, hfresh⟩ := ih (d.id.index :: seen)
      constructor
      · refine List.nodup_cons.2 ⟨?_, hnodup⟩
        intro hmem
        obtain ⟨e, he, heq⟩ := List.mem_map.1 hmem
        exact hfresh e he (heq ▸ List.mem_cons_self ..)
      · refine List.forall_mem_cons.2 ⟨by simpa using (Bool.and_eq_true_iff.1 hkeep).2, ?_⟩
        intro e he hseen
        exact hfresh e he (List.mem_cons_of_mem _ hseen)
    · exact ih seen

private theorem indexes_of_definitions {c : LoweringScope} {kept : List RawDef}
    {defs : List (LoweredDef × List LoweredRef)}
    (h : List.Forall₂ (fun d ld => c.definition d = .ok ld) kept defs) :
    defs.map (·.1.index) = kept.map (·.id.index) := by
  induction h with
  | nil => rfl
  | cons hd _ ih => rw [List.map_cons, List.map_cons, LoweringScope.index_of_definition hd, ih]

/-- **The numbers of the lowered definitions** are those of the kept ones, in order. -/
theorem indexes_of_lowered (h : s.lowered space u = .ok l) :
    l.defs.map (·.index) = (keptDefs [] s.defs).map (·.id.index) := by
  obtain ⟨defs, -, -, hdefs, -, -, hindexes, -⟩ := exists_of_lowered h
  rw [hindexes]
  exact indexes_of_definitions (forall₂_of_mapM hdefs)

end Snapshot

/-- The numbers of stamped records, with the identifiers of the sites they are about. -/
theorem Index.mem_locals_iff {sites : SiteTable} {l : LoweredUnit} {n : UInt32} {id : GlobalId} :
    (n, id) ∈ (stamp sites l).locals ↔
      ∃ d ∈ l.defs, d.index = n ∧ sites.idOf d.record.site = id := by
  simp [stamp, assemble]

/-- Stamped records have one identifier for each number that the snapshot defines. -/
theorem Index.locals_of_lowered (sites : SiteTable) {s : Snapshot} {space : UnitId → Nat}
    {u : UnitId} {l : LoweredUnit} (h : s.lowered space u = .ok l) :
    ((stamp sites l).locals.map (·.1)).Nodup ∧
      ∀ n, (∃ id, (n, id) ∈ (stamp sites l).locals) ↔ s.Defines n := by
  have hindexes := Snapshot.indexes_of_lowered h
  constructor
  · have hlocals : (stamp sites l).locals.map (·.1) = l.defs.map (·.index) := by
      simp [stamp, assemble]
    rw [hlocals, hindexes]
    exact (Snapshot.keptDefs_nodup [] s.defs).1
  · intro n
    have hmem : n ∈ l.defs.map (·.index) ↔ n ∈ (keptDefs [] s.defs).map (·.id.index) := by
      rw [hindexes]
    simpa [mem_locals_iff, Snapshot.Defines] using hmem

namespace Ledger

variable {t : Ledger}

/-- An indexed unit has records: its last accepted snapshot, lowered and stamped. -/
theorem Sound.exists_records (h : t.Sound) {u : UnitId} {s : Snapshot}
    (hs : t.last.get? u = some s) :
    (∀ v ∈ s.named u, v ∈ t.index.names.units) ∧ ∃ l, s.lowered t.index.names.space u = .ok l ∧
      Index.stamp t.index.sites l ∈ t.index.view.records := by
  obtain ⟨r, hr, hnamed, l, hl, rfl⟩ := h.exists_reflecting hs
  have hmem := (h.ordered.get?_eq_some_iff u _).1 hr
  exact ⟨hnamed, l, hl, List.mem_map.2 ⟨_, hmem, rfl⟩⟩

/-- Records belong to an indexed unit. -/
theorem Sound.exists_snapshot (h : t.Sound) {r : UnitRecords} (hr : r ∈ t.index.view.records) :
    ∃ u s l, t.last.get? u = some s ∧ u ∈ t.index.names.units ∧
      s.lowered t.index.names.space u = .ok l ∧ r = Index.stamp t.index.sites l := by
  obtain ⟨⟨u, r⟩, he, rfl⟩ := List.mem_map.1 hr
  obtain ⟨s, hs, hnamed, l, hl, heq⟩ := h.exists_last ((h.ordered.get?_eq_some_iff u r).2 he)
  exact ⟨u, s, l, hs, hnamed u (List.mem_cons_self ..), hl, heq⟩

/-- **A namespace belongs to the records of one unit.** -/
theorem Sound.records_unique (h : t.Sound) {r r' : UnitRecords} (hr : r ∈ t.index.view.records)
    (hr' : r' ∈ t.index.view.records) (hspace : r.space = r'.space) : r = r' := by
  obtain ⟨u, s, l, hs, hu, hl, rfl⟩ := h.exists_snapshot hr
  obtain ⟨u', s', l', hs', hu', hl', rfl⟩ := h.exists_snapshot hr'
  change l.space = l'.space at hspace
  rw [(Snapshot.lowered_ok hl).2, (Snapshot.lowered_ok hl').2] at hspace
  -- the namespace gives the unit, the unit its last snapshot, and that its records
  obtain rfl := Namespaces.space_injective hu hu' hspace
  obtain rfl := Option.some.inj (hs.symm.trans hs')
  obtain rfl := Except.ok.inj (hl.symm.trans hl')
  rfl

/-- **Resolving finds what the records say**: the search stops at the only records that have the
namespace, and there at the only entry for the number. -/
theorem Sound.resolve_iff (h : t.Sound) {i : ScopedId} {id : GlobalId} :
    t.index.view.resolve i = some id ↔
      ∃ r ∈ t.index.view.records, r.space = i.space ∧ (i.index, id) ∈ r.locals := by
  unfold View.resolve
  constructor
  · intro hresolve
    obtain ⟨r, hfind, hlookup⟩ := Option.bind_eq_some_iff.1 hresolve
    obtain ⟨front, back, hsplit, -⟩ := List.lookup_eq_some_iff.1 hlookup
    refine ⟨r, List.mem_of_find?_eq_some hfind, by simpa using List.find?_some hfind, ?_⟩
    rw [hsplit]
    exact List.mem_append_right _ (List.mem_cons_self ..)
  · rintro ⟨r, hr, hspace, hlocal⟩
    -- the search finds records of the namespace, and these can only be `r`
    have hfound : (t.index.view.records.find? fun r => r.space == i.space) = some r := by
      cases hfind : t.index.view.records.find? fun r => r.space == i.space with
      | none =>
        have hno := List.find?_eq_none.1 hfind r hr
        exact absurd (beq_iff_eq.2 hspace) hno
      | some r' =>
        have hspace' : r'.space = i.space := by simpa using List.find?_some hfind
        rw [h.records_unique (List.mem_of_find?_eq_some hfind) hr (hspace'.trans hspace.symm)]
    rw [hfound]
    obtain ⟨u, s, l, -, -, hl, rfl⟩ := h.exists_snapshot hr
    -- no entry in front of the one for the number is for the same number
    have hnodup := (Index.locals_of_lowered t.index.sites hl).1
    obtain ⟨front, back, hsplit⟩ := List.append_of_mem hlocal
    refine List.lookup_eq_some_iff.2 ⟨front, back, hsplit, ?_⟩
    intro p hp
    rw [hsplit, List.map_append, List.map_cons] at hnodup
    have hdisjoint := (List.nodup_append.1 hnodup).2.2 p.1 (List.mem_map_of_mem hp)
      i.index (List.mem_cons_self ..)
    exact bne_iff_ne.2 (Ne.symm hdisjoint)

/-- **What resolves**: the numbers of indexed units that define them. -/
theorem Sound.resolves_iff (h : t.Sound) (i : ScopedId) :
    (∃ id, t.index.view.resolve i = some id) ↔
      ∃ u s, t.last.get? u = some s ∧ u ∈ t.index.names.units ∧
        t.index.names.space u = i.space ∧ s.Defines i.index := by
  simp only [h.resolve_iff]
  constructor
  · rintro ⟨id, r, hr, hspace, hlocal⟩
    obtain ⟨u, s, l, hs, hu, hl, rfl⟩ := h.exists_snapshot hr
    exact ⟨u, s, hs, hu, (Snapshot.lowered_ok hl).2.symm.trans hspace,
      ((Index.locals_of_lowered _ hl).2 _).1 ⟨id, hlocal⟩⟩
  · rintro ⟨u, s, hs, -, hspace, hdefines⟩
    obtain ⟨-, l, hl, hr⟩ := h.exists_records hs
    obtain ⟨id, hlocal⟩ := ((Index.locals_of_lowered t.index.sites hl).2 _).2 hdefines
    exact ⟨id, _, hr, (Snapshot.lowered_ok hl).2.trans hspace, hlocal⟩

/-! ## Layer C: references as the inverse of resolving -/

/-- **A reference of an indexed unit**: its target qualified by the namespace of the unit that the
target belongs to, and its span. -/
def Refers (t : Ledger) (i : ScopedId) (span : Span) : Prop :=
  ∃ u s, t.last.get? u = some s ∧ ∃ place target, s.Refers place target ∧
    (s.scope t.index.names.space u).qualify target = .ok (some i) ∧
    (s.scope t.index.names.space u).span place = .ok span

/-- The references of indexed units are those of the records. -/
theorem Sound.refers_iff (h : t.Sound) {i : ScopedId} {span : Span} :
    t.Refers i span ↔ ∃ r ∈ t.index.view.records, (i, span) ∈ r.refs := by
  -- stamping gives numbers to definitions and leaves references as they are
  have hstamp : ∀ l : LoweredUnit,
      (i, span) ∈ (Index.stamp t.index.sites l).refs ↔ ⟨i, span⟩ ∈ l.refs := by
    intro l
    simp only [Index.stamp, Index.assemble, List.mem_map, Prod.mk.injEq]
    constructor
    · rintro ⟨r, hr, rfl, rfl⟩
      exact hr
    · intro hr
      exact ⟨_, hr, rfl, rfl⟩
  constructor
  · rintro ⟨u, s, hs, hrefers⟩
    obtain ⟨-, l, hl, hr⟩ := h.exists_records hs
    exact ⟨_, hr, (hstamp l).2 ((Snapshot.mem_refs_iff hl).2 hrefers)⟩
  · rintro ⟨r, hr, hmem⟩
    obtain ⟨u, s, l, hs, -, hl, rfl⟩ := h.exists_snapshot hr
    exact ⟨u, s, hs, (Snapshot.mem_refs_iff hl).1 ((hstamp l).1 hmem)⟩

/-- **The references to an identifier**, found from the numbers that stand for it. -/
theorem Sound.mem_referencesTo_iff (h : t.Sound) {id : GlobalId} {span : Span} :
    span ∈ t.index.view.referencesTo id ↔
      ∃ i, t.Refers i span ∧ t.index.view.resolve i = some id := by
  unfold View.referencesTo
  -- spans have normalized files, so different ones are kept apart by their order
  rw [KeySet.mem_ofList_of_distinct]
  · simp only [h.refers_iff, h.resolve_iff, View.UnitRecords.numbersOf, List.mem_flatMap, List.mem_map,
      List.mem_filter, beq_iff_eq]
    constructor
    · rintro ⟨i, ⟨r, hr, ⟨n, id⟩, ⟨hlocal, rfl⟩, rfl⟩, r', hr', ⟨i, span⟩, ⟨href, rfl⟩, rfl⟩
      exact ⟨_, ⟨r', hr', href⟩, r, hr, rfl, hlocal⟩
    · rintro ⟨⟨space, n⟩, ⟨r', hr', href⟩, r, hr, rfl, hlocal⟩
      exact ⟨_, ⟨r, hr, _, ⟨hlocal, rfl⟩, rfl⟩, r', hr', _, ⟨href, rfl⟩, rfl⟩
  · have hnormal : ∀ span ∈ (t.index.view.records.flatMap fun r =>
        View.UnitRecords.numbersOf r id).flatMap fun i => t.index.view.records.flatMap fun r =>
          (r.refs.filter fun f => f.1 == i).map (·.2), span.file.normalize = span.file := by
      intro span hspan
      simp only [List.mem_flatMap, List.mem_map, List.mem_filter] at hspan
      obtain ⟨-, -, r, hr, ⟨i, span⟩, ⟨href, -⟩, rfl⟩ := hspan
      obtain ⟨u, s, hs, place, target, hrefers, -, hspan⟩ := h.refers_iff.2 ⟨r, hr, href⟩
      exact LoweringScope.normal_of_span hspan
    intro a ha b hb hab
    exact Span.eq_of_compare (hnormal a ha) (hnormal b hb) hab

/-- A reference of an indexed unit resolves exactly while the unit of its target is indexed and
defines the target's number. -/
theorem Sound.resolves_target_iff (h : t.Sound) {w : UnitId} (hw : w ∈ t.index.names.units)
    (n : UInt32) :
    (∃ id, t.index.view.resolve ⟨t.index.names.space w, n⟩ = some id) ↔
      ∃ s, t.last.get? w = some s ∧ s.Defines n := by
  rw [h.resolves_iff]
  constructor
  · rintro ⟨u, s, hs, hu, hspace, hdefines⟩
    obtain rfl := Namespaces.space_injective hu hw hspace
    exact ⟨s, hs, hdefines⟩
  · rintro ⟨s, hs, hdefines⟩
    exact ⟨w, s, hs, hw, rfl, hdefines⟩

/-- **References are the inverse of resolving.** After every history of merges and removals:
- the references to an identifier increase strictly;
- a span is among them if and only if an indexed unit has a reference with that span whose target
  resolves to the identifier;
- an indexed unit has its references in full: each that points at something has a target in some
  unit and a span, and it is among the references to what it resolves to exactly while the target's
  unit is indexed and defines the target's number. -/
theorem references_invert_resolution (history : List IndexUpdate) :
    let t := after history
    (∀ id, (t.index.view.referencesTo id).Pairwise fun a b => compare a b = .lt) ∧
    (∀ id span, span ∈ t.index.view.referencesTo id ↔
      ∃ i, t.Refers i span ∧ t.index.view.resolve i = some id) ∧
    ∀ u s, t.last.get? u = some s → ∀ place target, s.Refers place target →
      target.isNone = false →
      ∃ w span, s.unit? u target.unit = some w ∧
        t.Refers ⟨t.index.names.space w, target.index⟩ span ∧
        (s.scope t.index.names.space u).span place = .ok span ∧
        ((∃ id, t.index.view.resolve ⟨t.index.names.space w, target.index⟩ = some id ∧
            span ∈ t.index.view.referencesTo id) ↔
          ∃ s', t.last.get? w = some s' ∧ s'.Defines target.index) := by
  intro t
  have h : t.Sound := sound_after history
  refine ⟨fun id => KeySet.ordered_ofList _, fun id span => h.mem_referencesTo_iff, ?_⟩
  intro u s hs place target hrefers htarget
  obtain ⟨hnamed, l, hl, -⟩ := h.exists_records hs
  obtain ⟨n, span, hlookup, hqualify, hspan⟩ := Snapshot.exists_of_refers hl hrefers htarget
  rw [Snapshot.lookup_numbers] at hlookup
  obtain ⟨w, hw, rfl⟩ := Option.map_eq_some_iff.1 hlookup
  have hreference : t.Refers ⟨t.index.names.space w, target.index⟩ span :=
    ⟨u, s, hs, place, target, hrefers, hqualify, hspan⟩
  refine ⟨w, span, hw, hreference, hspan, ?_⟩
  rw [← h.resolves_target_iff (hnamed w (Snapshot.unit?_mem hw))]
  -- whatever the target resolves to, the reference is found from there
  constructor
  · rintro ⟨id, hresolve, -⟩
    exact ⟨id, hresolve⟩
  · rintro ⟨id, hresolve⟩
    exact ⟨id, hresolve, h.mem_referencesTo_iff.2 ⟨_, hreference, hresolve⟩⟩

/-- A library that defines a function. -/
def helperLibrary : Snapshot :=
  { Snapshot.empty with
    defs := [⟨.function, ⟨0, 4⟩, ⟨⟨"/w/lib.rs"⟩, 10, 16, 1, 1, 1, 7⟩, "helper", "helper", none, "",
      none, [], none⟩] }

/-- A program that calls the function of the library. -/
def callingProgram : Snapshot :=
  { Snapshot.empty with
    externs := [⟨1, .lib "library"⟩]
    refs := [⟨.function, ⟨⟨"/w/main.rs"⟩, 30, 36, 2, 2, 10, 16⟩, ⟨1, 4⟩⟩] }

/-- The program is there from the beginning, and the library comes and goes. -/
def lateLibrary : List IndexUpdate :=
  [.merge (.lib "program") callingProgram, .merge (.lib "library") helperLibrary,
    .remove (.lib "library")]

/-- The call shows while the library is indexed: neither before nor afterwards. -/
theorem lateLibrary_is_called_while_indexed :
    let call : Span := ⟨⟨"/w/main.rs"⟩, ⟨30, 36⟩, ⟨⟨1, 9⟩, ⟨1, 15⟩⟩⟩
    call ∉ (after (lateLibrary.take 1)).index.view.referencesTo ⟨1, 0⟩ ∧
      (∃ id, (after (lateLibrary.take 2)).index.view.resolve ⟨1, 4⟩ = some id ∧
        call ∈ (after (lateLibrary.take 2)).index.view.referencesTo id) ∧
      call ∉ (after lateLibrary).index.view.referencesTo ⟨1, 0⟩ := by
  intro call
  refine ⟨by decide +kernel, ?_, by decide +kernel⟩
  have hprogram :
      (after (lateLibrary.take 2)).last.get? (.lib "program") = some callingProgram := by
    decide +kernel
  have hlibrary :
      (after (lateLibrary.take 2)).last.get? (.lib "library") = some helperLibrary := by
    decide +kernel
  obtain ⟨w, span, hw, -, hspan, hfound⟩ :=
    (references_invert_resolution (lateLibrary.take 2)).2.2 _ _ hprogram _ _
      (.written (List.mem_singleton.2 rfl) rfl) rfl
  obtain rfl : .lib "library" = w := Option.some.inj hw
  obtain rfl : call = span := Except.ok.inj hspan
  exact hfound.2 ⟨_, hlibrary, _, List.mem_singleton.2 rfl, rfl⟩

end Ledger

end CodeAtlas
