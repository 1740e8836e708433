import CodeAtlas.Proofs.Index.Agreement
import CodeAtlas.Proofs.Index.WellFormed
import CodeAtlas.Proofs.Ordered.Sorting

/-!
# Navigation

A cursor may stand inside several names at once, from one unit or from many. Those that resolve
compete, and the innermost one is picked; the others give way to the names around them. From the
definition that is found one goes up through the parents. Parents are whatever the snapshots say, so
the way up may lead in circles; it ends because no definition is visited twice.

## Architecture

- **Layer A**: the names of a view, and those that a cursor is offered;
- **Layer B**: the name that is picked;
- **Layer C**: where names come from;
- **Layer D**: the main result on cursors;
- **Layer E**: the way up, and that there is only one;
- **Layer F**: the way up ends, and the main result on parents.
-/

namespace CodeAtlas

/-! ## Layer A: names -/

/-- The number of bytes of a place. -/
def Span.size (s : Span) : Nat := s.bytes.stop.toNat - s.bytes.start.toNat

/-- The width of a place that is not reversed is its size. -/
theorem Span.toNat_width {s : Span} (h : s.bytes.start.toNat ≤ s.bytes.stop.toNat) :
    s.width.toNat = s.size :=
  UInt32.toNat_sub_of_le _ _ (UInt32.le_iff_toNat_le.2 h)

/-- Inner names come first; of names that are equally wide, definitions do. -/
def Occurrence.compareInner : Occurrence → Occurrence → Ordering :=
  compareLex (compareOn fun o => o.span.width) (compareOn fun o => !o.isDef)

instance : Std.TransCmp Occurrence.compareInner :=
  inferInstanceAs (Std.TransCmp (compareLex (compareOn fun o : Occurrence => o.span.width)
    (compareOn fun o : Occurrence => !o.isDef)))

namespace View

variable {v : View} {file : Path} {p : Position} {o : Occurrence} {id : GlobalId}

/-- The names of all units: unit by unit, and each unit's in the order of its records. -/
def names (v : View) : List Occurrence := v.records.flatMap (·.occurrences)

/-- **A name that a cursor is offered**: it stands in the file, the cursor is between its ends or at
one of them, and it resolves. -/
structure Offers (v : View) (file : Path) (p : Position) (o : Occurrence) (id : GlobalId) :
    Prop where
  named : o ∈ v.names
  file : o.span.file = file.normalize
  start : (compare o.span.range.start p).isLE
  stop : (compare p o.span.range.stop).isLE
  resolves : v.resolve o.target = some id

/-- A name at a position, whether it resolves or not. -/
def covers (file : Path) (p : Position) (o : Occurrence) : Bool :=
  o.span.file == file.normalize && o.span.range.contains p

theorem offers_iff : v.Offers file p o id ↔
    o ∈ v.names.filter (covers file p) ∧ v.resolve o.target = some id := by
  simp only [List.mem_filter, covers, Range.contains, Position.le, Bool.and_eq_true, beq_iff_eq,
    bne_iff_ne, ← Ordering.isLE_iff_ne_gt]
  constructor
  · intro h
    exact ⟨⟨h.named, h.file, h.start, h.stop⟩, h.resolves⟩
  · intro h
    exact ⟨h.1.1, h.1.2.1, h.1.2.2.1, h.1.2.2.2, h.2⟩

/-- The names at a position are sorted, inner ones first. -/
theorem occurrencesAt_eq (v : View) (file : Path) (p : Position) :
    v.occurrencesAt file p =
      sortUnder Occurrence.compareInner (v.names.filter (covers file p)) := by
  unfold names
  rw [List.filter_flatMap]
  rfl

/-- What a name at a position amounts to. -/
def found (v : View) (o : Occurrence) : Option (Span × GlobalId) :=
  (v.resolve o.target).map fun id => (o.span, id)

theorem found_eq_some_iff {q : Span × GlobalId} :
    v.found o = some q ↔ v.resolve o.target = some q.2 ∧ o.span = q.1 := by
  unfold found
  cases v.resolve o.target <;> simp [Prod.ext_iff, and_comm]

theorem occurrenceAt_eq (v : View) (file : Path) (p : Position) :
    v.occurrenceAt file p =
      (sortUnder Occurrence.compareInner (v.names.filter (covers file p))).findSome? v.found := by
  rw [← occurrencesAt_eq]
  rfl

/-- **Nothing is found** exactly if nothing is offered. -/
theorem idAt_eq_none_iff (v : View) (file : Path) (p : Position) :
    v.idAt file p = none ↔ ∀ o id, ¬ v.Offers file p o id := by
  unfold idAt
  rw [Option.map_eq_none_iff, occurrenceAt_eq, List.findSome?_eq_none_iff]
  simp only [mem_sortUnder, offers_iff, not_and, found, Option.map_eq_none_iff]
  constructor
  · intro h o id ho
    simp [h o ho]
  · intro h o ho
    apply Option.eq_none_iff_forall_ne_some.2
    intro id
    exact h o id ho

/-! ## Layer B: the name that is picked -/

/-- **The name that a cursor picks** among those it is offered: none is narrower, none of the same
width is a definition unless it is one itself, and it is the first one of its kind. -/
structure Picks (v : View) (file : Path) (p : Position) (o : Occurrence) (id : GlobalId) :
    Prop where
  offered : v.Offers file p o id
  narrowest : ∀ c j, v.Offers file p c j → o.span.size ≤ c.span.size
  definition : ∀ c j, v.Offers file p c j → c.span.size = o.span.size → c.isDef = true →
    o.isDef = true
  first : ∃ front back, v.names = front ++ o :: back ∧ ∀ c ∈ front, ∀ j, v.Offers file p c j →
    o.span.size < c.span.size ∨ o.span.size = c.span.size ∧ o.isDef = true ∧ c.isDef = false

end View

namespace Occurrence

variable {a b : Occurrence}

/-- A name whose place is not reversed. -/
def Forward (o : Occurrence) : Prop := o.span.bytes.start.toNat ≤ o.span.bytes.stop.toNat

/-- **A name comes before another one** if it is narrower, or as wide and a definition while the
other one is none. -/
theorem compareInner_eq_lt_iff (ha : a.Forward) (hb : b.Forward) :
    a.compareInner b = .lt ↔ a.span.size < b.span.size ∨
      a.span.size = b.span.size ∧ a.isDef = true ∧ b.isDef = false := by
  have hkinds : compare (!a.isDef) (!b.isDef) = .lt ↔ a.isDef = true ∧ b.isDef = false := by
    cases a.isDef <;> cases b.isDef <;> decide
  -- The widths are computed in 32 bits, which is exact because neither place is reversed.
  show (compare a.span.width b.span.width).then (compare (!a.isDef) (!b.isDef)) = .lt ↔ _
  rw [Ordering.then_eq_lt, hkinds, Std.compare_eq_lt, Std.LawfulEqOrd.compare_eq_iff_eq,
    UInt32.lt_iff_toNat_lt, ← UInt32.toNat_inj, Span.toNat_width ha, Span.toNat_width hb]

end Occurrence

namespace View

variable {v : View} {file : Path} {p : Position} {o : Occurrence} {id : GlobalId}

/-- **What is found is what the cursor picks**, as long as no name is reversed. -/
theorem exists_picks (hforward : ∀ o ∈ v.names, o.Forward) {q : Span × GlobalId}
    (h : v.occurrenceAt file p = some q) : ∃ o, v.Picks file p o q.2 ∧ o.span = q.1 := by
  rw [occurrenceAt_eq] at h
  obtain ⟨front, o, back, hsplit, hfound, hleast, hfirst⟩ := exists_of_findSome?_sortUnder h
  obtain ⟨hresolves, hspan⟩ := found_eq_some_iff.1 hfound
  have hmem : o ∈ v.names.filter (covers file p) := by simp [hsplit]
  have hoffered : v.Offers file p o q.2 := offers_iff.2 ⟨hmem, hresolves⟩
  have ho := hforward o hoffered.named
  -- What is offered has a result, so it does not come before the name that is found.
  have hnot : ∀ c j, v.Offers file p c j → ¬ (c.span.size < o.span.size ∨
      c.span.size = o.span.size ∧ c.isDef = true ∧ o.isDef = false) := by
    intro c j hc
    have hle := hleast c (offers_iff.1 hc).1 (by simp [found, hc.resolves])
    rw [← Occurrence.compareInner_eq_lt_iff (hforward c hc.named) ho]
    intro hlt
    simp [Std.OrientedCmp.gt_of_lt hlt] at hle
  refine ⟨o, ⟨hoffered, ?narrowest, ?definition, ?first⟩, hspan⟩
  case narrowest =>
    intro c j hc
    exact Nat.le_of_not_lt fun hlt => hnot c j hc (Or.inl hlt)
  case definition =>
    intro c j hc hsize hdef
    cases hkind : o.isDef with
    | true => rfl
    | false => exact absurd (Or.inr ⟨hsize, hdef, hkind⟩) (hnot c j hc)
  case first =>
    -- Back from the names at the position to all names: those that were skipped are not offered.
    obtain ⟨before, behind, hnames, hbefore, hbehind⟩ := List.filter_eq_append_iff.1 hsplit
    obtain ⟨skipped, rest, hrest, hskipped, hcovers, -⟩ := List.filter_eq_cons_iff.1 hbehind
    refine ⟨before ++ skipped, rest, by simp [hnames, hrest], ?_⟩
    intro c hc j hoffer
    rw [← Occurrence.compareInner_eq_lt_iff ho (hforward c hoffer.named)]
    have hcovered := (List.mem_filter.1 (offers_iff.1 hoffer).1).2
    apply hfirst c
    · rw [← hbefore]
      have hnot : c ∉ skipped := fun hmem => hskipped c hmem hcovered
      have hmem : c ∈ before := by simpa [hnot] using hc
      simp [hmem, hcovered]
    · simp [found, hoffer.resolves]

/-- Nothing that is offered comes before the name that is picked. -/
theorem Picks.not_before {c : Occurrence} {j : GlobalId} (h : v.Picks file p o id)
    (hc : v.Offers file p c j) : ¬ (c.span.size < o.span.size ∨
      c.span.size = o.span.size ∧ c.isDef = true ∧ o.isDef = false) := by
  intro hbefore
  cases hbefore with
  | inl hlt => exact Nat.not_le_of_lt hlt (h.narrowest c j hc)
  | inr hsame => simp [h.definition c j hc hsame.1 hsame.2.1] at hsame

/-- **One name is picked.** -/
theorem Picks.unique {o' : Occurrence} {id' : GlobalId} (h : v.Picks file p o id)
    (h' : v.Picks file p o' id') : o' = o ∧ id' = id := by
  obtain ⟨front, back, hnames, hfirst⟩ := h.first
  obtain ⟨front', back', hnames', hfirst'⟩ := h'.first
  -- Neither name stands in front of the other one, so they stand in the same place.
  have hnot : o' ∉ front := fun hmem => h'.not_before h.offered (hfirst o' hmem id' h'.offered)
  have hnot' : o ∉ front' := fun hmem => h.not_before h'.offered (hfirst' o hmem id h.offered)
  have hsame : o' = o := by
    rw [hnames, List.append_eq_append_iff] at hnames'
    cases hnames' with
    | inl hlonger =>
      obtain ⟨mid, rfl, hmid⟩ := hlonger
      cases mid with
      | nil => exact (List.cons.inj hmid).1.symm
      | cons c mid => exact absurd (by simp [(List.cons.inj hmid).1]) hnot'
    | inr hlonger =>
      obtain ⟨mid, rfl, hmid⟩ := hlonger
      cases mid with
      | nil => exact (List.cons.inj hmid).1
      | cons c mid => exact absurd (by simp [(List.cons.inj hmid).1]) hnot
  refine ⟨hsame, ?_⟩
  have hresolves := h'.offered.resolves
  rw [hsame, h.offered.resolves] at hresolves
  exact (Option.some.inj hresolves).symm

end View

namespace Ledger

variable {t : Ledger}

/-! ## Layer C: where names come from -/

/-- A definition as it was lowered from the snapshot of an indexed unit. -/
def Lowers (t : Ledger) (u : UnitId) (ld : LoweredDef) : Prop :=
  ∃ s l, t.last.get? u = some s ∧ s.lowered t.index.names.space u = .ok l ∧ ld ∈ l.defs

/-- **A name is that of a lowered definition, or a reference.** -/
theorem Sound.name_cases (h : t.Sound) {o : Occurrence} (ho : o ∈ t.index.view.names) :
    (∃ u ld, t.Lowers u ld ∧ o = ⟨ld.record.span, ⟨t.index.names.space u, ld.index⟩, true⟩) ∨
      o.isDef = false ∧ t.Refers o.target o.span := by
  obtain ⟨r, hr, hmem⟩ := List.mem_flatMap.1 ho
  obtain ⟨u, s, l, hs, -, hl, rfl⟩ := h.exists_snapshot hr
  simp only [Index.stamp, Index.assemble, List.mem_append, List.mem_map] at hmem
  cases hmem with
  | inl hdef =>
    obtain ⟨ld, hld, rfl⟩ := hdef
    rw [(Snapshot.lowered_ok hl).2]
    exact Or.inl ⟨u, ld, ⟨s, l, hs, hl, hld⟩, rfl⟩
  | inr href =>
    obtain ⟨ref, href, rfl⟩ := href
    exact Or.inr ⟨rfl, u, s, hs, (Snapshot.mem_refs_iff hl).1 href⟩

/-- No name is reversed. -/
theorem Sound.forward_of_mem_names (h : t.Sound) {o : Occurrence} (ho : o ∈ t.index.view.names) :
    o.Forward := by
  cases h.name_cases ho with
  | inl hdef =>
    obtain ⟨u, ld, ⟨s, l, -, hl, hld⟩, rfl⟩ := hdef
    obtain ⟨d, -, hlowered⟩ := Snapshot.exists_keeps_of_mem hl hld
    exact hlowered.place.bytesForward
  | inr href =>
    obtain ⟨-, u, s, -, place, target, -, -, hplace⟩ := href
    exact (LoweringScope.span_eq_ok_iff.1 hplace).bytesForward

/-- A lowered definition has a record. -/
theorem Sound.exists_stamp (h : t.Sound) {u : UnitId} {ld : LoweredDef} (hld : t.Lowers u ld) :
    ∃ l, l.space = t.index.names.space u ∧ ld ∈ l.defs ∧
      Index.stamp t.index.sites l ∈ t.index.view.records := by
  obtain ⟨s, l, hs, hl, hmem⟩ := hld
  obtain ⟨-, l', hl', hr⟩ := h.exists_records hs
  obtain rfl := Except.ok.inj (hl.symm.trans hl')
  exact ⟨l, (Snapshot.lowered_ok hl).2, hmem, hr⟩

/-- **The number of a lowered definition** resolves to the identifier of its site. -/
theorem Sound.resolve_of_lowers (h : t.Sound) {u : UnitId} {ld : LoweredDef} (hld : t.Lowers u ld) :
    t.index.view.resolve ⟨t.index.names.space u, ld.index⟩ =
      some (t.index.sites.idOf ld.record.site) := by
  obtain ⟨l, hspace, hmem, hr⟩ := h.exists_stamp hld
  apply h.resolve_iff.2
  exact ⟨_, hr, hspace, Index.mem_locals_iff.2 ⟨ld, hmem, rfl, rfl⟩⟩

/-- The site of a lowered definition has its identifier. -/
theorem Sound.denotes_of_lowers (h : t.Sound) {u : UnitId} {ld : LoweredDef} (hld : t.Lowers u ld) :
    t.index.view.Denotes (t.index.sites.idOf ld.record.site) ld.record.site := by
  obtain ⟨l, -, hmem, hr⟩ := h.exists_stamp hld
  exact ⟨_, hr, Index.stamp_denotes_iff.2 ⟨List.mem_map_of_mem hmem, rfl⟩⟩

/-- **A name that resolves** is a reference to what it resolves to, or it belongs to a definition of
that site. -/
theorem Sound.refers_or_lowers (h : t.Sound) {o : Occurrence} {id : GlobalId}
    (ho : o ∈ t.index.view.names) (hid : t.index.view.resolve o.target = some id) :
    o.span ∈ t.index.view.referencesTo id ∨
      ∃ u ld, t.Lowers u ld ∧ ld.record.span = o.span ∧ t.index.view.Denotes id ld.record.site := by
  cases h.name_cases ho with
  | inl hdef =>
    obtain ⟨u, ld, hld, rfl⟩ := hdef
    obtain rfl : t.index.sites.idOf ld.record.site = id :=
      Option.some.inj ((h.resolve_of_lowers hld).symm.trans hid)
    exact Or.inr ⟨u, ld, hld, rfl, h.denotes_of_lowers hld⟩
  | inr href => exact Or.inl (h.mem_referencesTo_iff.2 ⟨o.target, href.2, hid⟩)

/-- Records stand in the order of their units. -/
theorem Sound.pairwise_units (h : t.Sound) :
    (t.index.view.records.map (·.unit)).Pairwise fun u w => compare u w = .lt := by
  have hunit : ∀ e ∈ t.index.view.units.entries, e.2.unit = e.1 := by
    intro e he
    obtain ⟨s, -, -, l, hl, heq⟩ := h.records.exists_right he
    rw [heq]
    exact (Snapshot.lowered_ok hl).1
  rw [View.records, Table.values, List.map_map, List.pairwise_map]
  -- The table of the units is ordered by the units, and these are the units of the records.
  apply h.ordered.imp_of_mem
  intro e f he hf hlt
  simpa [hunit e he, hunit f hf] using hlt

/-! ## Layer D: cursors -/

/-- **A cursor picks the innermost name that resolves.** After every history the records come in the
order of their units, and at every position of every file:
- nothing is found exactly if no name at the position resolves;
- otherwise one name is picked. It is shown with the definition that it resolves to, and it is a
  reference to that definition or the name of a definition of the same site. -/
theorem cursor_picks_innermost (history : List IndexUpdate)
    (hunits : (after history).index.names.units.length < 2 ^ 32) (file : Path) (p : Position) :
    let t := after history
    let v := t.index.view
    (v.records.map (·.unit)).Pairwise (fun u w => compare u w = .lt) ∧
    (v.idAt file p = none ↔ ∀ o id, ¬ v.Offers file p o id) ∧
    ∀ id, v.idAt file p = some id → ∃ o d, v.Picks file p o id ∧
      (∀ o' id', v.Picks file p o' id' → o' = o ∧ id' = id) ∧
      v.hoverAt file p = some ⟨o.span, d⟩ ∧ v.definition id = some d ∧ d.id = id ∧
      (o.span ∈ v.referencesTo id ∨
        ∃ u ld, t.Lowers u ld ∧ ld.record.span = o.span ∧ v.Denotes id ld.record.site) := by
  intro t v
  have h : t.Sound := sound_after history
  refine ⟨h.pairwise_units, v.idAt_eq_none_iff file p, ?_⟩
  intro id hid
  obtain ⟨q, hq, rfl⟩ := Option.map_eq_some_iff.1 hid
  -- names do not run backwards, so the least of those at the position is one that was offered
  obtain ⟨o, hpicks, hspan⟩ := View.exists_picks (fun o ho => h.forward_of_mem_names ho) hq
  obtain ⟨d, hd, hid⟩ : ∃ d, v.definition q.2 = some d ∧ d.id = q.2 :=
    (h.coherent hunits).definition_of_idAt hid
  have hhover : v.hoverAt file p = some ⟨o.span, d⟩ := by
    simp [View.hoverAt, hq, hd, hspan]
  exact ⟨o, d, hpicks, fun _ _ hother => hpicks.unique hother, hhover, hd, hid,
    h.refers_or_lowers hpicks.offered.named hpicks.offered.resolves⟩

/-- A function whose name is the call of a macro from another unit, which was not indexed. -/
def namedByMacro : List IndexUpdate :=
  let place (start stop : UInt32) : RawSpan :=
    ⟨⟨"/w/lib.rs"⟩, start, stop, 1, 1, start + 1, stop + 1⟩
  [.merge (.lib "app")
    { Snapshot.empty with
      externs := [⟨1, .lib "macros"⟩]
      defs := [⟨.function, ⟨0, 1⟩, place 3 17, "made", "::made", none, "", none, [], none⟩]
      refs := [⟨.function, place 3 9, ⟨1, 4⟩⟩] }]

/-- The call does not resolve, so the cursor picks the function. -/
theorem namedByMacro_gives_way :
    let v := (after namedByMacro).index.view
    let span : Span := ⟨⟨"/w/lib.rs"⟩, ⟨3, 17⟩, ⟨⟨0, 3⟩, ⟨0, 17⟩⟩⟩
    (∃ o ∈ v.names, o.span.size < span.size ∧ View.covers span.file ⟨0, 5⟩ o = true) ∧
      ∃ d, v.hoverAt span.file ⟨0, 5⟩ = some ⟨span, d⟩ ∧ v.definition ⟨0, 0⟩ = some d := by
  intro v span
  obtain ⟨-, hnone, hsome⟩ := cursor_picks_innermost namedByMacro (by decide) span.file ⟨0, 5⟩
  -- Of the names at the position one resolves.
  have honly : ∀ o ∈ v.names.filter (View.covers span.file ⟨0, 5⟩),
      v.resolve o.target = none ∨ v.resolve o.target = some ⟨0, 0⟩ ∧ o.span = span := by
    decide +kernel
  refine ⟨by decide +kernel, ?_⟩
  cases hid : v.idAt span.file ⟨0, 5⟩ with
  | none =>
    have hoffered := hnone.1 hid ⟨span, ⟨0, 1⟩, true⟩ ⟨0, 0⟩
    rw [View.offers_iff] at hoffered
    exact absurd (by decide +kernel) hoffered
  | some id =>
    obtain ⟨o, d, hpicks, -, hhover, hd, -, -⟩ := hsome id hid
    obtain ⟨hmem, hresolves⟩ := View.offers_iff.1 hpicks.offered
    have hone := honly o hmem
    rw [hresolves] at hone
    obtain ⟨rfl, hspan⟩ : id = ⟨0, 0⟩ ∧ o.span = span := by simpa using hone
    exact ⟨d, hspan ▸ hhover, hd⟩

end Ledger

/-! ## Layer E: the way up -/

namespace View

variable {v : View} {cur id : GlobalId} {below : List GlobalId} {d : Definition}
  {ds : List Definition}

/-- The parent of a definition, if it resolves. -/
def parent? (v : View) (id : GlobalId) : Option GlobalId := (v.definition id).bind (·.parent)

/-- **The way up** from `cur`, which was reached by way of those `below`: each step leads to the
parent of the last definition and to none that was visited, and the way ends where there is no such
step. -/
structure Climbs (v : View) (cur : GlobalId) (below : List GlobalId) (ds : List Definition) :
    Prop where
  defined : ∀ d ∈ ds, v.definition d.id = some d
  linked : (cur :: ds.map (·.id)).IsChain fun a b => v.parent? a = some b
  once : (ds.map (·.id)).Nodup
  fresh : ∀ d ∈ ds, d.id ∉ cur :: below
  stops : ∀ p, v.parent? ((ds.map (·.id)).getLastD cur) = some p →
    p ∈ ds.map (·.id) ∨ p ∈ cur :: below

namespace Climbs

/-- The way ends at once where the parent was visited, and where there is none. -/
theorem stop (h : ∀ p, v.parent? cur = some p → p ∈ cur :: below) : v.Climbs cur below [] where
  defined := by simp
  linked := by simp
  once := by simp
  fresh := by simp
  stops p hp := Or.inr (h p hp)

/-- **One step up** to a parent that was not visited. -/
theorem step (hparent : v.parent? cur = some d.id) (hd : v.definition d.id = some d)
    (hfresh : d.id ∉ cur :: below) (h : v.Climbs d.id (cur :: below) ds) :
    v.Climbs cur below (d :: ds) where
  defined := by simpa [hd] using h.defined
  linked := by simpa [hparent] using h.linked
  once := by
    simp only [List.map_cons, List.nodup_cons, h.once, and_true]
    intro hmem
    obtain ⟨e, he, heq⟩ := List.mem_map.1 hmem
    exact h.fresh e he (by simp [heq])
  fresh := by
    intro e he
    cases he with
    | head => exact hfresh
    | tail _ he => exact fun hmem => h.fresh e he (List.mem_cons_of_mem _ hmem)
  stops := by
    intro p hp
    -- the way ends where the rest of it ends, and has passed one definition more
    rw [List.map_cons, List.getLastD_cons] at hp
    have hseen := h.stops p hp
    simp only [List.map_cons, List.mem_cons] at hseen ⊢
    tauto

/-- What is left of a way after its first step. -/
theorem tail (h : v.Climbs cur below (d :: ds)) : v.Climbs d.id (cur :: below) ds where
  defined e he := h.defined e (List.mem_cons_of_mem _ he)
  linked := (List.isChain_cons_cons.1 h.linked).2
  once := (List.nodup_cons.1 h.once).2
  fresh := by
    intro e he hmem
    cases List.mem_cons.1 hmem with
    | inl heq => exact (List.nodup_cons.1 h.once).1 (List.mem_map.2 ⟨e, he, heq⟩)
    | inr hmem => exact h.fresh e (List.mem_cons_of_mem _ he) hmem
  stops := by
    intro p hp
    have hseen := h.stops p (by rwa [List.map_cons, List.getLastD_cons])
    simp only [List.map_cons, List.mem_cons] at hseen ⊢
    tauto

theorem parent_eq (h : v.Climbs cur below (d :: ds)) : v.parent? cur = some d.id :=
  (List.isChain_cons_cons.1 h.linked).1

/-- **There is one way up.** -/
theorem unique {es : List Definition} (h : v.Climbs cur below ds) (h' : v.Climbs cur below es) :
    ds = es := by
  -- On one of the two ways. Where a way ends, going on would lead to what was visited.
  induction ds generalizing cur below es with
  | nil =>
    cases es with
    | nil => rfl
    | cons e es =>
      have hseen := (h.stops _ h'.parent_eq).resolve_left (by simp)
      exact absurd hseen (h'.fresh e (by simp))
  | cons d ds ih =>
    cases es with
    | nil =>
      have hseen := (h'.stops _ h.parent_eq).resolve_left (by simp)
      exact absurd hseen (h.fresh d (by simp))
    | cons e es =>
      have hid : d.id = e.id := Option.some.inj (h.parent_eq.symm.trans h'.parent_eq)
      have hsame : d = e := by
        have hd := h.defined d (by simp)
        rw [hid, h'.defined e (by simp)] at hd
        exact (Option.some.inj hd).symm
      obtain rfl := hsame
      rw [ih h.tail h'.tail]

end Climbs

/-! ## Layer F: the way up ends -/

/-- The identifiers of all records. -/
def recorded (v : View) : List GlobalId := v.records.flatMap fun r => r.defs.map (·.1)

theorem length_recorded (v : View) : v.recorded.length = v.defCount := by
  unfold recorded defCount
  rw [List.length_flatMap, List.sum_eq_foldl]
  simp

/-- What has a definition has a record. -/
theorem mem_recorded (h : v.definition id = some d) : id ∈ v.recorded := by
  unfold definition at h
  split at h
  case isTrue => cases h
  case isFalse =>
    obtain ⟨⟨r, record⟩, hrecord, -⟩ := Option.map_eq_some_iff.1 h
    obtain ⟨hr, hmem⟩ := record?_spec hrecord
    exact List.mem_flatMap.2 ⟨r, hr, List.mem_map_of_mem hmem⟩

/-- A parent is the parent in some definition. -/
theorem parent?_eq_some_iff {p : GlobalId} :
    v.parent? id = some p ↔ ∃ d, v.definition id = some d ∧ d.parent = some p :=
  Option.bind_eq_some_iff

/-- **Parents are defined.** -/
theorem Coherent.definition_of_parent? (hv : v.Coherent) {p : GlobalId}
    (h : v.parent? id = some p) : ∃ d, v.definition p = some d ∧ d.id = p := by
  obtain ⟨d, hd, hparent⟩ := parent?_eq_some_iff.1 h
  rw [hv.definition_eq] at hd
  obtain ⟨⟨r, record⟩, -, rfl⟩ := Option.map_eq_some_iff.1 hd
  obtain ⟨i, -, hi⟩ := Option.bind_eq_some_iff.1 hparent
  exact hv.definition_of_resolve hi

/-- **Climbing with enough fuel leads all the way up.** Each step leaves behind a definition that no
other step does, and there are no more of them than records. -/
theorem Coherent.climbs_climb (hv : v.Coherent) {fuel : Nat} (hnodup : (cur :: below).Nodup)
    (hbelow : below ⊆ v.recorded) (hfuel : v.defCount < fuel + below.length) :
    v.Climbs cur below (v.climb fuel (cur :: below) (v.parent? cur)) := by
  induction fuel generalizing cur below with
  | zero =>
    -- There would be more definitions below than there are records.
    have hle := (List.subperm_of_subset (List.nodup_cons.1 hnodup).2 hbelow).length_le
    rw [length_recorded] at hle
    omega
  | succ fuel ih =>
    cases hparent : v.parent? cur with
    | none => exact Climbs.stop (by simp [hparent])
    | some p =>
      obtain ⟨d, hd, rfl⟩ := hv.definition_of_parent? hparent
      have hcur : cur ∈ v.recorded := by
        obtain ⟨e, he, -⟩ := parent?_eq_some_iff.1 hparent
        exact mem_recorded he
      rw [climb]
      split
      case isTrue hseen => exact Climbs.stop (by simpa [hparent] using hseen)
      case isFalse hseen =>
        have hfresh : d.id ∉ cur :: below := by simpa using hseen
        -- The next round starts from `d`, with `cur` among those that were left behind.
        have hnext : d.parent = v.parent? d.id := by simp [parent?, hd]
        simp only [hd, hnext]
        apply Climbs.step hparent hd hfresh
        apply ih (List.nodup_cons.2 ⟨hfresh, hnodup⟩)
        · simpa [hcur] using hbelow
        · simp only [List.length_cons]
          omega

end View

namespace Ledger

/-- **The definitions around a definition end in a simple chain**, whatever parents the snapshots
give. Read from its last element, the list starts with the parent of the definition; each element is
what is answered for its identifier, and the next one is its parent. Neither the definition nor any
other one comes twice. The list ends where there is no parent that resolves, or where the parent was
met before. More fuel leads to no other list. -/
theorem parents_are_simple_chain (history : List IndexUpdate)
    (hunits : (after history).index.names.units.length < 2 ^ 32) (id : GlobalId) :
    let v := (after history).index.view
    let chain := (v.parents id).reverse
    let ids := chain.map (·.id)
    (∀ d ∈ chain, v.definition d.id = some d) ∧
    (id :: ids).IsChain (fun a b => v.parent? a = some b) ∧
    (id :: ids).Nodup ∧
    (∀ p, v.parent? (ids.getLastD id) = some p → p ∈ id :: ids) ∧
    ∀ fuel, v.defCount < fuel → v.climb fuel [id] (v.parent? id) = chain := by
  intro v chain ids
  have hv : v.Coherent := (sound_after history).coherent hunits
  -- the climb needs no more steps than there are definitions
  have hclimbs : ∀ fuel, v.defCount < fuel → v.Climbs id [] (v.climb fuel [id] (v.parent? id)) := by
    intro fuel hfuel
    exact hv.climbs_climb (by simp) (by simp) (by simpa using hfuel)
  have hchain : chain = v.climb (v.defCount + 1) [id] (v.parent? id) := List.reverse_reverse _
  have h : v.Climbs id [] chain := by
    rw [hchain]
    exact hclimbs _ (Nat.lt_succ_self _)
  refine ⟨h.defined, h.linked, ?once, ?stops, ?fuel⟩
  case once =>
    apply List.nodup_cons.2
    refine ⟨?_, h.once⟩
    intro hmem
    obtain ⟨d, hd, heq⟩ := List.mem_map.1 hmem
    exact h.fresh d hd (by simp [heq])
  case stops =>
    intro p hp
    have hseen := h.stops p hp
    rw [List.mem_singleton] at hseen
    exact List.mem_cons.2 hseen.symm
  case fuel =>
    intro fuel hfuel
    exact (hclimbs fuel hfuel).unique h

/-- Three modules: the first one lies in the second one, and the other two lie in each other. -/
def nestedInCircle : List IndexUpdate :=
  let module (n parent : UInt32) (name : String) : RawDef :=
    ⟨.module, ⟨0, n⟩, ⟨⟨"/w/lib.rs"⟩, 10 * n, 10 * n + 3, n, n, 1, 4⟩, name, "::" ++ name, none, "",
      some ⟨0, parent⟩, [], none⟩
  [.merge (.lib "app")
    { Snapshot.empty with defs := [module 1 2 "one", module 2 3 "two", module 3 2 "three"] }]

/-- The way up goes once around the circle. -/
theorem nestedInCircle_ends :
    let v := (after nestedInCircle).index.view
    (v.parents ⟨0, 0⟩).map (·.name) = ["three", "two"] ∧
      (⟨0, 0⟩ :: (v.parents ⟨0, 0⟩).reverse.map (·.id)).Nodup := by
  intro v
  obtain ⟨-, -, honce, -, -⟩ := parents_are_simple_chain nestedInCircle (by decide) ⟨0, 0⟩
  exact ⟨by decide +kernel, honce⟩

end Ledger

end CodeAtlas
