import CodeAtlas.Proofs.Index.Identifiers

/-!
# Replacing the records of a unit

A merge takes hold of the new sites while the old records still hold theirs, and gives the old holds
up afterwards. So nothing of another unit changes, and a site that both the old and the new records
are about is held all the way and keeps its identifier. A snapshot that takes its own place takes
hold of held sites only and gives up as many holds as it took: the table ends up as it was, down to
the order of its entries and the serial numbers that are issued next.

## Architecture

- **Layer A**: views that answer alike;
- **Layer B**: indexed units and their last snapshots;
- **Layer C**: a snapshot that is accepted;
- **Layer D**: a snapshot that takes its own place;
- **Layer E**: updates that are turned down, and the main result.
-/

namespace CodeAtlas

/-! ## Layer A: answers -/

/-- **Two views answer every query alike.** -/
structure View.AnswersAs (v w : View) : Prop where
  indexedUnits : w.indexedUnits = v.indexedUnits
  containsUnit : ∀ u, w.containsUnit u = v.containsUnit u
  resolve : ∀ i, w.resolve i = v.resolve i
  definition : ∀ id, w.definition id = v.definition id
  occurrenceAt : ∀ file p, w.occurrenceAt file p = v.occurrenceAt file p
  idAt : ∀ file p, w.idAt file p = v.idAt file p
  definitionAt : ∀ file p, w.definitionAt file p = v.definitionAt file p
  hoverAt : ∀ file p, w.hoverAt file p = v.hoverAt file p
  referencesTo : ∀ id, w.referencesTo id = v.referencesTo id
  findImpls : ∀ id, w.findImpls id = v.findImpls id
  children : ∀ id, w.children id = v.children id
  parents : ∀ id, w.parents id = v.parents id
  symbols : ∀ file, w.symbols file = v.symbols file
  search : ∀ name, w.search name = v.search name
  searchLead : ∀ lead, w.searchLead lead = v.searchLead lead
  diagnostics : ∀ file, w.diagnostics file = v.diagnostics file

/-- Climbing reads the records, whatever the generation. -/
theorem View.climb_of_units {v w : View} (h : w.units = v.units) (fuel : Nat)
    (seen : List GlobalId) (next : Option GlobalId) :
    w.climb fuel seen next = v.climb fuel seen next := by
  obtain ⟨units, m⟩ := v
  obtain ⟨units', n⟩ := w
  obtain rfl : units' = units := h
  induction fuel generalizing seen next with
  | zero => rfl
  | succ fuel ih =>
    cases next with
    | none => rfl
    | some id =>
      simp only [climb, ih]
      rfl

/-- **No query reads the generation.** -/
theorem View.answersAs_of_units {v w : View} (h : w.units = v.units) : v.AnswersAs w := by
  -- parents climb for as long as there is fuel, all other queries unfold at once
  have hparents : ∀ id, w.parents id = v.parents id := by
    intro id
    have hclimb := View.climb_of_units h
    obtain ⟨units, m⟩ := v
    obtain ⟨units', n⟩ := w
    obtain rfl : units' = units := h
    unfold View.parents
    rw [hclimb]
    rfl
  obtain ⟨units, m⟩ := v
  obtain ⟨units', n⟩ := w
  obtain rfl : units' = units := h
  constructor
  case parents => exact hparents
  all_goals
    intros
    rfl

/-! ## Layer B: indexed units -/

namespace Ledger

variable {t : Ledger} {u : UnitId}

/-- The sites of indexed records are held. -/
theorem Sound.held_of_get? (h : t.Sound) {r : UnitRecords}
    (hr : t.index.view.units.get? u = some r) {i : Site} (hi : i ∈ r.sites) :
    0 < t.index.sites.holders i :=
  h.held ((h.ordered.get?_eq_some_iff u r).1 hr) hi

/-- The records of a unit give each of their sites the identifier that the table has for it. -/
theorem Sound.denotes_of_get? (h : t.Sound) {r : UnitRecords}
    (hr : t.index.view.units.get? u = some r) {i : Site} (hi : i ∈ r.sites) {id : GlobalId} :
    r.Denotes id i ↔ id = t.index.sites.idOf i := by
  obtain ⟨s, -, -, l, -, rfl⟩ := h.exists_last hr
  rw [Index.stamp_denotes_iff]
  exact and_iff_right hi

end Ledger

/-! ## Layer C: acceptance -/

namespace Index

/-- **What an accepted snapshot of `u` makes of an index.** -/
structure Replaces (x y : Index) (u : UnitId) (s : Snapshot) (stats : MergeStats) : Prop where
  /-- The records of the unit are those of the snapshot, and they are what is reported. -/
  records : ∃ r, y.view.units.get? u = some r ∧ y.Reflects u r s ∧
    stats = contribution r y.view.generation
  /-- No other unit's records change. -/
  others : ∀ v, v ≠ u → y.view.units.get? v = x.view.units.get? v
  /-- No identifier changes that is held by another unit. -/
  identifiers : ∀ v r, v ≠ u → x.view.units.get? v = some r → ∀ i ∈ r.sites,
    0 < y.sites.holders i ∧ y.sites.idOf i = x.sites.idOf i
  /-- A site of both the previous and the new records is given the identifier it was given. -/
  common : ∀ r r', x.view.units.get? u = some r → y.view.units.get? u = some r' →
    ∀ i ∈ r.sites, i ∈ r'.sites →
      y.sites.idOf i = x.sites.idOf i ∧ ∀ id, r'.Denotes id i ↔ r.Denotes id i
  generation : y.view.generation = x.view.generation + 1

end Index

namespace Ledger

variable {t : Ledger} {u : UnitId}

/-- The snapshot that is accepted is the one that the unit has from then on. -/
theorem step_of_merge {s : Snapshot} {y : Index} {stats : MergeStats}
    (hmerge : t.index.merge u s = (y, .ok stats)) :
    t.step (.merge u s) = ⟨y, t.last.insert u s⟩ := by
  simp only [step, hmerge]

/-- **An accepted snapshot replaces the records of its unit**, and nothing else. -/
theorem Sound.replaces (h : t.Sound) {s : Snapshot} {y : Index} {stats : MergeStats}
    (hmerge : t.index.merge u s = (y, .ok stats)) : t.index.Replaces y u s stats := by
  have hstep := step_of_merge hmerge
  have hsound : Sound ⟨y, t.last.insert u s⟩ := hstep ▸ h.step (.merge u s)
  obtain ⟨r, hr, hreflects⟩ := hsound.exists_reflecting (Table.get?_insert_self ..)
  -- a site that is held before and after the merge is held all the way
  have hkept : ∀ i, 0 < t.index.sites.holders i → 0 < y.sites.holders i →
      y.sites.idOf i = t.index.sites.idOf i := by
    intro i hbefore hafter
    have hid := h.idOf_step (.merge u s) hbefore (hstep ▸ hafter)
    rwa [hstep] at hid
  obtain ⟨l, hl⟩ := Index.lower_ok_of_merge hmerge
  rw [Index.merge_accept hl] at hmerge
  obtain ⟨hy, hstats⟩ := Prod.mk.inj hmerge
  have hothers : ∀ v, v ≠ u → y.view.units.get? v = t.index.view.units.get? v := by
    intro v hv
    rw [← hy]
    exact Table.get?_insert_of_ne hv ..
  refine ⟨⟨r, hr, hreflects, ?_⟩, hothers, ?_, ?_, ?_⟩
  · change y.view.units.get? u = some r at hr
    rw [← hy] at hr ⊢
    obtain rfl := Option.some.inj ((Table.get?_insert_self ..).symm.trans hr)
    exact (Except.ok.inj hstats).symm
  · intro v r hv hr i hi
    have hafter := hsound.held_of_get? ((hothers v hv).trans hr) hi
    exact ⟨hafter, hkept i (h.held_of_get? hr hi) hafter⟩
  · intro r r' hr hr' i hi hi'
    have hid := hkept i (h.held_of_get? hr hi) (hsound.held_of_get? hr' hi')
    refine ⟨hid, ?_⟩
    intro id
    rw [hsound.denotes_of_get? hr' hi', h.denotes_of_get? hr hi]
    show id = y.sites.idOf i ↔ id = t.index.sites.idOf i
    rw [hid]
  · rw [← hy]

end Ledger

/-! ## Layer D: the same snapshot again -/

/-- **The second index is the first one, a generation later**: it has the same records, the same
identifiers and as many holders of each site, and it answers every query as the first one does. -/
structure Index.Renews (x y : Index) : Prop where
  names : y.names = x.names
  sites : y.sites = x.sites
  units : y.view.units = x.view.units
  answers : x.view.AnswersAs y.view
  generation : y.view.generation = x.view.generation + 1

namespace Ledger

variable {t : Ledger} {u : UnitId}

/-- The snapshot that a unit has is accepted again, and names no unit that was not seen. -/
theorem Sound.lower_last (h : t.Sound) {r : UnitRecords} {s : Snapshot}
    (hreflects : t.index.Reflects u r s) :
    ∃ l, lower t.index.names u s = (t.index.names, .ok l) ∧ r = Index.stamp t.index.sites l := by
  obtain ⟨hnamed, l, hl, hr⟩ := hreflects
  have hnames : (lower t.index.names u s).1 = t.index.names :=
    (lower_grows t.index.names u s).eq_of_subset h.names_nodup hnamed
  have hlowered : (lower t.index.names u s).2 = .ok l := by
    rw [lower_snd, hnames, hl]
  exact ⟨l, Prod.ext hnames hlowered, hr⟩

/-- **Merging the snapshot that a unit has** only moves the index on to the next generation. -/
theorem Sound.merge_last (h : t.Sound) {s : Snapshot} (hs : t.last.get? u = some s) :
    ∃ r y, t.index.view.units.get? u = some r ∧ t.index.Renews y ∧
      t.index.merge u s = (y, .ok (Index.contribution r y.view.generation)) := by
  obtain ⟨r, hr, hreflects⟩ := h.exists_reflecting hs
  obtain ⟨l, hlower, hstamp⟩ := h.lower_last hreflects
  have hsites : r.sites = l.defs.map (·.record.site) := by rw [hstamp, Index.stamp_sites]
  have hheld : ∀ d ∈ l.defs, 0 < t.index.sites.holders d.record.site := by
    intro d hd
    apply h.held_of_get? hr
    rw [hsites]
    exact List.mem_map_of_mem hd
  -- held sites keep their identifiers while they are taken hold of once more
  have hrecords : Index.stamp (Index.acquireAll t.index.sites l.space l.defs).1 l = r := by
    rw [hstamp]
    apply Index.stamp_congr
    intro i hi
    exact Index.idOf_acquireAll_of_held _ _ _ (h.held_of_get? hr (hsites ▸ hi))
  have hmerge := Index.merge_accept (congrArg Prod.snd hlower)
  simp only [hlower, hr, hrecords, Option.map_some, Option.getD_some, h.ordered.insert_of_get? hr,
    hsites, h.proper.releaseAll_acquireAll l.space l.defs hheld] at hmerge
  refine ⟨r, _, hr, ?_, hmerge⟩
  exact ⟨rfl, rfl, rfl, View.answersAs_of_units rfl, rfl⟩

/-! ## Layer E: the main result -/

/-- **Merging is a local and idempotent replacement.** After every history of merges and removals:
- an accepted snapshot replaces the records of its unit and nothing else, and one generation has
  passed; merged once more, it changes nothing but the generation;
- the snapshot that a unit has is accepted, and but for the generation the index is the same: it has
  the same records, identifiers and holders, and answers every query as before;
- a rejected snapshot changes neither the view nor the table of sites;
- a unit that is not indexed is not removed, and the index stays the same. -/
theorem merging_replaces_one_unit (history : List IndexUpdate) :
    let t := after history
    let x := t.index
    (∀ u s y stats, x.merge u s = (y, .ok stats) → x.Replaces y u s stats ∧
      ∃ z, y.merge u s = (z, .ok { stats with generation := z.view.generation }) ∧ y.Renews z) ∧
    (∀ u s, t.last.get? u = some s → ∃ y stats, x.merge u s = (y, .ok stats) ∧ x.Renews y) ∧
    (∀ u s y fault, x.merge u s = (y, .error fault) → y.view = x.view ∧ y.sites = x.sites) ∧
    ∀ u, x.view.containsUnit u = false → x.removeUnit u = (x, false) := by
  intro t x
  have h : t.Sound := sound_after history
  refine ⟨?_, ?_, ?_, ?_⟩
  · intro u s y stats hmerge
    have hreplaces := h.replaces hmerge
    refine ⟨hreplaces, ?_⟩
    -- the snapshot is the one that the unit has by now
    have hsound : Sound ⟨y, t.last.insert u s⟩ := step_of_merge hmerge ▸ h.step (.merge u s)
    obtain ⟨r, z, hr, hrenews, hagain⟩ := hsound.merge_last (Table.get?_insert_self ..)
    obtain ⟨r', hr', -, rfl⟩ := hreplaces.records
    obtain rfl := Option.some.inj (hr.symm.trans hr')
    exact ⟨z, hagain, hrenews⟩
  · intro u s hs
    obtain ⟨r, y, -, hrenews, hmerge⟩ := h.merge_last hs
    exact ⟨y, _, hmerge, hrenews⟩
  · intro u s y fault hmerge
    rw [Index.merge_reject (Index.lower_error_of_merge hmerge)] at hmerge
    obtain ⟨rfl, -⟩ := Prod.mk.inj hmerge
    exact ⟨rfl, rfl⟩
  · intro u hu
    have hnone : x.view.units.get? u = none := by
      simpa [View.containsUnit, Table.contains] using hu
    unfold Index.removeUnit
    rw [hnone]

/-- A library with one function, for which the given numbers stand. -/
def runLibrary (numbers : List UInt32) : Snapshot :=
  { Snapshot.empty with
    defs := numbers.map fun n =>
      ⟨.function, ⟨0, n⟩, ⟨⟨"/w/a.rs"⟩, 10, 13, 1, 1, 1, 4⟩, "run", "run", none, "", none, [],
        none⟩ }

/-- Two units report the function, the one under two numbers. -/
def runTwice : List IndexUpdate :=
  [.merge (.lib "a") (runLibrary [1, 2]), .merge (.lib "b") (runLibrary [1])]

/-- One of the numbers is dropped: the snapshot is accepted, replaces the records of its unit, and
changes nothing when it comes again. What the other unit has is accepted again, too. The function
has the identifier it had, and one hold less. -/
theorem runTwice_drops_number :
    let x := (after runTwice).index
    (∃ y stats, x.merge (.lib "a") (runLibrary [1]) = (y, .ok stats) ∧
      x.Replaces y (.lib "a") (runLibrary [1]) stats ∧
      (∃ z, y.merge (.lib "a") (runLibrary [1]) =
        (z, .ok { stats with generation := z.view.generation }) ∧ y.Renews z) ∧
      x.sites.entries = [⟨⟨⟨"/w/a.rs"⟩, 10, 13, .function, "run"⟩, ⟨0, 0⟩, 3⟩] ∧
      y.sites.entries = [⟨⟨⟨"/w/a.rs"⟩, 10, 13, .function, "run"⟩, ⟨0, 0⟩, 2⟩]) ∧
    ∃ y stats, x.merge (.lib "b") (runLibrary [1]) = (y, .ok stats) ∧ x.Renews y := by
  intro x
  obtain ⟨haccepted, hlast, -⟩ := merging_replaces_one_unit runTwice
  refine ⟨?_, hlast _ _ (by decide +kernel)⟩
  have hmerge : x.merge (.lib "a") (runLibrary [1]) =
      ((x.merge (.lib "a") (runLibrary [1])).1, .ok ⟨1, 0, 0, 3⟩) :=
    Prod.ext rfl (by decide +kernel)
  obtain ⟨hreplaces, hagain⟩ := haccepted _ _ _ _ hmerge
  exact ⟨_, _, hmerge, hreplaces, hagain, by decide +kernel, by decide +kernel⟩

end Ledger

end CodeAtlas
