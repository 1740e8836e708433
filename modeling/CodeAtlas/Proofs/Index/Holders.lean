import CodeAtlas.Proofs.Index.History

/-!
# Holders of sites

A site is taken hold of once for each definition that arrives, and given up once for each site that
the replaced or dropped records list. The two happen at different times and through different lists,
and yet they balance: after every history the table counts each site as often as it occurs in the
records of indexed units. So there is always a hold where one is given up. An index that checks
this before it gives up a hold is never stopped, and does what the index does.

## Architecture

- **Layer A**: giving up a hold that there may not be;
- **Layer B**: an index that checks whether there is a hold;
- **Layer C**: what the entries of the table count;
- **Layer D**: units that are removed one by one, and the main result.
-/

namespace CodeAtlas

/-! ## Layer A: checked releases -/

/-- Why a hold on a site cannot be given up. -/
inductive ReleaseFault where
  /-- The site has no entry. -/
  | unknown (s : Site)
  /-- The entry of the site counts no holder, so there would be less than none. -/
  | unheld (s : Site)
  deriving Repr, DecidableEq

namespace SiteTable

variable {t : SiteTable}

/-- Gives up one hold on a site, if there is one. -/
def tryRelease (t : SiteTable) (s : Site) : Except ReleaseFault SiteTable :=
  match t.find? s with
  | none => .error (.unknown s)
  | some e => if e.holders = 0 then .error (.unheld s) else .ok (t.release s)

/-- Gives up one hold for each listed site, as long as there is one. -/
def tryReleaseAll (t : SiteTable) (ss : List Site) : Except ReleaseFault SiteTable :=
  ss.foldlM tryRelease t

theorem tryRelease_of_held {s : Site} (hs : 0 < t.holders s) :
    t.tryRelease s = .ok (t.release s) := by
  cases hf : t.find? s with
  | none => simp [holders, hf] at hs
  | some e =>
    have hne : e.holders ≠ 0 := by
      simp only [holders, hf, Option.map_some, Option.getD_some] at hs
      omega
    simp only [tryRelease, hf, hne, if_false]

/-- **As many holds as there are can be given up.** -/
theorem Proper.tryReleaseAll_of_held (h : t.Proper) {ss : List Site}
    (hss : ∀ s, ss.count s ≤ t.holders s) : t.tryReleaseAll ss = .ok (t.releaseAll ss) := by
  induction ss generalizing t with
  | nil => rfl
  | cons s rest ih =>
    have hs : 0 < t.holders s := by
      have hle := hss s
      rw [List.count_cons_self] at hle
      omega
    -- giving one up leaves as many of every site as the rest asks for
    have hrest : ∀ s', rest.count s' ≤ (t.release s).holders s' := by
      intro s'
      have hle := hss s'
      simp only [List.count_cons, beq_iff_eq] at hle
      rw [h.holders_release]
      omega
    unfold tryReleaseAll
    rw [List.foldlM_cons, tryRelease_of_held hs]
    exact ih (h.release s) hrest

end SiteTable

/-! ## Layer B: checked updates -/

namespace Index

/-- The sites that the records of a unit list. -/
def sitesOf (x : Index) (u : UnitId) : List Site := ((x.view.units.get? u).map (·.sites)).getD []

/-- An update that gives up no hold without checking that there is one. -/
def tryUpdate (x : Index) : IndexUpdate → Except ReleaseFault Index
  | .merge u s =>
    match lower x.names u s with
    | (names, .error _) => .ok { x with names := names }
    | (names, .ok l) => do
      let (acquired, ids) := acquireAll x.sites l.space l.defs
      let sites ← acquired.tryReleaseAll (x.sitesOf l.unit)
      .ok ⟨names, sites, ⟨x.view.units.insert l.unit (assemble l ids), x.view.generation + 1⟩⟩
  | .remove u =>
    match x.view.units.get? u with
    | none => .ok x
    | some records => do
      let sites ← x.sites.tryReleaseAll records.sites
      .ok { x with sites := sites, view := ⟨x.view.units.erase u, x.view.generation + 1⟩ }

/-- **A history that gives up no hold without checking that there is one.** -/
def tryHistory (h : List IndexUpdate) : Except ReleaseFault Index := h.foldlM tryUpdate empty

theorem tryHistory_append (h : List IndexUpdate) (e : IndexUpdate) :
    tryHistory (h ++ [e]) = tryHistory h >>= fun x => x.tryUpdate e := by
  simp [tryHistory, List.foldlM_append]

end Index

namespace Ledger

variable {t : Ledger}

/-- A site is held at least as often as the records of any one unit list it. -/
theorem Sound.count_sitesOf_le (h : t.Sound) (u : UnitId) (s : Site) :
    (t.index.sitesOf u).count s ≤ t.index.sites.holders s := by
  unfold Index.sitesOf
  cases hu : t.index.view.units.get? u with
  | none => simp
  | some r =>
    rw [h.holds s]
    exact Table.le_total (fun r : UnitRecords => r.sites.count s)
      ((h.ordered.get?_eq_some_iff u r).1 hu)

/-- **One update at a time**: there is a hold wherever one is given up. -/
theorem Sound.tryUpdate_eq (h : t.Sound) (e : IndexUpdate) :
    t.index.tryUpdate e = .ok (t.step e).index := by
  cases e with
  | merge u s =>
    cases hl : (lower t.index.names u s).2 with
    | error fault =>
      have hpair : lower t.index.names u s = ((lower t.index.names u s).1, .error fault) :=
        Prod.ext rfl hl
      rw [step_reject hl, Index.tryUpdate, hpair]
    | ok l =>
      have hpair : lower t.index.names u s = ((lower t.index.names u s).1, .ok l) :=
        Prod.ext rfl hl
      -- the new holds come on top of the old ones, of which there are enough
      have hacquired : ∀ i, (t.index.sitesOf u).count i ≤
          (Index.acquireAll t.index.sites l.space l.defs).1.holders i := by
        intro i
        rw [Index.holders_acquireAll]
        exact Nat.le_add_right_of_le (h.count_sitesOf_le u i)
      have hproper := Index.proper_acquireAll h.proper l.space l.defs
      rw [step_accept hl, Index.tryUpdate, hpair]
      simp only [Index.acquireAll_snd t.index.sites l.space l.defs, unit_of_lower hl,
        hproper.tryReleaseAll_of_held hacquired]
      rfl
  | remove u =>
    cases hu : t.index.view.units.get? u with
    | none => simp only [Index.tryUpdate, Ledger.step, Index.removeUnit, hu]
    | some r =>
      have henough : ∀ i, r.sites.count i ≤ t.index.sites.holders i := by
        intro i
        simpa [Index.sitesOf, hu] using h.count_sitesOf_le u i
      simp only [Index.tryUpdate, Ledger.step, Index.removeUnit, hu,
        h.proper.tryReleaseAll_of_held henough]
      rfl

/-- The checks stop no history. -/
theorem tryHistory_eq (h : List IndexUpdate) : Index.tryHistory h = .ok (after h).index := by
  induction h using List.reverseRecOn with
  | nil => rfl
  | append_singleton h e ih =>
    rw [Index.tryHistory_append, ih, after_append]
    exact (sound_after h).tryUpdate_eq e

/-! ## Layer C: entries -/

/-- **A site has an entry** if records of an indexed unit list it. -/
theorem Sound.exists_entry_iff (h : t.Sound) (s : Site) :
    (∃ e ∈ t.index.sites.entries, e.site = s) ↔ ∃ r ∈ t.index.view.records, s ∈ r.sites := by
  rw [← h.proper.holders_pos_iff, h.holds, Table.total_pos_iff]
  simp only [List.count_pos_iff, View.records, Table.values, List.mem_map]
  constructor
  · rintro ⟨p, hp, hs⟩
    exact ⟨p.2, ⟨p, hp, rfl⟩, hs⟩
  · rintro ⟨-, ⟨p, hp, rfl⟩, hs⟩
    exact ⟨p, hp, hs⟩

/-- **An entry counts the site as often as it is listed.** -/
theorem Sound.holders_eq (h : t.Sound) {e : SiteEntry} (he : e ∈ t.index.sites.entries) :
    e.holders = (t.index.view.records.map fun r => r.sites.count e.site).sum := by
  rw [← h.proper.holders_of_mem he, h.holds]
  rfl

/-- A unit lists a site once for each of its numbers that stand for the site's identifier. -/
theorem Sound.count_sites_eq (h : t.Sound) {e : SiteEntry} (he : e ∈ t.index.sites.entries)
    {r : UnitRecords} (hr : r ∈ t.index.view.records) :
    r.sites.count e.site = r.locals.countP fun p => p.2 == e.id := by
  obtain ⟨⟨u, r⟩, hmem, rfl⟩ := List.mem_map.1 hr
  obtain ⟨s, -, -, l, -, hstamp⟩ := h.exists_last ((h.ordered.get?_eq_some_iff u r).2 hmem)
  have hheld : ∀ d ∈ l.defs, 0 < t.index.sites.holders d.record.site := by
    intro d hd
    apply h.held hmem
    rw [hstamp, Index.stamp_sites]
    exact List.mem_map_of_mem hd
  have hid := h.proper.idOf_of_mem he
  have hentry : 0 < t.index.sites.holders e.site := (h.proper.holders_pos_iff _).2 ⟨e, he, rfl⟩
  have hlocals : (Index.stamp t.index.sites l).locals =
      l.defs.map fun d => (d.index, t.index.sites.idOf d.record.site) := by
    simp [Index.stamp, Index.assemble, Function.comp_def]
  rw [hstamp, Index.stamp_sites, hlocals, List.count_eq_countP, List.countP_map, List.countP_map]
  refine List.countP_congr ?_
  intro d hd
  -- held sites are the same if their identifiers are
  simp only [Function.comp_apply, beq_iff_eq]
  constructor
  · intro hsite
    rw [hsite, hid]
  · intro heq
    exact h.proper.idOf_injective (hheld d hd) hentry (heq.trans hid.symm)

/-! ## Layer D: the main result -/

/-- Where no unit is indexed, no site has an entry. -/
theorem Sound.entries_eq_nil (h : t.Sound) (hnone : t.index.view.indexedUnits = []) :
    t.index.sites.entries = [] := by
  have hrecords : t.index.view.records = [] := by
    simpa [View.records, Table.values] using List.map_eq_nil_iff.1 hnone
  rw [List.eq_nil_iff_forall_not_mem]
  intro e he
  obtain ⟨r, hr, -⟩ := (h.exists_entry_iff e.site).1 ⟨e, he, rfl⟩
  rw [hrecords] at hr
  cases hr

/-- A unit that is still indexed after a removal was indexed before, and is not the removed one. -/
theorem Sound.mem_indexedUnits_remove (h : t.Sound) {u v : UnitId}
    (hv : v ∈ (t.step (.remove u)).index.view.indexedUnits) :
    v ∈ t.index.view.indexedUnits ∧ v ≠ u := by
  cases hu : t.index.view.units.get? u with
  | none =>
    have hnotin : u ∉ t.index.view.units.keys := (h.ordered.get?_eq_none_iff u).1 hu
    have hsame : v ∈ t.index.view.indexedUnits := by
      simpa [Ledger.step, Index.removeUnit, hu] using hv
    refine ⟨hsame, ?_⟩
    rintro rfl
    exact hnotin hsame
  | some r =>
    simp only [Ledger.step, Index.removeUnit, hu] at hv
    exact Table.mem_keys_erase.1 hv

/-- Units that are removed one by one are no longer indexed. -/
theorem Sound.mem_indexedUnits_removeAll (h : t.Sound) {us : List UnitId} {v : UnitId}
    (hv : v ∈ ((us.map IndexUpdate.remove).foldl Ledger.step t).index.view.indexedUnits) :
    v ∈ t.index.view.indexedUnits ∧ v ∉ us := by
  induction us generalizing t with
  | nil => exact ⟨hv, List.not_mem_nil⟩
  | cons u us ih =>
    obtain ⟨hmid, hrest⟩ := ih (h.step (.remove u)) hv
    obtain ⟨hbefore, hne⟩ := h.mem_indexedUnits_remove hmid
    exact ⟨hbefore, List.not_mem_cons_of_ne_of_not_mem hne hrest⟩

/-- **Holders are counted exactly.** After every history of merges and removals:
- a site has an entry, and only one, if and only if records of an indexed unit list it;
- the entry counts as many holders as the site occurs in the lists of all indexed units, and a unit
  lists it once for each of its numbers that stand for the identifier of the site;
- whenever a hold was given up, the site had an entry, and the entry counted a holder;
- once all units are removed, in whatever order, there are no entries left. -/
theorem holders_count_occurrences (history : List IndexUpdate) :
    let x := (after history).index
    (x.sites.entries.map (·.site)).Nodup ∧
    (∀ s, (∃ e ∈ x.sites.entries, e.site = s) ↔ ∃ r ∈ x.view.records, s ∈ r.sites) ∧
    (∀ e ∈ x.sites.entries,
      e.holders = (x.view.records.map fun r => r.sites.count e.site).sum ∧
      ∀ r ∈ x.view.records, r.sites.count e.site = r.locals.countP fun p => p.2 == e.id) ∧
    Index.tryHistory history = .ok x ∧
    ∀ units : List UnitId, (∀ u ∈ x.view.indexedUnits, u ∈ units) →
      (after (history ++ units.map .remove)).index.sites.entries = [] := by
  intro x
  have h := sound_after history
  refine ⟨h.proper.sites_nodup, h.exists_entry_iff, ?counts, tryHistory_eq history, ?removed⟩
  case counts =>
    intro e he
    exact ⟨h.holders_eq he, fun r hr => h.count_sites_eq he hr⟩
  case removed =>
    intro units hunits
    -- without indexed units nothing lists a site
    apply (sound_after _).entries_eq_nil
    rw [List.eq_nil_iff_forall_not_mem]
    intro v hv
    have hlater : after (history ++ units.map .remove) =
        (units.map IndexUpdate.remove).foldl step (after history) := by
      simp [after]
    rw [hlater] at hv
    obtain ⟨hbefore, hnot⟩ := h.mem_indexedUnits_removeAll hv
    exact hnot (hunits v hbefore)

/-- Two numbers of one library and one of another stand for the same function, which is held three
times, also after the first library has come once more and a snapshot of it was rejected. -/
theorem shared_function_is_given_up :
    let run (n line : UInt32) : RawDef :=
      ⟨.function, ⟨0, n⟩, ⟨⟨"/w/a.rs"⟩, 10, 13, line, line, 1, 4⟩, "run", "run", none, "", none, [],
        none⟩
    let twice : Snapshot := { Snapshot.empty with defs := [run 1 1, run 2 1] }
    let once : Snapshot := { Snapshot.empty with defs := [run 7 1] }
    let placeless : Snapshot := { Snapshot.empty with defs := [run 1 0] }
    let history := [.merge (.lib "a") twice, .merge (.lib "b") once, .merge (.lib "a") twice,
      .merge (.lib "a") placeless]
    let x := (after history).index
    let units := [UnitId.lib "b", UnitId.lib "a"]
    x.sites.entries = [⟨⟨⟨"/w/a.rs"⟩, 10, 13, .function, "run"⟩, ⟨0, 0⟩, 3⟩] ∧
      (∀ u ∈ x.view.indexedUnits, u ∈ units) ∧
      (after (history ++ units.map .remove)).index.sites.entries = [] := by
  intro run twice once placeless history x units
  have hall : ∀ u ∈ x.view.indexedUnits, u ∈ units := by decide +kernel
  obtain ⟨-, -, -, -, hremoved⟩ := holders_count_occurrences history
  exact ⟨by decide +kernel, hall, hremoved _ hall⟩

end Ledger

end CodeAtlas
