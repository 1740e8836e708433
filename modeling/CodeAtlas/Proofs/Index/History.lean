import CodeAtlas.Proofs.Index.Lowering
import CodeAtlas.Proofs.Index.Sites
import Mathlib.Data.List.Induction

/-!
# Histories of the index

A history is a list of updates that an index receives one after another, from the empty index on.
Its invariant says that the records of a unit are those of the last accepted snapshot, under the
namespaces and the identifiers of sites as they are now. Whatever else the tables hold, such as
namespaces of rejected snapshots, is not seen by any record.

## Architecture

- **Layer A**: updates and histories;
- **Layer B**: what the records of an indexed unit reflect, and what a merge puts in their place;
- **Layer C**: the invariant, step by step, and for whole histories.
-/

namespace CodeAtlas

/-! ## Layer A: histories -/

/-- An update of the index (`lower_and_merge`, `remove_unit`). -/
inductive IndexUpdate where
  | merge (unit : UnitId) (s : Snapshot)
  | remove (unit : UnitId)

/-- **An index** (`AnalysisIndex`) **and the last accepted snapshot of each unit that it holds.** -/
structure Ledger where
  index : Index
  last : Table UnitId Snapshot

namespace Ledger

/-- Nothing was merged yet. -/
def empty : Ledger := ⟨Index.empty, Table.empty⟩

/-- Updates the index, and takes note of the snapshot if it is accepted. -/
def step (t : Ledger) : IndexUpdate → Ledger
  | .merge unit s =>
    match t.index.merge unit s with
    | (x, .ok _) => ⟨x, t.last.insert unit s⟩
    | (x, .error _) => ⟨x, t.last⟩
  | .remove unit => ⟨(t.index.removeUnit unit).1, t.last.erase unit⟩

/-- **The outcome of a history** that starts with the empty index. -/
def after (h : List IndexUpdate) : Ledger := h.foldl step empty

theorem after_append (h : List IndexUpdate) (e : IndexUpdate) :
    after (h ++ [e]) = (after h).step e := by
  simp [after]

end Ledger

/-! ## Layer B: what records reflect -/

namespace Index

/-- Records with the identifiers that a table has for their sites. -/
def stamp (sites : SiteTable) (l : LoweredUnit) : UnitRecords :=
  assemble l (l.defs.map fun d => (d, sites.idOf d.record.site))

/-- The records `r` of a unit are what the snapshot `s` amounts to under the present tables. -/
def Reflects (x : Index) (u : UnitId) (r : UnitRecords) (s : Snapshot) : Prop :=
  (∀ v ∈ s.named u, v ∈ x.names.units) ∧
    ∃ l, s.lowered x.names.space u = .ok l ∧ r = stamp x.sites l

theorem stamp_sites (sites : SiteTable) (l : LoweredUnit) :
    (stamp sites l).sites = l.defs.map (·.record.site) := rfl

/-- Only the identifiers of the sites that the records are about matter. -/
theorem stamp_congr {t t' : SiteTable} {l : LoweredUnit}
    (h : ∀ s ∈ l.defs.map (·.record.site), t'.idOf s = t.idOf s) : stamp t' l = stamp t l := by
  have hids : (l.defs.map fun d => (d, t'.idOf d.record.site)) =
      l.defs.map fun d => (d, t.idOf d.record.site) := by
    refine List.map_congr_left ?_
    intro d hd
    rw [h _ (List.mem_map_of_mem hd)]
  simp only [stamp, hids]

/-- **Records stay as they are** while namespaces are added and their sites keep their
identifiers. -/
theorem Reflects.mono {x y : Index} {u : UnitId} {r : UnitRecords} {s : Snapshot}
    (h : x.Reflects u r s) (hnames : x.names.units <+: y.names.units)
    (hsites : ∀ i ∈ r.sites, y.sites.idOf i = x.sites.idOf i) : y.Reflects u r s := by
  obtain ⟨hnamed, l, hl, rfl⟩ := h
  refine ⟨fun v hv => hnames.subset (hnamed v hv), l, ?_, (stamp_congr hsites).symm⟩
  rw [← hl]
  refine Snapshot.lowered_congr ?_
  intro v hv
  exact Namespaces.space_of_prefix hnames (hnamed v hv)

end Index

theorem bind_ok {ε α β : Type} {x : Except ε α} {f : α → Except ε β} {b : β}
    (h : (x >>= f) = .ok b) : ∃ a, x = .ok a ∧ f a = .ok b := by
  cases x with
  | error e => cases h
  | ok a => exact ⟨a, rfl, h⟩

theorem bind_eq_ok_iff {ε α β : Type} {x : Except ε α} {f : α → Except ε β} {b : β} :
    (x >>= f) = .ok b ↔ ∃ a, x = .ok a ∧ f a = .ok b := by
  constructor
  · exact bind_ok
  · rintro ⟨a, rfl, h⟩
    exact h

/-- **A snapshot is lowered** if its numbers are accepted and each of its records is lowered. -/
theorem Snapshot.lowered_eq_ok_iff {s : Snapshot} {space : UnitId → Nat} {u : UnitId}
    {l : LoweredUnit} : s.lowered space u = .ok l ↔
    checkNumbers [0] s.externs = .ok () ∧
    ∃ defs refs imports impls, (keptDefs [] s.defs).mapM (s.scope space u).definition = .ok defs ∧
      s.refs.mapM (fun r => (s.scope space u).reference r.span (some r.target)) = .ok refs ∧
      s.imports.mapM (fun i => (s.scope space u).reference i.span i.target) = .ok imports ∧
      s.relations.mapM ((s.scope space u).implementation s.impls) = .ok impls ∧
      l = { unit := u
            space := space u
            defs := (defs.map (·.1)).map
              (adoptParent (space u) (listedParents (space u) (defs.map (·.1))))
            refs := defs.flatMap (·.2) ++ refs.flatten ++ imports.flatten
            impls := impls.flatten
            diagnostics := s.diagnostics.map fun d =>
              { d with file := (s.scope space u).resolve d.file } } := by
  unfold Snapshot.lowered
  -- the numbers are checked first; then each kind of record is lowered in turn
  cases checkNumbers [0] s.externs with
  | error fault => simp
  | ok _ =>
    simp only [lowerRecords, bind_eq_ok_iff, true_and]
    constructor
    · rintro ⟨defs, hdefs, refs, hrefs, imports, himports, impls, himpls, hl⟩
      exact ⟨defs, refs, imports, impls, hdefs, hrefs, himports, himpls, (Except.ok.inj hl).symm⟩
    · rintro ⟨defs, refs, imports, impls, hdefs, hrefs, himports, himpls, rfl⟩
      exact ⟨defs, hdefs, refs, hrefs, imports, himports, impls, himpls, rfl⟩

/-- Lowered records carry the unit they were asked for and its namespace. -/
theorem Snapshot.lowered_ok {s : Snapshot} {space : UnitId → Nat} {u : UnitId} {l : LoweredUnit}
    (h : s.lowered space u = .ok l) : l.unit = u ∧ l.space = space u := by
  obtain ⟨-, -, -, -, -, -, -, -, -, rfl⟩ := Snapshot.lowered_eq_ok_iff.1 h
  exact ⟨rfl, rfl⟩

/-- An accepted snapshot becomes records of the unit that it was accepted for. -/
theorem unit_of_lower {names : Namespaces} {u : UnitId} {s : Snapshot} {l : LoweredUnit}
    (hl : (lower names u s).2 = .ok l) : l.unit = u := by
  rw [lower_snd] at hl
  exact (Snapshot.lowered_ok hl).1

namespace Index

variable {x : Index} {u : UnitId} {s : Snapshot}

/-- What records contribute, as reported with the generation of the view that has them. -/
def contribution (r : UnitRecords) (generation : Nat) : MergeStats :=
  ⟨r.defs.length, r.refs.length, r.impls.length, generation⟩

/-- A rejected snapshot leaves behind namespaces at most. -/
theorem merge_reject {fault : IndexFault} (hl : (lower x.names u s).2 = .error fault) :
    x.merge u s = ({ x with names := (lower x.names u s).1 }, .error fault) := by
  have hpair : lower x.names u s = ((lower x.names u s).1, .error fault) := Prod.ext rfl hl
  unfold merge
  rw [hpair]

/-- An accepted snapshot replaces the records of its unit by those that it is lowered to, stamped
with the identifiers that the sites have while the old records hold theirs, too. -/
theorem merge_accept {l : LoweredUnit} (hl : (lower x.names u s).2 = .ok l) :
    let acquired := (acquireAll x.sites l.space l.defs).1
    x.merge u s =
      (⟨(lower x.names u s).1,
        acquired.releaseAll (((x.view.units.get? u).map (·.sites)).getD []),
        ⟨x.view.units.insert u (stamp acquired l), x.view.generation + 1⟩⟩,
        .ok (contribution (stamp acquired l) (x.view.generation + 1))) := by
  have hpair : lower x.names u s = ((lower x.names u s).1, .ok l) := Prod.ext rfl hl
  unfold merge
  rw [hpair]
  simp only [commit, unit_of_lower hl, acquireAll_snd x.sites l.space l.defs, stamp]
  cases x.view.units.get? u <;> rfl

/-- What is accepted was lowered. -/
theorem lower_ok_of_merge {y : Index} {stats : MergeStats} (h : x.merge u s = (y, .ok stats)) :
    ∃ l, (lower x.names u s).2 = .ok l := by
  cases hl : (lower x.names u s).2 with
  | error fault =>
    rw [merge_reject hl] at h
    cases (Prod.mk.inj h).2
  | ok l => exact ⟨l, rfl⟩

/-- What is rejected could not be lowered. -/
theorem lower_error_of_merge {y : Index} {fault : IndexFault}
    (h : x.merge u s = (y, .error fault)) : (lower x.names u s).2 = .error fault := by
  cases hl : (lower x.names u s).2 with
  | error cause =>
    rw [merge_reject hl] at h
    rw [Except.error.inj (Prod.mk.inj h).2]
  | ok l =>
    rw [merge_accept hl] at h
    cases (Prod.mk.inj h).2

end Index

/-! ## Layer C: the invariant -/

/-- **The invariant of histories.** Sites are held once for each record about them, and the records
of a unit reflect its last accepted snapshot. -/
structure Ledger.Sound (t : Ledger) : Prop where
  names_nodup : t.index.names.units.Nodup
  proper : t.index.sites.Proper
  below : t.index.sites.Below t.index.names.units.length
  ordered : t.index.view.units.Ordered
  holds : ∀ i, t.index.sites.holders i = t.index.view.units.total fun r => r.sites.count i
  records : Table.Corresponds t.index.Reflects t.index.view.units t.last

namespace Ledger

variable {t : Ledger}

theorem sound_empty : empty.Sound where
  names_nodup := List.nodup_nil
  proper := SiteTable.proper_empty
  below := by intro e he; cases he
  ordered := Table.ordered_empty
  holds _ := rfl
  records := Table.corresponds_empty _

/-- The sites of all indexed records are held. -/
theorem Sound.held (h : t.Sound) {u : UnitId} {r : UnitRecords} {i : Site}
    (hr : (u, r) ∈ t.index.view.units.entries) (hi : i ∈ r.sites) :
    0 < t.index.sites.holders i := by
  have hle := Table.le_total (fun r : UnitRecords => r.sites.count i) hr
  rw [h.holds i]
  exact Nat.lt_of_lt_of_le (List.count_pos_iff.2 hi) hle

/-- The records of a unit reflect the last snapshot that was accepted for it. -/
theorem Sound.exists_last (h : t.Sound) {u : UnitId} {r : UnitRecords}
    (hr : t.index.view.units.get? u = some r) :
    ∃ s, t.last.get? u = some s ∧ t.index.Reflects u r s := by
  obtain ⟨s, hs, hreflects⟩ :=
    h.records.exists_right ((h.ordered.get?_eq_some_iff u r).1 hr)
  exact ⟨s, ((h.records.ordered h.ordered).get?_eq_some_iff u s).2 hs, hreflects⟩

/-- A unit with an accepted snapshot has records. -/
theorem Sound.exists_reflecting (h : t.Sound) {u : UnitId} {s : Snapshot}
    (hs : t.last.get? u = some s) :
    ∃ r, t.index.view.units.get? u = some r ∧ t.index.Reflects u r s := by
  obtain ⟨r, hr, hreflects⟩ :=
    h.records.exists_left (((h.records.ordered h.ordered).get?_eq_some_iff u s).1 hs)
  exact ⟨r, (h.ordered.get?_eq_some_iff u r).2 hr, hreflects⟩

private theorem erase_entries_subset (v : Table UnitId UnitRecords) (u : UnitId) :
    ∀ e ∈ (v.erase u).entries, e ∈ v.entries := by
  intro e he
  exact (List.mem_filter.1 he).1

/-- A unit without records has no accepted snapshot either, so removing it changes nothing. -/
theorem Sound.step_remove_of_none (h : t.Sound) {u : UnitId}
    (hu : t.index.view.units.get? u = none) : t.step (.remove u) = t := by
  have hlast := h.records.ordered h.ordered
  have hnone : t.last.get? u = none := by
    rw [hlast.get?_eq_none_iff, ← h.records.keys_eq]
    exact (h.ordered.get?_eq_none_iff u).1 hu
  have herase : t.last.erase u = t.last := by
    refine (hlast.erase u).ext hlast ?_
    intro k
    rw [Table.get?_erase]
    split
    · rename_i heq
      obtain rfl : u = k := Std.LawfulEqOrd.eq_of_compare heq
      exact hnone.symm
    · rfl
  simp [step, Index.removeUnit, hu, herase]

/-- The holds on a site by records of other units than `u`, and those by records of `u`. -/
private theorem Sound.holders_eq_add (h : t.Sound) (u : UnitId) (i : Site) :
    t.index.sites.holders i =
      (t.index.view.units.erase u).total (fun r => r.sites.count i) +
        (((t.index.view.units.get? u).map (·.sites)).getD []).count i := by
  have hsum := Table.total_erase (fun r : UnitRecords => r.sites.count i) h.ordered u
  rw [← h.holds i] at hsum
  rw [← hsum]
  cases t.index.view.units.get? u <;> rfl

/-- **One update at a time, removal**: the sites of the dropped records are given up, and no other
record notices. -/
theorem Sound.remove (h : t.Sound) (u : UnitId) : (t.step (.remove u)).Sound := by
  cases hu : t.index.view.units.get? u with
  | none => rwa [h.step_remove_of_none hu]
  | some r =>
    -- one hold is given up for each record that goes
    have hholders : ∀ i, (t.index.sites.releaseAll r.sites).holders i =
        (t.index.view.units.erase u).total fun r => r.sites.count i := by
      intro i
      rw [h.proper.holders_releaseAll, h.holders_eq_add u i, hu]
      exact Nat.add_sub_cancel _ _
    have hstep : t.step (.remove u) =
        ⟨⟨t.index.names, t.index.sites.releaseAll r.sites,
          ⟨t.index.view.units.erase u, t.index.view.generation + 1⟩⟩, t.last.erase u⟩ := by
      simp [step, Index.removeUnit, hu]
    rw [hstep]
    refine ⟨h.names_nodup, h.proper.releaseAll _, h.below.releaseAll _, h.ordered.erase u,
      hholders, ?_⟩
    -- a site of a record that stays is still held, and keeps its identifier
    refine (h.records.erase u).mono ?_
    intro k a s hk hR
    refine hR.mono (List.prefix_refl _) ?_
    intro i hi
    refine h.proper.idOf_releaseAll _ ?_
    rw [hholders i]
    exact Nat.lt_of_lt_of_le (List.count_pos_iff.2 hi)
      (Table.le_total (fun r : UnitRecords => r.sites.count i) hk)

/-- What a rejected snapshot makes of the index. -/
theorem step_reject {u : UnitId} {s : Snapshot} {fault : IndexFault}
    (hl : (lower t.index.names u s).2 = .error fault) :
    t.step (.merge u s) =
      ⟨{ t.index with names := (lower t.index.names u s).1 }, t.last⟩ := by
  simp only [step, Index.merge_reject hl]

/-- **One update at a time, rejection**: namespaces may have been added, nothing else changes. -/
theorem Sound.reject (h : t.Sound) {u : UnitId} {s : Snapshot} {fault : IndexFault}
    (hl : (lower t.index.names u s).2 = .error fault) : (t.step (.merge u s)).Sound := by
  have hgrow := lower_grows t.index.names u s
  rw [step_reject hl]
  refine ⟨hgrow.nodup h.names_nodup, h.proper, h.below.mono hgrow.keeps.length_le, h.ordered,
    h.holds, ?_⟩
  refine h.records.mono ?_
  intro k a b _ hR
  exact hR.mono hgrow.keeps fun _ _ => rfl

/-- What an accepted snapshot makes of the index. -/
theorem step_accept {u : UnitId} {s : Snapshot} {l : LoweredUnit}
    (hl : (lower t.index.names u s).2 = .ok l) :
    let names := (lower t.index.names u s).1
    let acquired := (Index.acquireAll t.index.sites l.space l.defs).1
    t.step (.merge u s) =
      ⟨⟨names,
        acquired.releaseAll (((t.index.view.units.get? u).map (·.sites)).getD []),
        ⟨t.index.view.units.insert u (Index.stamp acquired l), t.index.view.generation + 1⟩⟩,
        t.last.insert u s⟩ := by
  simp only [step, Index.merge_accept hl]

/-- The old records of a unit are replaced, so the holds are those of all others and the new ones. -/
private theorem Sound.holders_accept (h : t.Sound) (u : UnitId) (space : Nat)
    (defs : List LoweredDef) (i : Site) :
    ((Index.acquireAll t.index.sites space defs).1.releaseAll
        (((t.index.view.units.get? u).map (·.sites)).getD [])).holders i =
      (t.index.view.units.erase u).total (fun r => r.sites.count i) +
        (defs.map (·.record.site)).count i := by
  rw [(Index.proper_acquireAll h.proper space defs).holders_releaseAll, Index.holders_acquireAll,
    h.holders_eq_add u i]
  omega

/-- **One update at a time, acceptance**: the new sites are taken hold of before the old ones are
given up, so every site that is still held keeps its identifier. -/
theorem Sound.accept (h : t.Sound) {u : UnitId} {s : Snapshot} {l : LoweredUnit}
    (hl : (lower t.index.names u s).2 = .ok l) : (t.step (.merge u s)).Sound := by
  have hgrow := lower_grows t.index.names u s
  have hlow : s.lowered (lower t.index.names u s).1.space u = .ok l := by
    rw [← hl, lower_snd]
  have hholders := h.holders_accept u l.space l.defs
  have hproper := Index.proper_acquireAll h.proper l.space l.defs
  have hkept : ∀ i, 0 < t.index.sites.holders i →
      (Index.acquireAll t.index.sites l.space l.defs).1.idOf i = t.index.sites.idOf i :=
    fun i hi => Index.idOf_acquireAll_of_held _ _ _ hi
  have hbelow : (Index.acquireAll t.index.sites l.space l.defs).1.Below
      (lower t.index.names u s).1.units.length := by
    have hspace : l.space < (lower t.index.names u s).1.units.length := by
      rw [(Snapshot.lowered_ok hlow).2]
      exact Namespaces.space_lt_length (mem_lower_of_ok hl u (List.mem_cons_self ..))
    exact (h.below.mono hgrow.keeps.length_le).acquireAll hspace l.defs
  rw [step_accept hl]
  -- the sites with both the new and the old records, and what is then given up
  generalize (Index.acquireAll t.index.sites l.space l.defs).1 = acquired at *
  generalize ((t.index.view.units.get? u).map (·.sites)).getD [] = previous at *
  refine ⟨hgrow.nodup h.names_nodup, hproper.releaseAll previous, hbelow.releaseAll previous,
    h.ordered.insert _ _, ?_, ?_⟩
  · intro i
    have hsum := Table.total_insert (fun r : UnitRecords => r.sites.count i) (h.ordered.erase u) u
      (Index.stamp acquired l)
    have hgone : (t.index.view.units.erase u).get? u = none := by
      rw [Table.get?_erase, if_pos Std.ReflCmp.compare_self]
    rw [h.ordered.insert_erase, hgone] at hsum
    rw [hholders i]
    exact hsum.symm
  · rw [← h.ordered.insert_erase, ← (h.records.ordered h.ordered).insert_erase]
    refine Table.Corresponds.insert ?_ u ?_
    · -- records of other units: their sites were held all the time
      refine (h.records.erase u).mono ?_
      intro k r b hk hR
      refine hR.mono hgrow.keeps ?_
      intro i hi
      have hstill : 0 < (acquired.releaseAll previous).holders i := by
        rw [hholders i]
        have hle := Table.le_total (fun r : UnitRecords => r.sites.count i) hk
        have hpos : 0 < r.sites.count i := List.count_pos_iff.2 hi
        omega
      rw [← hkept i (h.held (erase_entries_subset _ _ _ hk) hi)]
      exact hproper.idOf_releaseAll previous hstill
    · -- the new records: their sites were just taken hold of
      refine ⟨mem_lower_of_ok hl, l, hlow, (Index.stamp_congr ?_).symm⟩
      intro i hi
      refine hproper.idOf_releaseAll previous ?_
      rw [hholders i]
      exact Nat.add_pos_right _ (List.count_pos_iff.2 hi)

/-- **The invariant is preserved by every update.** -/
theorem Sound.step (h : t.Sound) (e : IndexUpdate) : (t.step e).Sound := by
  cases e with
  | merge u s =>
    cases hl : (lower t.index.names u s).2 with
    | error fault => exact h.reject hl
    | ok l => exact h.accept hl
  | remove u => exact h.remove u

/-- **The invariant holds after every history.** -/
theorem sound_after (h : List IndexUpdate) : (after h).Sound := by
  induction h using List.reverseRecOn with
  | nil => exact sound_empty
  | append_singleton h e ih =>
    rw [after_append]
    exact ih.step e

end Ledger

end CodeAtlas
