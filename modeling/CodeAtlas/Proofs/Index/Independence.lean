import CodeAtlas.Proofs.Index.History
import CodeAtlas.Proofs.Index.Renaming
import Mathlib.Logic.Equiv.Basic

/-!
# The index forgets its history

Namespaces are numbered in the order in which units were first seen, identifiers are taken from the
namespace of whoever came first, and neither is undone when a unit is replaced, removed or rejected.
Still the answers depend on nothing but the last accepted snapshot of each indexed unit: two
indexes that hold the same snapshots are renamings of each other.

## Architecture

- **Layer A**: permutations that carry given names to given names;
- **Layer B**: stamped records under other names;
- **Layer C**: snapshots that were accepted once are always accepted;
- **Layer D**: merging accepted snapshots into the empty index;
- **Layer E**: ledgers with the same snapshots, and the main result.
-/

namespace CodeAtlas

/-! ## Layer A: choosing a renaming -/

/-- Two lists of names without repetition are carried into each other by a permutation. -/
private theorem exists_perm {κ α : Type} (f g : κ → α) (ks : List κ)
    (hf : ∀ j ∈ ks, ∀ k ∈ ks, f j = f k → j = k) (hg : ∀ j ∈ ks, ∀ k ∈ ks, g j = g k → j = k) :
    ∃ π : Equiv.Perm α, ∀ k ∈ ks, π (f k) = g k := by
  classical
  induction ks with
  | nil => exact ⟨Equiv.refl α, by simp⟩
  | cons k rest ih =>
    obtain ⟨π, hπ⟩ := ih
      (fun i hi j hj => hf i (List.mem_cons_of_mem _ hi) j (List.mem_cons_of_mem _ hj))
      (fun i hi j hj => hg i (List.mem_cons_of_mem _ hi) j (List.mem_cons_of_mem _ hj))
    by_cases hk : k ∈ rest
    · refine ⟨π, ?_⟩
      intro j hj
      rcases List.mem_cons.1 hj with rfl | hj
      · exact hπ _ hk
      · exact hπ j hj
    · -- swap the name that `k` has so far with the one it shall have; no other name is touched
      refine ⟨π.trans (Equiv.swap (π (f k)) (g k)), ?_⟩
      intro j hj
      rcases List.mem_cons.1 hj with rfl | hj
      · simp
      · have hjk : j ≠ k := fun heq => hk (heq ▸ hj)
        have hj' := List.mem_cons_of_mem k hj
        have hk' : k ∈ k :: rest := List.mem_cons_self ..
        have hold : g j ≠ π (f k) := by
          rw [← hπ j hj]
          intro heq
          exact hjk (hf j hj' k hk' (π.injective heq))
        have hnew : g j ≠ g k := fun heq => hjk (hg j hj' k hk' heq)
        rw [Equiv.trans_apply, hπ j hj, Equiv.swap_apply_of_ne_of_ne hold hnew]

/-! ## Layer B: stamped records -/

namespace Index

private theorem firstRecords_rename (ρ : Equiv.Perm Nat) (π : Equiv.Perm GlobalId)
    (seen : List GlobalId) (ids : List (LoweredDef × GlobalId)) :
    firstRecords (seen.map π) (ids.map fun p => (p.1.rename ρ, π p.2)) =
      (firstRecords seen ids).map fun p => (π p.1, p.2.rename ρ) := by
  induction ids generalizing seen with
  | nil => rfl
  | cons p rest ih =>
    obtain ⟨d, id⟩ := p
    have hseen : (seen.map π).contains (π id) = seen.contains id := by
      rw [Bool.eq_iff_iff]
      simp
    simp only [List.map_cons, firstRecords, hseen]
    split
    · exact ih seen
    · exact congrArg (_ :: ·) (ih (id :: seen))

/-- **Stamping commutes with renaming** if the identifiers of the sites do. -/
theorem stamp_rename {t t' : SiteTable} {l : LoweredUnit} (ρ : Equiv.Perm Nat)
    (π : Equiv.Perm GlobalId)
    (h : ∀ s ∈ l.defs.map (·.record.site), π (t.idOf s) = t'.idOf s) :
    stamp t' (l.rename ρ) = (stamp t l).rename ρ π := by
  -- the sites stay as they are, so each is looked up under the same key
  have hids : ((l.rename ρ).defs.map fun d => (d, t'.idOf d.record.site)) =
      (l.defs.map fun d => (d, t.idOf d.record.site)).map fun p => (p.1.rename ρ, π p.2) := by
    simp only [LoweredUnit.rename, List.map_map]
    refine List.map_congr_left ?_
    intro d hd
    simp only [Function.comp_apply]
    rw [h _ (List.mem_map_of_mem hd)]
    rfl
  have hdefs := firstRecords_rename ρ π [] (l.defs.map fun d => (d, t.idOf d.record.site))
  unfold stamp
  rw [hids]
  simp only [assemble, UnitRecords.rename, UnitRecords.mk.injEq, LoweredUnit.rename]
  refine ⟨trivial, trivial, hdefs, ?_, ?_, ?_, ?_, trivial, trivial⟩
  · simp [LoweredDef.rename]
  · simp [LoweredDef.rename]
  · simp [LoweredRef.rename]
  · simp only [List.map_append, List.map_map]
    rfl

end Index

/-! ## Layer C: acceptance -/

/-- A snapshot of `u` that some numbering of units accepts. -/
def Snapshot.Acceptable (s : Snapshot) (u : UnitId) : Prop :=
  ∃ n : Namespaces, (∀ v ∈ s.named u, v ∈ n.units) ∧ ∃ l, s.lowered n.space u = .ok l

/-- Numberings of the named units differ by a permutation, and so do the lowered records. -/
theorem Snapshot.lowered_of_lowered {s : Snapshot} {u : UnitId} {n m : Namespaces} {l : LoweredUnit}
    (hn : ∀ v ∈ s.named u, v ∈ n.units) (hm : ∀ v ∈ s.named u, v ∈ m.units)
    (h : s.lowered n.space u = .ok l) : ∃ l', s.lowered m.space u = .ok l' := by
  obtain ⟨ρ, hρ⟩ := exists_perm n.space m.space (s.named u)
    (fun _ hv _ hw => Namespaces.space_injective (hn _ hv) (hn _ hw))
    (fun _ hv _ hw => Namespaces.space_injective (hm _ hv) (hm _ hw))
  refine ⟨l.rename ρ, ?_⟩
  rw [← Snapshot.lowered_congr hρ, Snapshot.lowered_rename, h]
  rfl

/-- **What was accepted once is always accepted.** -/
theorem Snapshot.Acceptable.lower {s : Snapshot} {u : UnitId} (h : s.Acceptable u)
    (n : Namespaces) : ∃ l, (lower n u s).2 = .ok l := by
  obtain ⟨m, hm, l, hl⟩ := h
  rw [lower_snd]
  exact Snapshot.lowered_of_lowered hm
    (mem_lower_of_check (Snapshot.checkNumbers_of_lowered hl)) hl

/-! ## Layer D: merging accepted snapshots -/

namespace Ledger

/-- The updates that merge the listed snapshots. -/
def mergeAll (es : List (UnitId × Snapshot)) : List IndexUpdate := es.map fun e => .merge e.1 e.2

private theorem after_mergeAll_append (es : List (UnitId × Snapshot)) (u : UnitId) (s : Snapshot) :
    after (mergeAll (es ++ [(u, s)])) = (after (mergeAll es)).step (.merge u s) := by
  rw [mergeAll, List.map_append]
  exact after_append _ _

/-- Acceptable snapshots are all put on record, later ones of a unit in place of earlier ones. -/
theorem last_mergeAll {es : List (UnitId × Snapshot)} (hes : ∀ e ∈ es, e.2.Acceptable e.1) :
    (after (mergeAll es)).last = Table.ofList es := by
  induction es using List.reverseRecOn with
  | nil => rfl
  | append_singleton es e ih =>
    obtain ⟨u, s⟩ := e
    have ih := ih fun e he => hes e (List.mem_append_left _ he)
    obtain ⟨l, hl⟩ := (hes (u, s) (by simp)).lower (after (mergeAll es)).index.names
    rw [after_mergeAll_append, step_accept hl, ih, Table.ofList, Table.ofList, List.foldl_append]
    rfl

/-- Only units that are named by a merged snapshot have a namespace. -/
theorem mem_names_mergeAll {es : List (UnitId × Snapshot)} {v : UnitId}
    (hv : v ∈ (after (mergeAll es)).index.names.units) : ∃ e ∈ es, v ∈ e.2.named e.1 := by
  induction es using List.reverseRecOn with
  | nil => cases hv
  | append_singleton es e ih =>
    obtain ⟨u, s⟩ := e
    have hgrow := lower_grows (after (mergeAll es)).index.names u s
    have hnames : ((after (mergeAll es)).step (.merge u s)).index.names =
        (lower (after (mergeAll es)).index.names u s).1 := by
      cases hl : (lower (after (mergeAll es)).index.names u s).2 with
      | error fault => rw [step_reject hl]
      | ok l => rw [step_accept hl]
    rw [after_mergeAll_append, hnames] at hv
    rcases hgrow.mem v hv with hv | hv
    · obtain ⟨e, he, hmem⟩ := ih hv
      exact ⟨e, List.mem_append_left _ he, hmem⟩
    · exact ⟨(u, s), by simp, hv⟩

/-! ## Layer E: the main result -/

/-- Snapshots on record are acceptable, and all units that they name have namespaces. -/
theorem Sound.acceptable {t : Ledger} (h : t.Sound) {e : UnitId × Snapshot}
    (he : e ∈ t.last.entries) :
    e.2.Acceptable e.1 ∧ ∀ v ∈ e.2.named e.1, v ∈ t.index.names.units := by
  obtain ⟨r, -, hnamed, l, hl, -⟩ := h.records.exists_left (k := e.1) (b := e.2) he
  exact ⟨⟨t.index.names, hnamed, l, hl⟩, hnamed⟩

/-- **Merging the snapshots on record, in any order, puts the same snapshots on record.** -/
theorem Sound.last_mergeAll {t : Ledger} (h : t.Sound) {es : List (UnitId × Snapshot)}
    (hes : es.Perm t.last.entries) : (after (mergeAll es)).last = t.last := by
  have hlast := h.records.ordered h.ordered
  have hkeys : (es.map (·.1)).Nodup := by
    refine (hes.map (·.1)).nodup_iff.2 ?_
    exact hlast.keys_nodup
  have haccept : ∀ e ∈ es, e.2.Acceptable e.1 := by
    intro e he
    exact (h.acceptable (hes.subset he)).1
  rw [Ledger.last_mergeAll haccept]
  -- both are ordered, so it is enough that they have the same entries
  refine (Table.ordered_ofList es).ext hlast ?_
  intro k
  refine Option.ext ?_
  intro a
  rw [Table.get?_ofList hkeys, hlast.get?_eq_some_iff]
  exact hes.mem_iff

/-- The fresh index has no more namespaces than the given one. -/
theorem Sound.names_mergeAll {t : Ledger} (h : t.Sound) {es : List (UnitId × Snapshot)}
    (hes : es.Perm t.last.entries) :
    (after (mergeAll es)).index.names.units.length ≤ t.index.names.units.length := by
  refine List.Subperm.length_le (List.subperm_of_subset (sound_after _).names_nodup ?_)
  intro v hv
  obtain ⟨e, he, hmem⟩ := mem_names_mergeAll hv
  exact (h.acceptable (hes.subset he)).2 v hmem

/-- The identifier of nothing is not issued while there are namespaces left. -/
theorem Sound.idOf_ne_null {t : Ledger} (h : t.Sound)
    (hunits : t.index.names.units.length < 2 ^ 32) {s : Site} (hs : 0 < t.index.sites.holders s) :
    t.index.sites.idOf s ≠ GlobalId.null := by
  obtain ⟨e, he, -, hid⟩ := h.proper.exists_entry hs
  have hspace := h.below e he
  rw [← hid]
  intro hnull
  have hlast : e.id.space = 2 ^ 32 - 1 := by
    rw [hnull]
    rfl
  omega

/-- What the given names of a ledger are: `none` stands for the identifier of nothing. -/
private def idOf? (t : Ledger) (s : Option Site) : GlobalId :=
  (s.map t.index.sites.idOf).getD GlobalId.null

private theorem Sound.idOf?_injective {t : Ledger} (h : t.Sound)
    (hunits : t.index.names.units.length < 2 ^ 32) {a b : Option Site}
    (ha : ∀ s, a = some s → 0 < t.index.sites.holders s)
    (hb : ∀ s, b = some s → 0 < t.index.sites.holders s) (hab : t.idOf? a = t.idOf? b) : a = b := by
  cases a with
  | none =>
    cases b with
    | none => rfl
    | some s => exact absurd hab.symm (h.idOf_ne_null hunits (hb s rfl))
  | some s =>
    cases b with
    | none => exact absurd hab (h.idOf_ne_null hunits (ha s rfl))
    | some s' => exact congrArg some (h.proper.idOf_injective (ha s rfl) (hb s' rfl) hab)

/-- Records of the same snapshot are about the same sites, whatever the tables. -/
private theorem reflects_sites {x y : Index} {u : UnitId} {r r' : UnitRecords} {s : Snapshot}
    (h : x.Reflects u r s) (h' : y.Reflects u r' s) : r'.sites = r.sites := by
  obtain ⟨hx, l, hl, rfl⟩ := h
  obtain ⟨hy, l', hl', rfl⟩ := h'
  obtain ⟨ρ, hρ⟩ := exists_perm x.names.space y.names.space (s.named u)
    (fun _ hv _ hw => Namespaces.space_injective (hx _ hv) (hx _ hw))
    (fun _ hv _ hw => Namespaces.space_injective (hy _ hv) (hy _ hw))
  rw [← Snapshot.lowered_congr hρ, Snapshot.lowered_rename, hl] at hl'
  obtain rfl : l.rename ρ = l' := Except.ok.inj hl'
  simp [Index.stamp_sites, LoweredUnit.rename, LoweredDef.rename]

/-- All units that the snapshots on record name have a namespace. -/
private theorem Sound.named {t : Ledger} (h : t.Sound) {v : UnitId}
    (hv : v ∈ t.last.entries.flatMap fun e => e.2.named e.1) : v ∈ t.index.names.units := by
  obtain ⟨e, he, hmem⟩ := List.mem_flatMap.1 hv
  exact (h.acceptable he).2 v hmem

/-- All sites that a record is about are held, also by a ledger with the same snapshots. -/
private theorem Sound.held_of_last {t w : Ledger} (ht : t.Sound) (hw : w.Sound)
    (hlast : w.last = t.last) {r : UnitRecords} (hr : r ∈ t.index.view.records) {s : Site}
    (hs : s ∈ r.sites) : 0 < w.index.sites.holders s := by
  have hw' : Table.Corresponds w.index.Reflects w.index.view.units t.last := hlast ▸ hw.records
  obtain ⟨⟨u, r⟩, hentry, rfl⟩ := List.mem_map.1 hr
  obtain ⟨b, hb, hrb⟩ := ht.records.exists_right hentry
  obtain ⟨r', hr', hrb'⟩ := hw'.exists_left hb
  exact hw.held hr' (reflects_sites hrb hrb' ▸ hs)

/-- **Ledgers with the same snapshots on record are renamings of each other.** -/
theorem Sound.renamed {t w : Ledger} (ht : t.Sound) (hw : w.Sound) (hlast : w.last = t.last)
    (htunits : t.index.names.units.length < 2 ^ 32)
    (hwunits : w.index.names.units.length < 2 ^ 32) :
    ∃ ρ π, View.Renamed ρ π t.index.view w.index.view := by
  -- namespaces: all units that a snapshot on record names have one on either side
  have hw' : Table.Corresponds w.index.Reflects w.index.view.units t.last := hlast ▸ hw.records
  have hwnamed : ∀ v ∈ t.last.entries.flatMap (fun e => e.2.named e.1), v ∈ w.index.names.units :=
    fun v hv => hw.named (hlast ▸ hv)
  obtain ⟨ρ, hρ⟩ := exists_perm t.index.names.space w.index.names.space
    (t.last.entries.flatMap fun e => e.2.named e.1)
    (fun _ hu _ hv => Namespaces.space_injective (ht.named hu) (ht.named hv))
    (fun _ hu _ hv => Namespaces.space_injective (hwnamed _ hu) (hwnamed _ hv))
  -- identifiers: all sites that a record is about are held on either side
  have hrecord : ∀ a ∈ none :: (t.index.view.records.flatMap (·.sites)).map some, ∀ s, a = some s →
      ∃ r ∈ t.index.view.records, s ∈ r.sites := by
    rintro _ ha s rfl
    simpa only [List.mem_cons, reduceCtorEq, List.mem_map, Option.some.injEq, exists_eq_right,
      false_or, List.mem_flatMap] using ha
  have htheld : ∀ a ∈ none :: (t.index.view.records.flatMap (·.sites)).map some, ∀ s, a = some s →
      0 < t.index.sites.holders s := by
    intro a ha s hs
    obtain ⟨r, hr, hmem⟩ := hrecord a ha s hs
    exact ht.held_of_last ht rfl hr hmem
  have hwheld : ∀ a ∈ none :: (t.index.view.records.flatMap (·.sites)).map some, ∀ s, a = some s →
      0 < w.index.sites.holders s := by
    intro a ha s hs
    obtain ⟨r, hr, hmem⟩ := hrecord a ha s hs
    exact ht.held_of_last hw hlast hr hmem
  obtain ⟨π, hπ⟩ := exists_perm t.idOf? w.idOf?
    (none :: (t.index.view.records.flatMap (·.sites)).map some)
    (fun _ ha _ hb => ht.idOf?_injective htunits (htheld _ ha) (htheld _ hb))
    (fun _ ha _ hb => hw.idOf?_injective hwunits (hwheld _ ha) (hwheld _ hb))
  refine ⟨ρ, π, ?_, ?_, hπ none (List.mem_cons_self ..)⟩
  · exact hw'.keys_eq.trans ht.records.keys_eq.symm
  · refine ht.records.values_eq_map hw' _ ?_
    rintro u r r' s hr hs ⟨-, l, hl, rfl⟩ ⟨-, l', hl', rfl⟩
    have hnames : ∀ v ∈ s.named u, ρ (t.index.names.space v) = w.index.names.space v :=
      fun v hv => hρ v (List.mem_flatMap.2 ⟨(u, s), hs, hv⟩)
    rw [← Snapshot.lowered_congr hnames, Snapshot.lowered_rename, hl] at hl'
    obtain rfl : l.rename ρ = l' := Except.ok.inj hl'
    refine Index.stamp_rename ρ π ?_
    intro i hi
    refine hπ (some i) (List.mem_cons_of_mem _ (List.mem_map_of_mem (List.mem_flatMap.2 ?_)))
    exact ⟨_, List.mem_map.2 ⟨_, hr, rfl⟩, hi⟩

/-- **The index forgets its history.** After any history of merges, accepted or not, and removals,
the view agrees up to one bijection of identifiers with that of a fresh index into which the last
accepted snapshots of the indexed units are merged once each, in any order. Namespaces have 32 bits:
as long as units do not use them up, no identifier is the null one. -/
theorem view_forgets_history (h : List IndexUpdate)
    (hunits : (after h).index.names.units.length < 2 ^ 32) (es : List (UnitId × Snapshot))
    (hes : es.Perm (after h).last.entries) :
    ∃ π, View.Agrees π (after h).index.view (after (mergeAll es)).index.view := by
  have hsound := sound_after h
  have hfresh : (after (mergeAll es)).index.names.units.length < 2 ^ 32 :=
    Nat.lt_of_le_of_lt (hsound.names_mergeAll hes) hunits
  obtain ⟨ρ, π, hrenamed⟩ :=
    hsound.renamed (sound_after (mergeAll es)) (hsound.last_mergeAll hes) hunits hfresh
  exact ⟨π, hrenamed.agrees⟩

/-- A library and its tests share a function. Before the library is indexed again, a removed unit
and a rejected snapshot have taken namespaces. -/
def reindexedLibrary : List IndexUpdate :=
  let run : RawDef :=
    ⟨.function, ⟨0, 1⟩, ⟨⟨"/w/a.rs"⟩, 10, 13, 1, 1, 1, 4⟩, "run", "run", none, "", none, [], none⟩
  let s : Snapshot := { Snapshot.empty with directory := ⟨"/w"⟩, defs := [run] }
  let rejected : Snapshot := { Snapshot.empty with externs := [⟨0, ⟨"c", "c", .lib⟩⟩] }
  [.merge ⟨"b", "b", .lib⟩ s, .merge ⟨"a", "a", .test⟩ s, .merge ⟨"a", "a", .lib⟩ Snapshot.empty,
    .remove ⟨"b", "b", .lib⟩, .merge ⟨"a", "a", .test⟩ rejected, .merge ⟨"a", "a", .lib⟩ s]

/-- Merging the library and its tests afresh, the tests first, gives a view that agrees. -/
theorem reindexedLibrary_agrees :
    (after reindexedLibrary).index.view.indexedUnits = [⟨"a", "a", .lib⟩, ⟨"a", "a", .test⟩] ∧
      ∃ π, View.Agrees π (after reindexedLibrary).index.view
        (after (mergeAll (after reindexedLibrary).last.entries.reverse)).index.view :=
  ⟨by decide, view_forgets_history reindexedLibrary (by decide) _ (List.reverse_perm _)⟩

end Ledger

end CodeAtlas
