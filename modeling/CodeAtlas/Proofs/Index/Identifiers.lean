import CodeAtlas.Proofs.Index.History
import Mathlib.Tactic.IntervalCases

/-!
# What identifiers denote

An identifier denotes the site of the records that carry it. This module shows that the records of
all units agree on what an identifier denotes, that no identifier comes to denote something else
later on, and that a site keeps its identifier for as long as some unit holds it.

## Architecture

- **Layer A**: the site that an identifier denotes in a view;
- **Layer B**: the site table between two moments of a history;
- **Layer C**: the packed form of identifiers, and the main result.
-/

namespace CodeAtlas

/-! ## Layer A: denotation -/

/-- The identifier `id` is given to the site `s` by a record of a unit, or by one of its numbers:
numbers and sites of a unit are listed in parallel, also those whose record is not the first. -/
def UnitRecords.Denotes (r : UnitRecords) (id : GlobalId) (s : Site) : Prop :=
  (∃ d, (id, d) ∈ r.defs ∧ d.site = s) ∨ ∃ n, ((n, id), s) ∈ r.locals.zip r.sites

/-- The identifier `id` is given to the site `s` by some indexed unit. -/
def View.Denotes (v : View) (id : GlobalId) (s : Site) : Prop :=
  ∃ r ∈ v.records, r.Denotes id s

/-- The place a definition is about. -/
def Definition.site (d : Definition) : Site :=
  ⟨d.span.file, d.span.bytes.start, d.span.bytes.stop, d.kind, d.name⟩

namespace Index

theorem mem_of_mem_firstRecords {seen : List GlobalId} {ids : List (LoweredDef × GlobalId)}
    {id : GlobalId} {d : DefRecord} (h : (id, d) ∈ firstRecords seen ids) :
    ∃ ld, (ld, id) ∈ ids ∧ ld.record = d := by
  induction ids generalizing seen with
  | nil => cases h
  | cons p rest ih =>
    obtain ⟨ld, j⟩ := p
    simp only [firstRecords] at h
    -- an identifier that was met before is passed over; any other comes here or later
    split at h
    · obtain ⟨ld', hmem, hd⟩ := ih h
      exact ⟨ld', List.mem_cons_of_mem _ hmem, hd⟩
    · rcases List.mem_cons.1 h with heq | h
      · obtain ⟨rfl, rfl⟩ := Prod.mk.inj heq
        exact ⟨ld, List.mem_cons_self .., rfl⟩
      · obtain ⟨ld', hmem, hd⟩ := ih h
        exact ⟨ld', List.mem_cons_of_mem _ hmem, hd⟩

/-- **Stamped records give every site its identifier in the table**, and no other one. -/
theorem stamp_denotes_iff {t : SiteTable} {l : LoweredUnit} {id : GlobalId} {s : Site} :
    (stamp t l).Denotes id s ↔ s ∈ (stamp t l).sites ∧ id = t.idOf s := by
  constructor
  · -- an identifier is met in a record, or behind a number; both come from one lowered definition
    rintro (⟨d, hd, rfl⟩ | ⟨n, hn⟩)
    · obtain ⟨ld, hmem, rfl⟩ := mem_of_mem_firstRecords hd
      obtain ⟨ld', hld, heq⟩ := List.mem_map.1 hmem
      obtain ⟨rfl, rfl⟩ := Prod.mk.inj heq
      exact ⟨List.mem_map_of_mem hld, rfl⟩
    · simp only [stamp, assemble, List.map_map, List.zip_map', List.mem_map] at hn
      obtain ⟨ld, hld, heq⟩ := hn
      obtain ⟨hnum, rfl⟩ := Prod.mk.inj heq
      exact ⟨List.mem_map_of_mem hld, (Prod.mk.inj hnum).2.symm⟩
  · rintro ⟨hs, rfl⟩
    obtain ⟨ld, hld, rfl⟩ := List.mem_map.1 hs
    refine Or.inr ⟨ld.index, ?_⟩
    simp only [stamp, assemble, List.map_map, List.zip_map', List.mem_map]
    exact ⟨ld, hld, rfl⟩

end Index

/-- The records of a view are lowered units, stamped with the identifiers of the table. -/
theorem exists_reflected {t : Ledger} (h : t.Sound) {r : UnitRecords}
    (hr : r ∈ t.index.view.records) :
    ∃ l, r = Index.stamp t.index.sites l := by
  obtain ⟨⟨u, r⟩, he, rfl⟩ := List.mem_map.1 hr
  obtain ⟨s, -, -, l, -, hl⟩ := h.records.exists_right he
  exact ⟨l, hl⟩

/-- **An identifier denotes the held site whose identifier it is.** -/
theorem Ledger.Sound.denotes_iff {t : Ledger} (h : t.Sound) (id : GlobalId) (s : Site) :
    t.index.view.Denotes id s ↔ 0 < t.index.sites.holders s ∧ id = t.index.sites.idOf s := by
  constructor
  · rintro ⟨r, hr, hden⟩
    obtain ⟨l, hl⟩ := exists_reflected h hr
    obtain ⟨⟨u, r⟩, he, rfl⟩ := List.mem_map.1 hr
    rw [hl, Index.stamp_denotes_iff, ← hl] at hden
    exact ⟨h.held he hden.1, hden.2⟩
  · rintro ⟨hpos, rfl⟩
    -- the site is held, so some unit has records about it
    rw [h.holds s, Table.total_pos_iff] at hpos
    obtain ⟨⟨u, r⟩, he, hcount⟩ := hpos
    have hr : r ∈ t.index.view.records := List.mem_map.2 ⟨(u, r), he, rfl⟩
    obtain ⟨l, hl⟩ := exists_reflected h hr
    refine ⟨r, hr, ?_⟩
    rw [hl, Index.stamp_denotes_iff, ← hl]
    exact ⟨List.count_pos_iff.1 hcount, rfl⟩

/-! ## Layer B: two moments of a history -/

namespace Ledger

/-- What any update does to the sites: some are taken hold of, and then some are given up. -/
theorem step_sites (t : Ledger) (e : IndexUpdate) :
    ∃ space ds ss, (t.step e).index.sites =
      (Index.acquireAll t.index.sites space ds).1.releaseAll ss := by
  cases e with
  | merge u s =>
    cases hl : (lower t.index.names u s).2 with
    | error fault => exact ⟨0, [], [], by rw [step_reject hl]; rfl⟩
    | ok l => exact ⟨l.space, l.defs, _, by rw [step_accept hl]⟩
  | remove u =>
    cases hu : t.index.view.units.get? u with
    | none => exact ⟨0, [], [], by simp [step, Index.removeUnit, hu]; rfl⟩
    | some r => exact ⟨0, [], r.sites, by simp [step, Index.removeUnit, hu]; rfl⟩

theorem later_step (t : Ledger) (e : IndexUpdate) :
    t.index.sites.Later (t.step e).index.sites := by
  obtain ⟨space, ds, ss, hstep⟩ := t.step_sites e
  rw [hstep]
  exact (SiteTable.later_acquireAll _ space ds).trans (SiteTable.later_releaseAll _ ss)

/-- A site that is held before and after an update has the same identifier. -/
theorem Sound.idOf_step {t : Ledger} (h : t.Sound) (e : IndexUpdate) {s : Site}
    (hbefore : 0 < t.index.sites.holders s) (hafter : 0 < (t.step e).index.sites.holders s) :
    (t.step e).index.sites.idOf s = t.index.sites.idOf s := by
  obtain ⟨space, ds, ss, hstep⟩ := t.step_sites e
  rw [hstep] at hafter ⊢
  rw [(Index.proper_acquireAll h.proper space ds).idOf_releaseAll ss hafter]
  exact Index.idOf_acquireAll_of_held _ space ds hbefore

/-- **The tables of a history follow each other.** -/
theorem later_after (p q : List IndexUpdate) :
    (after p).index.sites.Later (after (p ++ q)).index.sites := by
  induction q using List.reverseRecOn with
  | nil => simpa using SiteTable.Later.refl _
  | append_singleton q e ih =>
    rw [← List.append_assoc, after_append]
    exact ih.trans (later_step _ e)

/-- Namespaces are only added. -/
theorem names_step (t : Ledger) (e : IndexUpdate) :
    t.index.names.units <+: (t.step e).index.names.units := by
  cases e with
  | merge u s =>
    have hgrow := lower_grows t.index.names u s
    cases hl : (lower t.index.names u s).2 with
    | error fault =>
      rw [step_reject hl]
      exact hgrow.keeps
    | ok l =>
      rw [step_accept hl]
      exact hgrow.keeps
  | remove u =>
    simp only [step, Index.removeUnit]
    split <;> exact List.prefix_refl _

theorem names_after (p q : List IndexUpdate) :
    (after p).index.names.units <+: (after (p ++ q)).index.names.units := by
  induction q using List.reverseRecOn with
  | nil => simp
  | append_singleton q e ih =>
    rw [← List.append_assoc, after_append]
    exact ih.trans (names_step _ e)

/-- A site that is held all the time keeps its identifier. -/
theorem idOf_after (p q : List IndexUpdate) {s : Site}
    (h : ∀ m, m <+: q → 0 < (after (p ++ m)).index.sites.holders s) :
    (after (p ++ q)).index.sites.idOf s = (after p).index.sites.idOf s := by
  induction q using List.reverseRecOn with
  | nil => simp
  | append_singleton q e ih =>
    have hbefore := h q (List.prefix_append q [e])
    have hafter := h (q ++ [e]) (List.prefix_refl _)
    rw [← List.append_assoc, after_append] at hafter ⊢
    rw [(sound_after _).idOf_step e hbefore hafter]
    refine ih ?_
    intro m hm
    exact h m (hm.trans (List.prefix_append q [e]))

/-- What an identifier denotes at one moment, it denotes at every later one or not at all. -/
theorem site_eq_of_denotes {p q : List IndexUpdate} {i : GlobalId} {s s' : Site}
    (hp : (after p).index.view.Denotes i s) (hq : (after (p ++ q)).index.view.Denotes i s') :
    s = s' := by
  have hsound := sound_after p
  obtain ⟨hs, hi⟩ := (hsound.denotes_iff i s).1 hp
  obtain ⟨hs', hi'⟩ := ((sound_after (p ++ q)).denotes_iff i s').1 hq
  obtain ⟨e, he, rfl, hid⟩ := hsound.proper.exists_entry hs
  obtain ⟨f, hf, rfl, hid'⟩ := (sound_after (p ++ q)).proper.exists_entry hs'
  refine (later_after p q).site_eq hsound.proper he hf ?_
  rw [hid, hid', ← hi, ← hi']

end Ledger

/-! ## Layer C: packed identifiers -/

/-- The word that an identifier is packed into. -/
def GlobalId.word (i : GlobalId) : UInt64 := UInt64.ofNat i.raw

/-- Packing loses nothing while both halves fit. -/
theorem GlobalId.word_inj {i j : GlobalId} (hi : i.space < 2 ^ 32) (hi' : i.serial < 2 ^ 32)
    (hj : j.space < 2 ^ 32) (hj' : j.serial < 2 ^ 32) : i.word = j.word ↔ i = j := by
  constructor
  · intro h
    have hraw : i.raw = j.raw := by
      have hmod := congrArg UInt64.toNat h
      simp only [word, UInt64.toNat_ofNat', raw, halfSize] at hmod ⊢
      omega
    obtain ⟨a, b⟩ := i
    obtain ⟨c, d⟩ := j
    simp only [raw, halfSize, GlobalId.mk.injEq] at *
    omega
  · exact congrArg _

namespace Ledger

/-- Identifiers of a history fit into a word if those of all that follows do. -/
private theorem fits_of_denotes {p h : List IndexUpdate} (hp : p <+: h)
    (hunits : (after h).index.names.units.length < 2 ^ 32)
    (hsites : ∀ n, (after h).index.sites.serial n < 2 ^ 32) {i : GlobalId} {s : Site}
    (hi : (after p).index.view.Denotes i s) : i.space < 2 ^ 32 ∧ i.serial < 2 ^ 32 := by
  have hsound := sound_after p
  obtain ⟨q, rfl⟩ := hp
  obtain ⟨hpos, rfl⟩ := (hsound.denotes_iff i s).1 hi
  obtain ⟨e, he, -, hid⟩ := hsound.proper.exists_entry hpos
  rw [← hid]
  constructor
  · -- spaces and serial numbers only grow, so the limits at the end bound those from before
    have hgrown := names_after p q
    exact Nat.lt_of_lt_of_le (hsound.below e he)
      (Nat.le_trans hgrown.length_le (Nat.le_of_lt hunits))
  · have hissued := hsound.proper.issued e he
    have hlater := (later_after p q).serials e.id.space
    have hlimit := hsites e.id.space
    omega

/-- **An identifier is never bound to another site, and a site has one identifier.**

For a history in which namespaces and serial numbers fit their halves of the word:
- at every moment, identifiers that denote something are equal if and only if their sites are;
- at any two moments, an identifier that denotes something at both denotes the same site;
- a site that is held throughout a stretch of the history has one identifier throughout it. -/
theorem identifiers_never_rebound (h : List IndexUpdate)
    (hunits : (after h).index.names.units.length < 2 ^ 32)
    (hsites : ∀ n, (after h).index.sites.serial n < 2 ^ 32) :
    (∀ p, p <+: h → ∀ i j s s', (after p).index.view.Denotes i s →
      (after p).index.view.Denotes j s' → (i.word = j.word ↔ s = s')) ∧
    (∀ p q, p <+: h → q <+: h → ∀ i j s s', (after p).index.view.Denotes i s →
      (after q).index.view.Denotes j s' → i.word = j.word → s = s') ∧
    (∀ p q s, p ++ q <+: h → (∀ m, m <+: q → ∃ i, (after (p ++ m)).index.view.Denotes i s) →
      ∃ i, ∀ m, m <+: q → ∀ j, (after (p ++ m)).index.view.Denotes j s ↔ j = i) := by
  have hword : ∀ p q, p <+: h → q <+: h → ∀ i j s s', (after p).index.view.Denotes i s →
      (after q).index.view.Denotes j s' → (i.word = j.word ↔ i = j) := by
    intro p q hp hq i j s s' hi hj
    obtain ⟨his, his'⟩ := fits_of_denotes hp hunits hsites hi
    obtain ⟨hjs, hjs'⟩ := fits_of_denotes hq hunits hsites hj
    exact GlobalId.word_inj his his' hjs hjs'
  refine ⟨?_, ?_, ?_⟩
  · intro p hp i j s s' hi hj
    rw [hword p p hp hp i j s s' hi hj]
    obtain ⟨hs, rfl⟩ := ((sound_after p).denotes_iff i s).1 hi
    obtain ⟨hs', rfl⟩ := ((sound_after p).denotes_iff j s').1 hj
    exact ⟨(sound_after p).proper.idOf_injective hs hs', congrArg _⟩
  · intro p q hp hq i j s s' hi hj hij
    rw [hword p q hp hq i j s s' hi hj] at hij
    subst hij
    -- one of the moments is the later one
    rcases List.prefix_or_prefix_of_prefix hp hq with ⟨m, rfl⟩ | ⟨m, rfl⟩
    · exact site_eq_of_denotes hi hj
    · exact (site_eq_of_denotes hj hi).symm
  · intro p q s _ hheld
    have hpos : ∀ m, m <+: q → 0 < (after (p ++ m)).index.sites.holders s := by
      intro m hm
      obtain ⟨i, hi⟩ := hheld m hm
      exact (((sound_after _).denotes_iff i s).1 hi).1
    refine ⟨(after p).index.sites.idOf s, ?_⟩
    intro m hm j
    rw [(sound_after _).denotes_iff, ← idOf_after p m fun k hk => hpos k (hk.trans hm)]
    exact and_iff_right (hpos m hm)

/-- Two units report the same function, and the first of them is dropped again. -/
def sharedFunction : List IndexUpdate :=
  let run : RawDef :=
    ⟨.function, ⟨0, 1⟩, ⟨⟨"/w/a.rs"⟩, 10, 13, 1, 1, 1, 4⟩, "run", "run", none, "", none, [], none⟩
  let s : Snapshot := { Snapshot.empty with directory := ⟨"/w"⟩, defs := [run] }
  [.merge ⟨"a", "a", .lib⟩ s, .merge ⟨"a", "a", .test⟩ s, .remove ⟨"a", "a", .lib⟩]

/-- The function keeps the identifier that the dropped unit gave it. -/
theorem sharedFunction_keeps_identifier :
    ∃ i, ∀ m, m <+: sharedFunction.drop 1 → ∀ j,
      (after (sharedFunction.take 1 ++ m)).index.view.Denotes j
        ⟨⟨"/w/a.rs"⟩, 10, 13, .function, "run"⟩ ↔ j = i := by
  have hserials : (after sharedFunction).index.sites.nextSerial = ⟨[(0, 1)]⟩ := by decide
  have hsites : ∀ n, (after sharedFunction).index.sites.serial n < 2 ^ 32 := by
    intro n
    simp only [SiteTable.serial, hserials, Table.getD, Table.get?, Table.lookup]
    split <;> decide
  refine (identifiers_never_rebound sharedFunction (by decide) hsites).2.2 _ _ _
    (by simp only [List.take_append_drop, List.prefix_refl]) ?_
  intro m hm
  refine ⟨⟨0, 0⟩, ((sound_after _).denotes_iff _ _).2 ?_⟩
  have hlength : m.length ≤ 2 := hm.length_le
  rw [List.prefix_iff_eq_take.1 hm]
  -- the rest of the history has two events, so there are three states to look at
  interval_cases m.length <;> decide

end Ledger

end CodeAtlas
