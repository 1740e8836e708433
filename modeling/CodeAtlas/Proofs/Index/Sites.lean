import CodeAtlas.Index.Basic
import CodeAtlas.Proofs.Ordered.Table
import Mathlib.Data.List.Nodup

/-!
# Theory of the site table

Holds are counted per site, and a site has an identifier for as long as it is held. What an action
does to a table is said in terms of two look-ups, the number of holders of a site and its
identifier; no later proof looks at the entries of a table.

## Architecture

- **Layer A**: proper tables and their two look-ups;
- **Layer B**: taking hold of a site;
- **Layer C**: giving up a hold;
- **Layer D**: whole units: all definitions are taken hold of, all old sites given up;
- **Layer E**: what may have happened to a table in the meantime;
- **Layer F**: the namespaces that identifiers lie in;
- **Layer G**: what a table is made of, and holds that are taken and given up again.
-/

namespace CodeAtlas

namespace SiteTable

/-! ## Layer A: proper tables -/

/-- How often a site is held. -/
def holders (t : SiteTable) (s : Site) : Nat := ((t.find? s).map (·.holders)).getD 0

/-- The identifier of a held site. -/
def idOf (t : SiteTable) (s : Site) : GlobalId := ((t.find? s).map (·.id)).getD GlobalId.null

/-- The next serial number of a namespace. -/
def serial (t : SiteTable) (space : Nat) : Nat := t.nextSerial.getD space 0

/-- What every table satisfies: one entry per site and per identifier, and all serial numbers
issued lie below the next one. -/
structure Proper (t : SiteTable) : Prop where
  sites_nodup : (t.entries.map (·.site)).Nodup
  ids_nodup : (t.entries.map (·.id)).Nodup
  held : ∀ e ∈ t.entries, 0 < e.holders
  issued : ∀ e ∈ t.entries, e.id.serial < t.serial e.id.space

theorem proper_empty : empty.Proper where
  sites_nodup := List.nodup_nil
  ids_nodup := List.nodup_nil
  held := by intro e he; cases he
  issued := by intro e he; cases he

variable {t : SiteTable}

theorem Proper.eq_of_site (h : t.Proper) {e f : SiteEntry} (he : e ∈ t.entries)
    (hf : f ∈ t.entries) (hs : e.site = f.site) : e = f :=
  List.inj_on_of_nodup_map h.sites_nodup he hf hs

theorem Proper.eq_of_id (h : t.Proper) {e f : SiteEntry} (he : e ∈ t.entries)
    (hf : f ∈ t.entries) (hid : e.id = f.id) : e = f :=
  List.inj_on_of_nodup_map h.ids_nodup he hf hid

theorem Proper.find?_eq_some_iff (h : t.Proper) {s : Site} {e : SiteEntry} :
    t.find? s = some e ↔ e ∈ t.entries ∧ e.site = s := by
  constructor
  · intro hf
    exact ⟨List.mem_of_find?_eq_some hf, by simpa using List.find?_some hf⟩
  · rintro ⟨he, rfl⟩
    obtain ⟨f, hf⟩ := Option.isSome_iff_exists.1
      (List.find?_isSome.2 ⟨e, he, by simp⟩ : (t.find? e.site).isSome)
    have hmem : f ∈ t.entries := List.mem_of_find?_eq_some hf
    have hsite : f.site = e.site := by simpa using List.find?_some hf
    rw [h.eq_of_site hmem he hsite] at hf
    exact hf

/-- An entry counts the holders of its site. -/
theorem Proper.holders_of_mem (h : t.Proper) {e : SiteEntry} (he : e ∈ t.entries) :
    t.holders e.site = e.holders := by
  simp [holders, h.find?_eq_some_iff.2 ⟨he, rfl⟩]

/-- An entry has the identifier of its site. -/
theorem Proper.idOf_of_mem (h : t.Proper) {e : SiteEntry} (he : e ∈ t.entries) :
    t.idOf e.site = e.id := by
  simp [idOf, h.find?_eq_some_iff.2 ⟨he, rfl⟩]

/-- A site is held if it has an entry. -/
theorem Proper.holders_pos_iff (h : t.Proper) (s : Site) :
    0 < t.holders s ↔ ∃ e ∈ t.entries, e.site = s := by
  constructor
  · intro hpos
    cases hf : t.find? s with
    | none => simp [holders, hf] at hpos
    | some e => exact ⟨e, (h.find?_eq_some_iff.1 hf).1, (h.find?_eq_some_iff.1 hf).2⟩
  · rintro ⟨e, he, rfl⟩
    rw [h.holders_of_mem he]
    exact h.held e he

/-- The entry of a held site carries the site's identifier. -/
theorem Proper.exists_entry (h : t.Proper) {s : Site} (hs : 0 < t.holders s) :
    ∃ e ∈ t.entries, e.site = s ∧ e.id = t.idOf s := by
  obtain ⟨e, he, rfl⟩ := (h.holders_pos_iff s).1 hs
  exact ⟨e, he, rfl, (h.idOf_of_mem he).symm⟩

/-- **Held sites with the same identifier are the same site.** -/
theorem Proper.idOf_injective (h : t.Proper) {s s' : Site} (hs : 0 < t.holders s)
    (hs' : 0 < t.holders s') (hid : t.idOf s = t.idOf s') : s = s' := by
  obtain ⟨e, he, rfl, hie⟩ := h.exists_entry hs
  obtain ⟨f, hf, rfl, hif⟩ := h.exists_entry hs'
  rw [h.eq_of_id he hf (by rw [hie, hif, hid])]

/-! ## Layer B: taking hold -/

theorem acquire_of_some {s : Site} {e : SiteEntry} (hf : t.find? s = some e) (space : Nat) :
    t.acquire space s = (⟨t.entries.map (hold s), t.nextSerial⟩, e.id) := by
  simp [acquire, hf]

theorem acquire_of_none {s : Site} (hf : t.find? s = none) (space : Nat) :
    t.acquire space s =
      (⟨t.entries ++ [⟨s, ⟨space, t.serial space⟩, 1⟩],
        t.nextSerial.insert space (t.serial space + 1)⟩, ⟨space, t.serial space⟩) := by
  simp [acquire, hf, serial]

@[simp] theorem hold_site (s : Site) (e : SiteEntry) : (hold s e).site = e.site := by
  unfold hold
  split <;> rfl

@[simp] theorem hold_id (s : Site) (e : SiteEntry) : (hold s e).id = e.id := by
  unfold hold
  split <;> rfl

theorem hold_holders (s : Site) (e : SiteEntry) :
    (hold s e).holders = e.holders + if s = e.site then 1 else 0 := by
  unfold hold
  by_cases h : e.site = s
  · simp [h]
  · have h' : ¬ s = e.site := fun hs => h hs.symm
    simp [h, h']

private theorem find?_site {s : Site} {e : SiteEntry} (hf : t.find? s = some e) : e.site = s := by
  simpa using List.find?_some hf

private theorem find?_map_hold (s s' : Site) (n : Table Nat Nat) :
    (⟨t.entries.map (hold s), n⟩ : SiteTable).find? s' = (t.find? s').map (hold s) := by
  have hsame : ((fun e : SiteEntry => e.site == s') ∘ hold s) = fun e => e.site == s' := by
    funext e
    simp
  simp only [find?, List.find?_map, hsame]

private theorem find?_append_one (e : SiteEntry) (s' : Site) (n : Table Nat Nat) :
    (⟨t.entries ++ [e], n⟩ : SiteTable).find? s' =
      (t.find? s').or (if e.site = s' then some e else none) := by
  by_cases h : e.site = s' <;> simp [find?, List.find?_append, h]

/-- Taking hold of a site counts one more holder of it. -/
theorem holders_acquire (t : SiteTable) (space : Nat) (s s' : Site) :
    (t.acquire space s).1.holders s' = t.holders s' + if s = s' then 1 else 0 := by
  -- a site that is held has one entry, which counts; another one gets an entry of its own
  cases hf : t.find? s with
  | some e =>
    rw [acquire_of_some hf]
    simp only [holders, find?_map_hold]
    cases hf' : t.find? s' with
    | none =>
      have hne : s ≠ s' := by
        rintro rfl
        simp [hf] at hf'
      simp [hne]
    | some f => simp [hold_holders, find?_site hf']
  | none =>
    rw [acquire_of_none hf]
    simp only [holders, find?_append_one]
    cases hf' : t.find? s' with
    | none => by_cases hss : s = s' <;> simp [hss]
    | some f =>
      have hne : s ≠ s' := by
        rintro rfl
        simp [hf] at hf'
      simp [hne]

/-- A site that is held keeps its identifier when any site is taken hold of. -/
theorem idOf_acquire_of_held (t : SiteTable) (space : Nat) (s : Site) {s' : Site}
    (hs' : 0 < t.holders s') : (t.acquire space s).1.idOf s' = t.idOf s' := by
  obtain ⟨f, hf'⟩ : ∃ f, t.find? s' = some f := by
    cases hf' : t.find? s' with
    | none => simp [holders, hf'] at hs'
    | some f => exact ⟨f, rfl⟩
  cases hf : t.find? s with
  | some e =>
    rw [acquire_of_some hf]
    simp [idOf, find?_map_hold, hf']
  | none =>
    rw [acquire_of_none hf]
    simp [idOf, find?_append_one, hf']

/-- The identifier that is handed out is the site's identifier from then on. -/
theorem acquire_snd (t : SiteTable) (space : Nat) (s : Site) :
    (t.acquire space s).2 = (t.acquire space s).1.idOf s := by
  cases hf : t.find? s with
  | some e =>
    rw [acquire_of_some hf]
    simp [idOf, find?_map_hold, hf]
  | none =>
    rw [acquire_of_none hf]
    simp [idOf, find?_append_one, hf]

theorem serial_le_acquire (t : SiteTable) (space : Nat) (s : Site) (n : Nat) :
    t.serial n ≤ (t.acquire space s).1.serial n := by
  cases hf : t.find? s with
  | some e => simp [acquire_of_some hf, serial]
  | none =>
    simp only [acquire_of_none hf, serial, Table.getD, Table.get?_insert]
    split
    · rename_i h
      have hn : n = space := Std.LawfulEqOrd.eq_of_compare h
      simp [hn]
    · exact Nat.le_refl _

/-- Another holder of a site is counted in the entry of the site. -/
private theorem Proper.map_hold (h : t.Proper) (s : Site) :
    (⟨t.entries.map (hold s), t.nextSerial⟩ : SiteTable).Proper := by
  refine ⟨?_, ?_, ?_, ?_⟩
  · simpa [Function.comp_def] using h.sites_nodup
  · simpa [Function.comp_def] using h.ids_nodup
  · intro f hmem
    obtain ⟨g, hg, rfl⟩ := List.mem_map.1 hmem
    exact hold_holders s g ▸ Nat.add_pos_left (h.held g hg) _
  · intro f hmem
    obtain ⟨g, hg, rfl⟩ := List.mem_map.1 hmem
    simpa [serial] using h.issued g hg

/-- The identifier that a namespace issues next is not in use. -/
private theorem Proper.next_not_mem (h : t.Proper) (space : Nat) :
    ⟨space, t.serial space⟩ ∉ t.entries.map (·.id) := by
  intro hmem
  obtain ⟨e, he, hid⟩ := List.mem_map.1 hmem
  have hlt := h.issued e he
  rw [hid] at hlt
  exact absurd hlt (Nat.lt_irrefl _)

/-- A site that is not held has no entry. -/
private theorem Proper.site_not_mem (h : t.Proper) {s : Site} (hf : t.find? s = none) :
    s ∉ t.entries.map (·.site) := by
  intro hmem
  obtain ⟨e, he, hes⟩ := List.mem_map.1 hmem
  rw [h.find?_eq_some_iff.2 ⟨he, hes⟩] at hf
  cases hf

theorem Proper.acquire (h : t.Proper) (space : Nat) (s : Site) : (t.acquire space s).1.Proper := by
  cases hf : t.find? s with
  | some e =>
    rw [acquire_of_some hf]
    exact h.map_hold s
  | none =>
    -- serial numbers of other namespaces stay, that of this one moves past the new identifier
    have hmono := serial_le_acquire t space s
    have hnext : (t.acquire space s).1.serial space = t.serial space + 1 := by
      simp [acquire_of_none hf, serial, Table.getD]
    rw [acquire_of_none hf] at hmono hnext ⊢
    refine ⟨?_, ?_, ?_, ?_⟩
    · rw [List.map_append, List.map_singleton, ← List.concat_eq_append]
      exact h.sites_nodup.concat (h.site_not_mem hf)
    · rw [List.map_append, List.map_singleton, ← List.concat_eq_append]
      exact h.ids_nodup.concat (h.next_not_mem space)
    · intro f hmem
      rcases List.mem_append.1 hmem with hmem | hmem
      · exact h.held f hmem
      · simp only [List.mem_singleton] at hmem
        simp [hmem]
    · intro f hmem
      rcases List.mem_append.1 hmem with hmem | hmem
      · exact Nat.lt_of_lt_of_le (h.issued f hmem) (hmono f.id.space)
      · simp only [List.mem_singleton] at hmem
        subst hmem
        exact Nat.lt_of_lt_of_eq (Nat.lt_succ_self _) hnext.symm

/-! ## Layer C: giving up -/

private theorem drop_eq_some {s : Site} {e e' : SiteEntry} (h : drop s e = some e') :
    e'.site = e.site ∧ e'.id = e.id ∧ (e.site = s → 1 < e.holders) ∧
      e'.holders = e.holders - if s = e.site then 1 else 0 := by
  unfold drop at h
  by_cases hs : e.site = s
  · simp only [hs, beq_self_eq_true, if_true] at h
    split at h
    · cases h
    · rename_i hlt
      cases h
      exact ⟨hs.symm ▸ rfl, rfl, fun _ => Nat.lt_of_not_le hlt, by simp [hs]⟩
  · have hs' : ¬ s = e.site := fun h => hs h.symm
    simp only [beq_iff_eq, hs, if_false, Option.some.injEq] at h
    subst h
    exact ⟨rfl, rfl, fun h => absurd h hs, by simp [hs']⟩

private theorem drop_of_ne {s : Site} {e : SiteEntry} (h : e.site ≠ s) : drop s e = some e := by
  simp [drop, h]

private theorem drop_of_lt {s : Site} {e : SiteEntry} (hs : e.site = s) (h : 1 < e.holders) :
    drop s e = some { e with holders := e.holders - 1 } := by
  simp [drop, hs, Nat.not_le.2 h]

private theorem map_filterMap_drop_sublist {α : Type} (s : Site) (f : SiteEntry → α)
    (hf : ∀ e e', drop s e = some e' → f e' = f e) (es : List SiteEntry) :
    ((es.filterMap (drop s)).map f).Sublist (es.map f) := by
  induction es with
  | nil => exact .slnil
  | cons e rest ih =>
    cases hd : drop s e with
    | none =>
      rw [List.filterMap_cons_none hd]
      exact ih.cons _
    | some e' =>
      rw [List.filterMap_cons_some hd, List.map_cons, List.map_cons, hf e e' hd]
      exact ih.cons_cons _

theorem Proper.release (h : t.Proper) (s : Site) : (t.release s).Proper := by
  refine ⟨?_, ?_, ?_, ?_⟩
  · exact h.sites_nodup.sublist
      (map_filterMap_drop_sublist s _ (fun _ _ hd => (drop_eq_some hd).1) _)
  · exact h.ids_nodup.sublist
      (map_filterMap_drop_sublist s _ (fun _ _ hd => (drop_eq_some hd).2.1) _)
  · intro e' he'
    obtain ⟨e, he, hd⟩ := List.mem_filterMap.1 he'
    obtain ⟨-, -, hlt, hcount⟩ := drop_eq_some hd
    have hpos := h.held e he
    by_cases hs : s = e.site
    -- an entry that stays after giving up a hold had more than one
    · have := hlt hs.symm
      simp only [hcount, hs, if_true]
      omega
    · simpa [hcount, hs] using hpos
  · intro e' he'
    obtain ⟨e, he, hd⟩ := List.mem_filterMap.1 he'
    have hid := (drop_eq_some hd).2.1
    simpa [hid, SiteTable.release, serial] using h.issued e he

/-- Giving up a hold counts one holder less; the last one takes the entry along. -/
theorem Proper.find?_release (h : t.Proper) (s s' : Site) :
    (t.release s).find? s' = (t.find? s').bind (drop s) := by
  cases hf : t.find? s' with
  | none =>
    -- entries that are left come from entries of the same site
    cases hf' : (t.release s).find? s' with
    | none => rfl
    | some e' =>
      obtain ⟨hmem, hsite⟩ := (h.release s).find?_eq_some_iff.1 hf'
      obtain ⟨e, he, hd⟩ := List.mem_filterMap.1 hmem
      have := h.find?_eq_some_iff.2 ⟨he, (drop_eq_some hd).1.symm.trans hsite⟩
      rw [hf] at this
      cases this
  | some e =>
    obtain ⟨he, rfl⟩ := h.find?_eq_some_iff.1 hf
    cases hd : drop s e with
    | some e' =>
      have hmem : e' ∈ (t.release s).entries := List.mem_filterMap.2 ⟨e, he, hd⟩
      rw [(h.release s).find?_eq_some_iff.2 ⟨hmem, (drop_eq_some hd).1⟩, Option.bind_some, hd]
    | none =>
      -- an entry that is left for the site would come from the one that was dropped
      cases hf' : (t.release s).find? e.site with
      | none => simp [hd]
      | some g' =>
        obtain ⟨hmem, hsite⟩ := (h.release s).find?_eq_some_iff.1 hf'
        obtain ⟨g, hg, hdg⟩ := List.mem_filterMap.1 hmem
        obtain rfl := h.eq_of_site hg he ((drop_eq_some hdg).1.symm.trans hsite)
        rw [hd] at hdg
        cases hdg

theorem Proper.holders_release (h : t.Proper) (s s' : Site) :
    (t.release s).holders s' = t.holders s' - if s = s' then 1 else 0 := by
  simp only [holders, h.find?_release]
  cases hf : t.find? s' with
  | none => simp
  | some e =>
    obtain ⟨he, rfl⟩ := h.find?_eq_some_iff.1 hf
    have hpos := h.held e he
    by_cases hs : s = e.site
    · subst hs
      -- the last hold takes the entry with it
      by_cases hlt : 1 < e.holders
      · simp [drop_of_lt rfl hlt]
      · have hnone : drop e.site e = none := by simp [drop, Nat.not_lt.1 hlt]
        simp [hnone]
        omega
    · simp [drop_of_ne (Ne.symm hs), hs]

/-- A site that is still held after a hold was given up keeps its identifier. -/
theorem Proper.idOf_release (h : t.Proper) (s : Site) {s' : Site}
    (hs' : 0 < (t.release s).holders s') : (t.release s).idOf s' = t.idOf s' := by
  simp only [holders, idOf, h.find?_release] at hs' ⊢
  cases hf : t.find? s' with
  | none => simp
  | some e =>
    cases hd : drop s e with
    | none => simp [hf, hd] at hs'
    | some e' => simp [hd, (drop_eq_some hd).2.1]

/-! ## Layer D: whole units -/

theorem Proper.releaseAll (h : t.Proper) (ss : List Site) : (t.releaseAll ss).Proper := by
  induction ss generalizing t with
  | nil => exact h
  | cons s rest ih => exact ih (h.release s)

theorem Proper.holders_releaseAll (h : t.Proper) (ss : List Site) (s' : Site) :
    (t.releaseAll ss).holders s' = t.holders s' - ss.count s' := by
  induction ss generalizing t with
  | nil => simp [SiteTable.releaseAll]
  | cons s rest ih =>
    have := ih (h.release s)
    rw [h.holders_release] at this
    simp only [SiteTable.releaseAll, List.foldl_cons, List.count_cons, beq_iff_eq] at this ⊢
    rw [this]
    omega

theorem Proper.idOf_releaseAll (h : t.Proper) (ss : List Site) {s' : Site}
    (hs' : 0 < (t.releaseAll ss).holders s') : (t.releaseAll ss).idOf s' = t.idOf s' := by
  induction ss generalizing t with
  | nil => rfl
  | cons s rest ih =>
    -- holders only become fewer, so a site that is held in the end is held on the way
    have hmid : 0 < (t.release s).holders s' := by
      have := (h.release s).holders_releaseAll rest s'
      simp only [SiteTable.releaseAll, List.foldl_cons] at hs' this
      omega
    exact (ih (h.release s) hs').trans (h.idOf_release s hmid)

theorem nextSerial_releaseAll (t : SiteTable) (ss : List Site) :
    (t.releaseAll ss).nextSerial = t.nextSerial := by
  induction ss generalizing t with
  | nil => rfl
  | cons s rest ih => exact ih (t.release s)

@[simp] theorem serial_releaseAll (t : SiteTable) (ss : List Site) (n : Nat) :
    (t.releaseAll ss).serial n = t.serial n := by
  rw [serial, nextSerial_releaseAll, serial]

end SiteTable

namespace Index

open SiteTable

variable {t : SiteTable}

theorem acquireAll_cons (t : SiteTable) (space : Nat) (d : LoweredDef) (ds : List LoweredDef) :
    acquireAll t space (d :: ds) =
      ((acquireAll (t.acquire space d.record.site).1 space ds).1,
        (d, (t.acquire space d.record.site).2) ::
          (acquireAll (t.acquire space d.record.site).1 space ds).2) := rfl

theorem proper_acquireAll (h : t.Proper) (space : Nat) (ds : List LoweredDef) :
    (acquireAll t space ds).1.Proper := by
  induction ds generalizing t with
  | nil => exact h
  | cons d rest ih => exact ih (h.acquire space d.record.site)

theorem holders_acquireAll (t : SiteTable) (space : Nat) (ds : List LoweredDef) (s : Site) :
    (acquireAll t space ds).1.holders s =
      t.holders s + (ds.map (·.record.site)).count s := by
  induction ds generalizing t with
  | nil => simp [acquireAll]
  | cons d rest ih =>
    simp only [acquireAll_cons, ih, holders_acquire, List.map_cons, List.count_cons, beq_iff_eq]
    omega

theorem idOf_acquireAll_of_held (t : SiteTable) (space : Nat) (ds : List LoweredDef) {s : Site}
    (hs : 0 < t.holders s) : (acquireAll t space ds).1.idOf s = t.idOf s := by
  induction ds generalizing t with
  | nil => rfl
  | cons d rest ih =>
    have hmid : 0 < (t.acquire space d.record.site).1.holders s := by
      rw [holders_acquire]
      omega
    rw [acquireAll_cons, ih _ hmid, idOf_acquire_of_held t space _ hs]

/-- Each definition is paired with the identifier that its site has once all sites are held. -/
theorem acquireAll_snd (t : SiteTable) (space : Nat) (ds : List LoweredDef) :
    (acquireAll t space ds).2 =
      ds.map fun d => (d, (acquireAll t space ds).1.idOf d.record.site) := by
  induction ds generalizing t with
  | nil => rfl
  | cons d rest ih =>
    have hmid : 0 < (t.acquire space d.record.site).1.holders d.record.site := by
      simp [holders_acquire]
    rw [acquireAll_cons, List.map_cons, ih]
    simp only [acquire_snd]
    rw [idOf_acquireAll_of_held _ _ _ hmid]

end Index

namespace SiteTable

variable {t : SiteTable}

/-! ## Layer E: the meantime -/

/-- A later state of a table: serial numbers have only grown, and every identifier either belongs to
the site it belonged to or was issued in the meantime. -/
structure Later (t u : SiteTable) : Prop where
  serials : ∀ n, t.serial n ≤ u.serial n
  bound : ∀ f ∈ u.entries,
    (∃ e ∈ t.entries, e.id = f.id ∧ e.site = f.site) ∨ t.serial f.id.space ≤ f.id.serial

theorem Later.refl (t : SiteTable) : Later t t :=
  ⟨fun _ => Nat.le_refl _, fun f hf => Or.inl ⟨f, hf, rfl, rfl⟩⟩

theorem Later.trans {t u v : SiteTable} (htu : Later t u) (huv : Later u v) : Later t v where
  serials n := Nat.le_trans (htu.serials n) (huv.serials n)
  bound := by
    intro g hg
    rcases huv.bound g hg with ⟨f, hf, hid, hsite⟩ | hnew
    · rcases htu.bound f hf with ⟨e, he, hid', hsite'⟩ | hnew
      · exact Or.inl ⟨e, he, hid'.trans hid, hsite'.trans hsite⟩
      · exact Or.inr (hid ▸ hnew)
    · exact Or.inr (Nat.le_trans (htu.serials _) hnew)

/-- Taking hold of a site leaves every entry its identifier, or adds one with a new identifier. -/
private theorem bound_of_mem_acquire {space : Nat} {s : Site} {f : SiteEntry}
    (hf : f ∈ (t.acquire space s).1.entries) :
    (∃ e ∈ t.entries, e.id = f.id ∧ e.site = f.site) ∨ f.id = ⟨space, t.serial space⟩ := by
  cases hfind : t.find? s with
  | some e =>
    rw [acquire_of_some hfind] at hf
    obtain ⟨g, hg, rfl⟩ := List.mem_map.1 hf
    exact Or.inl ⟨g, hg, (hold_id s g).symm, (hold_site s g).symm⟩
  | none =>
    rw [acquire_of_none hfind] at hf
    rcases List.mem_append.1 hf with hf | hf
    · exact Or.inl ⟨f, hf, rfl, rfl⟩
    · obtain rfl : f = _ := List.mem_singleton.1 hf
      exact Or.inr rfl

/-- Giving up a hold leaves every entry that stays its identifier. -/
private theorem bound_of_mem_release {s : Site} {f : SiteEntry} (hf : f ∈ (t.release s).entries) :
    ∃ e ∈ t.entries, e.id = f.id ∧ e.site = f.site := by
  obtain ⟨e, he, hd⟩ := List.mem_filterMap.1 hf
  obtain ⟨hsite, hid, -, -⟩ := drop_eq_some hd
  exact ⟨e, he, hid.symm, hsite.symm⟩

theorem later_acquire (t : SiteTable) (space : Nat) (s : Site) :
    Later t (t.acquire space s).1 where
  serials := serial_le_acquire t space s
  bound := by
    intro f hf
    refine (bound_of_mem_acquire hf).imp_right fun hnew => ?_
    rw [hnew]

theorem later_release (t : SiteTable) (s : Site) : Later t (t.release s) where
  serials _ := Nat.le_refl _
  bound _ hf := Or.inl (bound_of_mem_release hf)

theorem later_releaseAll (t : SiteTable) (ss : List Site) : Later t (t.releaseAll ss) := by
  induction ss generalizing t with
  | nil => exact .refl t
  | cons s rest ih => exact (later_release t s).trans (ih _)

theorem later_acquireAll (t : SiteTable) (space : Nat) (ds : List LoweredDef) :
    Later t (Index.acquireAll t space ds).1 := by
  induction ds generalizing t with
  | nil => exact .refl t
  | cons d rest ih => exact (later_acquire t space _).trans (ih _)

/-- **An identifier is never bound to another site.** -/
theorem Later.site_eq {u : SiteTable} (h : Later t u) (ht : t.Proper) {e f : SiteEntry}
    (he : e ∈ t.entries) (hf : f ∈ u.entries) (hid : e.id = f.id) : e.site = f.site := by
  rcases h.bound f hf with ⟨g, hg, hgid, hgsite⟩ | hnew
  · rw [ht.eq_of_id he hg (hid.trans hgid.symm), hgsite]
  · have := ht.issued e he
    rw [hid] at this
    exact absurd this (Nat.not_lt.2 hnew)

/-! ## Layer F: the namespaces in use -/

/-- All identifiers lie in the first `n` namespaces. -/
def Below (t : SiteTable) (n : Nat) : Prop := ∀ e ∈ t.entries, e.id.space < n

theorem Below.mono {n m : Nat} (h : t.Below n) (hnm : n ≤ m) : t.Below m := by
  intro e he
  exact Nat.lt_of_lt_of_le (h e he) hnm

theorem Below.acquire {n space : Nat} (h : t.Below n) (hspace : space < n) (s : Site) :
    (t.acquire space s).1.Below n := by
  intro f hf
  rcases bound_of_mem_acquire hf with ⟨e, he, hid, -⟩ | hnew
  · exact hid ▸ h e he
  · rw [hnew]
    exact hspace

theorem Below.acquireAll {n space : Nat} (h : t.Below n) (hspace : space < n)
    (ds : List LoweredDef) : (Index.acquireAll t space ds).1.Below n := by
  induction ds generalizing t with
  | nil => exact h
  | cons d rest ih => exact ih (h.acquire hspace _)

theorem Below.releaseAll {n : Nat} (h : t.Below n) (ss : List Site) :
    (t.releaseAll ss).Below n := by
  induction ss generalizing t with
  | nil => exact h
  | cons s rest ih =>
    refine ih ?_
    intro f hf
    obtain ⟨e, he, hid, -⟩ := bound_of_mem_release hf
    exact hid ▸ h e he

/-! ## Layer G: what a table is made of -/

/-- The held sites with their identifiers, in the order in which they were first taken hold of. -/
def bindings (t : SiteTable) : List (Site × GlobalId) := t.entries.map fun e => (e.site, e.id)

theorem Proper.bindings_nodup (h : t.Proper) : t.bindings.Nodup := by
  apply List.Nodup.of_map Prod.fst
  have hsites : t.bindings.map Prod.fst = t.entries.map (·.site) := by simp [bindings]
  rw [hsites]
  exact h.sites_nodup

theorem Proper.mem_bindings_iff (h : t.Proper) {s : Site} {id : GlobalId} :
    (s, id) ∈ t.bindings ↔ 0 < t.holders s ∧ t.idOf s = id := by
  constructor
  · intro hmem
    obtain ⟨e, he, heq⟩ := List.mem_map.1 hmem
    obtain ⟨rfl, rfl⟩ := Prod.mk.inj heq
    exact ⟨(h.holders_pos_iff _).2 ⟨e, he, rfl⟩, h.idOf_of_mem he⟩
  · rintro ⟨hs, rfl⟩
    obtain ⟨e, he, rfl, hid⟩ := h.exists_entry hs
    exact List.mem_map.2 ⟨e, he, by rw [hid]⟩

/-- The entries of a table are its bindings, each with the number of holders. -/
theorem Proper.entries_eq (h : t.Proper) :
    t.entries = t.bindings.map fun p => ⟨p.1, p.2, t.holders p.1⟩ := by
  have hentry : ∀ e ∈ t.entries, (⟨e.site, e.id, t.holders e.site⟩ : SiteEntry) = e := by
    intro e he
    rw [h.holders_of_mem he]
  simp only [bindings, List.map_map, Function.comp_def]
  rw [List.map_congr_left hentry, List.map_id']

/-- **Bindings, holders and serial numbers make a table.** -/
theorem Proper.ext {u : SiteTable} (ht : t.Proper) (hu : u.Proper)
    (hbindings : t.bindings = u.bindings) (hholders : ∀ s, t.holders s = u.holders s)
    (hserials : t.nextSerial = u.nextSerial) : t = u := by
  have hentries : t.entries = u.entries := by
    rw [ht.entries_eq, hu.entries_eq, hbindings]
    simp only [hholders]
  obtain ⟨es, n⟩ := t
  obtain ⟨es', n'⟩ := u
  rw [show es = es' from hentries, show n = n' from hserials]

/-- Taking hold of sites that are held binds nothing, and issues no serial number. -/
theorem bindings_acquireAll_of_held (space : Nat) (ds : List LoweredDef)
    (h : ∀ d ∈ ds, 0 < t.holders d.record.site) :
    (Index.acquireAll t space ds).1.bindings = t.bindings ∧
      (Index.acquireAll t space ds).1.nextSerial = t.nextSerial := by
  induction ds generalizing t with
  | nil => exact ⟨rfl, rfl⟩
  | cons d rest ih =>
    obtain ⟨hd, hrest⟩ := List.forall_mem_cons.1 h
    obtain ⟨e, he⟩ : ∃ e, t.find? d.record.site = some e := by
      cases hfind : t.find? d.record.site with
      | none => simp [holders, hfind] at hd
      | some e => exact ⟨e, rfl⟩
    -- sites that were held stay held, and by one more if it is the same one
    have hheld : ∀ d' ∈ rest, 0 < (t.acquire space d.record.site).1.holders d'.record.site := by
      intro d' hd'
      rw [holders_acquire]
      exact Nat.add_pos_left (hrest d' hd') _
    obtain ⟨hbindings, hserials⟩ := ih hheld
    rw [Index.acquireAll_cons, hbindings, hserials, acquire_of_some he]
    simp [bindings, Function.comp_def]

theorem bindings_releaseAll_sublist (t : SiteTable) (ss : List Site) :
    (t.releaseAll ss).bindings.Sublist t.bindings := by
  induction ss generalizing t with
  | nil => exact List.Sublist.refl _
  | cons s rest ih =>
    have hone : (t.release s).bindings.Sublist t.bindings := by
      apply map_filterMap_drop_sublist
      intro e e' hd
      obtain ⟨hsite, hid, -⟩ := drop_eq_some hd
      rw [hsite, hid]
    exact (ih (t.release s)).trans hone

/-- Giving up holds unbinds nothing as long as no site loses its last one. -/
theorem Proper.bindings_releaseAll (h : t.Proper) (ss : List Site)
    (hheld : ∀ s, 0 < t.holders s → 0 < (t.releaseAll ss).holders s) :
    (t.releaseAll ss).bindings = t.bindings := by
  -- what is left comes in the old order, so it is enough that nothing is missing
  have hsubset : t.bindings ⊆ (t.releaseAll ss).bindings := by
    rintro ⟨s, id⟩ hmem
    obtain ⟨hs, rfl⟩ := h.mem_bindings_iff.1 hmem
    have hstill := hheld s hs
    exact (h.releaseAll ss).mem_bindings_iff.2 ⟨hstill, h.idOf_releaseAll ss hstill⟩
  have hlength := (List.subperm_of_subset h.bindings_nodup hsubset).length_le
  exact (bindings_releaseAll_sublist t ss).eq_of_length_le hlength

/-- **Holds that are taken and given up again leave no trace**, if the sites were held before. -/
theorem Proper.releaseAll_acquireAll (h : t.Proper) (space : Nat) (ds : List LoweredDef)
    (hheld : ∀ d ∈ ds, 0 < t.holders d.record.site) :
    (Index.acquireAll t space ds).1.releaseAll (ds.map (·.record.site)) = t := by
  have hproper := Index.proper_acquireAll h space ds
  obtain ⟨hbindings, hserials⟩ := bindings_acquireAll_of_held space ds hheld
  have hholders : ∀ s, ((Index.acquireAll t space ds).1.releaseAll
      (ds.map (·.record.site))).holders s = t.holders s := by
    intro s
    rw [hproper.holders_releaseAll, Index.holders_acquireAll, Nat.add_sub_cancel]
  refine (hproper.releaseAll _).ext h ?_ hholders ?_
  · rw [← hbindings]
    apply hproper.bindings_releaseAll
    intro s hs
    -- a site that is bound in between was bound before
    obtain ⟨hbefore, -⟩ := h.mem_bindings_iff.1 (hbindings ▸ hproper.mem_bindings_iff.2 ⟨hs, rfl⟩)
    rw [hholders]
    exact hbefore
  · rw [nextSerial_releaseAll, hserials]

end SiteTable

end CodeAtlas
