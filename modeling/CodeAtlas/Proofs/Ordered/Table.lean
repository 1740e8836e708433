import CodeAtlas.Ordered.Table
import CodeAtlas.Path.Basic
import CodeAtlas.Unit
import Mathlib.Algebra.GroupWithZero.Nat
import Mathlib.Data.List.Induction
import Mathlib.Data.List.Sort
import Mathlib.Data.Prod.Basic
import Mathlib.Logic.Equiv.Defs

/-!
# Theory of ordered tables

What a table answers after an update, and that a table is determined by its answers once its keys
are in order. Keys are compared, never tested for equality, so the laws of updates hold for every
transitive order; only the last section asks that keys which compare equal are equal.

## Architecture

- **Layer A**: the orders of the project are lawful;
- **Layer B**: look-ups after updates;
- **Layer C**: entries in key order;
- **Layer D**: sums over the entries of a table;
- **Layer E**: tables with the same answers.
-/

namespace CodeAtlas

/-! ## Layer A: lawful orders -/

instance : Std.TransOrd UnitKind := inferInstanceAs (Std.TransCmp (compareOn UnitKind.rank))

instance : Std.LawfulEqOrd UnitKind where
  eq_of_compare {a b} h := by
    have hrank : a.rank = b.rank := Std.LawfulEqOrd.eq_of_compare (α := Nat) h
    cases a <;> cases b <;> first | rfl | exact absurd hrank (by decide)

instance : Std.TransOrd UnitId :=
  inferInstanceAs (Std.TransCmp
    (compareLex (compareOn UnitId.package)
      (compareLex (compareOn UnitId.target) (compareOn UnitId.kind))))

instance : Std.LawfulEqOrd UnitId where
  eq_of_compare {a b} h := by
    have hlex : compareLex (compareOn UnitId.package)
        (compareLex (compareOn UnitId.target) (compareOn UnitId.kind)) a b = .eq := h
    simp only [compareLex_eq_eq, compareOn] at hlex
    obtain ⟨hp, ht, hk⟩ := hlex
    cases a
    cases b
    simp_all

/-- The place of a component among the kinds of components, and its name. -/
private def partKey : Part → Nat × String
  | .root => (0, "")
  | .current => (1, "")
  | .parent => (2, "")
  | .name s => (3, s)

private theorem compare_part (a b : Part) :
    compare a b = compareLex (compareOn Prod.fst) (compareOn Prod.snd) (partKey a) (partKey b) := by
  cases a <;> cases b <;> rfl

instance : Std.TransOrd Part := by
  have h : (compare : Part → Part → Ordering) =
      fun a b => compareLex (compareOn Prod.fst) (compareOn Prod.snd) (partKey a) (partKey b) := by
    funext a b
    exact compare_part a b
  have ht : Std.TransCmp (compareLex (compareOn Prod.fst) (compareOn Prod.snd) :
      Nat × String → Nat × String → Ordering) := inferInstance
  unfold Std.TransOrd
  rw [h]
  exact { eq_swap := Std.OrientedCmp.eq_swap, isLE_trans := Std.TransCmp.isLE_trans }

instance : Std.LawfulEqOrd Part where
  eq_of_compare {a b} h := by
    rw [compare_part, compareLex_eq_eq] at h
    have hkey : partKey a = partKey b :=
      Prod.ext (Std.LawfulEqOrd.eq_of_compare h.1) (Std.LawfulEqOrd.eq_of_compare h.2)
    cases a <;> cases b <;> simp_all [partKey]

instance : Std.TransOrd Path := inferInstanceAs (Std.TransCmp (compareOn Path.parts))

namespace Table

variable {κ α β : Type} [Ord κ]

/-! ## Layer B: look-ups after updates -/

@[simp] theorem get?_empty (k : κ) : (empty : Table κ α).get? k = none := rfl

section Updates

variable [Std.TransOrd κ]

private theorem lookup_insertEntry (k j : κ) (a : α) (es : List (κ × α)) :
    lookup j (insertEntry k a es) = if compare j k = .eq then some a else lookup j es := by
  induction es with
  | nil => simp [insertEntry, lookup]
  | cons e rest ih =>
    obtain ⟨i, b⟩ := e
    cases hki : compare k i with
    | lt => simp [insertEntry, hki, lookup]
    | eq =>
      -- the entry keeps its spelling, and `j` compares to it as it does to `k`
      have hj : compare j i = compare j k := (Std.TransCmp.congr_right hki).symm
      by_cases h : compare j k = .eq <;> simp [insertEntry, hki, lookup, hj, h]
    | gt =>
      by_cases hji : compare j i = .eq
      · have hjk : compare j k ≠ .eq := by
          intro h
          rw [Std.TransCmp.congr_left h, hki] at hji
          exact absurd hji (by decide)
        simp [insertEntry, hki, lookup, hji, hjk]
      · simp [insertEntry, hki, lookup, hji, ih]

/-- After an insertion every key that compares equal has the new value, every other its old one. -/
theorem get?_insert (t : Table κ α) (k j : κ) (a : α) :
    (t.insert k a).get? j = if compare j k = .eq then some a else t.get? j :=
  lookup_insertEntry k j a t.entries

@[simp] theorem get?_insert_self (t : Table κ α) (k : κ) (a : α) :
    (t.insert k a).get? k = some a := by
  rw [get?_insert, if_pos Std.ReflCmp.compare_self]

private theorem lookup_filter (k j : κ) (es : List (κ × α)) :
    lookup j (es.filter fun e => compare k e.1 != .eq) =
      if compare k j = .eq then none else lookup j es := by
  induction es with
  | nil => simp [lookup]
  | cons e rest ih =>
    obtain ⟨i, b⟩ := e
    by_cases hki : compare k i = .eq
    · have hji : compare k j = compare i j := Std.TransCmp.congr_left hki
      have hsym : compare j i = .eq ↔ compare i j = .eq := Std.OrientedCmp.eq_comm
      -- the entry is dropped, whether or not it is the one that is looked for
      by_cases hkj : compare k j = .eq
      · simp [hki, ih, hkj]
      · have hne : ¬ compare j i = .eq := fun h => hkj (hji.trans (hsym.1 h))
        simp [hki, ih, hkj, lookup, hne]
    · by_cases hji : compare j i = .eq
      · have hkj : ¬ compare k j = .eq := fun h => hki (Std.TransCmp.eq_trans h hji)
        simp [hki, lookup, hji, hkj]
      · simp [hki, lookup, hji, ih]

/-- After a removal no key that compares equal has a value, and every other keeps its own. -/
theorem get?_erase (t : Table κ α) (k j : κ) :
    (t.erase k).get? j = if compare k j = .eq then none else t.get? j :=
  lookup_filter k j t.entries

-- where only equal keys compare equal, the two laws are about `≠`
variable [Std.LawfulEqOrd κ] {k j : κ}

theorem get?_insert_of_ne (h : j ≠ k) (t : Table κ α) (a : α) :
    (t.insert k a).get? j = t.get? j := by
  rw [get?_insert, if_neg]
  exact fun heq => h (Std.LawfulEqOrd.eq_of_compare heq)

theorem get?_erase_of_ne (h : j ≠ k) (t : Table κ α) : (t.erase k).get? j = t.get? j := by
  rw [get?_erase, if_neg]
  exact fun heq => h (Std.LawfulEqOrd.eq_of_compare heq).symm

end Updates

/-! ## Layer C: key order -/

/-- The keys increase from entry to entry. -/
def Ordered (t : Table κ α) : Prop := t.entries.Pairwise fun e f => compare e.1 f.1 = .lt

theorem ordered_empty : (empty : Table κ α).Ordered := List.Pairwise.nil

theorem Ordered.nodup [Std.TransOrd κ] {t : Table κ α} (h : t.Ordered) : t.entries.Nodup := by
  refine List.Pairwise.imp ?_ h
  rintro e f hlt rfl
  simp at hlt

theorem Ordered.erase {t : Table κ α} (h : t.Ordered) (k : κ) : (t.erase k).Ordered :=
  List.Pairwise.filter _ h

theorem Ordered.filter {t : Table κ α} (h : t.Ordered) (p : κ → α → Bool) :
    (t.filter p).Ordered :=
  List.Pairwise.filter _ h

private theorem mem_insertEntry {k : κ} {a : α} {e : κ × α} {es : List (κ × α)}
    (h : e ∈ insertEntry k a es) :
    e = (k, a) ∨ e ∈ es ∨ ∃ b, (e.1, b) ∈ es ∧ compare k e.1 = .eq ∧ e.2 = a := by
  induction es with
  | nil => exact Or.inl (by simpa [insertEntry] using h)
  | cons f rest ih =>
    obtain ⟨i, b⟩ := f
    cases hki : compare k i with
    | lt =>
      simp only [insertEntry, hki, List.mem_cons] at h ⊢
      exact h.imp_right Or.inl
    | eq =>
      simp only [insertEntry, hki, List.mem_cons] at h ⊢
      rcases h with rfl | h
      -- the value changes under the key as it is spelt already
      · exact Or.inr (Or.inr ⟨b, Or.inl rfl, hki, rfl⟩)
      · exact Or.inr (Or.inl (Or.inr h))
    | gt =>
      simp only [insertEntry, hki, List.mem_cons] at h ⊢
      rcases h with rfl | h
      · exact Or.inr (Or.inl (Or.inl rfl))
      · rcases ih h with h | h | ⟨c, hc, hcmp, hval⟩
        · exact Or.inl h
        · exact Or.inr (Or.inl (Or.inr h))
        · exact Or.inr (Or.inr ⟨c, Or.inr hc, hcmp, hval⟩)

private theorem pairwise_insertEntry [Std.TransOrd κ] (k : κ) (a : α) {es : List (κ × α)}
    (h : es.Pairwise fun e f => compare e.1 f.1 = .lt) :
    (insertEntry k a es).Pairwise fun e f => compare e.1 f.1 = .lt := by
  induction es with
  | nil => simp [insertEntry]
  | cons f rest ih =>
    obtain ⟨i, b⟩ := f
    obtain ⟨hi, hrest⟩ := List.pairwise_cons.1 h
    cases hki : compare k i with
    | lt =>
      simp only [insertEntry, hki]
      refine List.pairwise_cons.2 ⟨?_, h⟩
      intro e he
      rcases List.mem_cons.1 he with rfl | he
      · exact hki
      · exact Std.TransCmp.lt_trans hki (hi e he)
    | eq =>
      simp only [insertEntry, hki]
      exact List.pairwise_cons.2 ⟨hi, hrest⟩
    | gt =>
      simp only [insertEntry, hki]
      have hik : compare i k = .lt := Std.OrientedCmp.gt_iff_lt.1 hki
      refine List.pairwise_cons.2 ⟨?_, ih hrest⟩
      intro e he
      -- what stands behind is the new entry, an old one, or an old key with the new value
      rcases mem_insertEntry he with rfl | he | ⟨c, hc, -, -⟩
      · exact hik
      · exact hi e he
      · exact hi (e.1, c) hc

theorem Ordered.insert [Std.TransOrd κ] {t : Table κ α} (h : t.Ordered) (k : κ) (a : α) :
    (t.insert k a).Ordered :=
  pairwise_insertEntry k a h

/-- In a table in key order a key has exactly the value it stands with. -/
theorem Ordered.get?_eq_some_iff [Std.TransOrd κ] [Std.LawfulEqOrd κ] {t : Table κ α}
    (h : t.Ordered) (k : κ) (a : α) : t.get? k = some a ↔ (k, a) ∈ t.entries := by
  obtain ⟨es⟩ := t
  simp only [Ordered, get?] at h ⊢
  induction es with
  | nil => simp [lookup]
  | cons f rest ih =>
    obtain ⟨i, b⟩ := f
    obtain ⟨hi, hrest⟩ := List.pairwise_cons.1 h
    by_cases hki : compare k i = .eq
    · have hk : k = i := Std.LawfulEqOrd.eq_of_compare hki
      subst hk
      -- keys increase, so none comes twice
      have hno : (k, a) ∉ rest := by
        intro hmem
        have hlt := hi _ hmem
        simp at hlt
      simp [lookup, hno, eq_comm]
    · have hk : k ≠ i := by
        rintro rfl
        exact hki Std.ReflCmp.compare_self
      simp [lookup, hki, hk, ih hrest]

theorem Ordered.get?_eq_none_iff [Std.TransOrd κ] [Std.LawfulEqOrd κ] {t : Table κ α}
    (h : t.Ordered) (k : κ) : t.get? k = none ↔ k ∉ t.keys := by
  rw [Option.eq_none_iff_forall_ne_some]
  simp only [keys, List.mem_map, Prod.exists, exists_and_right, exists_eq_right, not_exists, ne_eq,
    h.get?_eq_some_iff]

theorem Ordered.keys_nodup [Std.TransOrd κ] {t : Table κ α} (h : t.Ordered) : t.keys.Nodup := by
  refine List.pairwise_map.2 (List.Pairwise.imp ?_ h)
  intro e f hlt heq
  rw [heq] at hlt
  simp at hlt

theorem Ordered.mem_keys_iff [Std.TransOrd κ] [Std.LawfulEqOrd κ] {t : Table κ α}
    (h : t.Ordered) (k : κ) : k ∈ t.keys ↔ ∃ a, t.get? k = some a := by
  rw [← not_iff_not, ← h.get?_eq_none_iff, Option.eq_none_iff_forall_ne_some, not_exists]

theorem Ordered.mem_keys_insert [Std.TransOrd κ] [Std.LawfulEqOrd κ] {t : Table κ α}
    (h : t.Ordered) {k j : κ} {a : α} : j ∈ (t.insert k a).keys ↔ j = k ∨ j ∈ t.keys := by
  rw [(h.insert k a).mem_keys_iff, h.mem_keys_iff]
  by_cases hjk : j = k
  · simp [hjk]
  · simp [get?_insert_of_ne hjk, hjk]

theorem mem_keys_erase [Std.LawfulEqOrd κ] {t : Table κ α} {k j : κ} :
    j ∈ (t.erase k).keys ↔ j ∈ t.keys ∧ j ≠ k := by
  simp only [keys, Table.erase, List.mem_map, List.mem_filter, bne_iff_ne, ne_eq,
    Std.LawfulEqOrd.compare_eq_iff_eq]
  constructor
  · rintro ⟨e, ⟨he, hne⟩, rfl⟩
    exact ⟨⟨e, he, rfl⟩, fun heq => hne heq.symm⟩
  · rintro ⟨⟨e, he, rfl⟩, hne⟩
    exact ⟨e, ⟨he, fun heq => hne heq.symm⟩, rfl⟩

/-- An insertion brings no key but its own, also where another spelling of it is kept. -/
theorem mem_keys_of_mem_keys_insert {t : Table κ α} {k j : κ} {a : α}
    (h : j ∈ (t.insert k a).keys) : j = k ∨ j ∈ t.keys := by
  obtain ⟨e, he, rfl⟩ := List.mem_map.1 h
  rcases mem_insertEntry he with rfl | he | ⟨b, hb, -, -⟩
  · exact Or.inl rfl
  · exact Or.inr (List.mem_map.2 ⟨e, he, rfl⟩)
  · exact Or.inr (List.mem_map.2 ⟨_, hb, rfl⟩)

theorem mem_keys_of_mem_keys_erase {t : Table κ α} {k j : κ} (h : j ∈ (t.erase k).keys) :
    j ∈ t.keys := by
  obtain ⟨e, he, rfl⟩ := List.mem_map.1 h
  exact List.mem_map.2 ⟨e, (List.mem_filter.1 he).1, rfl⟩

/-- Keys that compare equal have the same value. -/
theorem get?_congr [Std.TransOrd κ] (t : Table κ α) {j k : κ} (h : compare j k = .eq) :
    t.get? j = t.get? k := by
  obtain ⟨es⟩ := t
  simp only [get?]
  induction es with
  | nil => rfl
  | cons e rest ih => simp only [lookup, Std.TransCmp.congr_left h, ih]

theorem exists_mem_of_get? {t : Table κ α} {k : κ} {a : α} (h : t.get? k = some a) :
    ∃ j, compare k j = .eq ∧ (j, a) ∈ t.entries := by
  obtain ⟨es⟩ := t
  simp only [get?] at h ⊢
  induction es with
  | nil => cases h
  | cons e rest ih =>
    obtain ⟨i, b⟩ := e
    simp only [lookup] at h
    split at h
    · rename_i hki
      obtain rfl := Option.some.inj h
      exact ⟨i, by simpa using hki, List.mem_cons_self ..⟩
    · obtain ⟨j, hkj, hmem⟩ := ih h
      exact ⟨j, hkj, List.mem_cons_of_mem _ hmem⟩

/-- In a table in key order every entry is found. -/
theorem Ordered.get?_of_mem [Std.TransOrd κ] {t : Table κ α} (h : t.Ordered) {k : κ} {a : α}
    (ha : (k, a) ∈ t.entries) : t.get? k = some a := by
  obtain ⟨es⟩ := t
  simp only [Ordered, get?] at h ha ⊢
  induction es with
  | nil => cases ha
  | cons e rest ih =>
    obtain ⟨i, b⟩ := e
    obtain ⟨hi, hrest⟩ := List.pairwise_cons.1 h
    rcases List.mem_cons.1 ha with heq | ha
    · obtain ⟨rfl, rfl⟩ := Prod.mk.inj heq
      simp [lookup]
    · have hlt : compare i k = .lt := hi _ ha
      have hgt : compare k i = .gt := Std.OrientedCmp.gt_of_lt hlt
      simp [lookup, hgt, ih hrest ha]

/-- **Dropping and changing entries**, by a function that does not tell equal keys apart. -/
theorem Ordered.get?_filterMap [Std.TransOrd κ] {t : Table κ α} (h : t.Ordered)
    {f : κ → α → Option β} (hf : ∀ j k a, compare j k = .eq → f j a = f k a) (k : κ) :
    (⟨t.entries.filterMap fun e => (f e.1 e.2).map (e.1, ·)⟩ : Table κ β).get? k =
      (t.get? k).bind (f k) := by
  obtain ⟨es⟩ := t
  simp only [Ordered, get?] at h ⊢
  induction es with
  | nil => rfl
  | cons e rest ih =>
    obtain ⟨i, a⟩ := e
    obtain ⟨hi, hrest⟩ := List.pairwise_cons.1 h
    by_cases hki : compare k i = .eq
    · -- no later key compares equal to `k`
      have hgone : lookup k (rest.filterMap fun e => (f e.1 e.2).map (e.1, ·)) = none := by
        rw [ih hrest]
        have hnone : lookup k rest = none := by
          by_contra hsome
          obtain ⟨b, hb⟩ := Option.ne_none_iff_exists'.1 hsome
          obtain ⟨j, hkj, hj⟩ := exists_mem_of_get? (t := ⟨rest⟩) hb
          have hlt := hi _ hj
          have heq : compare i j = .eq := by
            rw [← Std.TransCmp.congr_left hki]
            exact hkj
          rw [heq] at hlt
          cases hlt
        rw [hnone]
        rfl
      cases hfi : f i a with
      | none => simp [lookup, hki, hfi, hgone, hf k i a hki]
      | some b => simp [lookup, hki, hfi, hf k i a hki]
    · cases hfi : f i a with
      | none => simpa [lookup, hki, hfi] using ih hrest
      | some b => simpa [lookup, hki, hfi] using ih hrest

theorem Ordered.filterMap {t : Table κ α} (h : t.Ordered) (f : κ → α → Option β) :
    (⟨t.entries.filterMap fun e => (f e.1 e.2).map (e.1, ·)⟩ : Table κ β).Ordered := by
  unfold Ordered at h ⊢
  rw [List.pairwise_filterMap]
  refine h.imp ?_
  intro e e' hlt b hb b' hb'
  obtain ⟨c, -, rfl⟩ := Option.map_eq_some_iff.1 hb
  obtain ⟨c', -, rfl⟩ := Option.map_eq_some_iff.1 hb'
  exact hlt

theorem get?_mapValues (t : Table κ α) (f : κ → α → β)
    (hf : ∀ j k a, compare k j = .eq → f j a = f k a) (k : κ) :
    (t.mapValues f).get? k = (t.get? k).map (f k) := by
  obtain ⟨es⟩ := t
  simp only [get?, mapValues]
  induction es with
  | nil => rfl
  | cons e rest ih =>
    obtain ⟨i, a⟩ := e
    simp only [List.map_cons, lookup]
    split
    · rename_i hki
      rw [Option.map_some, hf i k a (by simpa using hki)]
    · exact ih

theorem Ordered.mapValues {t : Table κ α} (h : t.Ordered) (f : κ → α → β) :
    (t.mapValues f).Ordered :=
  List.pairwise_map.2 h

theorem ordered_ofList [Std.TransOrd κ] (es : List (κ × α)) : (ofList es).Ordered := by
  unfold ofList
  refine List.foldlRecOn es _ ordered_empty ?_
  intro t ht e _
  exact ht.insert e.1 e.2

/-- In a table of entries with different keys every key has its value. -/
theorem get?_ofList [Std.TransOrd κ] [Std.LawfulEqOrd κ] {es : List (κ × α)}
    (h : (es.map (·.1)).Nodup) (k : κ) (a : α) : (ofList es).get? k = some a ↔ (k, a) ∈ es := by
  induction es using List.reverseRecOn with
  | nil => simp [ofList]
  | append_singleton es e ih =>
    obtain ⟨j, b⟩ := e
    rw [List.map_append, List.nodup_append] at h
    obtain ⟨hkeys, -, hnew⟩ := h
    have hstep : ofList (es ++ [(j, b)]) = (ofList es).insert j b := by simp [ofList]
    rw [hstep]
    by_cases hkj : k = j
    · -- the key was not among the earlier ones
      subst hkj
      have hfresh : (k, a) ∉ es := fun hmem =>
        hnew k (List.mem_map.2 ⟨(k, a), hmem, rfl⟩) k (by simp) rfl
      simp [hfresh, eq_comm]
    · simp [get?_insert_of_ne hkj, ih hkeys, hkj]

/-- A list without repeated keys and its table have the same entries. -/
theorem perm_ofList [Std.TransOrd κ] [Std.LawfulEqOrd κ] {es : List (κ × α)}
    (h : (es.map (·.1)).Nodup) : es.Perm (ofList es).entries := by
  have hordered := ordered_ofList es
  apply (List.perm_ext_iff_of_nodup (List.Nodup.of_map _ h) hordered.nodup).2
  rintro ⟨k, a⟩
  rw [← get?_ofList h, hordered.get?_eq_some_iff]

theorem Ordered.get?_filter_eq_some_iff [Std.TransOrd κ] [Std.LawfulEqOrd κ] {t : Table κ α}
    (h : t.Ordered) (p : κ → α → Bool) (k : κ) (a : α) :
    (t.filter p).get? k = some a ↔ t.get? k = some a ∧ p k a = true := by
  rw [(h.filter p).get?_eq_some_iff, h.get?_eq_some_iff]
  exact List.mem_filter

/-! ## Layer D: sums -/

/-- The sum of a weight over all values. -/
def total (f : α → Nat) (t : Table κ α) : Nat := (t.values.map f).sum

theorem total_insert [Std.TransOrd κ] (f : α → Nat) {t : Table κ α} (h : t.Ordered) (k : κ)
    (a : α) : (t.insert k a).total f + ((t.get? k).map f).getD 0 = t.total f + f a := by
  obtain ⟨es⟩ := t
  simp only [Ordered, get?, total, values, Table.insert] at h ⊢
  induction es with
  | nil => simp [lookup, insertEntry]
  | cons e rest ih =>
    obtain ⟨i, b⟩ := e
    obtain ⟨hi, hrest⟩ := List.pairwise_cons.1 h
    cases hki : compare k i with
    | lt =>
      -- all keys that follow are larger still, so `k` had no value
      have hnone : lookup k rest = none := by
        clear ih h
        induction rest with
        | nil => rfl
        | cons g tail ih' =>
          have hlt : compare k g.1 = .lt :=
            Std.TransCmp.lt_trans hki (hi g (List.mem_cons_self ..))
          simp only [lookup, hlt]
          exact ih' (fun x hx => hi x (List.mem_cons_of_mem _ hx)) (List.pairwise_cons.1 hrest).2
      simp [insertEntry, hki, lookup, hnone]
      omega
    | eq =>
      simp [insertEntry, hki, lookup]
      omega
    | gt =>
      have := ih hrest
      simp [insertEntry, hki, lookup] at this ⊢
      omega

theorem total_erase [Std.TransOrd κ] (f : α → Nat) {t : Table κ α} (h : t.Ordered) (k : κ) :
    (t.erase k).total f + ((t.get? k).map f).getD 0 = t.total f := by
  obtain ⟨es⟩ := t
  simp only [Ordered, get?, total, values, Table.erase] at h ⊢
  induction es with
  | nil => simp [lookup]
  | cons e rest ih =>
    obtain ⟨i, b⟩ := e
    obtain ⟨hi, hrest⟩ := List.pairwise_cons.1 h
    by_cases hki : compare k i = .eq
    · -- no later key compares equal to `k`
      have hkeep : (rest.filter fun e => compare k e.1 != .eq) = rest := by
        refine List.filter_eq_self.2 ?_
        intro e he
        have hlt : compare k e.1 = .lt := by
          rw [Std.TransCmp.congr_left hki]
          exact hi e he
        simp [hlt]
      simp [hki, lookup, hkeep]
      omega
    · have := ih hrest
      simp [hki, lookup] at this ⊢
      omega

omit [Ord κ] in
theorem le_total (f : α → Nat) {t : Table κ α} {k : κ} {a : α} (h : (k, a) ∈ t.entries) :
    f a ≤ t.total f := by
  obtain ⟨es⟩ := t
  simp only [total, values] at h ⊢
  induction es with
  | nil => cases h
  | cons e rest ih =>
    rcases List.mem_cons.1 h with rfl | h
    · simp
    · exact Nat.le_trans (ih h) (by simp)

omit [Ord κ] in
/-- A sum is positive if and only if one of the values weighs something. -/
theorem total_pos_iff (f : α → Nat) (t : Table κ α) :
    0 < t.total f ↔ ∃ e ∈ t.entries, 0 < f e.2 := by
  simp [total, values, List.sum_pos_iff_exists_pos_nat]

/-! ## Layer E: tables with the same answers -/

/-- Tables in key order that answer every look-up alike are the same table. -/
theorem Ordered.ext [Std.TransOrd κ] [Std.LawfulEqOrd κ] {t u : Table κ α} (ht : t.Ordered)
    (hu : u.Ordered) (h : ∀ k, t.get? k = u.get? k) : t = u := by
  have hmem : ∀ e, e ∈ t.entries ↔ e ∈ u.entries := by
    rintro ⟨k, a⟩
    rw [← ht.get?_eq_some_iff, ← hu.get?_eq_some_iff, h]
  have irrefl : ∀ e : κ × α, ¬ compare e.1 e.1 = .lt := by simp
  have hperm : t.entries.Perm u.entries :=
    (List.perm_ext_iff_of_nodup ht.nodup hu.nodup).2 hmem
  have hentries : t.entries = u.entries := by
    refine List.Perm.eq_of_pairwise ?_ ht hu hperm
    intro e f _ _ hef hfe
    exact absurd (Std.TransCmp.lt_trans hef hfe) (irrefl e)
  cases t
  cases u
  exact congrArg Table.mk hentries

/-- **Tables that answer alike up to a renaming of their keys** have the same values up to order. -/
theorem Ordered.values_perm [Std.TransOrd κ] [Std.LawfulEqOrd κ] (π : Equiv.Perm κ) (f : α → β)
    {t : Table κ α} {u : Table κ β} (ht : t.Ordered) (hu : u.Ordered)
    (h : ∀ k, u.get? (π k) = (t.get? k).map f) : u.values.Perm (t.values.map f) := by
  have hkeys : (t.entries.map fun e => (π e.1, f e.2)).Nodup := by
    refine List.Nodup.of_map (·.1) ?_
    have hmoved := ht.keys_nodup.map π.injective
    rw [keys, List.map_map] at hmoved
    rw [List.map_map]
    exact hmoved
  -- neither table has an entry twice, so the same entries, renamed, are the same up to order
  have hperm : u.entries.Perm (t.entries.map fun e => (π e.1, f e.2)) := by
    refine (List.perm_ext_iff_of_nodup hu.nodup hkeys).2 ?_
    rintro ⟨k, b⟩
    obtain ⟨k, rfl⟩ := π.surjective k
    rw [← hu.get?_eq_some_iff, h, Option.map_eq_some_iff, List.mem_map]
    constructor
    · rintro ⟨a, ha, rfl⟩
      exact ⟨(k, a), (ht.get?_eq_some_iff k a).1 ha, rfl⟩
    · rintro ⟨⟨j, a⟩, ha, heq⟩
      obtain ⟨hj, rfl⟩ := Prod.mk.inj heq
      obtain rfl := π.injective hj
      exact ⟨a, (ht.get?_eq_some_iff j a).2 ha, rfl⟩
  have hvalues := hperm.map (·.2)
  rw [List.map_map] at hvalues
  simp only [values, List.map_map]
  exact hvalues

/-- A value that is replaced may as well be dropped first. -/
theorem Ordered.insert_erase [Std.TransOrd κ] [Std.LawfulEqOrd κ] {t : Table κ α} (h : t.Ordered)
    (k : κ) (a : α) : (t.erase k).insert k a = t.insert k a := by
  refine ((h.erase k).insert k a).ext (h.insert k a) ?_
  intro j
  rw [get?_insert, get?_insert, get?_erase]
  by_cases hjk : compare j k = .eq
  · rw [if_pos hjk, if_pos hjk]
  · have hkj : ¬ compare k j = .eq := fun h => hjk (Std.OrientedCmp.eq_symm h)
    rw [if_neg hjk, if_neg hjk, if_neg hkj]

/-- A value that takes its own place changes nothing. -/
theorem Ordered.insert_of_get? [Std.TransOrd κ] [Std.LawfulEqOrd κ] {t : Table κ α} (h : t.Ordered)
    {k : κ} {a : α} (ha : t.get? k = some a) : t.insert k a = t := by
  refine (h.insert k a).ext h ?_
  intro j
  rw [get?_insert]
  by_cases hjk : compare j k = .eq
  · rw [if_pos hjk, get?_congr t hjk, ha]
  · rw [if_neg hjk]

/-- The values of two tables correspond key by key. -/
def Corresponds (R : κ → α → β → Prop) (t : Table κ α) (u : Table κ β) : Prop :=
  List.Forall₂ (fun e f => e.1 = f.1 ∧ R e.1 e.2 f.2) t.entries u.entries

omit [Ord κ] in
theorem corresponds_empty (R : κ → α → β → Prop) : Corresponds R empty empty := .nil

omit [Ord κ] in
theorem Corresponds.mono {R S : κ → α → β → Prop} {t : Table κ α} {u : Table κ β}
    (h : Corresponds R t u) (hRS : ∀ k a b, (k, a) ∈ t.entries → R k a b → S k a b) :
    Corresponds S t u := by
  obtain ⟨es⟩ := t
  obtain ⟨fs⟩ := u
  simp only [Corresponds] at h hRS ⊢
  induction h with
  | nil => exact .nil
  | @cons e f es fs hef _ ih =>
    refine .cons ⟨hef.1, hRS _ _ _ (List.mem_cons_self ..) hef.2⟩ (ih ?_)
    intro k a b hmem
    exact hRS k a b (List.mem_cons_of_mem _ hmem)

omit [Ord κ] in
theorem Corresponds.keys_eq {R : κ → α → β → Prop} {t : Table κ α} {u : Table κ β}
    (h : Corresponds R t u) : t.keys = u.keys := by
  obtain ⟨es⟩ := t
  obtain ⟨fs⟩ := u
  simp only [Corresponds, keys] at h ⊢
  induction h with
  | nil => rfl
  | cons hef _ ih => simp [hef.1, ih]

omit [Ord κ] in
theorem Corresponds.exists_right {R : κ → α → β → Prop} {t : Table κ α} {u : Table κ β}
    (h : Corresponds R t u) {k : κ} {a : α} (ha : (k, a) ∈ t.entries) :
    ∃ b, (k, b) ∈ u.entries ∧ R k a b := by
  obtain ⟨es⟩ := t
  obtain ⟨fs⟩ := u
  simp only [Corresponds] at h ha ⊢
  induction h with
  | nil => cases ha
  | @cons e f _ _ hef _ ih =>
    rcases List.mem_cons.1 ha with rfl | ha
    · refine ⟨f.2, ?_, hef.2⟩
      rw [show k = f.1 from hef.1]
      exact List.mem_cons_self ..
    · obtain ⟨b, hb, hR⟩ := ih ha
      exact ⟨b, List.mem_cons_of_mem _ hb, hR⟩

omit [Ord κ] in
theorem Corresponds.exists_left {R : κ → α → β → Prop} {t : Table κ α} {u : Table κ β}
    (h : Corresponds R t u) {k : κ} {b : β} (hb : (k, b) ∈ u.entries) :
    ∃ a, (k, a) ∈ t.entries ∧ R k a b := by
  have hswap : Corresponds (fun k b a => R k a b) u t := by
    refine List.Forall₂.flip (List.Forall₂.imp ?_ h)
    rintro e f ⟨hkey, hR⟩
    exact ⟨hkey.symm, hkey ▸ hR⟩
  exact hswap.exists_right hb

omit [Ord κ] in
/-- Functions that agree on values which correspond read the same list off both tables. -/
theorem Corresponds.map_values_eq {γ : Type} {R : κ → α → β → Prop} {t : Table κ α}
    {u : Table κ β} (h : Corresponds R t u) (f : α → γ) (g : β → γ)
    (hfg : ∀ k a b, R k a b → f a = g b) : t.values.map f = u.values.map g := by
  obtain ⟨es⟩ := t
  obtain ⟨fs⟩ := u
  simp only [Corresponds, values] at h ⊢
  induction h with
  | nil => simp
  | cons hef _ ih => simpa [hfg _ _ _ hef.2] using ih

omit [Ord κ] in
/-- Tables that correspond to the same table have their values in common, up to a function. -/
theorem Corresponds.values_eq_map {γ : Type} {R : κ → α → γ → Prop} {S : κ → β → γ → Prop}
    {t : Table κ α} {u : Table κ β} {m : Table κ γ} (ht : Corresponds R t m)
    (hu : Corresponds S u m) (f : α → β)
    (h : ∀ k a b c, (k, a) ∈ t.entries → (k, c) ∈ m.entries → R k a c → S k b c → b = f a) :
    u.values = t.values.map f := by
  obtain ⟨es⟩ := t
  obtain ⟨fs⟩ := u
  obtain ⟨gs⟩ := m
  simp only [Corresponds, values] at ht hu h ⊢
  -- both tables follow the third entry by entry
  induction ht generalizing fs with
  | nil =>
    cases hu
    rfl
  | @cons e g es gs hR _ ih =>
    cases hu with
    | @cons e' _ fs _ hS hrest =>
      have hhead : e'.2 = f e.2 := by
        refine h g.1 e.2 e'.2 g.2 ?_ (List.mem_cons_self ..) (hR.1 ▸ hR.2) (hS.1 ▸ hS.2)
        rw [← hR.1]
        exact List.mem_cons_self ..
      have htail := ih fs (fun k a b c ha hc =>
        h k a b c (List.mem_cons_of_mem _ ha) (List.mem_cons_of_mem _ hc)) hrest
      rw [List.map_cons, List.map_cons, List.map_cons, hhead, htail]

theorem Corresponds.ordered {R : κ → α → β → Prop} {t : Table κ α} {u : Table κ β}
    (h : Corresponds R t u) (ht : t.Ordered) : u.Ordered := by
  have hkeys : t.entries.map (·.1) = u.entries.map (·.1) := h.keys_eq
  have hpair : (t.entries.map (·.1)).Pairwise fun j k => compare j k = .lt :=
    List.pairwise_map.2 ht
  rw [hkeys] at hpair
  exact List.pairwise_map.1 hpair

theorem Corresponds.insert [Std.LawfulEqOrd κ] {R : κ → α → β → Prop} {t : Table κ α}
    {u : Table κ β} (h : Corresponds R t u) (k : κ) {a : α} {b : β} (hab : R k a b) :
    Corresponds R (t.insert k a) (u.insert k b) := by
  obtain ⟨es⟩ := t
  obtain ⟨fs⟩ := u
  simp only [Corresponds, Table.insert] at h ⊢
  induction h with
  | nil => exact .cons ⟨rfl, hab⟩ .nil
  | @cons e f es fs hef hrest ih =>
    obtain ⟨i, c⟩ := e
    obtain ⟨j, d⟩ := f
    obtain ⟨rfl, hR⟩ := hef
    simp only [insertEntry]
    -- both tables have the same keys, so the entry goes to the same place in both
    cases hki : compare k i with
    | lt => exact .cons ⟨rfl, hab⟩ (.cons ⟨rfl, hR⟩ hrest)
    | eq =>
      obtain rfl : k = i := Std.LawfulEqOrd.eq_of_compare hki
      exact .cons ⟨rfl, hab⟩ hrest
    | gt => exact .cons ⟨rfl, hR⟩ ih

theorem Corresponds.erase {R : κ → α → β → Prop} {t : Table κ α} {u : Table κ β}
    (h : Corresponds R t u) (k : κ) : Corresponds R (t.erase k) (u.erase k) := by
  obtain ⟨es⟩ := t
  obtain ⟨fs⟩ := u
  simp only [Corresponds, Table.erase] at h ⊢
  induction h with
  | nil => exact .nil
  | @cons e f es fs hef hrest ih =>
    obtain ⟨i, c⟩ := e
    obtain ⟨j, d⟩ := f
    obtain ⟨rfl, hR⟩ := hef
    by_cases hki : compare k i = .eq
    · simpa [hki] using ih
    · simpa [hki] using ⟨hR, ih⟩

end Table

end CodeAtlas
