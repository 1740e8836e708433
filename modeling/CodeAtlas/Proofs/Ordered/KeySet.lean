import CodeAtlas.Ordered.KeySet
import CodeAtlas.Proofs.Ordered.Table

/-!
# Theory of ordered sets

What belongs to a set after each operation, and that every operation keeps the elements in order.
Most statements are for orders under which only equal elements compare equal; the first section is
about elements that may compare equal without being so.
-/

namespace CodeAtlas

namespace KeySet

variable {κ : Type} [Ord κ]

/-! ## Elements that compare equal -/

section Spellings

private theorem mem_of_mem_insertKey {k a : κ} {ks : List κ} (h : a ∈ insertKey k ks) :
    a = k ∨ a ∈ ks := by
  induction ks with
  | nil => exact Or.inl (List.mem_singleton.1 h)
  | cons j rest ih =>
    simp only [insertKey] at h
    cases hkj : compare k j with
    | lt =>
      rw [hkj] at h
      exact List.mem_cons.1 h
    | eq =>
      rw [hkj] at h
      exact Or.inr h
    | gt =>
      rw [hkj] at h
      rcases List.mem_cons.1 h with rfl | h
      · exact Or.inr (List.mem_cons_self ..)
      · exact (ih h).imp_right (List.mem_cons_of_mem _)

private theorem mem_insertKey_of_mem {k a : κ} {ks : List κ} (h : a ∈ ks) :
    a ∈ insertKey k ks := by
  induction ks with
  | nil => cases h
  | cons j rest ih =>
    simp only [insertKey]
    cases compare k j with
    | lt => exact List.mem_cons_of_mem _ h
    | eq => exact h
    | gt =>
      rcases List.mem_cons.1 h with rfl | h
      · exact List.mem_cons_self ..
      · exact List.mem_cons_of_mem _ (ih h)

/-- A key is added unless one that compares equal to it is there. -/
private theorem mem_insertKey_self (k : κ) (ks : List κ) :
    k ∈ insertKey k ks ∨ ∃ j ∈ ks, compare k j = .eq := by
  induction ks with
  | nil => exact Or.inl (List.mem_cons_self ..)
  | cons j rest ih =>
    simp only [insertKey]
    cases hkj : compare k j with
    | lt => exact Or.inl (List.mem_cons_self ..)
    | eq => exact Or.inr ⟨j, List.mem_cons_self .., hkj⟩
    | gt =>
      refine ih.imp (List.mem_cons_of_mem _) ?_
      rintro ⟨i, hi, hki⟩
      exact ⟨i, List.mem_cons_of_mem _ hi, hki⟩

theorem mem_insertAll_of_mem {s : KeySet κ} (ks : List κ) {a : κ} (h : a ∈ s.toList) :
    a ∈ (s.insertAll ks).toList :=
  List.foldlRecOn (motive := fun t : KeySet κ => a ∈ t.toList) ks insert h
    fun _ ht _ _ => mem_insertKey_of_mem ht

/-- Nothing comes into a set but what was there or is added. -/
theorem mem_or_mem_of_mem_insertAll {s : KeySet κ} {ks : List κ} {a : κ}
    (h : a ∈ (s.insertAll ks).toList) : a ∈ ks ∨ a ∈ s.toList := by
  unfold insertAll at h
  induction ks generalizing s with
  | nil => exact Or.inr h
  | cons k rest ih =>
    rcases ih h with hrest | hinsert
    · exact Or.inl (List.mem_cons_of_mem _ hrest)
    · refine (mem_of_mem_insertKey hinsert).imp_left ?_
      rintro rfl
      exact List.mem_cons_self ..

/-- Elements are added as they are, if no two of them compare equal. -/
theorem mem_insertAll_of_distinct {s : KeySet κ} {ks : List κ} {a : κ}
    (h : ∀ j ∈ ks ++ s.toList, ∀ k ∈ ks ++ s.toList, compare j k = .eq → j = k) :
    a ∈ (s.insertAll ks).toList ↔ a ∈ ks ∨ a ∈ s.toList := by
  unfold insertAll
  induction ks generalizing s with
  | nil => simp
  | cons k rest ih =>
    have hinsert : ∀ b, b ∈ (s.insert k).toList ↔ b = k ∨ b ∈ s.toList := by
      intro b
      refine ⟨mem_of_mem_insertKey, ?_⟩
      rintro (rfl | hb)
      · rcases mem_insertKey_self b s.toList with hb | ⟨j, hj, hbj⟩
        · exact hb
        · -- an element that compares equal is this one
          rw [h b (by simp) j (by simp [hj]) hbj]
          exact mem_insertKey_of_mem hj
      · exact mem_insertKey_of_mem hb
    have hrest : ∀ b ∈ rest ++ (s.insert k).toList, b ∈ k :: rest ++ s.toList := by
      intro b hb
      rcases List.mem_append.1 hb with hb | hb
      · simp [hb]
      · rcases (hinsert b).1 hb with rfl | hb
        · simp
        · simp [hb]
    rw [List.foldl_cons, ih fun i hi j hj => h i (hrest i hi) j (hrest j hj), hinsert,
      List.mem_cons]
    tauto

theorem mem_ofList_of_distinct {ks : List κ} {a : κ}
    (h : ∀ j ∈ ks, ∀ k ∈ ks, compare j k = .eq → j = k) : a ∈ (ofList ks).toList ↔ a ∈ ks := by
  unfold ofList
  rw [mem_insertAll_of_distinct (by simpa [empty] using h)]
  simp [empty]

private theorem insert_eq_or_size (s : KeySet κ) (k : κ) :
    s.insert k = s ∨ (s.insert k).size = s.size + 1 := by
  obtain ⟨ks⟩ := s
  simp only [insert, size, KeySet.mk.injEq]
  induction ks with
  | nil => exact Or.inr rfl
  | cons j rest ih =>
    simp only [insertKey]
    cases compare k j with
    | lt => exact Or.inr rfl
    | eq => exact Or.inl rfl
    | gt => exact ih.imp (congrArg (j :: ·)) (congrArg (· + 1))

/-- A set that does not grow does not change. -/
theorem insertAll_eq_of_size {s : KeySet κ} {ks : List κ} (h : (s.insertAll ks).size = s.size) :
    s.insertAll ks = s := by
  -- no insertion makes a set smaller, so one that makes it larger cannot be made good
  have hgrows : ∀ (ls : List κ) (t : KeySet κ), t.size ≤ (t.insertAll ls).size := by
    intro ls
    induction ls with
    | nil => exact fun t => le_refl _
    | cons l rest ih =>
      intro t
      refine le_trans ?_ (ih (t.insert l))
      rcases insert_eq_or_size t l with heq | hsize
      · rw [heq]
      · omega
  induction ks generalizing s with
  | nil => rfl
  | cons k rest ih =>
    have hstep : (s.insertAll (k :: rest)) = (s.insert k).insertAll rest := rfl
    rw [hstep] at h ⊢
    rcases insert_eq_or_size s k with heq | hsize
    · rw [heq] at h ⊢
      exact ih h
    · have hle := hgrows rest (s.insert k)
      omega

end Spellings

/-! ## Elements -/

section Elements

variable [Std.LawfulEqOrd κ]

@[simp] theorem contains_iff (s : KeySet κ) (k : κ) : s.contains k = true ↔ k ∈ s.toList := by
  simp [contains]

@[simp] theorem mem_insertAll {s : KeySet κ} {ks : List κ} {a : κ} :
    a ∈ (s.insertAll ks).toList ↔ a ∈ ks ∨ a ∈ s.toList :=
  mem_insertAll_of_distinct fun _ _ _ _ h => Std.LawfulEqOrd.eq_of_compare h

@[simp] theorem mem_insert {s : KeySet κ} {k a : κ} :
    a ∈ (s.insert k).toList ↔ a = k ∨ a ∈ s.toList := by
  have hinsert := @mem_insertAll κ _ _ s [k] a
  rwa [List.mem_singleton] at hinsert

@[simp] theorem mem_erase {s : KeySet κ} {k a : κ} :
    a ∈ (s.erase k).toList ↔ a ∈ s.toList ∧ a ≠ k := by
  simp only [erase, List.mem_filter, bne_iff_ne, ne_eq, Std.LawfulEqOrd.compare_eq_iff_eq]
  refine and_congr_right fun _ => ?_
  exact not_congr eq_comm

@[simp] theorem mem_ofList {ks : List κ} {a : κ} : a ∈ (ofList ks).toList ↔ a ∈ ks := by
  simp [ofList, empty]

/-- A new element is added once. -/
theorem insert_perm {s : KeySet κ} {k : κ} (h : k ∉ s.toList) :
    (s.insert k).toList.Perm (k :: s.toList) := by
  obtain ⟨ks⟩ := s
  simp only [KeySet.insert] at h ⊢
  induction ks with
  | nil => exact List.Perm.refl _
  | cons j rest ih =>
    simp only [insertKey]
    cases hkj : compare k j with
    | lt => exact List.Perm.refl _
    | eq =>
      obtain rfl : k = j := Std.LawfulEqOrd.eq_of_compare hkj
      exact absurd (List.mem_cons_self ..) h
    | gt =>
      refine ((ih fun hmem => h (List.mem_cons_of_mem _ hmem)).cons j).trans ?_
      exact List.Perm.swap ..

end Elements

/-! ## Order -/

/-- The elements increase. -/
def Ordered (s : KeySet κ) : Prop := s.toList.Pairwise fun a b => compare a b = .lt

theorem ordered_empty : (empty : KeySet κ).Ordered := List.Pairwise.nil

theorem Ordered.nodup [Std.TransOrd κ] {s : KeySet κ} (h : s.Ordered) : s.toList.Nodup := by
  refine List.Pairwise.imp ?_ h
  rintro a b hlt rfl
  simp at hlt

theorem Ordered.erase {s : KeySet κ} (h : s.Ordered) (k : κ) : (s.erase k).Ordered :=
  List.Pairwise.filter _ h

theorem Ordered.filter {s : KeySet κ} (h : s.Ordered) (p : κ → Bool) : (s.filter p).Ordered :=
  List.Pairwise.filter _ h

variable [Std.TransOrd κ]

theorem Ordered.insert {s : KeySet κ} (h : s.Ordered) (k : κ) : (s.insert k).Ordered := by
  obtain ⟨ks⟩ := s
  simp only [Ordered, KeySet.insert] at h ⊢
  induction ks with
  | nil => simp [insertKey]
  | cons j rest ih =>
    obtain ⟨hj, hrest⟩ := List.pairwise_cons.1 h
    simp only [insertKey]
    cases hkj : compare k j with
    | lt =>
      refine List.pairwise_cons.2 ⟨?_, h⟩
      intro a ha
      rcases List.mem_cons.1 ha with rfl | ha
      · exact hkj
      · exact Std.TransCmp.lt_trans hkj (hj a ha)
    | eq => exact h
    | gt =>
      refine List.pairwise_cons.2 ⟨?_, ih hrest⟩
      intro a ha
      -- the element is behind the new one, or was there
      rcases mem_of_mem_insertKey ha with rfl | ha
      · exact Std.OrientedCmp.lt_of_gt hkj
      · exact hj a ha

theorem Ordered.insertAll {s : KeySet κ} (h : s.Ordered) (ks : List κ) :
    (s.insertAll ks).Ordered := by
  unfold KeySet.insertAll
  induction ks generalizing s with
  | nil => exact h
  | cons k rest ih => exact ih (h.insert k)

theorem ordered_ofList (ks : List κ) : (ofList ks).Ordered := ordered_empty.insertAll _

/-- An element that is taken out of an ordered set occurs nowhere else in it. -/
theorem Ordered.erase_head {k : κ} {rest : List κ} (h : (⟨k :: rest⟩ : KeySet κ).Ordered) :
    (⟨k :: rest⟩ : KeySet κ).erase k = ⟨rest⟩ := by
  obtain ⟨hk, -⟩ := List.pairwise_cons.1 h
  have hkeep : (rest.filter fun j => compare k j != .eq) = rest := by
    refine List.filter_eq_self.2 ?_
    intro a ha
    simp [hk a ha]
  rw [KeySet.erase, List.filter_cons_of_neg (by simp), hkeep]

/-- The first element of an ordered set is the least one. -/
theorem Ordered.head_isLE {s : KeySet κ} {k j : κ} {rest : List κ} (h : s.Ordered)
    (hs : s.toList = k :: rest) (hj : j ∈ s.toList) : (compare k j).isLE := by
  unfold Ordered at h
  rw [hs] at h hj
  rcases List.mem_cons.1 hj with rfl | hrest
  · simp
  · simp [List.rel_of_pairwise_cons h hrest]

end KeySet

end CodeAtlas
