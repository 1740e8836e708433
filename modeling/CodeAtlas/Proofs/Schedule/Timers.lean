import CodeAtlas.Schedule.Timers
import CodeAtlas.Proofs.Ordered.Table

/-!
# Theory of keyed timers

Actions of one key do not disturb those of another: numbers are never given out twice, so what is
cancelled under a key is what was scheduled under it.
-/

namespace CodeAtlas

namespace Timers

variable {κ α : Type} [Ord κ] {t : Timers κ α} {k j : κ}

/-- An action waits under a key. -/
def Waits (t : Timers κ α) (k : κ) : Prop := ∃ a ∈ t.waiting, a.key = k

/-- What all timers satisfy: numbers are new, and those of taken keys belong to them. -/
structure Sound (t : Timers κ α) : Prop where
  nodup : (t.waiting.map (·.id)).Nodup
  below : ∀ a ∈ t.waiting, a.id < t.nextId
  taken : ∀ k id, t.taken.get? k = some id →
    id < t.nextId ∧ ∀ a ∈ t.waiting, a.id = id → compare a.key k = .eq

theorem sound_empty : (empty : Timers κ α).Sound :=
  ⟨List.nodup_nil, by simp [empty], by simp [empty]⟩

omit [Ord κ] in
private theorem nodup_filter (p : Timer κ α → Bool) (h : (t.waiting.map (·.id)).Nodup) :
    ((t.waiting.filter p).map (·.id)).Nodup :=
  h.sublist (List.filter_sublist.map _)

theorem Sound.wait (h : t.Sound) (now : Nat) : Sound { t with now := now } :=
  ⟨h.nodup, h.below, h.taken⟩

section Updates

variable [Std.TransOrd κ]

theorem Sound.cancel (h : t.Sound) (k : κ) : (t.cancel k).Sound := by
  unfold Timers.cancel Timers.revoke
  split
  · exact h
  · refine ⟨nodup_filter _ h.nodup, ?_, ?_⟩
    · intro a ha
      exact h.below a (List.mem_filter.1 ha).1
    · intro j id hj
      rw [Table.get?_erase] at hj
      split at hj
      · cases hj
      · refine ⟨(h.taken j id hj).1, ?_⟩
        intro a ha hid
        exact (h.taken j id hj).2 a (List.mem_filter.1 ha).1 hid

theorem Sound.schedule (h : t.Sound) (k : κ) (delay : Nat) (action : α) :
    (t.schedule k delay action).Sound := by
  -- what waited under the key is cancelled first, so the rest is about an addition
  have hc := h.cancel k
  unfold Timers.schedule
  generalize t.cancel k = t at hc ⊢
  have hfresh : t.nextId ∉ t.waiting.map (·.id) := by
    intro hmem
    obtain ⟨a, ha, hid⟩ := List.mem_map.1 hmem
    exact absurd (hc.below a ha) (by omega)
  refine ⟨?_, ?_, ?_⟩
  · simp only [List.map_append, List.map_cons, List.map_nil]
    refine List.nodup_append.2 ⟨hc.nodup, by simp, ?_⟩
    rintro a ha b hb rfl
    exact hfresh (List.mem_singleton.1 hb ▸ ha)
  · intro a ha
    rcases List.mem_append.1 ha with ha | ha
    · exact Nat.lt_succ_of_lt (hc.below a ha)
    · obtain rfl := List.mem_singleton.1 ha
      exact Nat.lt_succ_self _
  · intro j id hj
    rw [Table.get?_insert] at hj
    split at hj
    · -- the key itself: its number is new, so only the new action carries it
      rename_i hjk
      obtain rfl := Option.some.inj hj
      refine ⟨Nat.lt_succ_self _, ?_⟩
      intro a ha hid
      rcases List.mem_append.1 ha with ha | ha
      · exact absurd (List.mem_map.2 ⟨a, ha, hid⟩) hfresh
      · obtain rfl := List.mem_singleton.1 ha
        exact Std.OrientedCmp.eq_symm hjk
    · -- another key: its number is an old one, so the new action does not carry it
      obtain ⟨hlt, hkey⟩ := hc.taken j id hj
      refine ⟨Nat.lt_succ_of_lt hlt, ?_⟩
      intro a ha hid
      rcases List.mem_append.1 ha with ha | ha
      · exact hkey a ha hid
      · obtain rfl := List.mem_singleton.1 ha
        exact absurd (hid ▸ hlt) (Nat.lt_irrefl _)

theorem Sound.fire (h : t.Sound) (a : Timer κ α) : (t.fire a).Sound := by
  refine ⟨nodup_filter _ h.nodup, ?_, ?_⟩
  · intro b hb
    exact h.below b (List.mem_filter.1 hb).1
  · intro j id hj
    -- running out frees a key at most
    have hold : t.taken.get? j = some id := by
      simp only [Timers.fire] at hj
      split at hj
      · rw [Table.get?_erase] at hj
        split at hj
        · cases hj
        · exact hj
      · exact hj
    refine ⟨(h.taken j id hold).1, ?_⟩
    intro b hb hid
    exact (h.taken j id hold).2 b (List.mem_filter.1 hb).1 hid

end Updates

section Keys

variable [Std.LawfulEqOrd κ]

/-- Cancelling a key leaves what waits under another. -/
theorem Sound.waits_cancel (h : t.Sound) (hjk : j ≠ k) (hw : t.Waits j) : (t.cancel k).Waits j := by
  obtain ⟨a, ha, rfl⟩ := hw
  unfold Timers.cancel Timers.revoke
  split
  · exact ⟨a, ha, rfl⟩
  · rename_i id hid
    refine ⟨a, List.mem_filter.2 ⟨ha, ?_⟩, rfl⟩
    -- if the cancelled number were this action's, its key would be the cancelled one
    simp only [bne_iff_ne, ne_eq]
    intro heq
    exact hjk (Std.LawfulEqOrd.eq_of_compare ((h.taken k id hid).2 a ha heq))

theorem Sound.waits_schedule (h : t.Sound) (hjk : j ≠ k) (delay : Nat) (action : α)
    (hw : t.Waits j) : (t.schedule k delay action).Waits j := by
  obtain ⟨a, ha, rfl⟩ := h.waits_cancel hjk hw
  exact ⟨a, List.mem_append_left _ ha, rfl⟩

omit [Std.LawfulEqOrd κ] in
theorem waits_schedule_self (t : Timers κ α) (k : κ) (delay : Nat) (action : α) :
    (t.schedule k delay action).Waits k :=
  ⟨_, List.mem_append_right _ (List.mem_singleton.2 rfl), rfl⟩

omit [Std.LawfulEqOrd κ] in
/-- An action whose time has come leaves what waits under another key. -/
theorem Sound.waits_fire (h : t.Sound) {a : Timer κ α} (ha : a ∈ t.waiting) (hja : j ≠ a.key)
    (hw : t.Waits j) : (t.fire a).Waits j := by
  obtain ⟨b, hb, rfl⟩ := hw
  refine ⟨b, List.mem_filter.2 ⟨hb, ?_⟩, rfl⟩
  simp only [bne_iff_ne, ne_eq]
  intro heq
  rw [List.inj_on_of_nodup_map h.nodup hb ha heq] at hja
  exact hja rfl

end Keys

end Timers

end CodeAtlas
