import CodeAtlas.Text.Lowercase
import Mathlib.Data.List.Infix
import Mathlib.Data.List.TakeWhile

/-!
# Lowercasing the beginning of a text

A text is lowercased as a whole, and a capital sigma becomes another letter at the end of a word
than inside one. So the lower-case form of a text need not begin with that of its own beginning.
There is one way only in which that happens: the text is cut in the middle of a word, behind a
capital sigma.

## Architecture

- **Layer A**: one character, between what is before and what is after it;
- **Layer B**: texts that are cut in two.
-/

namespace CodeAtlas

namespace Lowercase

variable {before lead rest : List Char}

/-! ## Layer A: one character -/

/-- Casing looks past a character, such as a dot or an accent. -/
def Ignored (c : Char) : Prop := CodeRanges.covers CodeRanges.caseIgnorable c.toNat = true

instance (c : Char) : Decidable (Ignored c) := inferInstanceAs (Decidable (_ = true))

theorem meetsCased_append_of_ignored (h : ∀ c ∈ lead, Ignored c) (rest : List Char) :
    meetsCased (lead ++ rest) = meetsCased rest := by
  unfold meetsCased
  rw [List.dropWhile_append_of_pos h]

theorem meetsCased_append_of_not_ignored (h : ¬ ∀ c ∈ lead, Ignored c) (rest : List Char) :
    meetsCased (lead ++ rest) = meetsCased lead := by
  unfold meetsCased
  rw [List.dropWhile_append]
  cases hlead : lead.dropWhile fun c => CodeRanges.covers CodeRanges.caseIgnorable c.toNat with
  | nil => exact absurd (List.dropWhile_eq_nil_iff.1 hlead) h
  | cons c _ => rfl

theorem meetsCased_of_ignored (h : ∀ c ∈ lead, Ignored c) : meetsCased lead = false := by
  rw [← List.append_nil lead, meetsCased_append_of_ignored h]
  rfl

/-- Only a capital sigma depends on what is around it. -/
theorem inContext_of_ne {c : Char} (h : c ≠ 'Σ') (before' after after' : List Char) :
    inContext before c after = inContext before' c after' := by
  have hcode : (c.toNat == 0x3A3) = false := by
    rw [beq_eq_false_iff_ne]
    intro hcode
    exact h (Char.toNat_inj.1 hcode)
  unfold inContext
  rw [hcode]
  rfl

theorem inContext_sigma (before after : List Char) :
    inContext before 'Σ' after = [if meetsCased before && !meetsCased after then 'ς' else 'σ'] := by
  unfold inContext
  split
  · cases meetsCased before && !meetsCased after <;> rfl
  · rename_i h
    exact absurd rfl h

theorem length_inContext (before after before' after' : List Char) (c : Char) :
    (inContext before c after).length = (inContext before' c after').length := by
  by_cases hc : c = 'Σ'
  · rw [hc, inContext_sigma, inContext_sigma]
    rfl
  · rw [inContext_of_ne hc]

/-- **A capital sigma ends its word at the end of a text, but not in front of the rest of it.** -/
def EndsEarly (before : List Char) (c : Char) (after rest : List Char) : Prop :=
  c = 'Σ' ∧ meetsCased before = true ∧ (∀ x ∈ after, Ignored x) ∧ meetsCased rest = true

theorem inContext_append_iff {c : Char} {after : List Char} :
    inContext before c after = inContext before c (after ++ rest) ↔
      ¬ EndsEarly before c after rest := by
  by_cases hc : c = 'Σ'
  · subst hc
    rw [inContext_sigma, inContext_sigma]
    -- casing looks past what is left of the beginning, or stops in it and never sees the rest
    by_cases hafter : ∀ x ∈ after, Ignored x
    · have hends : EndsEarly before 'Σ' after rest ↔
          meetsCased before = true ∧ meetsCased rest = true :=
        ⟨fun h => ⟨h.2.1, h.2.2.2⟩, fun h => ⟨rfl, h.1, hafter, h.2⟩⟩
      rw [meetsCased_append_of_ignored hafter, meetsCased_of_ignored hafter, hends]
      cases meetsCased before <;> cases meetsCased rest <;> simp
    · rw [meetsCased_append_of_not_ignored hafter]
      exact iff_of_true rfl fun h => hafter h.2.2.1
  · exact iff_of_true (inContext_of_ne hc ..) fun h => hc h.1

/-! ## Layer B: cutting -/

/-- Some capital sigma ends early if a text is cut. -/
def Cuts (before lead rest : List Char) : Prop :=
  ∃ front after, lead = front ++ 'Σ' :: after ∧
    EndsEarly (front.reverse ++ before) 'Σ' after rest

theorem not_cuts_nil : ¬ Cuts before [] rest := by
  rintro ⟨front, after, h, -⟩
  cases front <;> cases h

theorem cuts_cons_iff {c : Char} :
    Cuts before (c :: lead) rest ↔ EndsEarly before c lead rest ∨ Cuts (c :: before) lead rest := by
  constructor
  · rintro ⟨front, after, h, hends⟩
    cases front with
    | nil =>
      obtain ⟨rfl, rfl⟩ := List.cons.inj h
      exact Or.inl hends
    | cons x front =>
      obtain ⟨rfl, rfl⟩ := List.cons.inj h
      -- the first character moves over to what stands before
      rw [List.reverse_cons, List.append_assoc] at hends
      exact Or.inr ⟨front, after, rfl, hends⟩
  · rintro (hends | ⟨front, after, rfl, hends⟩)
    · obtain rfl := hends.1
      exact ⟨[], lead, rfl, hends⟩
    · refine ⟨c :: front, after, rfl, ?_⟩
      rw [List.reverse_cons, List.append_assoc]
      exact hends

/-- Texts that begin with parts of one length are compared part by part. -/
private theorem append_prefix_iff {α : Type} {x y u w : List α} (h : x.length = y.length) :
    x ++ u <+: y ++ w ↔ x = y ∧ u <+: w := by
  constructor
  · rintro ⟨t, ht⟩
    rw [List.append_assoc] at ht
    obtain ⟨rfl, hrest⟩ := List.append_inj ht h
    exact ⟨rfl, t, hrest⟩
  · rintro ⟨rfl, hrest⟩
    exact (List.prefix_append_right_inj x).2 hrest

/-- **The lower-case form of a text begins with that of its beginning** unless a capital sigma ends
early. -/
theorem walk_prefix_iff : walk before lead <+: walk before (lead ++ rest) ↔
    ¬ Cuts before lead rest := by
  induction lead generalizing before with
  | nil => exact iff_of_true List.nil_prefix not_cuts_nil
  | cons c lead ih =>
    -- a character becomes as many characters in any context
    rw [List.cons_append, walk, walk, append_prefix_iff (length_inContext ..),
      inContext_append_iff, ih, cuts_cons_iff, not_or]

theorem length_walk_le (before lead rest : List Char) :
    (walk before lead).length ≤ (walk before (lead ++ rest)).length := by
  induction lead generalizing before with
  | nil => exact Nat.zero_le _
  | cons c lead ih =>
    rw [List.cons_append, walk, walk, List.length_append, List.length_append]
    exact Nat.add_le_add (Nat.le_of_eq (length_inContext ..)) (ih (c :: before))

end Lowercase

/-- **A text is cut in the middle of a word behind a capital sigma**: before it, and in the rest,
the first character that casing does not look past is cased, and nothing but characters that it
looks past is between the sigma and the cut. -/
def CutsWord (lead rest : String) : Prop :=
  ∃ front after, lead.toList = front ++ 'Σ' :: after ∧
    Lowercase.meetsCased front.reverse = true ∧ (∀ c ∈ after, Lowercase.Ignored c) ∧
    Lowercase.meetsCased rest.toList = true

theorem lowercase_prefix_iff (lead rest : String) :
    (lowercase lead).toList <+: (lowercase (lead ++ rest)).toList ↔ ¬ CutsWord lead rest := by
  unfold lowercase
  rw [String.toList_ofList, String.toList_ofList, String.toList_append, Lowercase.walk_prefix_iff]
  simp only [CutsWord, Lowercase.Cuts, Lowercase.EndsEarly, List.append_nil, true_and]

theorem length_lowercase_le (lead rest : String) :
    (lowercase lead).toList.length ≤ (lowercase (lead ++ rest)).toList.length := by
  unfold lowercase
  rw [String.toList_ofList, String.toList_ofList, String.toList_append]
  exact Lowercase.length_walk_le ..

/-- A text is cut in one of its words only if it goes on with a cased character. -/
theorem not_cutsWord_of_not_meetsCased {lead rest : String}
    (h : Lowercase.meetsCased rest.toList = false) : ¬ CutsWord lead rest := by
  rintro ⟨front, after, -, -, -, hrest⟩
  rw [h] at hrest
  cases hrest

end CodeAtlas
