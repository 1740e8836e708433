import CodeAtlas.Ordered.Sorting
import Mathlib.Data.List.Chain
import Mathlib.Data.List.Sort
import Mathlib.Order.Compare

/-!
# Theory of sorted lists without repeats

What sorting and the removal of equal neighbours make of a list. Sorting is stable, so elements
that compare equal keep their order; if they differ nevertheless, equal elements need not meet, and
dropping neighbours leaves repeats behind. The last section says exactly when.

## Architecture

- **Layer A**: sorting under a comparison is ordered and stable, and what is found first in a sorted
  list;
- **Layer B**: dropping equal neighbours keeps the longest part without such neighbours;
- **Layer C**: both together, and when no element is left twice.
-/

namespace CodeAtlas

variable {α β κ : Type}

/-! ## Layer A: sorting -/

/-- **Sorting under a comparison.** -/
def sortUnder (cmp : α → α → Ordering) (xs : List α) : List α :=
  xs.mergeSort fun a b => cmp a b != .gt

/-- Sorting by a key is sorting under the comparison of keys. -/
theorem sortBy_eq [Ord κ] (key : α → κ) (xs : List α) :
    sortBy key xs = sortUnder (fun a b => compare (key a) (key b)) xs := rfl

/-- Sorting only rearranges. -/
theorem sortUnder_perm (cmp : α → α → Ordering) (xs : List α) : (sortUnder cmp xs).Perm xs :=
  List.mergeSort_perm xs _

@[simp]
theorem mem_sortUnder {cmp : α → α → Ordering} {xs : List α} {a : α} :
    a ∈ sortUnder cmp xs ↔ a ∈ xs :=
  (sortUnder_perm cmp xs).mem_iff

section Ordered

variable {cmp : α → α → Ordering} [Std.TransCmp cmp]

omit [Std.TransCmp cmp] in
/-- What the sort asks of two elements is that the first is not the greater one. -/
private theorem bne_gt_iff {a b : α} : (cmp a b != .gt) = true ↔ (cmp a b).isLE := by
  cases cmp a b <;> simp

private theorem bne_gt_trans (a b c : α) (hab : (cmp a b != .gt) = true)
    (hbc : (cmp b c != .gt) = true) : (cmp a c != .gt) = true := by
  rw [bne_gt_iff] at hab hbc ⊢
  exact Std.TransCmp.isLE_trans hab hbc

private theorem bne_gt_total (a b : α) : ((cmp a b != .gt) || (cmp b a != .gt)) = true := by
  have hswap : cmp b a = (cmp a b).swap := Std.OrientedCmp.eq_swap
  rw [hswap]
  cases cmp a b <;> rfl

/-- A sorted list is in order. -/
theorem pairwise_sortUnder (xs : List α) :
    (sortUnder cmp xs).Pairwise fun a b => (cmp a b).isLE := by
  have hsorted : (sortUnder cmp xs).Pairwise fun a b => (cmp a b != .gt) = true :=
    List.pairwise_mergeSort bne_gt_trans bne_gt_total xs
  apply hsorted.imp
  intro a b hab
  exact bne_gt_iff.1 hab

/-- A list that is in order stays as it is. -/
theorem sortUnder_of_pairwise {xs : List α} (h : xs.Pairwise fun a b => (cmp a b).isLE) :
    sortUnder cmp xs = xs := by
  have hle : xs.Pairwise fun a b => (cmp a b != .gt) = true := by
    apply h.imp
    intro a b hab
    exact bne_gt_iff.2 hab
  have hsub := List.sublist_mergeSort bne_gt_trans bne_gt_total hle (List.Sublist.refl xs)
  exact (hsub.eq_of_length (sortUnder_perm cmp xs).length_eq.symm).symm

/-- **Sorting is stable**: the elements that compare equal to a given one keep their order. -/
theorem filter_sortUnder (a : α) (xs : List α) :
    (sortUnder cmp xs).filter (fun b => cmp a b == .eq) = xs.filter fun b => cmp a b == .eq := by
  -- The class of `a` is in order already, so sorting leaves it a sublist; the lengths then agree.
  have hclass : (xs.filter fun b => cmp a b == .eq).Pairwise
      fun b c => (cmp b c != .gt) = true := by
    apply List.pairwise_of_forall_mem_list
    intro b hb c hc
    simp only [List.mem_filter, beq_iff_eq] at hb hc
    have hbc : cmp b c = .eq := Std.TransCmp.eq_trans (Std.OrientedCmp.eq_symm hb.2) hc.2
    simp [hbc]
  have hsub : (xs.filter fun b => cmp a b == .eq).Sublist (sortUnder cmp xs) :=
    List.sublist_mergeSort bne_gt_trans bne_gt_total hclass List.filter_sublist
  have hfiltered := hsub.filter fun b => cmp a b == .eq
  rw [List.filter_filter] at hfiltered
  simp only [Bool.and_self] at hfiltered
  have hlength := ((sortUnder_perm cmp xs).filter fun b => cmp a b == .eq).length_eq
  exact (hfiltered.eq_of_length hlength.symm).symm

/-- Elements that compare equal to one of them stand in a sorted list as they did before. -/
theorem sublist_sortUnder_iff {a : α} {zs xs : List α} (hzs : ∀ b ∈ zs, cmp a b = .eq) :
    zs.Sublist (sortUnder cmp xs) ↔ zs.Sublist xs := by
  have hself : zs.filter (fun b => cmp a b == .eq) = zs := by
    apply List.filter_eq_self.2
    intro b hb
    simp [hzs b hb]
  constructor
  · intro h
    have hclass := h.filter fun b => cmp a b == .eq
    rw [hself, filter_sortUnder] at hclass
    exact hclass.trans List.filter_sublist
  · intro h
    have hclass := h.filter fun b => cmp a b == .eq
    rw [hself, ← filter_sortUnder] at hclass
    exact hclass.trans List.filter_sublist

/-- **Sorting a list that is in order** under another comparison leaves it in order under both, the
one that it is sorted by first. -/
theorem pairwise_lex_sortUnder {cmp' : α → α → Ordering} {xs : List α}
    (h : xs.Pairwise fun a b => cmp' a b = .lt) :
    (sortUnder cmp xs).Pairwise fun a b => compareLex cmp cmp' a b = .lt := by
  apply List.pairwise_iff_forall_sublist.2
  intro a b hab
  have hle : (cmp a b).isLE := List.pairwise_iff_forall_sublist.1 (pairwise_sortUnder xs) hab
  cases hcmp : cmp a b with
  | lt => simp [compareLex, hcmp]
  | gt => simp [hcmp] at hle
  | eq =>
    -- Elements that compare equal stand as they did before.
    have hclass : ∀ c ∈ [a, b], cmp a c = .eq := by
      simp [hcmp, Std.ReflCmp.compare_self]
    have hbefore : [a, b].Sublist xs := (sublist_sortUnder_iff hclass).1 hab
    simpa [compareLex, hcmp] using List.pairwise_iff_forall_sublist.1 h hbefore

/-- The image of a list in strict order is in strict order exactly if comparisons are kept. -/
theorem pairwise_map_lt_iff {cmp' : β → β → Ordering} [Std.OrientedCmp cmp'] {f : α → β}
    {xs : List α} (h : xs.Pairwise fun a b => cmp a b = .lt) :
    (xs.map f).Pairwise (fun a b => cmp' a b = .lt) ↔
      ∀ a ∈ xs, ∀ b ∈ xs, cmp' (f a) (f b) = cmp a b := by
  rw [List.pairwise_map]
  constructor
  · intro himage
    -- It is enough to look at the elements in their order, as both comparisons can be swapped.
    have hsymm : Std.Symm fun a b => cmp' (f a) (f b) = cmp a b := by
      constructor
      intro a b hab
      have hswap : cmp' (f b) (f a) = (cmp' (f a) (f b)).swap := Std.OrientedCmp.eq_swap
      rw [hswap, hab]
      exact Std.OrientedCmp.eq_swap.symm
    have hkept : xs.Pairwise fun a b => cmp' (f a) (f b) = cmp a b := by
      apply (h.and himage).imp
      intro a b hab
      rw [hab.1, hab.2]
    intro a ha b hb
    apply hkept.forall_of_forall _ ha hb
    simp [Std.ReflCmp.compare_self]
  · intro hkept
    apply h.imp_of_mem
    intro a b ha hb hab
    rw [hkept a ha b hb, hab]

/-- **The first result in a sorted list** is that of a least element with a result. Among those that
compare equal to it, it stands first in the given list. -/
theorem exists_of_findSome?_sortUnder {f : α → Option β} {b : β} {xs : List α}
    (h : (sortUnder cmp xs).findSome? f = some b) :
    ∃ front a back, xs = front ++ a :: back ∧ f a = some b ∧
      (∀ c ∈ xs, f c ≠ none → (cmp a c).isLE) ∧ ∀ c ∈ front, f c ≠ none → cmp a c = .lt := by
  obtain ⟨before, a, behind, hsplit, hresult, hnone⟩ := List.findSome?_eq_some_iff.1 h
  have hleast : ∀ c ∈ xs, f c ≠ none → (cmp a c).isLE := by
    intro c hc hsome
    have hmem : c ∈ before ++ a :: behind := by
      rw [← hsplit]
      exact mem_sortUnder.2 hc
    have hnot : c ∉ before := fun hbefore => hsome (hnone c hbefore)
    have hpair : (sortUnder cmp xs).Pairwise fun a b => (cmp a b).isLE := pairwise_sortUnder xs
    rw [hsplit] at hpair
    have htail : c = a ∨ c ∈ behind := by simpa [hnot] using hmem
    cases htail with
    | inl heq => simp [heq, Std.ReflCmp.compare_self]
    | inr hbehind => exact (List.pairwise_cons.1 (List.pairwise_append.1 hpair).2.1).1 c hbehind
  -- Sorting keeps those that compare equal to `a` in order, and `a` is the first with a result.
  have hfirst : xs.find? (fun c => (f c).isSome && cmp a c == .eq) = some a := by
    rw [← List.head?_filter, ← List.filter_filter, ← filter_sortUnder, List.filter_filter,
      List.head?_filter, hsplit, List.find?_append]
    have hgone : before.find? (fun c => (f c).isSome && cmp a c == .eq) = none := by
      simp +contextual [hnone]
    simp [hgone, hresult, Std.ReflCmp.compare_self]
  obtain ⟨-, front, back, rfl, hfront⟩ := List.find?_eq_some_iff_append.1 hfirst
  refine ⟨front, a, back, rfl, hresult, hleast, ?_⟩
  intro c hc hsome
  have hle := hleast c (List.mem_append_left _ hc) hsome
  have hne : cmp a c ≠ .eq := by
    simpa [Option.isSome_iff_ne_none.2 hsome] using hfront c hc
  cases hcmp : cmp a c with
  | lt => rfl
  | eq => exact absurd hcmp hne
  | gt => simp [hcmp] at hle

end Ordered

/-! ## Layer B: dropping equal neighbours -/

section Repeats

variable [BEq α] [LawfulBEq α]

omit [LawfulBEq α] in
private theorem go_sublist (a : α) (xs : List α) :
    (dropRepeats.go (· == ·) a xs).Sublist xs := by
  induction xs generalizing a with
  | nil => simp [dropRepeats.go]
  | cons b xs ih =>
    rw [dropRepeats.go]
    split
    case isTrue => exact (ih a).cons b
    case isFalse => exact (ih b).cons_cons b

omit [LawfulBEq α] in
/-- Dropping neighbours drops elements and nothing else. -/
theorem dropRepeats_sublist (xs : List α) : (dropRepeats (· == ·) xs).Sublist xs := by
  cases xs with
  | nil => simp [dropRepeats]
  | cons a xs => exact (go_sublist a xs).cons_cons a

private theorem isChain_go (a : α) (xs : List α) :
    (a :: dropRepeats.go (· == ·) a xs).IsChain (· ≠ ·) := by
  induction xs generalizing a with
  | nil => simp [dropRepeats.go]
  | cons b xs ih =>
    rw [dropRepeats.go]
    split
    case isTrue => exact ih a
    case isFalse hne =>
      apply List.isChain_cons_cons.2
      exact ⟨fun hab => hne (by simp [hab]), ih b⟩

/-- No two neighbours are equal any more. -/
theorem isChain_dropRepeats (xs : List α) : (dropRepeats (· == ·) xs).IsChain (· ≠ ·) := by
  cases xs with
  | nil => simp [dropRepeats]
  | cons a xs => exact isChain_go a xs

private theorem sublist_go {a : α} {zs xs : List α} (hchain : (a :: zs).IsChain (· ≠ ·))
    (h : zs.Sublist xs) : zs.Sublist (dropRepeats.go (· == ·) a xs) := by
  induction xs generalizing a zs with
  | nil => simpa [dropRepeats.go] using h
  | cons b xs ih =>
    rw [dropRepeats.go]
    split
    case isTrue hab =>
      -- `b` repeats `a`, so the part without equal neighbours does not start with it.
      obtain rfl : a = b := by simpa using hab
      cases h with
      | cons _ h => exact ih hchain h
      | cons_cons _ h => exact absurd rfl (List.isChain_cons_cons.1 hchain).1
    case isFalse =>
      cases h with
      | cons _ h =>
        cases zs with
        | nil => simp
        | cons c zs =>
          by_cases hbc : b = c
          · obtain rfl := hbc
            apply List.Sublist.cons_cons
            exact ih hchain.tail ((List.sublist_cons_self _ _).trans h)
          · apply List.Sublist.cons
            exact ih (List.isChain_cons_cons.2 ⟨hbc, hchain.tail⟩) h
      | cons_cons _ h =>
        apply List.Sublist.cons_cons
        exact ih hchain.tail h

/-- **Every part without equal neighbours survives**: dropping repeats keeps as much as can be. -/
theorem sublist_dropRepeats {zs xs : List α} (hchain : zs.IsChain (· ≠ ·)) (h : zs.Sublist xs) :
    zs.Sublist (dropRepeats (· == ·) xs) := by
  cases h with
  | slnil => simp
  | @cons zs xs a h =>
    cases zs with
    | nil => simp
    | cons c zs =>
      -- the first element is kept in any case; the part may begin with an equal one behind it
      by_cases hac : a = c
      · obtain rfl := hac
        apply List.Sublist.cons_cons
        exact sublist_go hchain ((List.sublist_cons_self _ _).trans h)
      · apply List.Sublist.cons
        exact sublist_go (List.isChain_cons_cons.2 ⟨hac, hchain⟩) h
  | @cons_cons zs xs a h =>
    apply List.Sublist.cons_cons
    exact sublist_go hchain h

/-- No element is lost. -/
@[simp]
theorem mem_dropRepeats {a : α} {xs : List α} : a ∈ dropRepeats (· == ·) xs ↔ a ∈ xs := by
  constructor
  · intro h
    exact (dropRepeats_sublist xs).mem h
  · intro h
    apply List.singleton_sublist.1
    exact sublist_dropRepeats (by simp) (List.singleton_sublist.2 h)

omit [BEq α] [LawfulBEq α] in
/-- An element that stands twice in a list without equal neighbours has another one in between. -/
theorem nodup_iff_of_isChain {zs : List α} (hchain : zs.IsChain (· ≠ ·)) :
    zs.Nodup ↔ ∀ d e, d ≠ e → ¬ [d, e, d].Sublist zs := by
  induction zs with
  | nil => simp
  | cons a zs ih =>
    constructor
    · intro hnodup d e _ h
      have hdd : [d, d].Sublist [d, e, d] := by simp
      exact List.nodup_iff_sublist.1 hnodup d (hdd.trans h)
    · intro h
      apply List.nodup_cons.2
      constructor
      · intro ha
        -- The neighbour of the first `a` is the element in between.
        cases zs with
        | nil => simp at ha
        | cons b zs =>
          have hab : a ≠ b := (List.isChain_cons_cons.1 hchain).1
          have hrest : a ∈ zs := by simpa [hab] using ha
          apply h a b hab
          simpa using hrest
      · apply (ih hchain.tail).2
        intro d e hde hsub
        exact h d e hde (hsub.cons a)

/-! ## Layer C: both together -/

variable {cmp : α → α → Ordering} [Std.TransCmp cmp]

/-- **A sorted list without equal neighbours has no repeats exactly if** no element of the given
list stands both before and behind another one that compares equal to it. -/
theorem nodup_dropRepeats_sortUnder_iff {xs : List α} :
    (dropRepeats (· == ·) (sortUnder cmp xs)).Nodup ↔
      ∀ d e, d ≠ e → cmp d e = .eq → ¬ [d, e, d].Sublist xs := by
  rw [nodup_iff_of_isChain (isChain_dropRepeats _)]
  have hclass {d e : α} (heq : cmp d e = .eq) : ∀ b ∈ [d, e, d], cmp d b = .eq := by
    simp [heq, Std.ReflCmp.compare_self]
  constructor
  · intro h d e hde heq hsub
    apply h d e hde
    apply sublist_dropRepeats (by simp [hde, hde.symm])
    exact (sublist_sortUnder_iff (hclass heq)).2 hsub
  · intro h d e hde hsub
    -- What stands between two copies of `d` in an ordered list compares equal to `d`.
    have hsorted : [d, e, d].Sublist (sortUnder cmp xs) := hsub.trans (dropRepeats_sublist _)
    have hle := (pairwise_sortUnder xs).sublist hsorted
    simp only [List.pairwise_cons, List.mem_cons, List.not_mem_nil, or_false, forall_eq_or_imp,
      forall_eq] at hle
    have heq : cmp d e = .eq := Std.OrientedCmp.isLE_antisymm hle.1.1 hle.2.1
    exact h d e hde heq ((sublist_sortUnder_iff (hclass heq)).1 hsorted)

/-- Under a comparison that tells elements apart, each one is strictly below the next ones. -/
theorem pairwise_lt_dropRepeats_sortUnder (hcmp : ∀ a b, cmp a b = .eq → a = b) (xs : List α) :
    (dropRepeats (· == ·) (sortUnder cmp xs)).Pairwise fun a b => cmp a b = .lt := by
  have hnodup : (dropRepeats (· == ·) (sortUnder cmp xs)).Nodup := by
    apply nodup_dropRepeats_sortUnder_iff.2
    intro d e hde heq
    exact absurd (hcmp d e heq) hde
  have hle : (dropRepeats (· == ·) (sortUnder cmp xs)).Pairwise fun a b => (cmp a b).isLE :=
    (pairwise_sortUnder xs).sublist (dropRepeats_sublist _)
  apply (hle.and hnodup).imp
  intro a b hab
  obtain ⟨hisLE, hne⟩ := hab
  cases hcompare : cmp a b with
  | lt => rfl
  | eq => exact absurd (hcmp a b hcompare) hne
  | gt => simp [hcompare] at hisLE

end Repeats

end CodeAtlas
