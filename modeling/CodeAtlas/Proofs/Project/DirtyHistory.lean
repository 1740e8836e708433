import CodeAtlas.Proofs.Path.Normal
import CodeAtlas.Proofs.Project.Dirty

/-!
# Dirty sets and their history

A history is a list of calls on one dirty set; any number of tickets may be outstanding, and calls
refer to tickets by number. The marks that a history leaves can be read off the history alone: a
mark stands until its unit is completed against a ticket that was taken after it and whose mark has
not been renewed since the ticket. The versions of the set say the same.

## Architecture

- **Layer A**: calls, and the set after a history of them;
- **Layer B**: what a history says about marks and tickets;
- **Layer C**: invariants of the set;
- **Layer D**: what one call does to a mark and to its version;
- **Layer E**: tickets and versions over a whole history;
- **Layer F**: the set knows exactly what its history says.
-/

namespace CodeAtlas

/-! ## Layer A: histories -/

/-- A call on a dirty set. Tickets are numbered in the order in which they are taken. -/
inductive DirtyCall where
  | markFile (path : Path) (owners : List UnitId)
  | markUnit (unit : UnitId)
  | ticket
  | complete (unit : UnitId) (number : Nat)
  deriving Repr, DecidableEq

/-- A dirty set with all tickets that were taken of it. -/
structure DirtyBook where
  set : DirtySet
  tickets : List DirtyTicket

namespace DirtyBook

/-- Nothing has changed, and no ticket was taken. -/
def empty : DirtyBook := ⟨.empty, []⟩

/-- The ticket with a number. One that was never taken saw nothing. -/
def ticket (b : DirtyBook) (n : Nat) : DirtyTicket := b.tickets.getD n .empty

def step (b : DirtyBook) : DirtyCall → DirtyBook
  | .markFile p us => { b with set := b.set.markFile p us }
  | .markUnit u => { b with set := b.set.markUnit u }
  | .ticket => { b with tickets := b.tickets ++ [b.set.ticket] }
  | .complete u n => { b with set := (b.set.finish u (b.ticket n)).1 }

/-- The book after a history. -/
def after (h : List DirtyCall) : DirtyBook := h.foldl step empty

@[simp] theorem after_nil : after [] = empty := rfl

@[simp] theorem after_snoc (h : List DirtyCall) (a : DirtyCall) :
    after (h ++ [a]) = (after h).step a := by
  simp [after]

end DirtyBook

/-! ## Layer B: what a history says -/

/-- Why a unit has to be rebuilt: for a changed file, or whatever the files say. -/
inductive DirtyCause where
  | file (path : Path)
  | unit
  deriving Repr, DecidableEq

namespace DirtyCall

variable {u v : UnitId} {c : DirtyCause} {a : DirtyCall}

/-- The call marks the unit. -/
def Marks (u : UnitId) : DirtyCause → DirtyCall → Prop
  | .file p, .markFile q us => q.normalize = p.normalize ∧ u ∈ us
  | .unit, .markUnit v => v = u
  | _, _ => False

/-- The call gives the mark a new version, be it for another owner of the file. -/
def Renews (u : UnitId) : DirtyCause → DirtyCall → Prop
  | .file p, .markFile q _ => q.normalize = p.normalize
  | .unit, .markUnit v => v = u
  | _, _ => False

theorem Marks.renews (h : a.Marks u c) : a.Renews u c := by
  cases c <;> cases a <;> simp_all [Marks, Renews]

@[simp] theorem not_renews_ticket : ¬ ticket.Renews u c := by
  cases c <;> exact id

@[simp] theorem not_renews_complete {n : Nat} : ¬ (complete v n).Renews u c := by
  cases c <;> exact id

end DirtyCall

namespace DirtyHistory

variable {h : List DirtyCall} {a : DirtyCall} {u v : UnitId} {c : DirtyCause} {n j k : Nat}

/-- Call `j` takes ticket `n`. -/
def Takes (h : List DirtyCall) (j n : Nat) : Prop :=
  h[j]? = some .ticket ∧ (h.take j).count .ticket = n

/-- Call `k` completes `u` against the ticket that call `j` took. -/
def Completes (h : List DirtyCall) (u : UnitId) (j k : Nat) : Prop :=
  j < k ∧ ∃ n, h[k]? = some (.complete u n) ∧ Takes h j n

/-- A call between `j` and `k` renews the mark. -/
def Renewed (h : List DirtyCall) (u : UnitId) (c : DirtyCause) (j k : Nat) : Prop :=
  ∃ l a, j < l ∧ l < k ∧ h[l]? = some a ∧ a.Renews u c

/-- **A mark stands**: some call makes it, and since then the unit was completed only against
tickets that are older than the mark, or older than a renewal of it. -/
def Stands (h : List DirtyCall) (u : UnitId) (c : DirtyCause) : Prop :=
  ∃ i a, h[i]? = some a ∧ a.Marks u c ∧
    ∀ j k, i < j → Completes h u j k → Renewed h u c j k

/-! Every notion above is about calls at given places, so a further call adds the last place and
leaves the others alone. -/

private theorem getElem?_snoc {α : Type} (l : List α) (x : α) (i : Nat) (y : α) :
    (l ++ [x])[i]? = some y ↔ l[i]? = some y ∨ (i = l.length ∧ x = y) := by
  rcases Nat.lt_trichotomy i l.length with hi | rfl | hi
  · have hne : i ≠ l.length := Nat.ne_of_lt hi
    simp [List.getElem?_append_left hi, hne]
  · simp
  · have hne : i ≠ l.length := Nat.ne_of_gt hi
    have hnone : l[i]? = none := List.getElem?_eq_none (Nat.le_of_lt hi)
    have hnone' : (l ++ [x])[i]? = none := List.getElem?_eq_none (by simp; omega)
    simp [hnone, hnone', hne]

private theorem lt_of_getElem? {α : Type} {l : List α} {i : Nat} {x : α} (hi : l[i]? = some x) :
    i < l.length :=
  (List.getElem?_eq_some_iff.1 hi).1

theorem Takes.lt (ht : Takes h j n) : j < h.length := lt_of_getElem? ht.1

theorem Completes.lt (hk : Completes h u j k) : k < h.length := by
  obtain ⟨-, n, hcall, -⟩ := hk
  exact lt_of_getElem? hcall

theorem takes_snoc :
    Takes (h ++ [a]) j n ↔ Takes h j n ∨ (j = h.length ∧ a = .ticket ∧ h.count .ticket = n) := by
  simp only [Takes, getElem?_snoc, or_and_right, and_assoc]
  -- at either place the calls before it are calls of the shorter history
  refine or_congr (and_congr_right fun hj => ?_) (and_congr_right fun hj => ?_)
  · rw [List.take_append_of_le_length (Nat.le_of_lt (lt_of_getElem? hj))]
  · rw [hj, List.take_left]

theorem completes_snoc :
    Completes (h ++ [a]) u j k ↔ Completes h u j k ∨
      (k = h.length ∧ ∃ n, a = .complete u n ∧ Takes h j n) := by
  constructor
  · rintro ⟨hjk, n, hk, ht⟩
    -- a completion in the history used a ticket of the history
    have hold : k ≤ h.length → Takes h j n := by
      intro hle
      rcases takes_snoc.1 ht with ht | ⟨hj, -, -⟩
      · exact ht
      · omega
    rcases (getElem?_snoc h a k _).1 hk with hk | ⟨rfl, rfl⟩
    · exact Or.inl ⟨hjk, n, hk, hold (Nat.le_of_lt (lt_of_getElem? hk))⟩
    · exact Or.inr ⟨rfl, n, rfl, hold (Nat.le_refl _)⟩
  · rintro (⟨hjk, n, hk, ht⟩ | ⟨rfl, n, rfl, ht⟩)
    · exact ⟨hjk, n, (getElem?_snoc h a k _).2 (Or.inl hk), takes_snoc.2 (Or.inl ht)⟩
    · exact ⟨ht.lt, n, (getElem?_snoc _ _ _ _).2 (Or.inr ⟨rfl, rfl⟩), takes_snoc.2 (Or.inl ht)⟩

theorem renewed_snoc (hk : k ≤ h.length) : Renewed (h ++ [a]) u c j k ↔ Renewed h u c j k := by
  simp only [Renewed, getElem?_snoc]
  constructor
  · rintro ⟨l, b, hjl, hlk, hb | ⟨rfl, -⟩, hr⟩
    · exact ⟨l, b, hjl, hlk, hb, hr⟩
    · omega
  · rintro ⟨l, b, hjl, hlk, hb, hr⟩
    exact ⟨l, b, hjl, hlk, Or.inl hb, hr⟩

/-- A further call adds at most one completion, against a ticket taken before. -/
private theorem forall_completes_snoc {i : Nat} :
    (∀ j k, i < j → Completes (h ++ [a]) u j k → Renewed (h ++ [a]) u c j k) ↔
      (∀ j k, i < j → Completes h u j k → Renewed h u c j k) ∧
        ∀ n j, i < j → a = .complete u n → Takes h j n → Renewed h u c j h.length := by
  constructor
  · intro hall
    constructor
    · intro j k hij hk
      exact (renewed_snoc hk.lt.le).1 (hall j k hij (completes_snoc.2 (Or.inl hk)))
    · intro n j hij ha ht
      have hk : Completes (h ++ [a]) u j h.length := completes_snoc.2 (Or.inr ⟨rfl, n, ha, ht⟩)
      exact (renewed_snoc (Nat.le_refl _)).1 (hall j h.length hij hk)
  · rintro ⟨hold, hnew⟩ j k hij hk
    rcases completes_snoc.1 hk with hk | ⟨rfl, n, ha, ht⟩
    · exact (renewed_snoc hk.lt.le).2 (hold j k hij hk)
    · exact (renewed_snoc (Nat.le_refl _)).2 (hnew n j hij ha ht)

/-- **What a further call does to a mark that stands**: it may make one, and a completion clears it
if the mark was not renewed since the ticket. -/
theorem stands_snoc :
    Stands (h ++ [a]) u c ↔ a.Marks u c ∨
      (Stands h u c ∧
        ¬ ∃ n, a = .complete u n ∧ ∃ j, Takes h j n ∧ ¬ Renewed h u c j h.length) := by
  constructor
  · rintro ⟨i, b, hplace, hmarks, hall⟩
    obtain ⟨hold, hnew⟩ := forall_completes_snoc.1 hall
    rcases (getElem?_snoc h a i b).1 hplace with hb | ⟨-, rfl⟩
    · refine Or.inr ⟨⟨i, b, hb, hmarks, hold⟩, ?_⟩
      rintro ⟨n, ha, j, ht, hnone⟩
      apply hnone
      rcases Nat.lt_trichotomy i j with hij | rfl | hji
      · -- the ticket is younger than the mark
        exact hnew n j hij ha ht
      · -- taking a ticket marks nothing
        rw [ht.1] at hb
        obtain rfl := Option.some.inj hb
        exact absurd hmarks.renews DirtyCall.not_renews_ticket
      · -- the mark is younger than the ticket, and so renews itself
        exact ⟨i, b, hji, lt_of_getElem? hb, hb, hmarks.renews⟩
    · exact Or.inl hmarks
  · rintro (hmarks | ⟨⟨i, b, hb, hmarks, hold⟩, hnone⟩)
    · -- behind the last call there are neither tickets nor completions
      refine ⟨h.length, a, (getElem?_snoc h a _ _).2 (Or.inr ⟨rfl, rfl⟩), hmarks, ?_⟩
      apply forall_completes_snoc.2
      constructor
      · intro j k hj hk
        exact absurd (hj.trans hk.1) hk.lt.asymm
      · intro n j hj _ ht
        exact absurd hj ht.lt.asymm
    · refine ⟨i, b, (getElem?_snoc h a i b).2 (Or.inl hb), hmarks, ?_⟩
      apply forall_completes_snoc.2 ⟨hold, ?_⟩
      intro n j _ ha ht
      by_contra hnot
      exact hnone ⟨n, ha, j, ht, hnot⟩

/-- Whether a mark was renewed since a ticket, told by the calls behind the ticket. -/
theorem not_renewed_iff (hj : Takes h j n) :
    ¬ Renewed h u c j h.length ↔ ∀ a ∈ h.drop j, ¬ a.Renews u c := by
  constructor
  · intro hnone a ha hrenews
    obtain ⟨l, hl⟩ := List.getElem?_of_mem ha
    rw [List.getElem?_drop] at hl
    cases l with
    | zero =>
      -- call `j` itself takes the ticket
      rw [Nat.add_zero, hj.1] at hl
      obtain rfl := Option.some.inj hl
      exact DirtyCall.not_renews_ticket hrenews
    | succ l => exact hnone ⟨j + (l + 1), a, by omega, lt_of_getElem? hl, hl, hrenews⟩
  · rintro hnone ⟨l, a, hjl, -, ha, hrenews⟩
    have hdrop : (h.drop j)[l - j]? = some a := by
      rw [List.getElem?_drop, Nat.add_sub_cancel' (Nat.le_of_lt hjl), ha]
    exact hnone a (List.mem_of_getElem? hdrop) hrenews

end DirtyHistory

/-- The version that a ticket saw of a mark. -/
def DirtyTicket.stamp (t : DirtyTicket) (u : UnitId) : DirtyCause → Option Nat
  | .file p => t.files.get? p.normalize
  | .unit => t.units.get? u

/-! ## Layer C: invariants -/

namespace DirtySet

variable {d : DirtySet} {u v : UnitId} {c : DirtyCause} {t : DirtyTicket}

/-- What a set satisfies that started empty: it is sound, files are kept under normalized paths, and
the marks of units are as old as their versions say. -/
structure Kept (d : DirtySet) : Prop extends Sound d where
  normal : ∀ p f, d.files.get? p = some f → compare p p.normalize = .eq
  unit_versions : ∀ u n, d.units.get? u = some n → n ≤ d.lastVersion

theorem kept_empty : empty.Kept where
  toSound := sound_empty
  normal := by simp [empty]
  unit_versions := by simp [empty]

theorem Kept.markFile (h : d.Kept) (p : Path) (us : List UnitId) : (d.markFile p us).Kept where
  toSound := h.toSound.markFile p us
  normal := by
    intro q f hf
    rw [get?_markFile] at hf
    split at hf
    · rename_i hq
      -- `q` has the components of a normalized path, so it is that path once normalized
      have hparts := Path.compare_eq_iff.1 hq
      rw [Path.compare_eq_iff, Path.normalize_congr hparts, Path.normalize_normalize, hparts]
    · exact h.normal q f hf
  unit_versions u n hn := Nat.le_succ_of_le (h.unit_versions u n hn)

theorem Kept.markUnit (h : d.Kept) (u : UnitId) : (d.markUnit u).Kept where
  toSound := h.toSound.markUnit u
  normal := h.normal
  unit_versions := by
    intro v n hn
    simp only [DirtySet.markUnit, Table.get?_insert] at hn ⊢
    split at hn
    · exact Nat.le_of_eq (Option.some.inj hn).symm
    · exact Nat.le_succ_of_le (h.unit_versions v n hn)

theorem Kept.complete (h : d.Kept) (u : UnitId) (t : DirtyTicket) : (d.complete u t).Kept where
  toSound := h.toSound.complete u t
  normal := by
    intro p f hf
    rw [get?_complete h.toSound] at hf
    obtain ⟨f', hf', -⟩ := Option.bind_eq_some_iff.1 hf
    exact h.normal p f' hf'
  unit_versions := by
    intro v n hn
    rw [units_complete] at hn
    split at hn
    · cases hn
    · exact h.unit_versions v n hn

/-! ## Layer D: one call and one mark -/

/-- The unit has to be rebuilt for this cause. -/
def Carries (d : DirtySet) (u : UnitId) : DirtyCause → Prop
  | .file p => ∃ f, d.files.get? p.normalize = some f ∧ u ∈ f.pending.toList
  | .unit => d.units.contains u = true

/-- The version of the mark, if there is one. -/
def stamp (d : DirtySet) (u : UnitId) : DirtyCause → Option Nat
  | .file p => (d.files.get? p.normalize).map (·.version)
  | .unit => d.units.get? u

@[simp] theorem stamp_ticket (d : DirtySet) (u : UnitId) (c : DirtyCause) :
    d.ticket.stamp u c = d.stamp u c := by
  cases c with
  | file p => exact get?_ticket d p.normalize
  | unit => rfl

theorem Carries.exists_stamp (h : d.Carries u c) : ∃ n, d.stamp u c = some n := by
  cases c with
  | file p =>
    obtain ⟨f, hf, -⟩ := h
    exact ⟨f.version, by simp [stamp, hf]⟩
  | unit => exact Option.isSome_iff_exists.1 h

theorem Kept.stamp_le (h : d.Kept) {n : Nat} (hn : d.stamp u c = some n) : n ≤ d.lastVersion := by
  cases c with
  | file p =>
    obtain ⟨f, hf, rfl⟩ := Option.map_eq_some_iff.1 hn
    exact h.versions _ f hf
  | unit => exact h.unit_versions u n hn

/-- Two spellings are of one file if they are the same once normalized. -/
private theorem compare_normalize (p q : Path) :
    compare p.normalize q.normalize = .eq ↔ q.normalize = p.normalize := by
  constructor
  · intro h
    exact (Path.eq_of_compare (Path.normalize_normalize p) (Path.normalize_normalize q) h).symm
  · intro h
    rw [h]
    exact Std.ReflCmp.compare_self

theorem carries_markFile (d : DirtySet) (q : Path) (us : List UnitId) (u : UnitId)
    (c : DirtyCause) :
    (d.markFile q us).Carries u c ↔ (DirtyCall.markFile q us).Marks u c ∨ d.Carries u c := by
  cases c with
  | unit => simp [Carries, DirtyCall.Marks, markFile]
  | file p =>
    simp only [Carries, get?_markFile, compare_normalize, DirtyCall.Marks]
    by_cases hq : q.normalize = p.normalize
    · simp only [hq, if_true, true_and, Option.some.injEq, exists_eq_left', KeySet.mem_insertAll]
      -- the file goes on waiting for those it waited for
      refine or_congr Iff.rfl ?_
      cases d.files.get? p.normalize <;> simp [KeySet.empty]
    · simp [hq]

theorem carries_markUnit (d : DirtySet) (v u : UnitId) (c : DirtyCause) :
    (d.markUnit v).Carries u c ↔ (DirtyCall.markUnit v).Marks u c ∨ d.Carries u c := by
  cases c with
  | file p => simp [Carries, DirtyCall.Marks, markUnit]
  | unit =>
    by_cases hvu : u = v
    · simp [Carries, DirtyCall.Marks, markUnit, Table.contains, hvu]
    · have hne : ¬ v = u := fun heq => hvu heq.symm
      simp [Carries, DirtyCall.Marks, markUnit, Table.contains, Table.get?_insert_of_ne hvu, hne]

/-- **Completing clears the marks of the unit that the ticket saw**, and no others. -/
theorem Kept.carries_complete (h : d.Kept) (v : UnitId) (t : DirtyTicket) (u : UnitId)
    (c : DirtyCause) :
    (d.complete v t).Carries u c ↔
      d.Carries u c ∧ ¬ (v = u ∧ t.stamp u c = d.stamp u c) := by
  cases c with
  | unit =>
    simp only [Carries, Table.contains, units_complete, DirtyTicket.stamp, stamp]
    split
    · rename_i hseen
      simp only [Option.isSome_none, Bool.false_eq_true, false_iff]
      exact fun hand => hand.2 hseen
    · rename_i hstale
      exact (and_iff_left hstale).symm
  | file p =>
    simp only [Carries, get?_complete h.toSound, DirtyTicket.stamp, stamp]
    constructor
    · rintro ⟨f', hf', hu⟩
      obtain ⟨f, hf, hc⟩ := Option.bind_eq_some_iff.1 hf'
      obtain ⟨hmem, hstale⟩ := ((mem_completeFile hc).2 u).1 hu
      refine ⟨⟨f, hf, hmem⟩, ?_⟩
      rintro ⟨hvu, hseen⟩
      rw [hf] at hseen
      exact hstale hvu.symm hseen
    · rintro ⟨⟨f, hf, hu⟩, hstale⟩
      rw [hf]
      have hkeep : u = v → t.files.get? p.normalize ≠ some f.version := by
        intro huv hseen
        exact hstale ⟨huv.symm, by rw [hseen, hf]; rfl⟩
      cases hc : completeFile v t p.normalize f with
      | none =>
        -- a file is forgotten only if it waits for nobody else
        obtain ⟨huv, hseen⟩ := completeFile_eq_none hc u hu
        exact absurd hseen (hkeep huv)
      | some f' => exact ⟨f', hc, ((mem_completeFile hc).2 u).2 ⟨hu, hkeep⟩⟩

/-- Completing gives no mark a new version. -/
theorem Kept.stamp_complete (h : d.Kept) (v : UnitId) (t : DirtyTicket) {n : Nat}
    (hn : (d.complete v t).stamp u c = some n) : d.stamp u c = some n := by
  cases c with
  | unit =>
    simp only [stamp, units_complete] at hn
    split at hn
    · cases hn
    · exact hn
  | file p =>
    simp only [stamp, get?_complete h.toSound] at hn ⊢
    obtain ⟨f', hf', rfl⟩ := Option.map_eq_some_iff.1 hn
    obtain ⟨f, hf, hc⟩ := Option.bind_eq_some_iff.1 hf'
    rw [hf, (mem_completeFile hc).1]
    rfl

end DirtySet

namespace DirtyBook

variable {b : DirtyBook} {a : DirtyCall} {u : UnitId} {c : DirtyCause}

theorem kept_step (h : b.set.Kept) (a : DirtyCall) : (b.step a).set.Kept := by
  cases a with
  | markFile p us => exact h.markFile p us
  | markUnit u => exact h.markUnit u
  | ticket => exact h
  | complete u n => exact h.complete u (b.ticket n)

theorem kept_after (h : List DirtyCall) : (after h).set.Kept := by
  induction h using List.reverseRecOn with
  | nil => exact DirtySet.kept_empty
  | append_singleton h a ih =>
    rw [after_snoc]
    exact kept_step ih a

/-- **What one call does to a mark**: it may make it, and a completion against a ticket that saw its
version clears it. -/
theorem carries_step (h : b.set.Kept) (a : DirtyCall) (u : UnitId) (c : DirtyCause) :
    (b.step a).set.Carries u c ↔ a.Marks u c ∨
      (b.set.Carries u c ∧
        ¬ ∃ n, a = .complete u n ∧ (b.ticket n).stamp u c = b.set.stamp u c) := by
  cases a with
  | markFile p us => simpa [step] using b.set.carries_markFile p us u c
  | markUnit v => simpa [step] using b.set.carries_markUnit v u c
  | ticket => cases c <;> simp [DirtyCall.Marks, step]
  | complete v n =>
    have hmarks : ¬ (DirtyCall.complete v n).Marks u c := by cases c <;> exact id
    simp only [hmarks, false_or, DirtyCall.complete.injEq, and_assoc, exists_and_left,
      exists_eq_left']
    exact h.carries_complete v (b.ticket n) u c

/-- **What one call does to a version**: a renewal gives out a new one, and no other call changes a
version. -/
theorem stamp_step (h : b.set.Kept) (a : DirtyCall) {n : Nat}
    (hn : (b.step a).set.stamp u c = some n) :
    (a.Renews u c ∧ n = b.set.lastVersion + 1) ∨
      (¬ a.Renews u c ∧ b.set.stamp u c = some n) := by
  cases a with
  | markFile q us =>
    cases c with
    | unit => exact Or.inr ⟨id, hn⟩
    | file p =>
      -- the file has a new version under every spelling, and others keep theirs
      simp only [step, DirtySet.stamp, DirtySet.get?_markFile, DirtySet.compare_normalize,
        DirtyCall.Renews] at hn ⊢
      by_cases hq : q.normalize = p.normalize
      · simp_all
      · simp_all
  | markUnit v =>
    cases c with
    | file p => exact Or.inr ⟨id, hn⟩
    | unit =>
      simp only [step, DirtySet.stamp, DirtySet.markUnit, DirtyCall.Renews] at hn ⊢
      by_cases hvu : v = u
      · simp_all
      · simp_all [Table.get?_insert_of_ne (Ne.symm hvu)]
  | ticket => exact Or.inr ⟨DirtyCall.not_renews_ticket, hn⟩
  | complete v m =>
    exact Or.inr ⟨DirtyCall.not_renews_complete, h.stamp_complete v (b.ticket m) hn⟩

theorem lastVersion_step (b : DirtyBook) (a : DirtyCall) :
    b.set.lastVersion ≤ (b.step a).set.lastVersion := by
  cases a <;> simp [step, DirtySet.markFile, DirtySet.markUnit, DirtySet.finish, DirtySet.complete]

/-! ## Layer E: tickets and versions over a history -/

theorem lastVersion_append (g s : List DirtyCall) :
    (after g).set.lastVersion ≤ (after (g ++ s)).set.lastVersion := by
  induction s using List.reverseRecOn with
  | nil => simp
  | append_singleton s a ih =>
    rw [← List.append_assoc, after_snoc]
    exact ih.trans (lastVersion_step _ a)

/-- **A version tells whether a mark was renewed**: it is the version of an earlier moment exactly
if no call since then has renewed it. -/
theorem stamp_since (g s : List DirtyCall) {n : Nat}
    (hn : (after (g ++ s)).set.stamp u c = some n) :
    (after g).set.stamp u c = some n ↔ ∀ a ∈ s, ¬ a.Renews u c := by
  induction s using List.reverseRecOn with
  | nil => simpa using hn
  | append_singleton s a ih =>
    rw [← List.append_assoc, after_snoc] at hn
    rcases stamp_step (kept_after _) a hn with ⟨hrenews, hnew⟩ | ⟨hrenews, hold⟩
    · constructor
      · intro hthen
        -- the version is newer than all that had been given out then
        have hle := (kept_after g).stamp_le hthen
        have hmono := lastVersion_append g s
        omega
      · intro hnone
        exact absurd hrenews (hnone a (by simp))
    · rw [ih hold]
      constructor
      · intro hs b hb
        rcases List.mem_append.1 hb with hb | hb
        · exact hs b hb
        · rw [List.mem_singleton.1 hb]
          exact hrenews
      · intro hs b hb
        exact hs b (List.mem_append_left _ hb)

open DirtyHistory

theorem length_tickets (h : List DirtyCall) : (after h).tickets.length = h.count .ticket := by
  induction h using List.reverseRecOn with
  | nil => rfl
  | append_singleton h a ih =>
    rw [after_snoc, List.count_append, ← ih]
    cases a <;> simp [step]

/-- **A ticket holds the versions of the moment when it was taken.** -/
theorem getElem?_tickets (h : List DirtyCall) (n : Nat) (t : DirtyTicket) :
    (after h).tickets[n]? = some t ↔
      ∃ j, Takes h j n ∧ (after (h.take j)).set.ticket = t := by
  induction h using List.reverseRecOn with
  | nil => simp [empty, Takes]
  | append_singleton h a ih =>
    have htake : ∀ j ≤ h.length, (h ++ [a]).take j = h.take j := fun j hj =>
      List.take_append_of_le_length hj
    -- only taking a ticket adds one, with the versions of that moment
    have hstep : ((after h).step a).tickets[n]? = some t ↔
        (after h).tickets[n]? = some t ∨
          (a = .ticket ∧ h.count .ticket = n ∧ (after h).set.ticket = t) := by
      cases a with
      | ticket =>
        rw [step, getElem?_snoc, length_tickets]
        simp [eq_comm]
      | markFile p us => simp [step]
      | markUnit u => simp [step]
      | complete u m => simp [step]
    rw [after_snoc, hstep, ih]
    simp only [takes_snoc, or_and_right, exists_or, and_assoc, exists_eq_left]
    refine or_congr (exists_congr fun j => and_congr_right fun hj => ?_) ?_
    · rw [htake j (Nat.le_of_lt hj.lt)]
    · rw [htake h.length (Nat.le_refl _), List.take_length]

theorem ticket_of_takes {h : List DirtyCall} {j n : Nat} (hj : Takes h j n) :
    (after h).ticket n = (after (h.take j)).set.ticket := by
  have hget := (getElem?_tickets h n _).2 ⟨j, hj, rfl⟩
  simp [ticket, hget]

/-- A ticket that was never taken saw nothing. -/
theorem ticket_of_not_takes {h : List DirtyCall} {n : Nat} (hnone : ¬ ∃ j, Takes h j n) :
    (after h).ticket n = .empty := by
  cases hget : (after h).tickets[n]? with
  | none => simp [ticket, hget]
  | some t =>
    obtain ⟨j, hj, -⟩ := (getElem?_tickets h n t).1 hget
    exact absurd ⟨j, hj⟩ hnone

/-- **A ticket saw the present version of a mark exactly if the mark was not renewed since.** -/
theorem saw_iff {h : List DirtyCall} {n : Nat} (hu : (after h).set.Carries u c) :
    ((after h).ticket n).stamp u c = (after h).set.stamp u c ↔
      ∃ j, Takes h j n ∧ ¬ Renewed h u c j h.length := by
  obtain ⟨v, hv⟩ := hu.exists_stamp
  have hthen : ∀ j, Takes h j n →
      (((after h).ticket n).stamp u c = some v ↔ ¬ Renewed h u c j h.length) := by
    intro j hj
    -- the ticket is that of the history up to it; the version is that of the whole
    rw [← h.take_append_drop j] at hv
    rw [ticket_of_takes hj, DirtySet.stamp_ticket, stamp_since _ _ hv, not_renewed_iff hj]
  rw [hv]
  constructor
  · intro hsaw
    -- a ticket that was never taken shows no version, so it cannot have seen this one
    have htaken : ∃ j, Takes h j n := by
      by_contra hnone
      rw [ticket_of_not_takes hnone] at hsaw
      cases c <;> cases hsaw
    obtain ⟨j, hj⟩ := htaken
    exact ⟨j, hj, (hthen j hj).1 hsaw⟩
  · rintro ⟨j, hj, hnone⟩
    exact (hthen j hj).2 hnone

/-! ## Layer F: the set and its history -/

/-- **A unit waits for a cause exactly if a mark of its history stands.** -/
theorem carries_iff_stands (h : List DirtyCall) (u : UnitId) (c : DirtyCause) :
    (after h).set.Carries u c ↔ Stands h u c := by
  induction h using List.reverseRecOn with
  | nil => cases c <;> simp [DirtySet.Carries, Stands, empty, DirtySet.empty, Table.contains]
  | append_singleton h a ih =>
    -- the set and the history change alike: what the ticket saw was not renewed since
    rw [after_snoc, carries_step (kept_after h), stands_snoc, ← ih]
    refine or_congr Iff.rfl (and_congr_right fun hu => not_congr (exists_congr fun n => ?_))
    exact and_congr_right fun _ => saw_iff hu

end DirtyBook

namespace DirtySet

variable {d : DirtySet} {u : UnitId}

/-- A unit has to be rebuilt if there is a cause. -/
theorem Kept.isDirty_iff_carries (h : d.Kept) (u : UnitId) :
    d.isDirty u = true ↔ (∃ p, d.Carries u (.file p)) ∨ d.Carries u .unit := by
  rw [h.toSound.isDirty_iff, or_comm]
  refine or_congr ?_ Option.isSome_iff_exists.symm
  constructor
  · -- files are kept under normalized paths, so the spelling does not matter
    rintro ⟨p, f, hf, hu⟩
    rw [Table.get?_congr _ (h.normal p f hf)] at hf
    exact ⟨p, f, hf, hu⟩
  · rintro ⟨p, f, hf, hu⟩
    exact ⟨p.normalize, f, hf, hu⟩

end DirtySet

namespace DirtyBook

open DirtyHistory

/-- Every call that marks a file names an owner. -/
def Owned (h : List DirtyCall) : Prop := ∀ p us, DirtyCall.markFile p us ∈ h → us ≠ []

theorem awaited_step {b : DirtyBook} {a : DirtyCall} (h : b.set.Kept) (hb : b.set.Awaited)
    (ha : ∀ p us, a = .markFile p us → us ≠ []) : (b.step a).set.Awaited := by
  cases a with
  | markFile q us =>
    intro p f hf
    rw [step, DirtySet.get?_markFile] at hf
    split at hf
    · obtain rfl := Option.some.inj hf
      -- a file is marked for somebody, so somebody waits for it
      obtain ⟨u, hu⟩ := List.exists_mem_of_ne_nil us (ha q us rfl)
      exact ⟨u, KeySet.mem_insertAll.2 (Or.inl hu)⟩
    · exact hb p f hf
  | markUnit u => exact hb
  | ticket => exact hb
  | complete v n =>
    intro p f hf
    rw [step, DirtySet.finish, DirtySet.get?_complete h.toSound] at hf
    obtain ⟨f', hf', hc⟩ := Option.bind_eq_some_iff.1 hf
    exact DirtySet.awaited_completeFile (hb p f' hf') hc

theorem awaited_after {h : List DirtyCall} (howned : Owned h) : (after h).set.Awaited := by
  induction h using List.reverseRecOn with
  | nil => intro p f hf; cases hf
  | append_singleton h a ih =>
    rw [after_snoc]
    apply awaited_step (kept_after h)
    · exact ih fun p us hmem => howned p us (List.mem_append_left _ hmem)
    · rintro p us rfl
      exact howned p us (by simp)

/-- What completing a unit against a ticket answers. -/
def answer (b : DirtyBook) (u : UnitId) (n : Nat) : Bool := (b.set.finish u (b.ticket n)).2

/-- **A dirty set is exact**, whatever tickets are outstanding: a unit waits for a file, or carries
a mark of its own, exactly if such a mark of the history stands; it is dirty, and is listed to be
rebuilt, exactly if one of its marks stands; completing it answers whether it is clean from then on;
and the set is clean exactly if no unit is listed. -/
theorem after_is_exact (h : List DirtyCall) (howned : Owned h) :
    let d := (after h).set
    (∀ u p, (∃ f, d.files.get? p.normalize = some f ∧ u ∈ f.pending.toList) ↔
      Stands h u (.file p)) ∧
    (∀ u, d.units.contains u = true ↔ Stands h u .unit) ∧
    (∀ u, d.isDirty u = true ↔ (∃ p, Stands h u (.file p)) ∨ Stands h u .unit) ∧
    (∀ u, u ∈ d.pendingUnits.toList ↔ (∃ p, Stands h u (.file p)) ∨ Stands h u .unit) ∧
    (∀ u n, (after h).answer u n = true ↔
      (after (h ++ [.complete u n])).set.isDirty u = false) ∧
    (d.isClean = true ↔ d.pendingUnits.isEmpty = true) := by
  have hkept := kept_after h
  -- a unit is dirty if it carries a mark of either kind
  have hdirty : ∀ u, (after h).set.isDirty u = true ↔
      (∃ p, Stands h u (.file p)) ∨ Stands h u .unit := by
    intro u
    simp only [hkept.isDirty_iff_carries, carries_iff_stands]
  refine ⟨fun u p => carries_iff_stands h u (.file p), fun u => carries_iff_stands h u .unit,
    hdirty, ?_, ?_, hkept.toSound.isClean_iff (awaited_after howned)⟩
  · intro u
    rw [hkept.toSound.mem_pendingUnits, hdirty]
  · intro u n
    rw [after_snoc, answer, DirtySet.finish, Bool.not_eq_true']
    show (((after h).set.complete u _).isDirty u = false ↔ _)
    rfl

/-- A file changes again, under another spelling of its path, while one of its units is built. -/
def lateEdit : List DirtyCall :=
  let core : UnitId := ⟨"core", "core", .lib⟩
  [.markFile ⟨"/w/src/lib.rs"⟩ [core], .ticket,
    .markFile ⟨"/w/./src/lib.rs"⟩ [⟨"core", "core", .test⟩], .complete core 0]

/-- The late edit keeps the unit dirty, though it named another owner; a second build clears it. -/
theorem late_edit_is_kept :
    let core : UnitId := ⟨"core", "core", .lib⟩
    Owned lateEdit ∧ Stands lateEdit core (.file ⟨"/w/src/lib.rs"⟩) ∧ ¬ Stands lateEdit core .unit ∧
      (after (lateEdit ++ [.ticket, .complete core 1])).set.isDirty core = false := by
  intro core
  -- no file of the example is marked for nobody
  have howned : ∀ h, (∀ a ∈ h, a ∈ lateEdit ++ [.ticket]) → Owned h := by
    intro h hsub p us hmem
    have hcall := hsub _ hmem
    simp only [lateEdit, List.cons_append, List.nil_append, List.mem_cons, List.not_mem_nil,
      DirtyCall.markFile.injEq, or_false, reduceCtorEq, false_or] at hcall
    rcases hcall with ⟨-, rfl⟩ | ⟨-, rfl⟩ <;> simp
  have hlate : Owned lateEdit := howned _ fun a ha => List.mem_append_left _ ha
  have hticket : Owned (lateEdit ++ [.ticket]) := howned _ fun a ha => ha
  obtain ⟨hfile, hunit, -⟩ := after_is_exact lateEdit hlate
  obtain ⟨-, -, -, -, hanswer, -⟩ := after_is_exact _ hticket
  refine ⟨hlate, (hfile core _).1 ⟨⟨2, ⟨[core, ⟨"core", "core", .test⟩]⟩⟩, ?_, ?_⟩, ?_, ?_⟩
  · decide +kernel
  · decide +kernel
  · rw [← hunit core]
    decide +kernel
  · exact (hanswer core 1).1 (by decide +kernel)

end DirtyBook

end CodeAtlas
