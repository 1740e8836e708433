import CodeAtlas.Proofs.Ordered.Sorting
import CodeAtlas.Proofs.Schedule.Timers

/-!
# What becomes of scheduled actions

An action ends in one of four ways: its time comes, another action is scheduled under its key, its
key is cancelled, or it is cancelled through its handle. Which of them happens can be read off the
calls that follow, for each action on its own. The timers keep a table of keys beside the actions
that wait, and all four ways have to keep the two in step.

Three of them do. Cancelling through a handle takes the action out and leaves its key taken, so a
key is taken until its last action has run or the key is cancelled.

## Architecture

- **Layer A**: what becomes of an action in the rest of a session;
- **Layer B**: what a key has, call by call;
- **Layer C**: timers in which what waits holds its key, and what a key has in them;
- **Layer D**: cancelling and scheduling;
- **Layer E**: the passing of time;
- **Layer F**: whole sessions, and the main result.
-/

namespace CodeAtlas

namespace Timers

variable {κ α : Type}

/-! ## Layer A: what becomes of an action -/

/-- A call of the timers (`Debouncer`, `DebouncedHandle`), or the passing of time. -/
inductive Call (κ α : Type) where
  | schedule (key : κ) (delay : Nat) (action : α)
  | cancel (key : κ)
  /-- Cancels through the handle of the action with a number. -/
  | cancelHandle (id : Nat)
  | advance (duration : Nat)
  deriving Repr, DecidableEq

/-- Whether a call schedules an action. -/
def Call.schedules : Call κ α → Bool
  | .schedule .. => true
  | _ => false

/-- The number of the action that is scheduled next after some calls. -/
def numberAfter (calls : List (Call κ α)) : Nat := calls.countP Call.schedules + 1

/-- What becomes of an action. -/
inductive Fate where
  | waiting
  /-- Its time came. -/
  | ran
  /-- Another action was scheduled under its key. -/
  | replaced
  /-- Its key was cancelled. -/
  | revoked
  /-- It was cancelled through its handle. -/
  | withdrawn
  deriving Repr, DecidableEq

section Fate

variable [DecidableEq κ]

/-- The actions that ran under a key, in order. -/
def ranUnder (key : κ) (ran : List (κ × α)) : List α :=
  ran.filterMap fun r => if r.1 = key then some r.2 else none

/-- **What becomes of an action** with some time left, under the calls that follow. -/
def fate (key : κ) (id : Nat) : (left : Nat) → List (Call κ α) → Fate
  | _, [] => .waiting
  | left, .schedule k _ _ :: rest => if k = key then .replaced else fate key id left rest
  | left, .cancel k :: rest => if k = key then .revoked else fate key id left rest
  | left, .cancelHandle i :: rest => if i = id then .withdrawn else fate key id left rest
  | left, .advance duration :: rest =>
    if left ≤ duration then .ran else fate key id (left - duration) rest

/-- The actions scheduled under a key whose time comes, each once and in the order in which they
were scheduled; `id` is the number of the next action. -/
def elapsed (key : κ) : (id : Nat) → List (Call κ α) → List α
  | _, [] => []
  | id, .schedule k delay action :: rest =>
    if k = key ∧ fate key id delay rest = .ran then action :: elapsed key (id + 1) rest
    else elapsed key (id + 1) rest
  | id, .cancel _ :: rest => elapsed key id rest
  | id, .cancelHandle _ :: rest => elapsed key id rest
  | id, .advance _ :: rest => elapsed key id rest

/-- Only what was scheduled under the key elapses. -/
theorem exists_call_of_mem_elapsed {key : κ} {action : α} {id : Nat} {calls : List (Call κ α)}
    (h : action ∈ elapsed key id calls) : ∃ delay, .schedule key delay action ∈ calls := by
  induction calls generalizing id with
  | nil => cases h
  | cons c rest ih =>
    have hrest : ∀ {id}, action ∈ elapsed key id rest →
        ∃ delay, .schedule key delay action ∈ c :: rest := by
      intro id h
      obtain ⟨delay, hmem⟩ := ih h
      exact ⟨delay, List.mem_cons_of_mem _ hmem⟩
    -- only scheduling under the key can add to what elapses there
    cases c with
    | cancel | cancelHandle | advance => exact hrest h
    | schedule k delay a =>
      simp only [elapsed] at h
      split at h
      · rename_i hran
        obtain ⟨rfl, -⟩ := hran
        rcases List.mem_cons.1 h with rfl | h
        · exact ⟨delay, List.mem_cons_self ..⟩
        · exact hrest h
      · exact hrest h

/-- **An action that is scheduled once elapses once or not at all**, as its fate says. -/
theorem count_elapsed [DecidableEq α] {key : κ} {action : α} {id delay : Nat}
    {before after : List (Call κ α)}
    (hbefore : ∀ d, .schedule key d action ∉ before)
    (hafter : ∀ d, .schedule key d action ∉ after) :
    (elapsed key id (before ++ .schedule key delay action :: after)).count action =
      if fate key (id + before.countP Call.schedules) delay after = .ran then 1 else 0 := by
  -- on the calls before it, each of which may take a number
  induction before generalizing id with
  | nil =>
    have hnone : (elapsed key (id + 1) after).count action = 0 := by
      refine List.count_eq_zero.2 fun hmem => ?_
      obtain ⟨d, hd⟩ := exists_call_of_mem_elapsed hmem
      exact hafter d hd
    rw [List.countP_nil, Nat.add_zero, List.nil_append, elapsed]
    by_cases hran : fate key id delay after = .ran
    · rw [if_pos ⟨rfl, hran⟩, if_pos hran, List.count_cons_self, hnone]
    · rw [if_neg fun hand => hran hand.2, if_neg hran, hnone]
  | cons c rest ih =>
    have ih := fun id => @ih id fun d hd => hbefore d (List.mem_cons_of_mem _ hd)
    cases c with
    | cancel | cancelHandle | advance => simpa [elapsed, Call.schedules] using ih id
    | schedule k d a =>
      have hnumber : id + (Call.schedule k d a :: rest).countP Call.schedules =
          id + 1 + rest.countP Call.schedules := by
        simp only [List.countP_cons, Call.schedules, if_true]
        omega
      rw [hnumber, List.cons_append, elapsed]
      split
      · rename_i hk
        obtain ⟨rfl, -⟩ := hk
        have hne : a ≠ action := by
          rintro rfl
          exact hbefore d (List.mem_cons_self ..)
        rw [List.count_cons_of_ne hne, ih]
      · exact ih (id + 1)

end Fate

/-! ## Layer B: keys, call by call -/

/-- What a key has. -/
inductive Hold (α : Type) where
  | free
  | waiting (id left : Nat) (action : α)
  /-- What was scheduled last under the key was cancelled through its handle. -/
  | spent (id : Nat)

section Hold

variable [DecidableEq κ] {key : κ} {s : Hold α}

/-- **What a call makes of a key**; `next` is the number of the next action. -/
def Hold.after (key : κ) (next : Nat) : Hold α → Call κ α → Hold α
  | s, .schedule k delay action => if k = key then .waiting next delay action else s
  | s, .cancel k => if k = key then .free else s
  | .waiting id left action, .cancelHandle i =>
    if i = id then .spent id else .waiting id left action
  | .waiting id left action, .advance duration =>
    if left ≤ duration then .free else .waiting id (left - duration) action
  | .free, _ => .free
  | .spent id, _ => .spent id

/-- What runs under a key during a call. -/
def Hold.runs : Hold α → Call κ α → List α
  | .waiting _ left action, .advance duration => if left ≤ duration then [action] else []
  | _, _ => []

/-- What runs in a session of what waits under a key at its beginning. -/
def Hold.yields (key : κ) : Hold α → List (Call κ α) → List α
  | .waiting id left action, calls => if fate key id left calls = .ran then [action] else []
  | _, _ => []

theorem Hold.yields_cons (key : κ) (next : Nat) (s : Hold α) (c : Call κ α)
    (rest : List (Call κ α)) :
    s.yields key (c :: rest) ++ elapsed key next (c :: rest) =
      s.runs c ++ ((s.after key next c).yields key rest ++
        elapsed key (next + if c.schedules then 1 else 0) rest) := by
  -- only a call that has to do with the key changes what becomes of its action
  cases c with
  | schedule k delay action =>
    by_cases hk : k = key
    · by_cases hran : fate key next delay rest = .ran
      · cases s <;> simp [yields, elapsed, runs, after, fate, Call.schedules, hk, hran]
      · cases s <;> simp [yields, elapsed, runs, after, fate, Call.schedules, hk, hran]
    · cases s <;> simp [yields, elapsed, runs, after, fate, Call.schedules, hk]
  | cancel k =>
    by_cases hk : k = key
    · cases s <;> simp [yields, elapsed, runs, after, fate, Call.schedules, hk]
    · cases s <;> simp [yields, elapsed, runs, after, fate, Call.schedules, hk]
  | cancelHandle i =>
    cases s with
    | free | spent => simp [yields, elapsed, runs, after, Call.schedules]
    | waiting id left action =>
      by_cases hi : i = id
      · simp [yields, elapsed, runs, after, fate, Call.schedules, hi]
      · simp [yields, elapsed, runs, after, fate, Call.schedules, hi]
  | advance duration =>
    cases s with
    | free | spent => simp [yields, elapsed, runs, after, Call.schedules]
    | waiting id left action =>
      by_cases hdue : left ≤ duration
      · simp [yields, elapsed, runs, after, fate, Call.schedules, hdue]
      · simp [yields, elapsed, runs, after, fate, Call.schedules, hdue]

/-- Whether a key is still taken after a session in which nothing is scheduled under it. -/
def Hold.Lasts (key : κ) : Hold α → List (Call κ α) → Prop
  | .free, _ => False
  | .waiting id left _, calls =>
    fate key id left calls = .waiting ∨
      fate key id left calls = .withdrawn ∧ .cancel key ∉ calls
  | .spent _, calls => .cancel key ∉ calls

theorem Hold.lasts_cons {next : Nat} {c : Call κ α} {rest : List (Call κ α)}
    (hc : ∀ delay action, c ≠ .schedule key delay action) :
    s.Lasts key (c :: rest) ↔ (s.after key next c).Lasts key rest := by
  -- the first call changes what the key has as it changes the fate of what waits there
  cases c with
  | schedule k delay action =>
    have hk : k ≠ key := by
      rintro rfl
      exact hc delay action rfl
    cases s <;> simp [Lasts, after, fate, hk]
  | cancel k =>
    by_cases hk : k = key
    · cases s <;> simp [Lasts, after, fate, hk]
    · cases s <;> simp [Lasts, after, fate, hk, @eq_comm κ key]
  | cancelHandle i =>
    cases s with
    | free | spent => simp [Lasts, after]
    | waiting id left action =>
      by_cases hi : i = id
      · simp [Lasts, after, fate, hi]
      · simp [Lasts, after, fate, hi]
  | advance duration =>
    cases s with
    | free | spent => simp [Lasts, after]
    | waiting id left action =>
      by_cases hdue : left ≤ duration
      · simp [Lasts, after, fate, hdue]
      · simp [Lasts, after, fate, hdue]

end Hold

/-- The last action that is scheduled under a key, if any is. -/
theorem exists_last (key : κ) (calls : List (Call κ α)) :
    (∀ delay action, .schedule key delay action ∉ calls) ∨
      ∃ before delay action since, calls = before ++ .schedule key delay action :: since ∧
        ∀ d a, .schedule key d a ∉ since := by
  induction calls with
  | nil => exact .inl fun _ _ => List.not_mem_nil
  | cons c rest ih =>
    rcases ih with hnone | ⟨before, delay, action, since, rfl, hlast⟩
    · -- none behind it: then this call is the last one, if it is one
      by_cases hc : ∃ delay action, c = .schedule key delay action
      · obtain ⟨delay, action, rfl⟩ := hc
        exact .inr ⟨[], delay, action, rest, rfl, hnone⟩
      · refine .inl fun d a hmem => ?_
        rcases List.mem_cons.1 hmem with heq | hmem
        · exact hc ⟨d, a, heq.symm⟩
        · exact hnone d a hmem
    · exact .inr ⟨c :: before, delay, action, since, rfl, hlast⟩

/-! ## Layer C: what waits holds its key -/

section Kept

variable [Ord κ] {t : Timers κ α}

/-- **Timers whose table of keys covers what waits.** -/
structure Kept (t : Timers κ α) : Prop extends t.Sound where
  held : ∀ a ∈ t.waiting, t.taken.get? a.key = some a.id

theorem kept_empty : (empty : Timers κ α).Kept := ⟨sound_empty, by simp [empty]⟩

/-- What waits under the key of an action is that action. -/
theorem Kept.eq_of_key (h : t.Kept) {a b : Timer κ α} (ha : a ∈ t.waiting) (hb : b ∈ t.waiting)
    (hkey : b.key = a.key) : b = a := by
  have hid : some b.id = some a.id := by rw [← h.held b hb, hkey, h.held a ha]
  exact List.inj_on_of_nodup_map h.nodup hb ha (Option.some.inj hid)

theorem Kept.cancelHandle (h : t.Kept) (id : Nat) : (t.cancelHandle id).Kept where
  nodup := h.nodup.sublist (List.filter_sublist.map _)
  below a ha := h.below a (List.mem_filter.1 ha).1
  taken k i hi := ⟨(h.taken k i hi).1, fun a ha => (h.taken k i hi).2 a (List.mem_filter.1 ha).1⟩
  held a ha := h.held a (List.mem_filter.1 ha).1

/-- An action takes its key with it when its time comes. -/
theorem Kept.taken_fire (h : t.Kept) {a : Timer κ α} (ha : a ∈ t.waiting) :
    (t.fire a).taken = t.taken.erase a.key := by
  simp [Timers.fire, h.held a ha]

theorem Kept.mem_fire (h : t.Kept) {a : Timer κ α} (ha : a ∈ t.waiting) (b : Timer κ α) :
    b ∈ (t.fire a).waiting ↔ b ∈ t.waiting ∧ b ≠ a := by
  show b ∈ t.waiting.filter _ ↔ _
  simp only [List.mem_filter, bne_iff_ne, ne_eq]
  refine and_congr_right fun hb => not_congr ⟨fun heq => ?_, congrArg _⟩
  exact List.inj_on_of_nodup_map h.nodup hb ha heq

/-- What waits is an action and what still waits when its time has come. -/
theorem Kept.perm_fire (h : t.Kept) {a : Timer κ α} (ha : a ∈ t.waiting) :
    t.waiting.Perm (a :: (t.fire a).waiting) := by
  show t.waiting.Perm (a :: t.waiting.filter fun b => b.id != a.id)
  have hnodup := h.nodup
  revert ha hnodup
  generalize t.waiting = l
  intro ha hnodup
  induction l with
  | nil => cases ha
  | cons b rest ih =>
    rw [List.map_cons, List.nodup_cons] at hnodup
    rcases List.mem_cons.1 ha with rfl | ha
    · -- numbers are given once, so nothing else goes with it
      have hrest : (rest.filter fun b => b.id != a.id) = rest := by
        refine List.filter_eq_self.2 fun b hb => ?_
        simp only [bne_iff_ne, ne_eq]
        exact fun heq => hnodup.1 (heq ▸ List.mem_map_of_mem hb)
      simp [hrest]
    · have hne : b.id ≠ a.id := fun heq => hnodup.1 (heq ▸ List.mem_map_of_mem ha)
      rw [List.filter_cons_of_pos (by simpa using hne)]
      exact ((ih ha hnodup.2).cons b).trans (.swap ..)

/-- What is due by a time, as it is listed when it runs. -/
def dueBy (t : Timers κ α) (time : Nat) : List (κ × α) :=
  (t.waiting.filter fun a => a.due ≤ time).map fun a => (a.key, a.action)

/-- What is due by a time is an action, if it is, and what of the rest is. -/
theorem Kept.perm_dueBy (h : t.Kept) {a : Timer κ α} (ha : a ∈ t.waiting) (time : Nat) :
    (t.dueBy time).Perm
      ((if a.due ≤ time then [(a.key, a.action)] else []) ++ (t.fire a).dueBy time) := by
  have hperm := ((h.perm_fire ha).filter fun b => b.due ≤ time).map fun b => (b.key, b.action)
  rw [List.filter_cons] at hperm
  split
  · rename_i hdue
    rwa [if_pos (by simpa using hdue)] at hperm
  · rename_i hdue
    rwa [if_neg (by simpa using hdue)] at hperm

/-- **What is due under a key is what waits there.** -/
theorem Kept.ranUnder_dueBy [DecidableEq κ] (h : t.Kept) {a : Timer κ α} (ha : a ∈ t.waiting)
    (time : Nat) : ranUnder a.key (t.dueBy time) = if a.due ≤ time then [a.action] else [] := by
  -- nothing else waits under the key
  have hrest : ranUnder a.key ((t.fire a).dueBy time) = [] := by
    refine List.filterMap_eq_nil_iff.2 fun r hr => if_neg ?_
    obtain ⟨b, hb, rfl⟩ := List.mem_map.1 hr
    obtain ⟨hb, hne⟩ := (h.mem_fire ha b).1 (List.mem_filter.1 hb).1
    exact fun hkey => hne (h.eq_of_key ha hb hkey)
  have hperm := (h.perm_dueBy ha time).filterMap fun r => if r.1 = a.key then some r.2 else none
  rw [List.filterMap_append] at hperm
  change (ranUnder a.key (t.dueBy time)).Perm (_ ++ ranUnder a.key _) at hperm
  rw [hrest, List.append_nil] at hperm
  split
  · rename_i hdue
    rw [if_pos hdue] at hperm
    simpa using hperm
  · rename_i hdue
    rw [if_neg hdue] at hperm
    simpa using hperm

/-- A key of the timers has something. -/
def Holds (t : Timers κ α) (key : κ) : Hold α → Prop
  | .free => t.taken.get? key = none
  | .waiting id left action =>
    t.taken.get? key = some id ∧
      ∃ a ∈ t.waiting, a.id = id ∧ a.key = key ∧ a.action = action ∧ a.due - t.now = left
  | .spent id => t.taken.get? key = some id ∧ ∀ a ∈ t.waiting, a.key ≠ key

/-- At first every key is free. -/
theorem holds_empty (key : κ) : (empty : Timers κ α).Holds key .free := Table.get?_empty key

theorem Kept.exists_holds (h : t.Kept) (key : κ) : ∃ s, t.Holds key s := by
  cases htaken : t.taken.get? key with
  | none => exact ⟨.free, htaken⟩
  | some id =>
    by_cases hwaits : ∃ a ∈ t.waiting, a.key = key
    · obtain ⟨a, ha, rfl⟩ := hwaits
      obtain rfl := Option.some.inj ((h.held a ha).symm.trans htaken)
      exact ⟨.waiting a.id (a.due - t.now) a.action, htaken, a, ha, rfl, rfl, rfl, rfl⟩
    · exact ⟨.spent id, htaken, fun a ha hkey => hwaits ⟨a, ha, hkey⟩⟩

omit [Ord κ] in
/-- Where nothing waits under a key, nothing is due there. -/
theorem ranUnder_dueBy_of_ne [DecidableEq κ] {key : κ} (h : ∀ a ∈ t.waiting, a.key ≠ key)
    (time : Nat) : ranUnder key (t.dueBy time) = [] := by
  refine List.filterMap_eq_nil_iff.2 fun r hr => if_neg ?_
  obtain ⟨a, ha, rfl⟩ := List.mem_map.1 hr
  exact h a (List.mem_filter.1 ha).1

/-- A key that is free is taken by nothing that waits. -/
theorem Kept.ne_of_free (h : t.Kept) {key : κ} (hfree : t.taken.get? key = none) :
    ∀ a ∈ t.waiting, a.key ≠ key := by
  rintro a ha rfl
  rw [h.held a ha] at hfree
  cases hfree

variable [DecidableEq κ] {key : κ} {s : Hold α}

/-- **Only the handle of what waits under a key changes what the key has**, and the key stays
taken. -/
theorem Holds.cancelHandle (hs : t.Holds key s) (h : t.Kept) (i : Nat) :
    (t.cancelHandle i).Holds key (s.after key t.nextId (.cancelHandle i)) := by
  cases s with
  | free => exact hs
  | spent id => exact ⟨hs.1, fun a ha => hs.2 a (List.mem_filter.1 ha).1⟩
  | waiting id left action =>
    obtain ⟨htaken, a, ha, rfl, rfl, rfl, rfl⟩ := hs
    simp only [Hold.after]
    split
    · rename_i hi
      subst hi
      -- the key is still taken, though nothing waits under it any more
      refine ⟨htaken, fun b hb hkey => ?_⟩
      obtain ⟨hb, hne⟩ := List.mem_filter.1 hb
      obtain rfl := h.eq_of_key ha hb hkey
      simp at hne
    · rename_i hi
      refine ⟨htaken, a, List.mem_filter.2 ⟨ha, ?_⟩, rfl, rfl, rfl, rfl⟩
      simpa using fun heq => hi heq.symm

end Kept

/-! ## Layer D: cancelling and scheduling -/

section Updates

variable [Ord κ] [Std.TransOrd κ] [Std.LawfulEqOrd κ] {t : Timers κ α}

private theorem get?_erase_self (taken : Table κ Nat) (key : κ) :
    (taken.erase key).get? key = none := by
  rw [Table.get?_erase, if_pos Std.ReflCmp.compare_self]

/-- **What cancelling a key comes to**: the key is free, nothing waits under it, and other keys have
what they had. -/
theorem Kept.cancel_spec (h : t.Kept) (key : κ) :
    (t.cancel key).taken.get? key = none ∧
      (∀ j, j ≠ key → (t.cancel key).taken.get? j = t.taken.get? j) ∧
      (∀ a, a ∈ (t.cancel key).waiting ↔ a ∈ t.waiting ∧ a.key ≠ key) ∧
      (t.cancel key).now = t.now ∧ (t.cancel key).nextId = t.nextId := by
  unfold Timers.cancel Timers.revoke
  split
  · rename_i hnone
    exact ⟨hnone, fun j hj => rfl, fun a => ⟨fun ha => ⟨ha, h.ne_of_free hnone a ha⟩, And.left⟩,
      rfl, rfl⟩
  · rename_i id hid
    refine ⟨get?_erase_self .., fun j hj => Table.get?_erase_of_ne hj _, fun a => ?_, rfl, rfl⟩
    -- the number in the table is that of what waits under the key, and of nothing else
    have hnumber : ∀ ha : a ∈ t.waiting, a.id = id ↔ a.key = key := by
      intro ha
      constructor
      · exact fun heq => Std.LawfulEqOrd.eq_of_compare ((h.taken key id hid).2 a ha heq)
      · rintro rfl
        exact Option.some.inj ((h.held a ha).symm.trans hid)
    constructor
    · intro ha
      obtain ⟨ha, hne⟩ := List.mem_filter.1 ha
      exact ⟨ha, fun hkey => by simp [(hnumber ha).2 hkey] at hne⟩
    · rintro ⟨ha, hkey⟩
      exact List.mem_filter.2 ⟨ha, by simpa using fun heq => hkey ((hnumber ha).1 heq)⟩

theorem Kept.cancel (h : t.Kept) (key : κ) : (t.cancel key).Kept where
  toSound := h.toSound.cancel key
  held := by
    obtain ⟨-, hother, hwaiting, -, -⟩ := h.cancel_spec key
    intro a ha
    obtain ⟨ha, hkey⟩ := (hwaiting a).1 ha
    rw [hother a.key hkey, h.held a ha]

theorem Kept.schedule (h : t.Kept) (key : κ) (delay : Nat) (action : α) :
    (t.schedule key delay action).Kept where
  toSound := h.toSound.schedule key delay action
  held := by
    obtain ⟨-, -, hwaiting, -, -⟩ := h.cancel_spec key
    intro a ha
    simp only [Timers.schedule] at ha ⊢
    rcases List.mem_append.1 ha with ha | ha
    · rw [Table.get?_insert_of_ne ((hwaiting a).1 ha).2]
      exact (h.cancel key).held a ha
    · obtain rfl := List.mem_singleton.1 ha
      exact Table.get?_insert_self ..

section Keys

variable [DecidableEq κ] {key : κ} {s : Hold α}

theorem Holds.cancel (hs : t.Holds key s) (h : t.Kept) (k : κ) :
    (t.cancel k).Holds key (if k = key then .free else s) := by
  obtain ⟨hfree, hother, hwaiting, hnow, -⟩ := h.cancel_spec k
  split
  · rename_i hk
    subst hk
    exact hfree
  · rename_i hk
    -- another key has what it had before
    have hk : key ≠ k := fun heq => hk heq.symm
    cases s with
    | free => exact (hother key hk).trans hs
    | waiting id left action =>
      obtain ⟨htaken, a, ha, rfl, rfl, rfl, rfl⟩ := hs
      exact ⟨(hother a.key hk).trans htaken, a, (hwaiting a).2 ⟨ha, hk⟩, rfl, rfl, rfl,
        by rw [hnow]⟩
    | spent id =>
      exact ⟨(hother key hk).trans hs.1, fun a ha => hs.2 a ((hwaiting a).1 ha).1⟩

theorem Holds.schedule (hs : t.Holds key s) (h : t.Kept) (k : κ) (delay : Nat) (action : α) :
    (t.schedule k delay action).Holds key
      (if k = key then .waiting t.nextId delay action else s) := by
  have hcancel := hs.cancel h k
  obtain ⟨-, -, hwaiting, hnow, hnext⟩ := h.cancel_spec k
  by_cases hk : k = key
  · subst hk
    rw [if_pos rfl]
    -- what waited is gone, so the new action is all that waits under the key
    refine ⟨?_, ⟨t.nextId, k, t.now + delay, action⟩, ?_, rfl, rfl, rfl, ?_⟩
    · simp [Timers.schedule, hnext]
    · simp [Timers.schedule, hnext, hnow]
    · simp [Timers.schedule, hnow]
  · rw [if_neg hk] at hcancel ⊢
    have hne : key ≠ k := fun heq => hk heq.symm
    have htaken : (t.schedule k delay action).taken.get? key = (t.cancel k).taken.get? key :=
      Table.get?_insert_of_ne hne _ _
    cases s with
    | free => exact htaken.trans hcancel
    | waiting id left a =>
      obtain ⟨hid, b, hb, hrest⟩ := hcancel
      exact ⟨htaken.trans hid, b, List.mem_append_left _ hb, hrest⟩
    | spent id =>
      refine ⟨htaken.trans hcancel.1, fun a ha => ?_⟩
      rcases List.mem_append.1 ha with ha | ha
      · exact hcancel.2 a ha
      · obtain rfl := List.mem_singleton.1 ha
        exact hk

end Keys

/-! ## Layer E: the passing of time -/

omit [Ord κ] [Std.TransOrd κ] [Std.LawfulEqOrd κ] in
theorem mem_sortBy_due {l : List (Timer κ α)} {a : Timer κ α} :
    a ∈ sortBy Timer.due l ↔ a ∈ l := mem_sortUnder

omit [Ord κ] [Std.TransOrd κ] [Std.LawfulEqOrd κ] in
theorem lt_due_of_firstDue {time : Nat} (h : t.firstDue time = none) :
    ∀ a ∈ t.waiting, time < a.due := by
  intro a ha
  have hnil := List.head?_eq_none_iff.1 h
  by_contra hdue
  have hmem : a ∈ sortBy Timer.due (t.waiting.filter fun a => a.due ≤ time) :=
    mem_sortBy_due.2 (List.mem_filter.2 ⟨ha, by simpa using hdue⟩)
  rw [hnil] at hmem
  cases hmem

omit [Ord κ] [Std.TransOrd κ] [Std.LawfulEqOrd κ] in
theorem mem_of_firstDue {time : Nat} {a : Timer κ α} (h : t.firstDue time = some a) :
    a ∈ t.waiting ∧ a.due ≤ time := by
  simpa using List.mem_filter.1 (mem_sortBy_due.1 (List.mem_of_head? h))

theorem Kept.fire (h : t.Kept) {a : Timer κ α} (ha : a ∈ t.waiting) : (t.fire a).Kept where
  toSound := h.toSound.fire a
  held := by
    intro b hb
    obtain ⟨hb, hne⟩ := (h.mem_fire ha b).1 hb
    have hkey : b.key ≠ a.key := fun hkey => hne (h.eq_of_key ha hb hkey)
    rw [h.taken_fire ha, Table.get?_erase_of_ne hkey, h.held b hb]

/-- **What the passing of time comes to**: everything that is due runs once and frees its key, and
the rest is as it was. -/
structure Drained (t : Timers κ α) (time : Nat) (r : Timers κ α × List (κ × α)) : Prop where
  kept : r.1.Kept
  nextId : r.1.nextId = t.nextId
  ran : r.2.Perm (t.dueBy time)
  waiting : ∀ a, a ∈ r.1.waiting ↔ a ∈ t.waiting ∧ time < a.due
  other : ∀ key, (∀ a ∈ t.waiting, a.key = key → time < a.due) →
    r.1.taken.get? key = t.taken.get? key
  freed : ∀ a ∈ t.waiting, a.due ≤ time → r.1.taken.get? a.key = none

omit [Std.TransOrd κ] [Std.LawfulEqOrd κ] in
/-- When nothing is due, nothing happens. -/
theorem Kept.drained_of_later (h : t.Kept) {time : Nat} (hlater : ∀ a ∈ t.waiting, time < a.due) :
    t.Drained time (t, []) := by
  refine ⟨h, rfl, ?_, fun a => ⟨fun ha => ⟨ha, hlater a ha⟩, And.left⟩, fun _ _ => rfl,
    fun a ha hdue => absurd (hlater a ha) (Nat.not_lt.2 hdue)⟩
  rw [dueBy, List.filter_eq_nil_iff.2 (fun a ha => by simpa using hlater a ha), List.map_nil]

theorem Kept.drained {time fuel : Nat} (h : t.Kept) (hfuel : t.waiting.length ≤ fuel) :
    t.Drained time (drain time fuel t) := by
  induction fuel generalizing t with
  | zero =>
    have hnil : t.waiting = [] := List.length_eq_zero_iff.1 (Nat.le_zero.1 hfuel)
    exact h.drained_of_later (by simp [hnil])
  | succ fuel ih =>
    unfold drain
    cases hfirst : t.firstDue time with
    | none => exact h.drained_of_later (lt_due_of_firstDue hfirst)
    | some a =>
      obtain ⟨ha, hdue⟩ := mem_of_firstDue hfirst
      have hlength : (t.fire a).waiting.length ≤ fuel := by
        have hsize := (h.perm_fire ha).length_eq
        rw [List.length_cons] at hsize
        omega
      have hrest := ih (h.fire ha) hlength
      refine ⟨hrest.kept, hrest.nextId, ?_, ?_, ?_, ?_⟩
      · have hperm := h.perm_dueBy ha time
        rw [if_pos hdue] at hperm
        exact (hrest.ran.cons _).trans hperm.symm
      · intro b
        rw [hrest.waiting, h.mem_fire ha]
        refine ⟨fun hb => ⟨hb.1.1, hb.2⟩, fun hb => ⟨⟨hb.1, ?_⟩, hb.2⟩⟩
        rintro rfl
        exact absurd hb.2 (Nat.not_lt.2 hdue)
      · intro key hlater
        have hkey : key ≠ a.key := fun heq => absurd (hlater a ha heq.symm) (Nat.not_lt.2 hdue)
        rw [hrest.other key fun b hb => hlater b ((h.mem_fire ha b).1 hb).1, h.taken_fire ha,
          Table.get?_erase_of_ne hkey]
      · intro b hb hbdue
        by_cases hba : b = a
        · -- the key was freed just now, and nothing else that waits holds it
          subst hba
          have hgone : ∀ c ∈ (t.fire b).waiting, c.key = b.key → time < c.due := by
            intro c hc hkey
            obtain ⟨hc, hne⟩ := (h.mem_fire ha c).1 hc
            exact absurd (h.eq_of_key ha hc hkey) hne
          rw [hrest.other b.key hgone, h.taken_fire ha, get?_erase_self]
        · exact hrest.freed b ((h.mem_fire ha b).2 ⟨hb, hba⟩) hbdue

theorem Kept.drained_advance (h : t.Kept) (duration : Nat) :
    t.Drained (t.now + duration) (t.advance duration) := by
  obtain ⟨hkept, hnext, hran, hwaiting, hother, hfreed⟩ :
      t.Drained (t.now + duration) (drain (t.now + duration) t.waiting.length t) :=
    h.drained (Nat.le_refl _)
  exact ⟨⟨hkept.toSound.wait _, hkept.held⟩, hnext, hran, hwaiting, hother, hfreed⟩

theorem Holds.advance [DecidableEq κ] {key : κ} {s : Hold α} (hs : t.Holds key s) (h : t.Kept)
    (duration : Nat) :
    (t.advance duration).1.Holds key (s.after key t.nextId (.advance duration)) ∧
      ranUnder key (t.advance duration).2 = s.runs (.advance duration : Call κ α) := by
  have hdrained := h.drained_advance duration
  have hran := hdrained.ran.filterMap fun r => if r.1 = key then some r.2 else none
  change (ranUnder key (t.advance duration).2).Perm (ranUnder key (t.dueBy _)) at hran
  -- nothing waits under a key that is free or spent
  have hquiet : (∀ a ∈ t.waiting, a.key ≠ key) →
      (t.advance duration).1.taken.get? key = t.taken.get? key ∧
        ranUnder key (t.advance duration).2 = [] := by
    intro hne
    refine ⟨hdrained.other key fun a ha hkey => absurd hkey (hne a ha), ?_⟩
    rwa [ranUnder_dueBy_of_ne hne, List.perm_nil] at hran
  cases s with
  | free =>
    obtain ⟨htaken, hnothing⟩ := hquiet (h.ne_of_free hs)
    exact ⟨htaken.trans hs, hnothing⟩
  | spent id =>
    obtain ⟨htaken, hnothing⟩ := hquiet hs.2
    exact ⟨⟨htaken.trans hs.1, fun a ha => hs.2 a ((hdrained.waiting a).1 ha).1⟩, hnothing⟩
  | waiting id left action =>
    obtain ⟨htaken, a, ha, rfl, rfl, rfl, rfl⟩ := hs
    rw [h.ranUnder_dueBy ha] at hran
    simp only [Hold.after, Hold.runs]
    by_cases hdue : a.due ≤ t.now + duration
    · have hleft : a.due - t.now ≤ duration := by omega
      rw [if_pos hdue, List.perm_singleton] at hran
      rw [if_pos hleft, if_pos hleft]
      exact ⟨hdrained.freed a ha hdue, hran⟩
    · have hleft : ¬ a.due - t.now ≤ duration := by omega
      rw [if_neg hdue, List.perm_nil] at hran
      rw [if_neg hleft, if_neg hleft]
      refine ⟨⟨?_, a, (hdrained.waiting a).2 ⟨ha, by omega⟩, rfl, rfl, rfl, ?_⟩, hran⟩
      · rw [hdrained.other a.key fun b hb hkey => by rw [h.eq_of_key ha hb hkey]; omega, htaken]
      · show a.due - (t.now + duration) = _
        omega

/-! ## Layer F: sessions -/

/-- What a call makes of the timers, and the actions that run meanwhile. -/
def perform (t : Timers κ α) : Call κ α → Timers κ α × List (κ × α)
  | .schedule key delay action => (t.schedule key delay action, [])
  | .cancel key => (t.cancel key, [])
  | .cancelHandle id => (t.cancelHandle id, [])
  | .advance duration => t.advance duration

/-- **A session**: the timers after some calls, and all actions that ran. -/
def replay (t : Timers κ α) : List (Call κ α) → Timers κ α × List (κ × α)
  | [] => (t, [])
  | c :: rest =>
    let later := (t.perform c).1.replay rest
    (later.1, (t.perform c).2 ++ later.2)

omit [Std.TransOrd κ] [Std.LawfulEqOrd κ] in
theorem replay_append (t : Timers κ α) (l r : List (Call κ α)) :
    (t.replay (l ++ r)).1 = ((t.replay l).1.replay r).1 := by
  induction l generalizing t with
  | nil => rfl
  | cons c rest ih => exact ih _

theorem Kept.perform (h : t.Kept) (c : Call κ α) : (t.perform c).1.Kept := by
  cases c with
  | schedule key delay action => exact h.schedule key delay action
  | cancel key => exact h.cancel key
  | cancelHandle id => exact h.cancelHandle id
  | advance duration => exact (h.drained_advance duration).kept

theorem Kept.replay (h : t.Kept) (calls : List (Call κ α)) : (t.replay calls).1.Kept := by
  induction calls generalizing t with
  | nil => exact h
  | cons c rest ih => exact ih (h.perform c)

/-- Numbers are given out one after the other. -/
theorem Kept.nextId_perform (h : t.Kept) (c : Call κ α) :
    (t.perform c).1.nextId = t.nextId + if c.schedules then 1 else 0 := by
  cases c with
  | schedule key delay action =>
    obtain ⟨-, -, -, -, hnext⟩ := h.cancel_spec key
    exact congrArg (· + 1) hnext
  | cancel key =>
    obtain ⟨-, -, -, -, hnext⟩ := h.cancel_spec key
    exact hnext
  | cancelHandle id => rfl
  | advance duration => exact (h.drained_advance duration).nextId

theorem Kept.nextId_replay (h : t.Kept) (calls : List (Call κ α)) :
    (t.replay calls).1.nextId = t.nextId + calls.countP Call.schedules := by
  induction calls generalizing t with
  | nil => rfl
  | cons c rest ih =>
    rw [List.countP_cons]
    have hrest := ih (h.perform c)
    rw [h.nextId_perform] at hrest
    exact hrest.trans (by omega)

theorem nextId_replay_empty (calls : List (Call κ α)) :
    ((empty : Timers κ α).replay calls).1.nextId = numberAfter calls := by
  rw [kept_empty.nextId_replay, Nat.add_comm]
  rfl

omit [Std.TransOrd κ] [Std.LawfulEqOrd κ] in
/-- Cancelling a key says whether it was taken. -/
theorem revoke_snd_iff (t : Timers κ α) (key : κ) :
    (t.revoke key).2 = true ↔ t.isPending key = true := by
  unfold Timers.revoke isPending Table.contains
  cases t.taken.get? key <;> simp

section Keys

variable [DecidableEq κ] {key : κ} {s : Hold α}

/-- **What one call makes of a key, and what runs under it meanwhile.** -/
theorem Holds.perform (hs : t.Holds key s) (h : t.Kept) (c : Call κ α) :
    (t.perform c).1.Holds key (s.after key t.nextId c) ∧
      ranUnder key (t.perform c).2 = s.runs c := by
  cases c with
  | schedule k delay action =>
    refine ⟨?_, by cases s <;> rfl⟩
    cases s <;> exact hs.schedule h k delay action
  | cancel k =>
    refine ⟨?_, by cases s <;> rfl⟩
    cases s <;> exact hs.cancel h k
  | cancelHandle i => exact ⟨hs.cancelHandle h i, by cases s <;> rfl⟩
  | advance duration => exact hs.advance h duration

/-- **What runs under a key in a session**: what waits there and what is scheduled, as far as its
time comes. -/
theorem Holds.ranUnder_replay (hs : t.Holds key s) (h : t.Kept) (calls : List (Call κ α)) :
    ranUnder key (t.replay calls).2 = s.yields key calls ++ elapsed key t.nextId calls := by
  induction calls generalizing t s with
  | nil => cases s <;> rfl
  | cons c rest ih =>
    obtain ⟨hnext, hran⟩ := hs.perform h c
    have hrest := ih hnext (h.perform c)
    have happend : ranUnder key (t.replay (c :: rest)).2 =
        ranUnder key (t.perform c).2 ++ ranUnder key ((t.perform c).1.replay rest).2 :=
      List.filterMap_append ..
    rw [happend, hran, hrest, h.nextId_perform, Hold.yields_cons]

theorem Holds.isPending_replay (hs : t.Holds key s) (h : t.Kept) {calls : List (Call κ α)}
    (hlast : ∀ delay action, .schedule key delay action ∉ calls) :
    (t.replay calls).1.isPending key = true ↔ s.Lasts key calls := by
  induction calls generalizing t s with
  | nil =>
    cases s with
    | free =>
      have hfree : t.taken.get? key = none := hs
      simp [replay, isPending, Table.contains, Hold.Lasts, hfree]
    | waiting | spent => simp [replay, isPending, Table.contains, Hold.Lasts, fate, hs.1]
  | cons c rest ih =>
    obtain ⟨hnext, -⟩ := hs.perform h c
    have hrest := ih hnext (h.perform c) fun d a hmem => hlast d a (List.mem_cons_of_mem _ hmem)
    have hc : ∀ d a, c ≠ .schedule key d a := by
      rintro d a rfl
      exact hlast d a (List.mem_cons_self ..)
    exact hrest.trans (Hold.lasts_cons hc).symm

/-- **A key is taken exactly as its last action says.** -/
theorem isPending_replay_last {before since : List (Call κ α)} {delay : Nat} {action : α}
    (hlast : ∀ d a, .schedule key d a ∉ since) :
    ((empty : Timers κ α).replay (before ++ .schedule key delay action :: since)).1.isPending key
        = true ↔
      fate key (numberAfter before) delay since = .waiting ∨
        fate key (numberAfter before) delay since = .withdrawn ∧ .cancel key ∉ since := by
  have hkept := (kept_empty : (empty : Timers κ α).Kept).replay before
  obtain ⟨s, hs⟩ := hkept.exists_holds key
  have hscheduled := hs.schedule hkept key delay action
  rw [if_pos rfl, nextId_replay_empty] at hscheduled
  rw [replay_append]
  exact hscheduled.isPending_replay (hkept.schedule key delay action) hlast

/-- **What runs is exact, and a key is taken until its last action ran or the key was cancelled.**
In every session the actions that run under a key are those whose time comes, each once; an action
that is scheduled once runs once or not at all, as the calls that follow say. A key is taken if its
last action waits, and also if that one was cancelled through its handle, as long as the key itself
is not cancelled. Cancelling a key says whether it was taken. -/
theorem reports_until_run_or_revoked [DecidableEq α] (calls : List (Call κ α)) :
    let r := (empty : Timers κ α).replay calls
    (∀ key, ranUnder key r.2 = elapsed key 1 calls) ∧
      (∀ before key delay action after, calls = before ++ .schedule key delay action :: after →
        (∀ d, .schedule key d action ∉ before ++ after) →
        (empty.replay before).1.nextId = numberAfter before ∧
          (ranUnder key r.2).count action =
            if fate key (numberAfter before) delay after = .ran then 1 else 0) ∧
      (∀ key, r.1.isPending key = true ↔
        ∃ before delay action since, calls = before ++ .schedule key delay action :: since ∧
          (∀ d a, .schedule key d a ∉ since) ∧
          (fate key (numberAfter before) delay since = .waiting ∨
            fate key (numberAfter before) delay since = .withdrawn ∧ .cancel key ∉ since)) ∧
      ∀ key, (r.1.revoke key).2 = true ↔ r.1.isPending key = true := by
  intro r
  have hran : ∀ key, ranUnder key r.2 = elapsed key 1 calls := fun key =>
    (holds_empty key).ranUnder_replay kept_empty calls
  refine ⟨hran, ?_, ?_, ?_⟩
  · rintro before key delay action after rfl hfresh
    refine ⟨nextId_replay_empty before, ?_⟩
    rw [hran, count_elapsed (fun d hd => hfresh d (List.mem_append_left _ hd))
      (fun d hd => hfresh d (List.mem_append_right _ hd)), Nat.add_comm]
    rfl
  · intro key
    constructor
    · intro hpending
      rcases exists_last key calls with hnone | ⟨before, delay, action, since, rfl, hlast⟩
      · -- a key under which nothing was ever scheduled is free
        exact absurd hpending
          ((holds_empty key).isPending_replay kept_empty hnone).1
      · exact ⟨before, delay, action, since, rfl, hlast,
          (isPending_replay_last hlast).1 hpending⟩
    · rintro ⟨before, delay, action, since, rfl, hlast, hfate⟩
      exact (isPending_replay_last hlast).2 hfate
  · intro key
    exact revoke_snd_iff r.1 key

end Keys

end Updates

/-- A burst under one key, beside an action that is cancelled through its handle. -/
def burst : List (Call String Nat) :=
  [.schedule "build" 50 1, .schedule "lint" 30 2, .schedule "build" 50 3, .cancelHandle 2,
    .advance 60]

/-- Of a burst only the last action runs, once, and its key is free then. -/
theorem burst_runs_last :
    burst = burst.take 2 ++ .schedule "build" 50 3 :: burst.drop 3 ∧
      (∀ d, .schedule "build" d 3 ∉ burst.take 2 ++ burst.drop 3) ∧
      ranUnder "build" ((empty : Timers String Nat).replay burst).2 = [3] ∧
      (ranUnder "build" ((empty : Timers String Nat).replay burst).2).count 3 = 1 ∧
      ((empty : Timers String Nat).replay burst).1.isPending "build" = false ∧
      (((empty : Timers String Nat).replay burst).1.revoke "build").2 = false := by
  have hsplit : burst = burst.take 2 ++ .schedule "build" 50 3 :: burst.drop 3 := rfl
  have hfresh : ∀ d, .schedule "build" d 3 ∉ burst.take 2 ++ burst.drop 3 := by
    intro d
    simp [burst]
  obtain ⟨hran, honce, -, hrevoke⟩ := reports_until_run_or_revoked burst
  obtain ⟨-, hcount⟩ := honce _ "build" 50 3 _ hsplit hfresh
  have hfree : ((empty : Timers String Nat).replay burst).1.isPending "build" = false := by
    decide +kernel
  refine ⟨hsplit, hfresh, (hran "build").trans (by decide), hcount.trans (by decide), hfree, ?_⟩
  rw [← Bool.not_eq_true, hrevoke, hfree]
  exact Bool.false_ne_true

/-- **An action that was cancelled through its handle is still reported as pending**, and cancelling
its key claims to have cancelled something. -/
theorem withdrawn_action_is_reported :
    let calls : List (Call String Nat) := [.schedule "build" 50 1, .cancelHandle 1]
    let r := (empty : Timers String Nat).replay calls
    r.1.isPending "build" = true ∧ (r.1.revoke "build").2 = true ∧
      ¬ ∃ before delay action since, calls = before ++ .schedule "build" delay action :: since ∧
        (∀ d a, .schedule "build" d a ∉ since) ∧
        fate "build" (numberAfter before) delay since = .waiting := by
  refine ⟨by decide +kernel, by decide +kernel, ?_⟩
  rintro ⟨before, delay, action, since, heq, -, hfate⟩
  cases before with
  | nil =>
    -- it was scheduled by the first call, and withdrawn by the second one
    obtain ⟨hcall, rfl⟩ := List.cons.inj heq
    cases hcall
    cases hfate
  | cons c rest =>
    cases rest with
    | nil => cases heq
    | cons => simp at heq

end Timers

end CodeAtlas
