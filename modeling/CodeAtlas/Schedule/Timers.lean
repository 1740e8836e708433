import CodeAtlas.Ordered.Sorting
import CodeAtlas.Ordered.Table

/-!
# Keyed timers

Delayed actions, at most one per key: scheduling a key again replaces what was pending under it. An
action can also be cancelled through the handle that scheduling gives; its key then stays taken
until it is cancelled or scheduled again.

## Architecture

- **Layer A**: timers and handles;
- **Layer B**: scheduling and cancelling;
- **Layer C**: the passing of time.
-/

namespace CodeAtlas

/-! ## Layer A: timers and handles -/

/-- An action that waits for its time. -/
structure Timer (κ α : Type) where
  /-- The number by which handles know it. -/
  id : Nat
  key : κ
  due : Nat
  action : α
  deriving Repr, DecidableEq, Inhabited

/-- **The timers** (`KeyedDebouncer`). -/
structure Timers (κ α : Type) where
  now : Nat
  nextId : Nat
  /-- Actions that wait, in the order in which they were scheduled. -/
  waiting : List (Timer κ α)
  /-- The keys that are taken, each with the number of its last action. -/
  taken : Table κ Nat
  /-- The numbers of cancelled actions. -/
  cancelled : List Nat
  deriving Repr, DecidableEq

namespace Timers

variable {κ α : Type}

/-- No timers. -/
def empty : Timers κ α := ⟨0, 1, [], Table.empty, []⟩

instance : Inhabited (Timers κ α) := ⟨empty⟩

/-- Whether an action was cancelled (`is_cancelled`). -/
def isCancelled (t : Timers κ α) (id : Nat) : Bool := t.cancelled.contains id

/-- Cancels an action through its handle (`cancel`). -/
def cancelHandle (t : Timers κ α) (id : Nat) : Timers κ α :=
  { t with
    waiting := t.waiting.filter fun a => a.id != id
    cancelled := id :: t.cancelled }

variable [Ord κ]

/-- Whether a key is taken (`is_pending`). -/
def isPending (t : Timers κ α) (key : κ) : Bool := t.taken.contains key

/-! ## Layer B: scheduling and cancelling -/

/-- **Cancels what is pending under a key**, and says whether anything was (`cancel`). -/
def revoke (t : Timers κ α) (key : κ) : Timers κ α × Bool :=
  match t.taken.get? key with
  | none => (t, false)
  -- also if that action was cancelled through its handle before
  | some id => ({ t.cancelHandle id with taken := t.taken.erase key }, true)

/-- The timers without what is pending under a key. -/
def cancel (t : Timers κ α) (key : κ) : Timers κ α := (t.revoke key).1

/-- **Schedules an action**, in place of what is pending under its key. The action's number is
`nextId`. -/
def schedule (t : Timers κ α) (key : κ) (delay : Nat) (action : α) : Timers κ α :=
  -- one action per key: what was pending never runs
  let t := t.cancel key
  { t with
    nextId := t.nextId + 1
    waiting := t.waiting ++ [⟨t.nextId, key, t.now + delay, action⟩]
    taken := t.taken.insert key t.nextId }

/-! ## Layer C: time -/

/-- The action that is due first by a time, the earlier scheduled one of two. -/
def firstDue (t : Timers κ α) (time : Nat) : Option (Timer κ α) :=
  (sortBy Timer.due (t.waiting.filter fun a => a.due ≤ time)).head?

/-- Takes out an action whose time has come; its key is free if no other took it since. -/
def fire (t : Timers κ α) (a : Timer κ α) : Timers κ α :=
  { t with
    now := max t.now a.due
    waiting := t.waiting.filter fun b => b.id != a.id
    -- the key may have been taken by another action since
    taken := if t.taken.get? a.key == some a.id then t.taken.erase a.key else t.taken }

/-- Lets time pass while nothing new is scheduled, and gives the actions that ran in order. -/
def drain (time : Nat) : Nat → Timers κ α → Timers κ α × List (κ × α)
  | 0, t => (t, [])
  | fuel + 1, t =>
    match t.firstDue time with
    | none => (t, [])
    | some a =>
      let (t, ran) := drain time fuel (t.fire a)
      (t, (a.key, a.action) :: ran)

/-- **Lets time pass.** -/
def advance (t : Timers κ α) (duration : Nat) : Timers κ α × List (κ × α) :=
  let time := t.now + duration
  let (t, ran) := drain time t.waiting.length t
  ({ t with now := time }, ran)

end Timers

end CodeAtlas
