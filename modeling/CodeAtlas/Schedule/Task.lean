/-!
# Tasks

A task runs a job on a worker and is joined later. A token tells the job that its result is no
longer wanted; jobs look at it when it suits them.

## Architecture

- **Layer A**: one job, its faults and what joining it gives;
- **Layer B**: two producers that race for an answer.
-/

namespace CodeAtlas

/-! ## Layer A: one job -/

/-- A time in milliseconds as it is shown: seconds from one second on, and nothing as
nanoseconds. -/
def shownMillis (ms : Nat) : String :=
  if ms == 0 then "0ns"
  else if ms < 1000 then toString ms ++ "ms"
  else
    let part := (toString (1000 + ms % 1000)).toList.drop 1
    let part := (part.reverse.dropWhile (· == '0')).reverse
    toString (ms / 1000) ++ (if part.isEmpty then "" else "." ++ String.ofList part) ++ "s"

/-- Why a task has no result (`TaskError`). -/
inductive TaskFault where
  | cancelled
  | panicked (message : String)
  | late (deadlineMs : Nat)
  deriving Repr, DecidableEq, Inhabited

/-- The wording of a fault. -/
def TaskFault.message : TaskFault → String
  | .cancelled => "task cancelled"
  | .panicked message => "task panicked: " ++ message
  | .late ms => "deadline of " ++ shownMillis ms ++ " exceeded"

/-- What a job does. -/
inductive Job (α : Type) where
  | answer (a : α)
  /-- Breaks down; a breakdown need not come with a text. -/
  | panic (message : Option String)
  /-- Ends as if it had been cancelled. -/
  | giveUp
  /-- Cancels its own token before it answers. -/
  | lateAnswer (a : α)
  /-- Goes on until it is cancelled. -/
  | spin
  deriving Repr, DecidableEq, Inhabited

/-- How a task is joined. -/
inductive JoinMode where
  /-- Waits for the result, also for one that comes after a cancellation. -/
  | wait
  /-- Gives up as soon as the token is cancelled. -/
  | orCancel
  deriving Repr, DecidableEq, Inhabited

namespace Job

variable {α : Type}

/-- What a breakdown says if it comes without a text (`panic_payload_to_str`). -/
def wordless : String := "<non-string panic payload>"

/-- The result of a job by itself. -/
def result : Job α → Except TaskFault α
  | .answer a => .ok a
  | .panic message => .error (.panicked (message.getD wordless))
  | .giveUp => .error .cancelled
  | .lateAnswer a => .ok a
  | .spin => .error .cancelled

/-- Whether a job cancels its own token. -/
def cancelsItself : Job α → Bool
  | .lateAnswer _ => true
  | _ => false

/-- **What joining a task gives**, and whether its token is cancelled afterwards. A task whose token
is cancelled before it starts never runs; `stopped` cancels it right after the start. -/
def join (j : Job α) (before stopped : Bool) (mode : JoinMode) : Except TaskFault α × Bool :=
  if before then (.error .cancelled, true)
  else
    let after := stopped || j.cancelsItself
    if after && mode == .orCancel then (.error .cancelled, after) else (j.result, after)

end Job

/-- The number of workers of a pool that was asked for so many (`with_workers`). -/
def poolSize (asked : Nat) : Nat := max asked 1

/-! ## Layer B: races

Two producers look for an answer, and the first one that has one wins. A producer that ends without
an answer does not. The race is over when both have ended, or at a deadline. -/

/-- What a producer does: when it ends, if ever, and with which answer, if any. -/
structure Producer (α : Type) where
  endsAfter : Option Nat
  answer : Option α
  deriving Repr, DecidableEq, Inhabited

/-- Who won (`RaceWinner`). -/
inductive Winner where
  | primary
  | fallback
  deriving Repr, DecidableEq, Inhabited

/-- The written name of a winner. -/
def Winner.name : Winner → String
  | .primary => "Primary"
  | .fallback => "Fallback"

namespace Producer

variable {α : Type}

/-- When a producer answers, and what. -/
def answered? (p : Producer α) : Option (Nat × α) :=
  match p.endsAfter, p.answer with
  | some t, some a => some (t, a)
  | _, _ => none

end Producer

/-- The first answer of two producers; of two at the same time the first producer's. -/
def firstAnswer {α : Type} (primary fallback : Producer α) : Option (Nat × Winner × α) :=
  match primary.answered?, fallback.answered? with
  | some (s, a), some (t, b) => some (if s ≤ t then (s, .primary, a) else (t, .fallback, b))
  | some (s, a), none => some (s, .primary, a)
  | none, some (t, b) => some (t, .fallback, b)
  | none, none => none

/-- When both producers have ended. -/
def bothEnd? {α : Type} (primary fallback : Producer α) : Option Nat :=
  match primary.endsAfter, fallback.endsAfter with
  | some s, some t => some (max s t)
  | _, _ => none

/-- **The outcome of a race** with a deadline, in milliseconds (`race_with_deadline`). -/
def race {α : Type} (deadline : Nat) (primary fallback : Producer α) :
    Except TaskFault (Option (Winner × α)) :=
  match firstAnswer primary fallback with
  | some (t, w, a) => if t < deadline then .ok (some (w, a)) else .error (.late deadline)
  | none =>
    match bothEnd? primary fallback with
    | some t => if t < deadline then .ok none else .error (.late deadline)
    | none => .error (.late deadline)

/-- When a race is over. -/
def raceEnd {α : Type} (deadline : Nat) (primary fallback : Producer α) : Nat :=
  min deadline <|
    match firstAnswer primary fallback with
    | some (t, _, _) => t
    | none => (bothEnd? primary fallback).getD deadline

end CodeAtlas
