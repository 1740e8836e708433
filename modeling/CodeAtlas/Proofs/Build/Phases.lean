import CodeAtlas.Proofs.Build.System

/-!
# Control among its callers

Control alone, as a transition system. Requests, waits that are over (those that were replaced
since included), other attempts and halts may come at any time and in any order, and a build that
runs may end at any time with any result. Nothing is assumed of how far a build is when it ends, so
what is proved here holds of builds that are cancelled before they know their project, too.

The system keeps the builds that were begun and have not ended. Control does not read them.

## Architecture

- **Layer A**: calls, steps and runs;
- **Layer B**: the joint invariant of phases, builds and timers;
- **Layer C**: every call keeps it;
- **Layer D**: runs.
-/

namespace CodeAtlas

open BuildSystem (next_enter)

/-! ## Layer A: calls and runs -/

/-- A build, as it was asked for. -/
abbrev Launch := Nat × Priority

/-- The builds that an action of control begins. -/
def Move.begins (m : Move) : List Launch :=
  m.effects.filterMap fun
    | .begin build p => some (build, p)
    | .tell _ | .arm _ | .disarm => none

/-- **What is done to control**: each call is one hold of the lock on `State`. -/
inductive ControlCall where
  | request (priority : Priority)
  /-- A wait for changes to stop is over, be it one that was replaced since. -/
  | debounce
  | retry
  | halt (fault : BuildFault)
  | finish (launch : Launch) (summary : Option BuildSummary) (duration : Nat)
  /-- What edits and the running build write besides, as they like. -/
  | update (graph : Option UnitGraph) (queued : Table UnitId Bool) (attempts : Table UnitId Nat)

namespace ControlCall

/-- The action of control. -/
def move (t : BuildTiming) (c : Control) : ControlCall → Move
  | request p => c.request t p
  | debounce => c.debounceFired
  | retry => c.retryFired
  | halt fault => c.halt fault
  | finish _ summary duration => c.finishPass summary duration
  | update graph queued attempts =>
    ⟨{ c with graph := graph, queued := queued, attempts := attempts }, []⟩

/-- The builds that still run once the call is made. -/
def left (running : List Launch) : ControlCall → List Launch
  | finish launch _ _ => running.erase launch
  | _ => running

/-- Control at the point where the call begins a build, if it does: the build that ends is gone, a
request for a full build has lifted the halt and the wait, and a wait that is over is none. -/
def ready (c : Control) : ControlCall → Control
  | request .full => { c with halted := none, armed := false }
  | debounce => { c with armed := false }
  | finish _ _ duration =>
    { c with running := none, queued := .empty, lastDuration := some duration, pending := none }
  | request .normal | retry | halt _ | update _ _ _ => c

end ControlCall

/-- **Control, and the builds that run** (`run_pass`). -/
structure ControlSystem where
  control : Control := {}
  running : List Launch := []

namespace ControlSystem

/-- Only a build that runs can end. -/
def Allows (s : ControlSystem) : ControlCall → Prop
  | .finish launch _ _ => launch ∈ s.running
  | _ => True

def step (t : BuildTiming) (s : ControlSystem) (a : ControlCall) : ControlSystem :=
  let m := a.move t s.control
  ⟨m.next, a.left s.running ++ m.begins⟩

/-- **Runs**, with the builds that they begin. -/
inductive Run (t : BuildTiming) : ControlSystem → List Launch → ControlSystem → Prop
  | stay (s : ControlSystem) : Run t s [] s
  | step {s s' : ControlSystem} {begun : List Launch} (h : Run t s begun s') (a : ControlCall)
      (ha : s'.Allows a) : Run t s (begun ++ (a.move t s'.control).begins) (s'.step t a)

end ControlSystem

/-! ## Layer B: the invariant -/

/-- **What control is like before building ends.** -/
structure Control.Orderly (c : Control) : Prop where
  shutdown : c.shutdown = false
  pending : c.pending.isSome = true → c.running.isSome = true
  resting : c.running = none →
    (c.phase = .idle ∧ c.armed = false) ∨ (c.phase = .debouncing ∧ c.armed = true)
  queued : c.phase = .queuedRebuild → c.pending.isSome = true

/-- The build that control takes to run. -/
def Control.launches (c : Control) : List Launch := c.running.toList.map (c.builds, ·)

/-- **An action on `c` begins a build** (`start_pass`), when control has become `ready` and the
builds `left` go on. -/
structure Move.Starts (m : Move) (c ready : Control) (left : List Launch) : Prop where
  /-- No other build goes on, -/
  alone : left = []
  /-- and control knows of none. -/
  idle : ready.running = none
  /-- A normal build is not halted: neither before the action nor when it begins. -/
  begins : ∃ p, (p = .normal → c.halted = none ∧ ready.halted = none) ∧
    m.next = (ready.startPass p).next ∧ m.begins = (ready.startPass p).begins

/-- **What an action on `c` may do**, when control becomes `ready` and the builds `left` go on. -/
structure Move.Fair (m : Move) (c ready : Control) (left : List Launch) : Prop where
  orderly : m.next.Orderly
  running : m.next.launches = left ++ m.begins
  starts : m.begins = [] ∨ m.Starts c ready left
  /-- A full build that is to follow begins, or goes on to be the one that is to follow. -/
  full : c.pending = some .full →
    (∃ build, (build, .full) ∈ m.begins) ∨ m.next.pending = some .full

/-- Only what is halted and what is to follow matters of the control before. -/
theorem Move.Fair.congr {m : Move} {c c' ready : Control} {left : List Launch}
    (h : m.Fair c ready left) (hhalted : c'.halted = c.halted)
    (hpending : c'.pending = c.pending) : m.Fair c' ready left where
  orderly := h.orderly
  running := h.running
  starts := h.starts.imp_right fun hstarts =>
    ⟨hstarts.alone, hstarts.idle, hhalted ▸ hstarts.begins⟩
  full := hpending ▸ h.full

variable {t : BuildTiming} {c ready : Control} {p : Priority}

theorem Move.begins_andThen (m : Move) (f : Control → Move) :
    (m.andThen f).begins = m.begins ++ (f m.next).begins := by
  simp [Move.begins, Move.andThen]

@[simp] theorem Control.begins_enter (c : Control) (p : Phase) : (c.enter p).begins = [] := by
  unfold Control.enter
  split <;> rfl

theorem Control.begins_startPass (c : Control) (p : Priority) :
    (c.startPass p).begins = [(c.builds + 1, p)] := by
  unfold Control.startPass
  simp only
  rw [Move.begins_andThen, begins_enter]
  rfl

theorem Control.next_startPass (c : Control) (p : Priority) :
    (c.startPass p).next = { c with
      builds := c.builds + 1, running := some p, pending := none, phase := .building } := by
  unfold Control.startPass Move.andThen
  simp only [next_enter]

theorem Control.orderly_new : Orderly {} where
  shutdown := rfl
  pending := nofun
  resting _ := Or.inl ⟨rfl, rfl⟩
  queued := nofun

/-! ## Layer C: calls -/

/-- An action that begins no build leaves those that run. -/
theorem Move.fair_of_quiet {m : Move} {n : Control} {left : List Launch} (hnext : m.next = n)
    (hbegins : m.begins = []) (horderly : n.Orderly) (hrunning : n.launches = left)
    (hfull : c.pending = some .full → n.pending = some .full) : m.Fair c ready left where
  orderly := hnext ▸ horderly
  running := by rw [hnext, hbegins, List.append_nil, hrunning]
  starts := Or.inl hbegins
  full h := Or.inr (hnext ▸ hfull h)

/-- A build that begins is the only one. -/
theorem Move.fair_of_start {m : Move} (hnext : m.next = (ready.startPass p).next)
    (hbegins : m.begins = (ready.startPass p).begins) (hshutdown : ready.shutdown = false)
    (hrunning : ready.running = none)
    (hhalted : p = .normal → c.halted = none ∧ ready.halted = none)
    (hfull : c.pending = some .full → p = .full) : m.Fair c ready [] where
  orderly := by
    rw [hnext, Control.next_startPass]
    exact ⟨hshutdown, nofun, nofun, nofun⟩
  running := by
    rw [hnext, hbegins, Control.next_startPass, Control.begins_startPass]
    rfl
  starts := Or.inr ⟨rfl, hrunning, p, hhalted, hnext, hbegins⟩
  full h := by
    obtain rfl := hfull h
    exact Or.inl ⟨ready.builds + 1, by rw [hbegins, Control.begins_startPass]; simp⟩

namespace Control

theorem launches_of_none (h : c.running = none) : c.launches = [] := by
  simp [launches, h]

/-- A build that is asked for when no wait is under way begins, follows, or is refused. -/
theorem fair_enqueue (hshutdown : c.shutdown = false)
    (hpending : c.pending.isSome = true → c.running.isSome = true)
    (hqueued : c.phase = .queuedRebuild → c.pending.isSome = true) (harmed : c.armed = false)
    (p : Priority) : (c.enqueue p).Fair c c c.launches := by
  unfold enqueue
  by_cases hbusy : c.running.isSome = true
  · have hnot : ¬ c.running = none := Option.isSome_iff_ne_none.1 hbusy
    have hnone : c.running.isNone = false := Option.isNone_eq_false_iff.2 hbusy
    simp only [hbusy, hnone, if_true, Bool.false_eq_true, if_false]
    split
    · exact Move.fair_of_quiet rfl rfl
        ⟨hshutdown, hpending, fun hidle => absurd hidle hnot, hqueued⟩ rfl id
    · -- it follows the one that runs, and does not take the place of a full one
      refine Move.fair_of_quiet (next_enter _ _) (begins_enter _ _)
        ⟨hshutdown, fun _ => hbusy, fun hidle => absurd hidle hnot, fun _ => rfl⟩ rfl ?_
      intro hfull
      simp [hfull, Priority.atLeast]
  · have hrunning : c.running = none := by simpa using hbusy
    have hnone : c.pending = none := by simpa [hrunning] using hpending
    simp only [hrunning, Option.isNone_none, Option.isSome_none, if_true, Bool.false_eq_true,
      if_false]
    split
    · -- refused: nothing is built and nothing waits
      exact Move.fair_of_quiet (next_enter c .idle) (begins_enter c .idle)
        ⟨hshutdown, hpending, fun _ => Or.inl ⟨rfl, harmed⟩, nofun⟩ rfl id
    · rename_i hallowed
      rw [launches_of_none hrunning]
      refine Move.fair_of_start rfl rfl hshutdown hrunning ?_ ?_
      · rintro rfl
        have hhalted : c.halted = none := by simpa [hshutdown] using hallowed
        exact ⟨hhalted, hhalted⟩
      · intro hfull
        rw [hnone] at hfull
        cases hfull

/-- A full build that is asked for lifts a halt and replaces a normal one that waits. -/
theorem requestFull_eq (c : Control) :
    let c' := { c with halted := none, armed := false }
    let m := if c'.running.isSome then
      { c'.cancelAll with pending := some .full }.enter .queuedRebuild else c'.startPass .full
    c.requestFull.next = m.next ∧ c.requestFull.begins = m.begins := by
  obtain ⟨_, _, _, armed, _⟩ := c
  cases armed with
  | true => exact ⟨rfl, Move.begins_andThen _ _⟩
  | false => exact ⟨rfl, Move.begins_andThen _ _⟩

variable (h : c.Orderly)
include h

theorem Orderly.fair_debounceFired :
    c.debounceFired.Fair c (ControlCall.debounce.ready c) c.launches := by
  -- a late action disarms a newer wait, which `resting` would not allow by itself
  have hfair := fair_enqueue (c := { c with armed := false }) h.shutdown h.pending h.queued rfl
  exact (hfair .normal).congr rfl rfl

theorem Orderly.fair_retryFired : c.retryFired.Fair c c c.launches := by
  unfold retryFired
  split
  · exact Move.fair_of_quiet rfl rfl h rfl id
  · rename_i harmed
    exact fair_enqueue h.shutdown h.pending h.queued (by simpa using harmed) .normal

theorem Orderly.fair_halt (fault : BuildFault) : (c.halt fault).Fair c c c.launches :=
  Move.fair_of_quiet rfl rfl ⟨h.shutdown, h.pending, h.resting, h.queued⟩ rfl id

theorem Orderly.fair_requestNormal (t : BuildTiming) :
    (c.requestNormal t).Fair c c c.launches := by
  unfold requestNormal
  split
  · -- halted, or a full build follows anyway
    exact Move.fair_of_quiet rfl rfl h rfl id
  · rename_i hopen
    refine Move.fair_of_quiet (n := { c with armed := true, phase := .debouncing }) ?_ ?_
      ⟨h.shutdown, h.pending, fun _ => Or.inr ⟨rfl, rfl⟩, nofun⟩ rfl ?_
    · simp [Move.andThen]
    · rw [Move.begins_andThen, begins_enter]
      rfl
    · intro hfull
      simp [hfull] at hopen

/-- What a full build that is asked for comes to: it begins, or is to follow. -/
theorem Orderly.fair_requestFull :
    c.requestFull.Fair c ((ControlCall.request .full).ready c) c.launches ∧
      ((∃ build, (build, .full) ∈ c.requestFull.begins) ∨
        c.requestFull.next.pending = some .full) := by
  obtain ⟨hnext, hbegins⟩ := c.requestFull_eq
  by_cases hbusy : c.running.isSome = true
  · -- a build is running, so the one asked for is to follow
    have hnot : ¬ c.running = none := Option.isSome_iff_ne_none.1 hbusy
    simp only [hbusy, if_true, next_enter, begins_enter] at hnext hbegins
    refine ⟨Move.fair_of_quiet hnext hbegins ?_ rfl fun _ => rfl, Or.inr (by rw [hnext])⟩
    exact ⟨h.shutdown, fun _ => hbusy, fun hidle => absurd hidle hnot, fun _ => rfl⟩
  · -- none is running, so it begins
    have hrunning : c.running = none := by simpa using hbusy
    simp only [hbusy, Bool.false_eq_true, if_false] at hnext hbegins
    rw [launches_of_none hrunning]
    refine ⟨Move.fair_of_start hnext hbegins h.shutdown hrunning nofun fun _ => rfl, Or.inl ?_⟩
    rw [hbegins, begins_startPass]
    exact ⟨_, List.mem_singleton.2 rfl⟩

theorem Orderly.fair_finishPass (launch : Launch) (summary : Option BuildSummary)
    (duration : Nat) :
    (c.finishPass summary duration).Fair c
      ((ControlCall.finish launch summary duration).ready c) [] := by
  unfold finishPass
  simp only
  have htold : ∀ c' : Control, (⟨c', summary.toList.map fun s => .tell (.finished s)⟩ : Move).begins
      = [] := by
    intro c'
    cases summary <;> rfl
  cases hnext : c.following with
  | none =>
    refine Move.fair_of_quiet (next_enter _ _) ?_ ⟨h.shutdown, nofun, ?_, ?_⟩ rfl ?_
    · rw [Move.begins_andThen, htold, begins_enter]
      rfl
    · -- whether a wait goes on decides which of the two it is
      intro _
      simp only
      cases c.armed <;> simp
    · simp only
      cases c.armed <;> simp
    · -- a full build is never refused
      intro hfull
      simp [following, h.shutdown, hfull] at hnext
  | some p =>
    have hpending : c.pending = some p ∧ (p = .normal → c.halted = none ∧ c.halted = none) := by
      unfold following at hnext
      split at hnext
      · cases hnext
      · rename_i hopen
        refine ⟨hnext, ?_⟩
        rintro rfl
        simpa [h.shutdown, hnext] using hopen
    refine Move.fair_of_start rfl ?_ h.shutdown rfl hpending.2 ?_
    · rw [Move.begins_andThen, htold]
      rfl
    · intro hfull
      rw [hpending.1] at hfull
      exact Option.some.inj hfull

theorem Orderly.fair_request (t : BuildTiming) (p : Priority) :
    (c.request t p).Fair c ((ControlCall.request p).ready c) c.launches := by
  unfold request
  simp only [h.shutdown, Bool.false_eq_true, if_false]
  cases p with
  | full => exact h.fair_requestFull.1
  | normal => exact h.fair_requestNormal t

end Control

/-! ## Layer D: runs -/

namespace ControlSystem

variable {s s' : ControlSystem} {a : ControlCall} {begun : List Launch}

/-- What holds in every run: control is orderly, and knows which build runs. -/
structure Sound (s : ControlSystem) : Prop where
  orderly : s.control.Orderly
  running : s.running = s.control.launches

/-- **Every call is fair.** -/
theorem Sound.fair_move (h : s.Sound) (t : BuildTiming) (ha : s.Allows a) :
    (a.move t s.control).Fair s.control (a.ready s.control) (a.left s.running) := by
  rw [h.running]
  cases a with
  | request p => exact h.orderly.fair_request t p
  | debounce => exact h.orderly.fair_debounceFired
  | retry => exact h.orderly.fair_retryFired
  | halt fault => exact h.orderly.fair_halt fault
  | finish launch summary duration =>
    -- the build that ends was the only one
    have hnil : s.control.launches.erase launch = [] := by
      have hmem : launch ∈ s.control.launches := h.running ▸ ha
      unfold Control.launches at hmem ⊢
      cases hrunning : s.control.running with
      | none => rfl
      | some p =>
        rw [hrunning] at hmem
        rw [List.mem_singleton.1 hmem]
        simp
    show (s.control.finishPass summary duration).Fair s.control _
      (s.control.launches.erase launch)
    rw [hnil]
    exact h.orderly.fair_finishPass launch summary duration
  | update graph queued attempts =>
    exact Move.fair_of_quiet rfl rfl
      ⟨h.orderly.shutdown, h.orderly.pending, h.orderly.resting, h.orderly.queued⟩ rfl id

theorem sound_new : Sound {} := ⟨Control.orderly_new, rfl⟩

theorem Sound.step (h : s.Sound) (t : BuildTiming) (ha : s.Allows a) : (s.step t a).Sound := by
  have hfair := h.fair_move t ha
  exact ⟨hfair.orderly, hfair.running.symm⟩

theorem Run.sound {t : BuildTiming} (h : Run t s begun s') (hs : s.Sound) : s'.Sound := by
  induction h with
  | stay => exact hs
  | step _ a ha ih => exact ih.step t ha

/-- A full build that is to follow begins before anything else does. -/
theorem Run.pending_full {t : BuildTiming} (h : Run t s begun s') (hs : s.Sound)
    (hfull : s.control.pending = some .full) :
    (∃ build, (build, .full) ∈ begun) ∨ s'.control.pending = some .full := by
  induction h with
  | stay => exact Or.inr hfull
  | step h a ha ih =>
    rcases ih with ⟨build, hmem⟩ | hpending
    · exact Or.inl ⟨build, List.mem_append_left _ hmem⟩
    · rcases ((h.sound hs).fair_move t ha).full hpending with ⟨build, hmem⟩ | hpending
      · exact Or.inl ⟨build, List.mem_append_right _ hmem⟩
      · exact Or.inr hpending

/-- **The state machine of the build queue.** In every run, whatever calls come in whatever order,
at most one build runs, and control knows whether one does; another build is to follow only if one
runs; a queue without a build is idle and unarmed, or waits and is armed; and in the phase before
another build there is such a build.
A call begins a build only if no other goes on, which control knows by then, and a normal one only
while normal builds are not halted. A full build that is asked for begins at once, or is the one
that is to follow until a full build begins. -/
theorem run_is_orderly (t : BuildTiming) (s : ControlSystem) (begun : List Launch)
    (h : Run t {} begun s) :
    (s.running.length ≤ 1 ∧ (s.running = [] ↔ s.control.running = none)) ∧
    (s.control.pending.isSome = true → s.control.running.isSome = true) ∧
    (s.control.running = none →
      (s.control.phase = .idle ∧ s.control.armed = false) ∨
        (s.control.phase = .debouncing ∧ s.control.armed = true)) ∧
    (s.control.phase = .queuedRebuild → s.control.pending.isSome = true) ∧
    (∀ a, s.Allows a →
      (a.move t s.control).begins = [] ∨
        (a.move t s.control).Starts s.control (a.ready s.control) (a.left s.running)) ∧
    ((∃ build, (build, .full) ∈ ((ControlCall.request .full).move t s.control).begins) ∨
      ∀ begun' s', Run t (s.step t (.request .full)) begun' s' →
        (∃ build, (build, .full) ∈ begun') ∨ s'.control.pending = some .full) := by
  have hsound := h.sound sound_new
  have horderly := hsound.orderly
  refine ⟨?_, horderly.pending, horderly.resting, horderly.queued,
    fun a ha => (hsound.fair_move t ha).starts, ?_⟩
  · rw [hsound.running, Control.launches]
    cases s.control.running <;> simp
  · -- control is open in every run, so the request is not refused
    have hasked : (ControlCall.request .full).move t s.control = s.control.requestFull := by
      simp [ControlCall.move, Control.request, horderly.shutdown]
    rw [hasked]
    refine horderly.fair_requestFull.2.imp_right fun hpending begun' s' hrun => ?_
    have hthen : (s.step t (.request .full)).Sound := hsound.step t trivial
    refine hrun.pending_full hthen ?_
    rw [ControlSystem.step, hasked]
    exact hpending

/-- A normal build runs, a full one is asked for, and a wait ends that was replaced long ago. -/
def lateWait : ControlSystem :=
  let running := (({} : ControlSystem).step {} (.request .normal)).step {} .debounce
  (running.step {} (.request .full)).step {} .debounce

/-- The normal build ends. -/
def firstEnds : ControlCall := .finish (1, .normal) none 0

/-- The full build still follows the normal one, and nothing else runs. -/
theorem late_wait_is_orderly :
    (∃ begun, Run {} {} begun lateWait) ∧ lateWait.running.length ≤ 1 ∧
      lateWait.control.phase = .queuedRebuild ∧ lateWait.control.pending.isSome = true ∧
      (firstEnds.move {} lateWait.control).Starts lateWait.control
        (firstEnds.ready lateWait.control) [] := by
  have hrun : Run {} {} [(1, .normal)] lateWait :=
    ((((Run.stay {}).step (.request .normal) trivial).step .debounce trivial).step
      (.request .full) trivial).step .debounce trivial
  obtain ⟨⟨hone, -⟩, -, -, hqueued, hcalls, -⟩ := run_is_orderly {} lateWait _ hrun
  refine ⟨⟨_, hrun⟩, hone, rfl, hqueued rfl, ?_⟩
  -- the build that is to follow begins when the other ends
  rcases hcalls firstEnds (List.mem_singleton.2 rfl) with hnone | hstarts
  · exact absurd hnone (by decide)
  · exact hstarts

end ControlSystem

end CodeAtlas
