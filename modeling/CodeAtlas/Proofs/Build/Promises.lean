import CodeAtlas.Proofs.Build.System

/-!
# What the queue has promised

Whenever a build is asked for, and whenever a timer runs out, some build is to come: one that waits
for changes to stop, one that follows the running one, or one that has begun. The exception is a
project that cannot be discovered, and then normal builds are halted. No action of control takes
such a promise back.

## Architecture

- **Layer A**: promises, and what control is like in every run;
- **Layer B**: what carrying out a move leaves alone;
- **Layer C**: requests, timers and the end of a build;
- **Layer D**: runs.
-/

namespace CodeAtlas

instance : Std.TransOrd TimerKey where
  eq_swap {a b} := by cases a <;> cases b <;> rfl
  isLE_trans {a b c} := by cases a <;> cases b <;> cases c <;> decide

instance : Std.LawfulEqOrd TimerKey where
  eq_of_compare {a b} := by cases a <;> cases b <;> decide
  compare_self {a} := by cases a <;> rfl

/-- An edit cancels units and does nothing else. -/
theorem Control.cancelQueued_eq (c : Control) (us : KeySet UnitId) :
    c.cancelQueued us = { c with queued := (c.cancelQueued us).queued } := by
  unfold Control.cancelQueued
  split <;> rfl

namespace BuildSystem

variable {t : BuildTiming} {s : BuildSystem} {c : Control} {p : Priority}

/-! ## Layer A: promises -/

/-- **A build is to come** that has not decided yet which units it covers, or normal builds are
halted. -/
inductive Promised (s : BuildSystem) : Prop
  | halted (h : s.control.halted.isSome = true)
  /-- It waits for changes to stop. -/
  | armed (h : s.control.armed = true)
  /-- It follows the one that runs. -/
  | pending (h : s.control.pending.isSome = true)
  | begun (build : Nat) (p : Priority) (h : s.stage = .begun build p)
  /-- Normal builds are about to be halted. -/
  | refused (build : Nat) (fault : BuildFault) (h : s.stage = .refused build fault)
  /-- A changed file is being taken note of. -/
  | editing (h : s.editors ≠ [])

/-- A timer for failed units waits, or it ran out and its action is to come. -/
def RetryToCome (s : BuildSystem) : Prop := s.timers.Waits .retry ∨ .retry ∈ s.due

/-- **What control is like in every run.** -/
structure Steady (s : BuildSystem) : Prop where
  shutdown : s.control.shutdown = false
  /-- A build runs as control says. -/
  running : s.control.running.isSome = true ↔ s.stage ≠ .idle
  pending : s.control.pending.isSome = true → s.control.running.isSome = true
  idle : s.control.phase = .idle → s.control.running.isSome = false ∧ s.control.armed = false
  timers : s.timers.Sound

theorem steady_init : Steady {} where
  shutdown := rfl
  running := by simp
  pending := by simp
  idle := by simp
  timers := Timers.sound_empty

/-- Units of the running build are none of control's concern. -/
theorem Steady.update {s' : BuildSystem} (h : s.Steady)
    (hcontrol : s'.control = { s.control with
      graph := s'.control.graph, queued := s'.control.queued, attempts := s'.control.attempts })
    (hstage : s'.stage = .idle ↔ s.stage = .idle) (htimers : s'.timers.Sound) : s'.Steady where
  shutdown := by rw [hcontrol]; exact h.shutdown
  running := by rw [hcontrol, ne_eq, hstage]; exact h.running
  pending := by rw [hcontrol]; exact h.pending
  idle := by rw [hcontrol]; exact h.idle
  timers := htimers

theorem Steady.of_editors (h : s.Steady) (editors : List Editor) :
    Steady { s with editors := editors } :=
  h.update rfl Iff.rfl h.timers

theorem Steady.of_due (h : s.Steady) (due : List TimerKey) : Steady { s with due := due } :=
  h.update rfl Iff.rfl h.timers

theorem Steady.disarm (h : s.Steady) :
    Steady { s with control := { s.control with armed := false } } :=
  ⟨h.shutdown, h.running, h.pending, fun hidle => ⟨(h.idle hidle).1, rfl⟩, h.timers⟩

theorem Promised.update {s' : BuildSystem} (h : s.Promised)
    (hcontrol : s'.control = { s.control with
      graph := s'.control.graph, queued := s'.control.queued, attempts := s'.control.attempts })
    (heditors : s'.editors = s.editors)
    (hstage : ∀ build, (∀ p, s.stage ≠ .begun build p) ∧ ∀ fault, s.stage ≠ .refused build fault) :
    s'.Promised := by
  cases h with
  | halted h => exact .halted (by rw [hcontrol]; exact h)
  | armed h => exact .armed (by rw [hcontrol]; exact h)
  | pending h => exact .pending (by rw [hcontrol]; exact h)
  | begun build p h => exact absurd h ((hstage build).1 p)
  | refused build fault h => exact absurd h ((hstage build).2 fault)
  | editing h => exact .editing (by rw [heditors]; exact h)

theorem Promised.congr {s' : BuildSystem} (h : s.Promised) (hcontrol : s'.control = s.control)
    (hstage : s'.stage = s.stage) (heditors : s'.editors = s.editors) : s'.Promised := by
  cases h with
  | halted h => exact .halted (hcontrol ▸ h)
  | armed h => exact .armed (hcontrol ▸ h)
  | pending h => exact .pending (hcontrol ▸ h)
  | begun build p h => exact .begun build p (hstage.trans h)
  | refused build fault h => exact .refused build fault (hstage.trans h)
  | editing h => exact .editing (heditors ▸ h)

/-- An idle queue that is not halted promises nothing. -/
theorem Steady.not_promised (h : s.Steady) (hidle : s.control.phase = .idle)
    (hhalted : s.control.halted = none) (heditors : s.editors = []) : ¬ s.Promised := by
  obtain ⟨hrunning, harmed⟩ := h.idle hidle
  intro hpromised
  cases hpromised with
  | halted h' => simp [hhalted] at h'
  | armed h' => simp [harmed] at h'
  | pending h' => simp [h.pending h'] at hrunning
  | begun build p h' => simp [h.running.2 (by simp [h'])] at hrunning
  | refused build fault h' => simp [h.running.2 (by simp [h'])] at hrunning
  | editing h' => exact h' heditors

/-! ## Layer B: moves -/

private theorem foldl_perform_frame (es : List Effect) (s : BuildSystem) :
    (es.foldl perform s).dirty = s.dirty ∧ (es.foldl perform s).due = s.due ∧
      (es.foldl perform s).journal = s.journal := by
  induction es generalizing s with
  | nil => exact ⟨rfl, rfl, rfl⟩
  | cons e rest ih =>
    obtain ⟨hdirty, hdue, hjournal⟩ := ih (s.perform e)
    rw [List.foldl_cons, hdirty, hdue, hjournal]
    cases e <;> exact ⟨rfl, rfl, rfl⟩

@[simp] theorem take_dirty (m : Move) : (s.take m).dirty = s.dirty := (foldl_perform_frame _ _).1

@[simp] theorem take_due (m : Move) : (s.take m).due = s.due := (foldl_perform_frame _ _).2.1

@[simp] theorem take_journal (m : Move) : (s.take m).journal = s.journal :=
  (foldl_perform_frame _ _).2.2

/-- Moves of control concern no timer but that of normal builds. -/
theorem take_timers (h : s.timers.Sound) (m : Move) :
    (s.take m).timers.Sound ∧ (s.timers.Waits .retry → (s.take m).timers.Waits .retry) := by
  unfold take
  have hstart : ({ s with control := m.next } : BuildSystem).timers = s.timers := rfl
  rw [← hstart] at h ⊢
  -- the timers do not depend on control, so any state with them will do
  generalize ({ s with control := m.next } : BuildSystem) = s at h ⊢
  induction m.effects generalizing s with
  | nil => exact ⟨h, id⟩
  | cons e rest ih =>
    rw [List.foldl_cons]
    cases e with
    | tell e => exact ih _ h
    | begin build p => exact ih (s.perform (.begin build p)) h
    | arm wait =>
      obtain ⟨hsound, hretry⟩ := ih (s.perform (.arm wait)) (h.schedule ..)
      exact ⟨hsound, fun hw => hretry (h.waits_schedule (by decide) _ _ hw)⟩
    | disarm =>
      obtain ⟨hsound, hretry⟩ := ih (s.perform .disarm) (h.cancel ..)
      exact ⟨hsound, fun hw => hretry (h.waits_cancel (by decide) hw)⟩

/-! ## Layer C: requests and timers -/

/-- **What asking for a build comes to.** -/
structure Asked (s s' : BuildSystem) : Prop where
  steady : s'.Steady
  promised : s'.Promised
  graph : s'.control.graph = s.control.graph
  queued : s'.control.queued = s.control.queued ∨ s'.control.queued = s.control.cancelAll.queued
  /-- A build begins only if none runs, under the next number. -/
  stage : s'.stage = s.stage ∧ s'.control.builds = s.control.builds ∨
    s.stage = .idle ∧ s'.control.builds = s.control.builds + 1 ∧
      ∃ p, s'.stage = .begun (s.control.builds + 1) p

theorem promised_launch : (s.launch c p).Promised := .begun _ _ rfl

theorem steady_launch (hc : c.shutdown = false) (htimers : s.timers.Sound) :
    (s.launch c p).Steady where
  shutdown := hc
  running := by simp [launch]
  pending := by simp [launch]
  idle := by simp [launch]
  timers := htimers

theorem Steady.stage_eq_idle (h : s.Steady) (hrunning : ¬ s.control.running.isSome = true) :
    s.stage = .idle := by
  rw [h.running] at hrunning
  exact not_not.1 hrunning

/-- **A build that is asked for now is promised.** -/
theorem Steady.enqueue (h : s.Steady) (harmed : s.control.armed = false) (p : Priority) :
    Asked s (s.take (s.control.enqueue p)) := by
  rw [take_enqueue s h.shutdown]
  split
  · -- a halted queue goes to rest, and its promise is the halt
    rename_i hhalted
    split
    · rename_i hrunning
      have hnone : s.control.running.isSome = false := by simpa using hrunning
      exact ⟨⟨h.shutdown, h.running, h.pending, fun _ => ⟨hnone, harmed⟩, h.timers⟩,
        .halted hhalted.2, rfl, Or.inl rfl, Or.inl ⟨rfl, rfl⟩⟩
    · exact ⟨h, .halted hhalted.2, rfl, Or.inl rfl, Or.inl ⟨rfl, rfl⟩⟩
  · split
    · rename_i hrunning
      exact ⟨⟨h.shutdown, h.running, fun _ => hrunning, by simp, h.timers⟩,
        .pending rfl, rfl, Or.inl rfl, Or.inl ⟨rfl, rfl⟩⟩
    · rename_i hrunning
      exact ⟨steady_launch h.shutdown h.timers, promised_launch, rfl, Or.inl rfl,
        Or.inr ⟨h.stage_eq_idle hrunning, rfl, p, rfl⟩⟩

theorem Steady.requestFull (h : s.Steady) : Asked s (s.take s.control.requestFull) := by
  have htimers := (take_timers h.timers s.control.requestFull).1
  rw [take_requestFull] at htimers ⊢
  simp only at htimers ⊢
  split
  · rename_i hrunning
    rw [if_pos hrunning] at htimers
    exact ⟨⟨h.shutdown, h.running, fun _ => hrunning, by simp, htimers⟩,
      .pending rfl, rfl, Or.inr rfl, Or.inl ⟨rfl, rfl⟩⟩
  · rename_i hrunning
    rw [if_neg hrunning] at htimers
    exact ⟨steady_launch h.shutdown htimers, promised_launch, rfl, Or.inl rfl,
      Or.inr ⟨h.stage_eq_idle hrunning, rfl, .full, rfl⟩⟩

theorem Steady.requestNormal (h : s.Steady) (t : BuildTiming) :
    Asked s (s.take (s.control.requestNormal t)) := by
  rw [take_requestNormal]
  split
  · -- the request is dropped: normal builds are halted, or a full one follows anyway
    rename_i hcovered
    refine ⟨h, ?_, rfl, Or.inl rfl, Or.inl ⟨rfl, rfl⟩⟩
    rcases hcovered with hhalted | hpending
    · exact .halted hhalted
    · exact .pending (by simp [hpending])
  · exact ⟨⟨h.shutdown, h.running, h.pending, by simp, h.timers.schedule ..⟩,
      .armed rfl, rfl, Or.inl rfl, Or.inl ⟨rfl, rfl⟩⟩

/-- **Every request promises a build.** -/
theorem Steady.request (h : s.Steady) (t : BuildTiming) (p : Priority) :
    Asked s (s.request t p) := by
  unfold BuildSystem.request Control.request
  simp only [h.shutdown, Bool.false_eq_true, if_false]
  cases p with
  | full =>
    have hasked := h.requestFull
    exact ⟨hasked.steady.update rfl Iff.rfl hasked.steady.timers,
      hasked.promised.congr rfl rfl rfl, hasked.graph, hasked.queued, hasked.stage⟩
  | normal => exact h.requestNormal t

/-- **Every timer promises a build.** -/
theorem Steady.fired (h : s.Steady) (k : TimerKey) : Asked s (s.take (fired s.control k)) := by
  cases k with
  | debounce =>
    have hasked := h.disarm.enqueue rfl .normal
    exact ⟨hasked.steady, hasked.promised, hasked.graph, hasked.queued, hasked.stage⟩
  | retry =>
    simp only [BuildSystem.fired, Control.retryFired]
    cases harmed : s.control.armed with
    | true => exact ⟨h, .armed harmed, rfl, Or.inl rfl, Or.inl ⟨rfl, rfl⟩⟩
    | false => exact h.enqueue harmed .normal

/-- **What the end of a build comes to.** What was promised stays promised. -/
structure Finished (s s' : BuildSystem) : Prop where
  steady : s'.Steady
  promised : s.Promised → s'.Promised
  graph : s'.control.graph = s.control.graph
  stage : s'.stage = .idle ∧ s'.control.builds = s.control.builds ∨
    s'.control.builds = s.control.builds + 1 ∧ ∃ p, s'.stage = .begun (s.control.builds + 1) p

theorem Steady.finishPass (h : s.Steady) {ended : Option BuildSummary}
    (hstage : s.stage = .ended ended) (summary : Option BuildSummary) (duration : Nat) :
    Finished s ({ s with stage := .idle }.take (s.control.finishPass summary duration)) := by
  rw [take_finishPass]
  simp only
  cases hnext : s.control.following with
  | some p =>
    exact ⟨steady_launch h.shutdown h.timers, fun _ => promised_launch, rfl,
      Or.inr ⟨rfl, p, rfl⟩⟩
  | none =>
    refine ⟨⟨h.shutdown, by simp, by simp, ?_, h.timers⟩, ?_, rfl, Or.inl ⟨rfl, rfl⟩⟩
    · cases s.control.armed <;> simp
    · intro hpromised
      cases hpromised with
      | halted hhalted => exact .halted hhalted
      | armed harmed => exact .armed harmed
      | pending hpending =>
        -- what followed was given up, so normal builds are halted
        refine .halted ?_
        unfold Control.following at hnext
        split at hnext
        · rename_i hdropped
          simp only [h.shutdown, Bool.false_or, Bool.and_eq_true] at hdropped
          exact hdropped.2
        · simp [hnext] at hpending
      | begun build p hbegun => simp [hstage] at hbegun
      | refused build fault hrefused => simp [hstage] at hrefused
      | editing heditors => exact .editing heditors

/-- **What a failure amounts to.** If it may pass by itself and the unit has attempts left, a timer
waits from then on. -/
theorem noteFailure_spec (htimers : s.timers.Sound) (t : BuildTiming) (pass : Pass) (u : UnitId)
    (fault : BuildFault) :
    ∃ attempts timers n, s.noteFailure t pass u fault = { s with
        control := { s.control with attempts := attempts }
        dirty := (s.dirty.complete u pass.ticket).markUnit u
        timers := timers
        journal := .failed pass.build u fault n :: s.journal } ∧
      timers.Sound ∧ (s.timers.Waits .retry → timers.Waits .retry) ∧
      (fault.isTransient = false ∨ t.maxRetries < n ∨ timers.Waits .retry) := by
  unfold noteFailure scheduleRetry
  cases htransient : fault.isTransient with
  | false => exact ⟨_, _, _, rfl, htimers, id, Or.inl rfl⟩
  | true =>
    simp only [if_true]
    split
    · rename_i hover
      exact ⟨_, _, _, rfl, htimers, id, Or.inr (Or.inl hover)⟩
    · have hwaits := Timers.waits_schedule_self (α := Unit) s.timers TimerKey.retry
      exact ⟨_, _, _, rfl, htimers.schedule .., fun _ => hwaits .., Or.inr (Or.inr (hwaits ..))⟩

/-! ## Layer D: runs -/

theorem Steady.step {s' : BuildSystem} (h : s.Steady) (hstep : Step t s s') : s'.Steady := by
  cases hstep with
  | notice | look | unknown | unowned | owned | mark =>
    exact h.update rfl Iff.rfl h.timers
  | cancel =>
    rw [Control.cancelQueued_eq]
    exact h.update rfl Iff.rfl h.timers
  | ask hask =>
    rename_i l r p
    exact ((h.of_editors (l ++ r)).request t p).steady
  | request p => exact (h.request t p).steady
  | wait now => exact h.update rfl Iff.rfl (h.timers.wait now)
  | elapse ha => exact h.update rfl Iff.rfl (h.timers.fire _)
  | fire hdue =>
    rename_i l r k
    exact ((h.of_due (l ++ r)).fired k).steady
  | prepare hs | discover hs | adopt hs | refuse hs | ticket hs | enqueue hs | start hs | skip hs
  | indexed hs | endPass hs =>
    -- a build that runs goes on running
    exact h.update rfl (by simp [hs]) h.timers
  | halt hs =>
    exact ⟨h.shutdown, h.running.trans (by simp [hs, take, Control.halt, perform]), h.pending,
      h.idle, h.timers⟩
  | failed hs fault hfault =>
    obtain ⟨attempts, timers, n, heq, htimers, -⟩ := noteFailure_spec h.timers t _ _ fault
    rw [heq]
    exact h.update rfl (by simp [hs]) htimers
  | finish hs duration => exact (h.finishPass hs _ duration).steady

theorem Reachable.steady (h : Reachable t s) : s.Steady := by
  induction h with
  | init => exact steady_init
  | step _ hstep ih => exact ih.step hstep

end BuildSystem

end CodeAtlas
