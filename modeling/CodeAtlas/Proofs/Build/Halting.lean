import CodeAtlas.Proofs.Build.Journal

/-!
# Halted builds

A project that cannot be discovered halts normal builds, and a request for a full build lifts the
halt. The halt goes by the order of these two alone: it stands exactly if no full build has been
asked for since a build halted normal builds. A discovery that succeeds does not lift it.

A build comes to its halt some time after it began, and a full build may be asked for in between.
Such a request is overtaken: it lifts a halt that does not stand yet, so the halt is there when the
build that was asked for has discovered the project. Without a build that runs, this is the only way
in which normal builds are halted although the last discovery succeeded.

## Architecture

- **Layer A**: what the journal says of discoveries and halts;
- **Layer B**: the halt;
- **Layer C**: full builds to come;
- **Layer D**: what a halt tells of the requests before it;
- **Layer E**: the queue without a build.
-/

namespace CodeAtlas

/-- Whether an entry has to do with discoveries and halts. -/
def JournalEntry.concernsHalt : JournalEntry → Bool
  | .requestedFull _ | .discovery _ | .halted _ _ => true
  | _ => false

/-- Whether a build knows its project, so that it is past failing to discover it. -/
def Stage.isKnown : Stage → Bool
  | .reclaimed _ _ | .prepared _ _ _ _ | .ticketed _ | .going _ _ | .ended (some _) => true
  | _ => false

namespace BuildSystem

variable {t : BuildTiming} {s s' : BuildSystem} {c : Control} {j j' : List JournalEntry}
  {e : JournalEntry}

/-! ## Layer A: discoveries and halts -/

/-- What the last discovery of the project came to. -/
def lastDiscovery : List JournalEntry → Option (Except BuildFault ProjectModel)
  | [] => none
  | .discovery result :: _ => some result
  | _ :: rest => lastDiscovery rest

/-- Whether a full build has been asked for since the last discovery. -/
def asksFull : List JournalEntry → Bool
  | [] => false
  | .discovery _ :: _ => false
  | .requestedFull _ :: _ => true
  | _ :: rest => asksFull rest

/-- **Why normal builds are halted**: the last build that halted them, and its fault, unless a full
build has been asked for since. -/
def haltedBy : List JournalEntry → Option (Nat × BuildFault)
  | [] => none
  | .requestedFull _ :: _ => none
  | .halted build fault :: _ => some (build, fault)
  | _ :: rest => haltedBy rest

/-- **A request that was overtaken**: normal builds are halted since the build of this number, and a
full build was asked for while that build ran. -/
def Overtaken (j : List JournalEntry) (build : Nat) (fault : BuildFault) : Prop :=
  haltedBy j = some (build, fault) ∧ .requestedFull (some build) ∈ j

/-- The last discovery failed. -/
def LastFailed (j : List JournalEntry) (fault : BuildFault) : Prop :=
  ∃ result, lastDiscovery j = some result ∧ graphOf result = .error fault

theorem LastFailed.unique {fault fault' : BuildFault} (h : LastFailed j fault)
    (h' : LastFailed j fault') : fault = fault' := by
  obtain ⟨result, hlast, hresult⟩ := h
  obtain ⟨result', hlast', hresult'⟩ := h'
  obtain rfl : result = result' := Option.some.inj (hlast.symm.trans hlast')
  exact Except.error.inj (hresult.symm.trans hresult')

/-- **Two journals with the same news** of discoveries and halts; requests are not forgotten. -/
structure SameNews (j j' : List JournalEntry) : Prop where
  last : lastDiscovery j' = lastDiscovery j
  asks : asksFull j' = asksFull j
  halted : haltedBy j' = haltedBy j
  requests : ∀ during, .requestedFull during ∈ j → .requestedFull during ∈ j'

theorem sameNews_refl (j : List JournalEntry) : SameNews j j := ⟨rfl, rfl, rfl, fun _ => id⟩

/-- An entry of another kind is no news. -/
theorem sameNews_cons (he : e.concernsHalt = false) : SameNews j (e :: j) := by
  have hmem : ∀ during, .requestedFull during ∈ j → .requestedFull during ∈ e :: j :=
    fun _ => List.mem_cons_of_mem e
  cases e with
  | requestedFull | discovery | halted => simp [JournalEntry.concernsHalt] at he
  | marked | ticket | indexed | failed => exact ⟨rfl, rfl, rfl, hmem⟩

theorem SameNews.lastFailed_iff (h : SameNews j j') {fault : BuildFault} :
    LastFailed j' fault ↔ LastFailed j fault := by
  unfold LastFailed
  rw [h.last]

/-! ## Layer B: the halt -/

/-- Control is halted for the reason that the journal gives. -/
def HaltTold (s : BuildSystem) : Prop :=
  s.control.halted = (haltedBy s.journal).map fun b => Control.haltReason b.2

theorem halted_enqueue (hc : c.shutdown = false) (p : Priority) :
    (s.take (c.enqueue p)).control.halted = c.halted := by
  rw [take_enqueue s hc]
  split
  · split <;> rfl
  · split <;> rfl

theorem halted_fired (h : s.Steady) (k : TimerKey) :
    (s.take (fired s.control k)).control.halted = s.control.halted := by
  cases k with
  | debounce => exact halted_enqueue (c := { s.control with armed := false }) h.shutdown .normal
  | retry =>
    simp only [fired, Control.retryFired]
    split
    · rfl
    · exact halted_enqueue h.shutdown .normal

theorem halted_finishPass (summary : Option BuildSummary) (duration : Nat) :
    (s.take (c.finishPass summary duration)).control.halted = c.halted := by
  rw [take_finishPass]
  cases c.following <;> rfl

theorem HaltTold.request (hsteady : s.Steady) (h : s.HaltTold) (t : BuildTiming) (p : Priority) :
    (s.request t p).HaltTold := by
  unfold HaltTold BuildSystem.request Control.request
  simp only [hsteady.shutdown, Bool.false_eq_true, if_false]
  cases p with
  | full =>
    simp only [take_requestFull]
    split <;> rfl
  | normal =>
    simp only [take_requestNormal]
    split <;> exact h

theorem HaltTold.step (hsteady : s.Steady) (h : s.HaltTold) (hstep : Step t s s') :
    s'.HaltTold := by
  -- most steps leave the halt and what the journal says of it as they are
  cases hstep with
  | notice | look | unknown | unowned | owned | mark | wait | elapse | prepare | discover | adopt
  | refuse | ticket | enqueue | start | skip | indexed | endPass => exact h
  | cancel =>
    rw [Control.cancelQueued_eq]
    exact h
  | ask hask =>
    rename_i l r p
    have hrest : HaltTold { s with editors := l ++ r } := h
    exact hrest.request (hsteady.of_editors (l ++ r)) t p
  | request p => exact h.request hsteady t p
  | fire hdue =>
    rename_i l r k
    unfold HaltTold
    rw [take_journal]
    exact (halted_fired (hsteady.of_due (l ++ r)) k).trans h
  | halt hs =>
    unfold HaltTold
    rw [take_journal]
    rfl
  | failed hs fault hfault =>
    obtain ⟨attempts, timers, n, heq, -⟩ := noteFailure_spec hsteady.timers t _ _ fault
    rw [heq]
    exact h
  | finish hs duration =>
    unfold HaltTold
    rw [take_journal]
    exact (halted_finishPass _ _).trans h

/-- **Normal builds are halted exactly if the journal says so.** -/
theorem Reachable.haltTold (h : Reachable t s) : s.HaltTold := by
  induction h with
  | init => rfl
  | step hs hstep ih => exact ih.step hs.steady hstep

/-! ## Layer C: full builds to come -/

/-- **A full build is to come.** -/
def FullToCome (s : BuildSystem) : Prop :=
  s.control.pending = some .full ∨ ∃ build, s.stage = .begun build .full

theorem FullToCome.update (h : s.FullToCome) (hpending : s'.control.pending = s.control.pending)
    (hstage : s'.stage = s.stage ∨ ∀ build, s.stage ≠ .begun build .full) : s'.FullToCome := by
  rcases h with h | ⟨build, h⟩
  · exact Or.inl (hpending.trans h)
  · rcases hstage with hstage | hstage
    · exact Or.inr ⟨build, hstage.trans h⟩
    · exact absurd h (hstage build)

/-- A build runs as long as a full one is to come. -/
theorem FullToCome.running (h : s.FullToCome) (hsteady : s.Steady) :
    s.control.running.isSome = true := by
  rcases h with h | ⟨build, h⟩
  · exact hsteady.pending (by simp [h])
  · exact hsteady.running.2 (by simp [h])

theorem FullToCome.enqueue (h : s.FullToCome) (hsteady : s.Steady) :
    (s.take (s.control.enqueue .normal)).FullToCome := by
  rw [take_enqueue s hsteady.shutdown]
  split
  · split <;> exact h.update rfl (Or.inl rfl)
  · split
    · rcases h with h | ⟨build, h⟩
      · -- a full build that is pending is not replaced by a normal one
        exact Or.inl (by simp [h, Priority.atLeast])
      · exact Or.inr ⟨build, h⟩
    · rename_i hrunning
      exact absurd (h.running hsteady) hrunning

theorem FullToCome.fired (h : s.FullToCome) (hsteady : s.Steady) (k : TimerKey) :
    (s.take (fired s.control k)).FullToCome := by
  cases k with
  | debounce =>
    have hdisarmed : FullToCome { s with control := { s.control with armed := false } } := h
    exact hdisarmed.enqueue hsteady.disarm
  | retry =>
    simp only [BuildSystem.fired, Control.retryFired]
    split
    · exact h
    · exact h.enqueue hsteady

theorem FullToCome.finishPass (h : s.FullToCome) (hsteady : s.Steady)
    {summary : Option BuildSummary} (hstage : s.stage = .ended summary) (duration : Nat) :
    ({ s with stage := .idle }.take (s.control.finishPass summary duration)).FullToCome := by
  have hpending : s.control.pending = some .full := by
    refine h.resolve_right ?_
    rintro ⟨build, hbegun⟩
    simp [hstage] at hbegun
  have hnext : s.control.following = some .full := by
    simp [Control.following, hsteady.shutdown, hpending]
  rw [take_finishPass, hnext]
  exact Or.inr ⟨_, rfl⟩

theorem FullToCome.request (hsteady : s.Steady)
    (h : asksFull s.journal = true → s.FullToCome) (t : BuildTiming) (p : Priority)
    (hasks : asksFull (s.request t p).journal = true) : (s.request t p).FullToCome := by
  cases p with
  | full =>
    simp only [BuildSystem.request, Control.request, hsteady.shutdown, Bool.false_eq_true, if_false,
      take_requestFull]
    split
    · exact Or.inl rfl
    · exact Or.inr ⟨_, rfl⟩
  | normal =>
    rw [BuildSystem.request, take_journal] at hasks
    simp only [BuildSystem.request, Control.request, hsteady.shutdown, Bool.false_eq_true, if_false,
      take_requestNormal]
    split
    · exact h hasks
    · exact (h hasks).update rfl (Or.inl rfl)

theorem fullToCome_step (hsteady : s.Steady) (h : asksFull s.journal = true → s.FullToCome)
    (hstep : Step t s s') (hasks : asksFull s'.journal = true) : s'.FullToCome := by
  cases hstep with
  | notice | look | unknown | unowned | owned | mark | wait | elapse =>
    exact (h hasks).update rfl (Or.inl rfl)
  | cancel =>
    rw [Control.cancelQueued_eq]
    exact (h hasks).update rfl (Or.inl rfl)
  | ask hask =>
    rename_i l r p
    exact FullToCome.request (hsteady.of_editors (l ++ r)) h t p hasks
  | request p => exact FullToCome.request hsteady h t p hasks
  | fire hdue =>
    rename_i l r k
    rw [take_journal] at hasks
    have hcome : FullToCome { s with due := l ++ r } := h hasks
    exact hcome.fired (hsteady.of_due (l ++ r)) k
  -- the build goes on, but the queue of builds is left alone
  | prepare hs | adopt hs | ticket hs | enqueue hs | start hs | skip hs | indexed hs | endPass hs =>
    exact (h hasks).update rfl (Or.inr (by simp [hs]))
  -- a discovery answers the request, so none is open behind it
  | discover hs hp result hg => simp [asksFull] at hasks
  | refuse hs hp result hg hfault => simp [asksFull] at hasks
  | halt hs =>
    rw [take_journal] at hasks
    exact (h hasks).update rfl (Or.inr (by simp [hs]))
  | failed hs fault hfault =>
    obtain ⟨attempts, timers, n, heq, -⟩ := noteFailure_spec hsteady.timers t _ _ fault
    rw [heq] at hasks ⊢
    exact (h hasks).update rfl (Or.inr (by simp [hs]))
  | finish hs duration =>
    rw [take_journal] at hasks
    exact (h hasks).finishPass hsteady hs duration

/-- **A full build that is asked for is not forgotten** until the project is discovered. -/
theorem Reachable.fullToCome (h : Reachable t s) (hasks : asksFull s.journal = true) :
    s.FullToCome := by
  induction h with
  | init => simp [asksFull] at hasks
  | step hs hstep ih => exact fullToCome_step hs.steady ih hstep hasks

theorem Reachable.asksFull_eq_false (h : Reachable t s) (hrunning : s.control.running = none) :
    asksFull s.journal = false := by
  by_contra hasks
  have hcome := h.fullToCome (by simpa using hasks)
  have := hcome.running h.steady
  simp [hrunning] at this

/-! ## Layer D: requests that are overtaken -/

/-- **What a halt tells of the requests before it.** -/
structure Latched (s : BuildSystem) : Prop where
  /-- The build that runs has the last number. -/
  begun : ∀ build p, s.stage = .begun build p → build = s.control.builds
  refused : ∀ build fault, s.stage = .refused build fault →
    build = s.control.builds ∧ LastFailed s.journal fault
  /-- A full build that follows was asked for while the present one ran. -/
  pending : s.control.pending = some .full → .requestedFull (some s.control.builds) ∈ s.journal
  /-- A discovery that failed leads to a halt. -/
  told : ∀ fault, LastFailed s.journal fault → asksFull s.journal = false →
    (∃ build, s.stage = .refused build fault) ∨ ∃ build, haltedBy s.journal = some (build, fault)
  /-- After a halt no build begins, unless its request came before the halt. -/
  halted : ∀ build fault, haltedBy s.journal = some (build, fault) →
    .requestedFull (some build) ∈ s.journal ∨
      s.control.pending ≠ some .full ∧ (s.stage = .idle ∨ s.stage = .ended none) ∧
        ∃ fault, LastFailed s.journal fault

/-- **No build begins or comes to a halt.** -/
theorem latched_of_resting (hstage : s.stage = .idle ∨ s.stage = .ended none)
    (hpending : s.control.pending = some .full →
      .requestedFull (some s.control.builds) ∈ s.journal)
    (htold : ∀ fault, LastFailed s.journal fault → asksFull s.journal = false →
      ∃ build, haltedBy s.journal = some (build, fault))
    (hhalted : ∀ build fault, haltedBy s.journal = some (build, fault) →
      .requestedFull (some build) ∈ s.journal ∨
        s.control.pending ≠ some .full ∧ ∃ fault, LastFailed s.journal fault) : s.Latched where
  begun := by
    intro build p hs
    simp [hs] at hstage
  refused := by
    intro build fault hs
    simp [hs] at hstage
  pending := hpending
  told fault hlast hasks := Or.inr (htold fault hlast hasks)
  halted build fault hby :=
    (hhalted build fault hby).imp_right fun hrest => ⟨hrest.1, hstage, hrest.2⟩

/-- **A build begins.** If a halt stands, its request came before. -/
theorem latched_launch (htold : ∀ fault, LastFailed s.journal fault → asksFull s.journal = false →
      ∃ build, haltedBy s.journal = some (build, fault))
    (hhalted : ∀ build fault, haltedBy s.journal = some (build, fault) →
      .requestedFull (some build) ∈ s.journal) (c : Control) (p : Priority) :
    (s.launch c p).Latched where
  begun := by
    intro build p' hs
    exact (Stage.begun.inj hs).1.symm
  refused := by simp [launch]
  pending := by simp [launch]
  told fault hlast hasks := Or.inr (htold fault hlast hasks)
  halted build fault hby := Or.inl (hhalted build fault hby)

theorem latched_init : Latched {} := by
  refine latched_of_resting (Or.inl rfl) (by simp) ?_ (by simp [haltedBy])
  rintro fault ⟨result, hlast, -⟩
  simp [lastDiscovery] at hlast

/-- **A step that does not concern the halt**: it begins no build, and a build that knows its
project goes on. -/
theorem Latched.quiet (h : s.Latched) (hbuilds : s'.control.builds = s.control.builds)
    (hpending : s'.control.pending = some .full → s.control.pending = some .full)
    (hnews : SameNews s.journal s'.journal)
    (hstage : s'.stage = s.stage ∨ s'.stage.isKnown = true ∧
      (s.stage.isKnown = true ∨ ∃ build p, s.stage = .begun build p)) : s'.Latched where
  begun := by
    intro build p hs'
    rcases hstage with hstage | ⟨hknown, -⟩
    · rw [hbuilds]
      exact h.begun build p (hstage ▸ hs')
    · simp [hs', Stage.isKnown] at hknown
  refused := by
    intro build fault hs'
    rcases hstage with hstage | ⟨hknown, -⟩
    · rw [hbuilds, hnews.lastFailed_iff]
      exact h.refused build fault (hstage ▸ hs')
    · simp [hs', Stage.isKnown] at hknown
  pending := by
    intro hfull
    rw [hbuilds]
    exact hnews.requests _ (h.pending (hpending hfull))
  told := by
    intro fault hlast hasks
    rw [hnews.halted]
    refine (h.told fault (hnews.lastFailed_iff.1 hlast) (hnews.asks ▸ hasks)).imp_left ?_
    rintro ⟨build, hs⟩
    rcases hstage with hstage | ⟨-, hknown | ⟨build', p, hs'⟩⟩
    · exact ⟨build, hstage.trans hs⟩
    · simp [hs, Stage.isKnown] at hknown
    · simp [hs] at hs'
  halted := by
    intro build fault hby
    rw [hnews.halted] at hby
    refine (h.halted build fault hby).imp (hnews.requests _) ?_
    rintro ⟨hnot, hs, hlast⟩
    simp only [hnews.lastFailed_iff]
    rcases hstage with hstage | ⟨-, hknown | ⟨build', p, hs'⟩⟩
    · exact ⟨fun hfull => hnot (hpending hfull), hstage ▸ hs, hlast⟩
    · rcases hs with hs | hs <;> simp [hs, Stage.isKnown] at hknown
    · simp [hs'] at hs

/-- Once a build has ended, a discovery that failed last has led to a halt, unless a full build was
asked for since. -/
theorem Latched.told_of_resting (h : s.Latched) (hstage : s.stage = .idle ∨ ∃ b, s.stage = .ended b)
    {fault : BuildFault} (hlast : LastFailed s.journal fault) (hasks : asksFull s.journal = false) :
    ∃ build, haltedBy s.journal = some (build, fault) := by
  refine (h.told fault hlast hasks).resolve_left ?_
  rintro ⟨build, hs⟩
  simp [hs] at hstage

theorem Latched.of_editors (h : s.Latched) (editors : List Editor) :
    Latched { s with editors := editors } :=
  h.quiet rfl id (sameNews_refl _) (Or.inl rfl)

theorem Latched.of_due (h : s.Latched) (due : List TimerKey) : Latched { s with due := due } :=
  h.quiet rfl id (sameNews_refl _) (Or.inl rfl)

theorem Latched.enqueue (hsteady : s.Steady) (htold : s.HaltTold) (h : s.Latched) :
    (s.take (s.control.enqueue .normal)).Latched := by
  rw [take_enqueue s hsteady.shutdown]
  split
  · split <;> exact h.quiet rfl id (sameNews_refl _) (Or.inl rfl)
  · rename_i hopen
    split
    · -- a normal build that follows does not take the place of a full one
      refine h.quiet rfl ?_ (sameNews_refl _) (Or.inl rfl)
      intro hfull
      cases hpending : s.control.pending with
      | none => simp [hpending, Priority.atLeast] at hfull
      | some p =>
        cases p with
        | full => rfl
        | normal => simp [hpending, Priority.atLeast] at hfull
    · rename_i hrunning
      have hhalted : s.control.halted = none := by simpa using hopen
      have hnone : haltedBy s.journal = none := by simpa [HaltTold, hhalted] using htold.symm
      refine latched_launch ?_ (by simp [hnone]) s.control .normal
      exact fun _ => h.told_of_resting (Or.inl (hsteady.stage_eq_idle hrunning))

theorem Latched.fired (hsteady : s.Steady) (htold : s.HaltTold) (h : s.Latched) (k : TimerKey) :
    (s.take (fired s.control k)).Latched := by
  cases k with
  | debounce =>
    have hdisarmed : Latched { s with control := { s.control with armed := false } } :=
      h.quiet rfl id (sameNews_refl _) (Or.inl rfl)
    exact hdisarmed.enqueue hsteady.disarm htold
  | retry =>
    simp only [BuildSystem.fired, Control.retryFired]
    split
    · exact h
    · exact h.enqueue hsteady htold

/-- **A full build is asked for.** No halt stands, and no discovery has answered the request. -/
theorem Latched.asked (h : s.Latched) (during : Option Nat) :
    Latched { s with journal := .requestedFull during :: s.journal } where
  begun := h.begun
  refused := h.refused
  pending hfull := List.mem_cons_of_mem _ (h.pending hfull)
  told := by
    intro fault _ hasks
    simp [asksFull] at hasks
  halted := by
    intro build fault hby
    simp [haltedBy] at hby

theorem Latched.request (hsteady : s.Steady) (h : s.Latched) (t : BuildTiming) (p : Priority) :
    (s.request t p).Latched := by
  cases p with
  | normal =>
    simp only [BuildSystem.request, Control.request, hsteady.shutdown, Bool.false_eq_true, if_false,
      take_requestNormal]
    split
    · exact h
    · exact h.quiet rfl id (sameNews_refl _) (Or.inl rfl)
  | full =>
    simp only [BuildSystem.request, Control.request, hsteady.shutdown, Bool.false_eq_true, if_false,
      take_requestFull]
    have hasked := h.asked s.current?
    split
    · rename_i hrunning
      have hcurrent : s.current? = some s.control.builds := by
        obtain ⟨p, hp⟩ := Option.isSome_iff_exists.1 hrunning
        simp [current?, hp]
      refine ⟨hasked.begun, hasked.refused, ?pending, hasked.told, ?halted⟩
      case pending =>
        intro _
        rw [hcurrent]
        exact List.mem_cons_self ..
      case halted =>
        intro build fault hby
        simp [haltedBy] at hby
    · rename_i hrunning
      have hidle : s.stage = .idle := hsteady.stage_eq_idle hrunning
      have hlaunched := latched_launch (fun _ => hasked.told_of_resting (Or.inl hidle))
        (by simp [haltedBy]) s.control .full
      exact hlaunched.quiet rfl id (sameNews_refl _) (Or.inl rfl)

/-- **The project is discovered**, or not. -/
theorem Latched.discovery {build : Nat} {p : Priority} (h : s.Latched)
    (hs : s.stage = .begun build p) {result : Except BuildFault ProjectModel} {stage : Stage}
    {dirty : DirtySet}
    (hstage : stage.isKnown = true ∨
      ∃ fault, graphOf result = .error fault ∧ stage = .refused build fault)
    (hok : stage.isKnown = true → ∃ g, graphOf result = .ok g) :
    Latched { s with
      dirty := dirty, stage := stage, journal := .discovery result :: s.journal } where
  begun := by
    rintro build' p' rfl
    rcases hstage with hknown | ⟨fault, -, hrefused⟩
    · simp [Stage.isKnown] at hknown
    · cases hrefused
  refused := by
    rintro build' fault' rfl
    rcases hstage with hknown | ⟨fault, hresult, hrefused⟩
    · simp [Stage.isKnown] at hknown
    · obtain ⟨rfl, rfl⟩ := Stage.refused.inj hrefused
      exact ⟨h.begun _ _ hs, result, rfl, hresult⟩
  pending hfull := List.mem_cons_of_mem _ (h.pending hfull)
  told := by
    rintro fault ⟨result', hlast, hresult⟩ -
    obtain rfl : result = result' := Option.some.inj hlast
    rcases hstage with hknown | ⟨fault', hresult', rfl⟩
    · obtain ⟨g, hg⟩ := hok hknown
      simp [hg] at hresult
    · obtain rfl : fault' = fault := Except.error.inj (hresult'.symm.trans hresult)
      exact Or.inl ⟨build, rfl⟩
  halted := by
    intro build' fault hby
    -- the build that discovers has begun, so a halt before it was preceded by its request
    rcases h.halted build' fault hby with hmem | ⟨-, hidle | hended, -⟩
    · exact Or.inl (List.mem_cons_of_mem _ hmem)
    · simp [hs] at hidle
    · simp [hs] at hended

/-- **Normal builds are halted.** A full build that follows was asked for before. -/
theorem Latched.halt {build : Nat} {fault : BuildFault} (h : s.Latched)
    (hs : s.stage = .refused build fault) :
    Latched ({ s with stage := .ended none, journal := .halted build fault :: s.journal }.take
      (s.control.halt fault)) := by
  obtain ⟨hnumber, hlast⟩ := h.refused build fault hs
  refine latched_of_resting (Or.inr rfl) ?pending ?told ?halted
  case pending => exact fun hfull => List.mem_cons_of_mem _ (h.pending hfull)
  case told =>
    intro fault' hlast' _
    obtain rfl : fault = fault' := hlast.unique hlast'
    exact ⟨build, rfl⟩
  case halted =>
    intro build' fault' hby
    obtain ⟨rfl, rfl⟩ : build = build' ∧ fault = fault' := by
      simpa using Option.some.inj (show some (build, fault) = some (build', fault') from hby)
    by_cases hfull : s.control.pending = some .full
    · rw [hnumber]
      exact Or.inl (List.mem_cons_of_mem _ (h.pending hfull))
    · exact Or.inr ⟨hfull, fault, hlast⟩

/-- **A build ends.** While normal builds are halted, only a full one may follow. -/
theorem Latched.finish (htold : s.HaltTold) (h : s.Latched)
    {summary : Option BuildSummary} (hs : s.stage = .ended summary) (duration : Nat) :
    Latched ({ s with stage := .idle }.take (s.control.finishPass summary duration)) := by
  rw [take_finishPass]
  simp only
  have htold' : ∀ fault, LastFailed s.journal fault → asksFull s.journal = false →
      ∃ build, haltedBy s.journal = some (build, fault) :=
    fun _ => h.told_of_resting (Or.inr ⟨summary, hs⟩)
  cases hnext : s.control.following with
  | none =>
    refine latched_of_resting (Or.inl rfl) (by simp) htold' ?_
    intro build fault hby
    exact (h.halted build fault hby).imp_right fun hrest => ⟨by simp, hrest.2.2⟩
  | some p =>
    refine latched_launch htold' ?_ _ p
    intro build fault hby
    refine (h.halted build fault hby).resolve_right ?_
    rintro ⟨hnot, -⟩
    -- the build that follows is a normal one, and those are halted
    have hhalted : s.control.halted.isSome = true := by
      rw [htold, hby]
      rfl
    unfold Control.following at hnext
    split at hnext
    · cases hnext
    · rename_i hopen
      cases p with
      | full => exact hnot hnext
      | normal => simp [hnext, hhalted] at hopen

theorem Latched.step (hsteady : s.Steady) (htold : s.HaltTold) (h : s.Latched)
    (hstep : Step t s s') : s'.Latched := by
  cases hstep with
  | notice | look | unknown | unowned | owned | wait | elapse =>
    exact h.quiet rfl id (sameNews_refl _) (Or.inl rfl)
  | mark => exact h.quiet rfl id (sameNews_cons rfl) (Or.inl rfl)
  | cancel =>
    rw [Control.cancelQueued_eq]
    exact h.quiet rfl id (sameNews_refl _) (Or.inl rfl)
  | ask hask =>
    rename_i l r p
    exact (h.of_editors (l ++ r)).request (hsteady.of_editors (l ++ r)) t p
  | request p => exact h.request hsteady t p
  | fire hdue =>
    rename_i l r k
    exact (h.of_due (l ++ r)).fired (hsteady.of_due (l ++ r)) htold k
  | discover hs hp result hg => exact h.discovery hs (Or.inl rfl) fun _ => ⟨_, hg⟩
  | refuse hs hp result hg hfault =>
    exact h.discovery hs (Or.inr ⟨_, hg, rfl⟩) fun hknown => by simp [Stage.isKnown] at hknown
  | halt hs => exact h.halt hs
  -- a build that knows its project goes on
  | prepare hs => exact h.quiet rfl id (sameNews_refl _) (Or.inr ⟨rfl, Or.inr ⟨_, _, hs⟩⟩)
  | adopt hs | enqueue hs | start hs | skip hs | endPass hs =>
    exact h.quiet rfl id (sameNews_refl _) (Or.inr ⟨rfl, Or.inl (by rw [hs]; rfl)⟩)
  | ticket hs | indexed hs =>
    exact h.quiet rfl id (sameNews_cons rfl) (Or.inr ⟨rfl, Or.inl (by rw [hs]; rfl)⟩)
  | failed hs fault hfault =>
    obtain ⟨attempts, timers, n, heq, -⟩ := noteFailure_spec hsteady.timers t _ _ fault
    rw [heq]
    exact h.quiet rfl id (sameNews_cons rfl) (Or.inr ⟨rfl, Or.inl (by rw [hs]; rfl)⟩)
  | finish hs duration => exact h.finish htold hs duration

theorem Reachable.latched (h : Reachable t s) : s.Latched := by
  induction h with
  | init => exact latched_init
  | step hs hstep ih => exact ih.step hs.steady hs.haltTold hstep

/-! ## Layer E: the queue without a build -/

/-- If the last discovery gave a project that was accepted, only a request that was overtaken can
have left a halt behind. -/
theorem Reachable.overtaken_of_accepted (h : Reachable t s) {m : ProjectModel} {g : UnitGraph}
    (hlast : lastDiscovery s.journal = some (.ok m)) (hg : UnitGraph.ofModel m = .ok g)
    {build : Nat} {fault : BuildFault} (hby : haltedBy s.journal = some (build, fault)) :
    Overtaken s.journal build fault := by
  refine ⟨hby, (h.latched.halted build fault hby).resolve_right ?_⟩
  rintro ⟨-, -, fault', result, hlast', hresult⟩
  obtain rfl : .ok m = result := Option.some.inj (hlast.symm.trans hlast')
  simp [graphOf, hg] at hresult

/-- **The halt without a build that runs.** If the last discovery gave a project that was accepted,
then nothing is halted and a request for a normal build is scheduled, unless a full build was asked
for while a build ran that halted normal builds afterwards, and none has been since: then they are
still halted for the fault of that build, and requests for them are ignored. If the last discovery
failed, or its project was refused, they are halted for that reason, too. -/
theorem halt_follows_discovery (h : Reachable t s) (hrunning : s.control.running = none) :
    (∀ m g, lastDiscovery s.journal = some (.ok m) → UnitGraph.ofModel m = .ok g →
      ((∀ build fault, ¬ Overtaken s.journal build fault) →
        s.control.halted = none ∧ (s.request t .normal).control.phase = .debouncing ∧
          (s.request t .normal).control.armed = true ∧
          (s.request t .normal).timers.Waits .debounce) ∧
      ∀ build fault, Overtaken s.journal build fault →
        s.control.halted = some (Control.haltReason fault) ∧ s.request t .normal = s) ∧
    ∀ result fault, lastDiscovery s.journal = some result → graphOf result = .error fault →
      s.control.halted = some (Control.haltReason fault) ∧ s.request t .normal = s := by
  -- nothing follows if nothing runs, so only a halt could keep a request from being scheduled
  have hpending : s.control.pending = none := by
    by_contra hpending
    have := h.steady.pending (Option.isSome_iff_ne_none.2 hpending)
    simp [hrunning] at this
  have hrequest : s.request t .normal = s.take (s.control.requestNormal t) := by
    simp [request, Control.request, h.steady.shutdown]
  have htold : s.control.halted = _ := h.haltTold
  have hhalted : ∀ build fault, haltedBy s.journal = some (build, fault) →
      s.control.halted = some (Control.haltReason fault) ∧ s.request t .normal = s := by
    intro build fault hby
    rw [hby] at htold
    rw [hrequest, take_requestNormal, htold]
    exact ⟨rfl, by simp⟩
  refine ⟨?accepted, ?failed⟩
  case accepted =>
    intro m g hlast hg
    refine ⟨fun hnot => ?_, fun build fault hover => hhalted build fault hover.1⟩
    have hnone : haltedBy s.journal = none := by
      by_contra hsome
      obtain ⟨⟨build, fault⟩, hby⟩ := Option.ne_none_iff_exists'.1 hsome
      exact hnot build fault (h.overtaken_of_accepted hlast hg hby)
    rw [hnone] at htold
    rw [hrequest, take_requestNormal]
    simp only [htold, hpending]
    exact ⟨rfl, rfl, rfl, Timers.waits_schedule_self ..⟩
  case failed =>
    intro result fault hlast hresult
    have hidle : s.stage = .idle := h.steady.stage_eq_idle (by simp [hrunning])
    rcases h.latched.told fault ⟨result, hlast, hresult⟩ (h.asksFull_eq_false hrunning) with
      ⟨build, hrefused⟩ | ⟨build, hby⟩
    · simp [hidle] at hrefused
    · exact hhalted build fault hby

/-- A project without units. -/
def bareModel : ProjectModel :=
  { root := ⟨"/w"⟩, units := [], manifests := [], buildScriptFiles := [] }

/-- Why another project cannot be discovered. -/
def missingTable : BuildFault := .configurationInvalid (.refused "missing [package] table")

/-- A failed discovery halts normal builds, and a full build that is asked for afterwards and that
discovers the project lifts the halt. -/
theorem bareModel_lifts_halt :
    ∃ s s' : BuildSystem, ∃ g, Reachable {} s ∧ s.control.running = none ∧
      lastDiscovery s.journal = some (.error missingTable) ∧
      s.control.halted = some "missing [package] table" ∧ s.request {} .normal = s ∧
      Reachable {} s' ∧ s'.control.running = none ∧
      lastDiscovery s'.journal = some (.ok bareModel) ∧ UnitGraph.ofModel bareModel = .ok g ∧
      (∀ build fault, ¬ Overtaken s'.journal build fault) ∧
      s'.control.halted = none ∧ (s'.request {} .normal).control.phase = .debouncing ∧
      (s'.request {} .normal).control.armed = true ∧
      (s'.request {} .normal).timers.Waits .debounce := by
  have hgraph : UnitGraph.ofModel bareModel = .ok (UnitGraph.assemble bareModel) := by
    decide +kernel
  have hbare : graphOf (.ok bareModel) = .ok (UnitGraph.assemble bareModel) := by
    decide +kernel
  have hbegun := Reachable.step (t := {}) .init (.request _ .full)
  have hrefused := hbegun.step
    (.refuse rfl (Or.inl rfl) (.error missingTable) rfl (by simp [missingTable]))
  have hhalted := (hrefused.step (.halt rfl)).step (.finish rfl 0)
  have hagain := hhalted.step (.request _ .full)
  have hdiscovered := hagain.step (.discover rfl (Or.inl rfl) (.ok bareModel) hbare)
  have hqueued := ((hdiscovered.step (.adopt rfl)).step (.ticket rfl)).step (.enqueue rfl)
  have hend := (hqueued.step (.endPass rfl rfl)).step (.finish rfl 0)
  have hstands := (halt_follows_discovery hhalted rfl).2 (.error missingTable) _ rfl rfl
  -- the second request came when the first build had ended
  have hnot : ∀ build fault, ¬ Overtaken
      [.ticket 2, .discovery (.ok bareModel), .requestedFull none, .halted 1 missingTable,
        .discovery (.error missingTable), .requestedFull none] build fault := by
    rintro build fault ⟨hby, -⟩
    simp [haltedBy] at hby
  exact ⟨_, _, _, hhalted, rfl, rfl, hstands.1, hstands.2, hend, rfl, rfl, hgraph, hnot,
    ((halt_follows_discovery hend rfl).1 _ _ rfl hgraph).1 hnot⟩

/-- **A halt outlives a discovery that succeeded.** A full build that is asked for while a discovery
is about to fail lifts a halt that does not stand yet. So the halt is still there when that build
has discovered the project, no build runs, and requests for normal builds are ignored. -/
theorem halt_outlives_discovery :
    ∃ s : BuildSystem, Reachable {} s ∧ s.control.running = none ∧ s.control.phase = .idle ∧
      lastDiscovery s.journal = some (.ok bareModel) ∧
      s.control.graph = some (UnitGraph.assemble bareModel) ∧
      s.control.halted = some "missing [package] table" ∧ s.request {} .normal = s := by
  have hbare : graphOf (.ok bareModel) = .ok (UnitGraph.assemble bareModel) := by
    decide +kernel
  have hbegun := Reachable.step (t := {}) .init (.request _ .full)
  -- the second request comes too early to lift the halt
  have hasked := hbegun.step (.request _ .full)
  have hrefused := hasked.step
    (.refuse rfl (Or.inl rfl) (.error missingTable) rfl (by simp [missingTable]))
  have hagain := (hrefused.step (.halt rfl)).step (.finish rfl 0)
  have hdiscovered := hagain.step (.discover rfl (Or.inl rfl) (.ok bareModel) hbare)
  have hqueued := ((hdiscovered.step (.adopt rfl)).step (.ticket rfl)).step (.enqueue rfl)
  have hend := (hqueued.step (.endPass rfl rfl)).step (.finish rfl 0)
  exact ⟨_, hend, rfl, rfl, rfl, rfl, rfl, rfl⟩

end BuildSystem

end CodeAtlas
