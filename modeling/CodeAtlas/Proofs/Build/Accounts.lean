import CodeAtlas.Proofs.Build.Journal

/-!
# Units that are accounted for

In every run, every unit of the project is accounted for: the running build still has to come to it,
or it is dirty and another build is to come, or its last analysis settled it. Here is what that
means, what a running build is like, and that steps of those who change no mark leave it so.

## Architecture

- **Layer A**: units that are accounted for;
- **Layer B**: what running builds are like;
- **Layer C**: steps that change no mark.
-/

namespace CodeAtlas

/-! ## Layer A: accounted units -/

/-- The units that the running build still has to come to. -/
def Stage.Covers (u : UnitId) : Stage → Prop
  | .reclaimed _ _ => True
  | .prepared _ _ _ targets => u ∈ targets.toList
  | .ticketed pass => u ∈ pass.remaining []
  | .going pass active => u ∈ pass.remaining active
  | _ => False

/-- Whether no build runs, or it covers no units. -/
def Stage.isOff : Stage → Bool
  | .idle | .begun _ _ | .refused _ _ | .ended _ => true
  | _ => false

theorem Stage.not_covers_of_isOff {stage : Stage} {u : UnitId} (h : stage.isOff = true) :
    ¬ stage.Covers u := by
  cases stage <;> simp_all [Stage.isOff, Stage.Covers]

namespace Control

variable {c : Control} {u : UnitId} {cancelled : Bool}

private theorem get?_mapQueued {q : Table UnitId Bool} (f : UnitId → Bool → Bool)
    (h : q.get? u = some cancelled) : ∃ cancelled', (q.mapValues f).get? u = some cancelled' := by
  refine ⟨f u cancelled, ?_⟩
  rw [Table.get?_mapValues, h]
  · rfl
  · intro j k a hjk
    rw [Std.LawfulEqOrd.eq_of_compare hjk]

theorem get?_cancelAll (h : c.queued.get? u = some cancelled) :
    ∃ cancelled', c.cancelAll.queued.get? u = some cancelled' :=
  get?_mapQueued _ h

theorem get?_cancelQueued (us : KeySet UnitId) (h : c.queued.get? u = some cancelled) :
    ∃ cancelled', (c.cancelQueued us).queued.get? u = some cancelled' := by
  unfold cancelQueued
  split
  · exact get?_mapQueued _ h
  · exact ⟨cancelled, h⟩

end Control

namespace BuildSystem

variable {t : BuildTiming} {s s' : BuildSystem} {u : UnitId} {pass : Pass} {active : List UnitId}

/-- **A unit was last indexed after the last change that concerned it.** -/
def UpToDate (s : BuildSystem) (u : UnitId) : Prop :=
  ∃ build, lastAnalysis s.journal u = some (.indexed build u) ∧ TicketSince build u s.journal

/-- **A unit failed last**, for good or until it is tried again. -/
def FailedLast (t : BuildTiming) (s : BuildSystem) (u : UnitId) : Prop :=
  ∃ build fault attempts, lastAnalysis s.journal u = some (.failed build u fault attempts) ∧
    (fault.isTransient = false ∨ t.maxRetries < attempts ∨ s.RetryToCome)

/-- **A unit is accounted for.** -/
inductive Accounted (t : BuildTiming) (s : BuildSystem) (u : UnitId) : Prop
  | covered (h : s.stage.Covers u)
  | promised (hdirty : s.dirty.isDirty u = true) (h : s.Promised)
  | upToDate (hclean : s.dirty.isDirty u = false) (h : s.UpToDate u)
  | failedLast (hdirty : s.dirty.isDirty u = true) (h : s.FailedLast t u)

/-- **A step that does not concern a unit** leaves it accounted for. -/
theorem Accounted.advance (h : s.Accounted t u)
    (hcovers : s.stage.Covers u → s'.stage.Covers u)
    (hdirty : s'.dirty.isDirty u = s.dirty.isDirty u) (hpromised : s.Promised → s'.Promised)
    (hlast : lastAnalysis s'.journal u = lastAnalysis s.journal u)
    (htickets : ∀ build, TicketSince build u s.journal → TicketSince build u s'.journal)
    (hretry : s.RetryToCome → s'.RetryToCome ∨ s'.Promised) : s'.Accounted t u := by
  cases h with
  | covered h => exact .covered (hcovers h)
  | promised hd h => exact .promised (hdirty.trans hd) (hpromised h)
  | upToDate hd h =>
    obtain ⟨build, hindexed, hticket⟩ := h
    exact .upToDate (hdirty.trans hd) ⟨build, hlast.trans hindexed, htickets build hticket⟩
  | failedLast hd h =>
    obtain ⟨build, fault, n, hfailed, hwhy⟩ := h
    have hfailed' := hlast.trans hfailed
    rcases hwhy with hfault | hover | hwaits
    · exact .failedLast (hdirty.trans hd) ⟨build, fault, n, hfailed', Or.inl hfault⟩
    · exact .failedLast (hdirty.trans hd) ⟨build, fault, n, hfailed', Or.inr (Or.inl hover)⟩
    · -- an attempt that is no longer to come has promised a build
      rcases hretry hwaits with hwaits | h
      · exact .failedLast (hdirty.trans hd) ⟨build, fault, n, hfailed', Or.inr (Or.inr hwaits)⟩
      · exact .promised (hdirty.trans hd) h

/-! ## Layer B: running builds -/

/-- **A build that has its ticket.** Marks that the ticket did not see promise another build, and
units that were marked since are still waited for by such files. -/
structure Ticketed (s : BuildSystem) (pass : Pass) (active : List UnitId) : Prop where
  sound : ∃ targets, pass.Sound targets active
  graph : s.control.graph = some pass.graph
  order : pass.order.Nodup ∧ ∀ u ∈ pass.remaining active, u ∈ pass.order
  versions : ∀ p n, pass.ticket.files.get? p = some n → n ≤ s.dirty.lastVersion
  files : ∀ p f, s.dirty.files.get? p = some f →
    pass.ticket.files.get? p = some f.version ∨ s.Promised
  units : ∀ u ∈ pass.remaining active, s.dirty.units.get? u = pass.ticket.units.get? u
  marks : ∀ u ∈ pass.remaining active, TicketSince pass.build u s.journal ∨
    ∃ p f, s.dirty.files.get? p = some f ∧ u ∈ f.pending.toList ∧
      pass.ticket.files.get? p ≠ some f.version

/-- Units that have not started are queued, and cancelled ones promise another build. -/
def Queued (s : BuildSystem) (pass : Pass) : Prop :=
  ∀ u ∈ pass.remaining [], ∃ cancelled, s.control.queued.get? u = some cancelled ∧
    (cancelled = true → s.Promised)

/-- What the running build is like. -/
def StageSound (s : BuildSystem) : Prop :=
  match s.stage with
  | .reclaimed _ g => g.Sound
  | .prepared _ _ g targets =>
    s.control.graph = some g ∧ targets.Ordered ∧ ∀ u ∈ targets.toList, u ∈ g.unitIds.toList
  | .ticketed pass => s.Ticketed pass []
  | .going pass active => s.Ticketed pass active ∧ s.Queued pass
  | _ => True

theorem stageSound_of_isOff (h : s.stage.isOff = true) : s.StageSound := by
  unfold StageSound
  cases hs : s.stage with
  | idle | begun | refused | ended => trivial
  | reclaimed | prepared | ticketed | going => simp [hs, Stage.isOff] at h

/-- A step of somebody else leaves the running build as it is. -/
theorem StageSound.imp (h : s.StageSound) (hstage : s'.stage = s.stage)
    (hgraph : s'.control.graph = s.control.graph)
    (hticketed : ∀ pass active, s.Ticketed pass active → s'.Ticketed pass active)
    (hqueued : ∀ pass active, s.stage = .going pass active → s.Queued pass → s'.Queued pass) :
    s'.StageSound := by
  unfold StageSound at h ⊢
  rw [hstage, hgraph]
  cases hs : s.stage with
  | idle | begun | refused | ended => trivial
  | reclaimed | prepared =>
    rw [hs] at h
    exact h
  | ticketed pass =>
    rw [hs] at h
    exact hticketed pass [] h
  | going pass active =>
    rw [hs] at h
    exact ⟨hticketed pass active h.1, hqueued pass active hs h.2⟩

/-- **The invariant of all runs.** -/
structure Sound (t : BuildTiming) (s : BuildSystem) : Prop where
  dirty : s.dirty.Sound
  graph : ∀ g, s.control.graph = some g → g.Sound
  stage : s.StageSound
  accounted : ∀ g, s.control.graph = some g → ∀ u ∈ g.unitIds.toList, s.Accounted t u

theorem sound_init : Sound t {} where
  dirty := DirtySet.sound_empty
  graph := by simp
  stage := trivial
  accounted := by simp

/-! ## Layer C: steps that change no mark -/

/-- **A step that changes no mark** and ends no analysis. -/
structure Quiet (s s' : BuildSystem) : Prop where
  dirty : s'.dirty = s.dirty
  graph : s'.control.graph = s.control.graph
  analyses : ∀ u, lastAnalysis s'.journal u = lastAnalysis s.journal u
  tickets : ∀ build u, TicketSince build u s.journal → TicketSince build u s'.journal
  promised : s.Promised → s'.Promised
  retry : s.RetryToCome → s'.RetryToCome ∨ s'.Promised
  stage : s'.stage = s.stage ∨ s.stage.isOff = true ∧ s'.stage.isOff = true
  queued : s.stage.isOff = false → ∀ u cancelled, s.control.queued.get? u = some cancelled →
    ∃ cancelled', s'.control.queued.get? u = some cancelled' ∧
      (cancelled' = true → cancelled = true ∨ s'.Promised)

theorem Ticketed.quiet (h : s.Ticketed pass active) (hq : Quiet s s') :
    s'.Ticketed pass active where
  sound := h.sound
  graph := hq.graph.trans h.graph
  order := h.order
  versions := by
    rw [hq.dirty]
    exact h.versions
  files := by
    intro p f hf
    rw [hq.dirty] at hf
    exact (h.files p f hf).imp_right hq.promised
  units := by
    rw [hq.dirty]
    exact h.units
  marks := by
    rw [hq.dirty]
    intro u hu
    exact (h.marks u hu).imp_left (hq.tickets _ u)

theorem Accounted.quiet (h : s.Accounted t u) (hq : Quiet s s') : s'.Accounted t u := by
  refine h.advance ?_ (by rw [hq.dirty]) hq.promised (hq.analyses u) (hq.tickets · u) hq.retry
  intro hcovers
  rcases hq.stage with hstage | ⟨hoff, -⟩
  · rw [hstage]
    exact hcovers
  · exact absurd hcovers (Stage.not_covers_of_isOff hoff)

theorem Sound.quiet (h : s.Sound t) (hq : Quiet s s') : s'.Sound t where
  dirty := hq.dirty ▸ h.dirty
  graph := by
    rw [hq.graph]
    exact h.graph
  stage := by
    rcases hq.stage with hstage | ⟨-, hoff⟩
    · -- what is cancelled now promises a build, and what was cancelled before still does
      refine h.stage.imp hstage hq.graph (fun pass active hticketed => hticketed.quiet hq) ?_
      intro pass active hs hqueued u hu
      obtain ⟨cancelled, hget, hwhy⟩ := hqueued u hu
      obtain ⟨cancelled', hget', hwhy'⟩ := hq.queued (by rw [hs]; rfl) u cancelled hget
      refine ⟨cancelled', hget', fun hc => ?_⟩
      rcases hwhy' hc with hold | hnew
      · exact hq.promised (hwhy hold)
      · exact hnew
    · exact stageSound_of_isOff hoff
  accounted := by
    rw [hq.graph]
    intro g hg u hu
    exact (h.accounted g hg u hu).quiet hq

/-- As long as a changed file is being taken note of, a build is promised. -/
theorem quiet_editors {editors : List Editor} (h : editors ≠ []) :
    Quiet s { s with editors := editors } where
  dirty := rfl
  graph := rfl
  analyses _ := rfl
  tickets _ _ := id
  promised _ := .editing h
  retry := Or.inl
  stage := Or.inl rfl
  queued _ _ cancelled hget := ⟨cancelled, hget, Or.inl⟩

theorem quiet_cancelQueued {editors : List Editor} (h : editors ≠ []) (us : KeySet UnitId) :
    Quiet s { s with control := s.control.cancelQueued us, editors := editors } := by
  have hpromised : Promised
      { s with control := s.control.cancelQueued us, editors := editors } :=
    .editing h
  refine ⟨rfl, ?_, fun _ => rfl, fun _ _ => id, fun _ => hpromised, Or.inl, Or.inl rfl, ?_⟩
  · simp only
    rw [Control.cancelQueued_eq]
  · intro _ u cancelled hget
    obtain ⟨cancelled', hget'⟩ := Control.get?_cancelQueued us hget
    exact ⟨cancelled', hget', fun _ => Or.inr hpromised⟩

theorem Asked.quiet (h : Asked s s') (hdirty : s'.dirty = s.dirty)
    (hanalyses : ∀ u, lastAnalysis s'.journal u = lastAnalysis s.journal u)
    (htickets : ∀ build u, TicketSince build u s.journal → TicketSince build u s'.journal) :
    Quiet s s' := by
  refine ⟨hdirty, h.graph, hanalyses, htickets, fun _ => h.promised, fun _ => Or.inr h.promised,
    ?_, ?_⟩
  · rcases h.stage with ⟨hstage, -⟩ | ⟨hidle, -, p, hbegun⟩
    · exact Or.inl hstage
    · exact Or.inr ⟨by rw [hidle]; rfl, by rw [hbegun]; rfl⟩
  · intro _ u cancelled hget
    rcases h.queued with hqueued | hqueued
    · exact ⟨cancelled, hqueued ▸ hget, Or.inl⟩
    · -- a full build cancels what has not started, and is itself to come
      obtain ⟨cancelled', hget'⟩ := Control.get?_cancelAll hget
      exact ⟨cancelled', hqueued ▸ hget', fun _ => Or.inr h.promised⟩

theorem quiet_request (h : s.Steady) (t : BuildTiming) (p : Priority) :
    Quiet s (s.request t p) := by
  refine (h.request t p).quiet (by cases p <;> simp [request]) ?_ ?_
  · intro u
    cases p with
    | full => rw [request, lastAnalysis_cons_of_not rfl, take_journal]
    | normal => rw [request, take_journal]
  · intro build u hticket
    cases p with
    | full =>
      rw [request, take_journal]
      exact hticket.cons (by simp)
    | normal =>
      rw [request, take_journal]
      exact hticket

theorem quiet_fired (h : s.Steady) (k : TimerKey) : Quiet s (s.take (fired s.control k)) :=
  (h.fired k).quiet (take_dirty _) (fun u => by rw [take_journal])
    (fun build u hticket => by rw [take_journal]; exact hticket)

theorem quiet_wait (now : Nat) : Quiet s { s with timers := { s.timers with now := now } } where
  dirty := rfl
  graph := rfl
  analyses _ := rfl
  tickets _ _ := id
  promised h := h.congr rfl rfl rfl
  retry := Or.inl
  stage := Or.inl rfl
  queued _ _ cancelled hget := ⟨cancelled, hget, Or.inl⟩

theorem quiet_elapse (ht : s.timers.Sound) {a : Timer TimerKey Unit} (ha : a ∈ s.timers.waiting) :
    Quiet s { s with timers := s.timers.fire a, due := a.key :: s.due } where
  dirty := rfl
  graph := rfl
  analyses _ := rfl
  tickets _ _ := id
  promised h := h.congr rfl rfl rfl
  retry := by
    rintro (hwaits | hdue)
    · -- the timer that runs out may be the one in question: then it is due
      by_cases hkey : a.key = .retry
      · exact Or.inl (Or.inr (by simp [hkey]))
      · exact Or.inl (Or.inl (ht.waits_fire ha (Ne.symm hkey) hwaits))
    · exact Or.inl (Or.inr (List.mem_cons_of_mem _ hdue))
  stage := Or.inl rfl
  queued _ _ cancelled hget := ⟨cancelled, hget, Or.inl⟩

theorem quiet_refuse {build : Nat} {p : Priority} (hstage : s.stage = .begun build p)
    (result : Except BuildFault ProjectModel) (fault : BuildFault) :
    Quiet s { s with stage := .refused build fault, journal := .discovery result :: s.journal } where
  dirty := rfl
  graph := rfl
  analyses u := lastAnalysis_cons_of_not rfl
  tickets _ _ hticket := hticket.cons (by simp)
  promised _ := .refused build fault rfl
  retry hretry := Or.inl hretry
  stage := Or.inr ⟨by rw [hstage]; rfl, rfl⟩
  queued hoff := by simp [hstage, Stage.isOff] at hoff

theorem quiet_halt {build : Nat} {fault : BuildFault} (hstage : s.stage = .refused build fault) :
    Quiet s ({ s with stage := .ended none, journal := .halted build fault :: s.journal }.take
      (s.control.halt fault)) where
  dirty := rfl
  graph := rfl
  analyses u := lastAnalysis_cons_of_not rfl
  tickets _ _ hticket := hticket.cons (by simp)
  promised _ := .halted rfl
  retry hretry := Or.inl hretry
  stage := Or.inr ⟨by rw [hstage]; rfl, rfl⟩
  queued hoff := by simp [hstage, Stage.isOff] at hoff

theorem quiet_finish (h : s.Steady) {summary : Option BuildSummary}
    (hstage : s.stage = .ended summary) (duration : Nat) :
    Quiet s ({ s with stage := .idle }.take (s.control.finishPass summary duration)) := by
  have hfinished := h.finishPass hstage summary duration
  refine ⟨take_dirty _, hfinished.graph, fun u => by rw [take_journal], ?_, hfinished.promised, ?_,
    Or.inr ⟨by rw [hstage]; rfl, ?_⟩, ?_⟩
  · intro build u hticket
    rw [take_journal]
    exact hticket
  · rintro (hwaits | hdue)
    · exact Or.inl (Or.inl ((take_timers (s := { s with stage := .idle }) h.timers _).2 hwaits))
    · exact Or.inl (Or.inr (by rw [take_due]; exact hdue))
  · rcases hfinished.stage with ⟨hidle, -⟩ | ⟨-, p, hbegun⟩
    · rw [hidle]
      rfl
    · rw [hbegun]
      rfl
  · simp [hstage, Stage.isOff]

end BuildSystem

end CodeAtlas
