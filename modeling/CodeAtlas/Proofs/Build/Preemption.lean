import CodeAtlas.Proofs.Build.Course.Ending
import CodeAtlas.Proofs.Build.Edits

/-!
# Full builds are not preempted by edits

An edit cancels units of a running build that have not started, unless the build was asked for as a
full one; a request for a full build cancels those of any build. So in a build that was asked for as
a full one, whatever is skipped is skipped for a full build that was asked for meanwhile, and is
part of the next build anyway.

What control goes by is how the build was asked for. A normal build of a project that is not known
yet becomes a full one on the way, and control does not take note of it: such a build is preempted
by edits like any normal one.

Here a run is given by its history, so that what is skipped in the end can be traced back to the
move that cancelled it.

## Architecture

- **Layer A**: histories, and what cancels a unit;
- **Layer B**: moves and the units of the running build;
- **Layer C**: the invariant of a full build;
- **Layer D**: moves keep the invariant;
- **Layer E**: the main result, and the build it does not speak of.
-/

namespace CodeAtlas

/-! ## Layer A: histories -/

/-- Whether a stage is the beginning of the build `n`, asked for as a normal one. -/
def Stage.beginsNormal (n : Nat) : Stage → Bool
  | .begun build .normal => build == n
  | _ => false

namespace BuildSystem

variable {t : BuildTiming} {a b s s' : BuildSystem} {past : List BuildSystem} {n : Nat}
  {u : UnitId} {pass : Pass} {active : List UnitId}

/-- **A move of a run**: a step of one of the parties, or the discovery of the project is cancelled,
and the build ends without a summary. -/
inductive Moves (t : BuildTiming) (s : BuildSystem) : BuildSystem → Prop
  | step {s' : BuildSystem} (h : Step t s s') : Moves t s s'
  | abandon {build : Nat} {p : Priority} (h : s.stage = .begun build p)
      (hp : p = .full ∨ s.control.graph = none) : Moves t s { s with stage := .ended none }

/-- **The states of a run** that begins with a new queue, the latest first. -/
inductive History (t : BuildTiming) : List BuildSystem → Prop
  | init : History t [{}]
  | move {s s' : BuildSystem} {past : List BuildSystem} (h : History t (s :: past))
      (hmove : Moves t s s') : History t (s' :: s :: past)

/-- **A full build is asked for**, from outside or for a change that concerns the project. -/
inductive AsksFull (t : BuildTiming) (s : BuildSystem) : BuildSystem → Prop
  | request : AsksFull t s (s.request t .full)
  | ask {l r : List Editor} (h : s.editors = l ++ .asking .full :: r) :
      AsksFull t s ({ s with editors := l ++ r }.request t .full)

/-- A unit that has not started is cancelled between two states. -/
def Cancels (a b : BuildSystem) (u : UnitId) : Prop :=
  a.control.queued.get? u = some false ∧ b.control.queued.get? u = some true

/-- **A full build that was asked for while the build `n` ran took the unit along**: it cancelled the
unit itself, or one that the unit depends on. -/
def Preempted (t : BuildTiming) (h : List BuildSystem) (n : Nat) (g : UnitGraph) (u : UnitId) :
    Prop :=
  ∃ a b v pass active, [b, a] <:+: h ∧ a.stage = .going pass active ∧ pass.build = n ∧
    pass.graph = g ∧ AsksFull t a b ∧ Cancels a b v ∧
    Relation.ReflTransGen (fun x d => d ∈ g.depsOf x) u v

/-- What happened stays part of the history. -/
theorem Preempted.cons {h : List BuildSystem} {g : UnitGraph} (hu : Preempted t h n g u)
    (s : BuildSystem) : Preempted t (s :: h) n g u := by
  obtain ⟨a, b, v, pass, active, hinfix, hcause⟩ := hu
  exact ⟨a, b, v, pass, active, List.infix_cons hinfix, hcause⟩

/-- Whoever depends on a unit that was taken along is taken along, too. -/
theorem Preempted.behind {h : List BuildSystem} {g : UnitGraph} {v : UnitId}
    (hv : Preempted t h n g v) (hreach : Relation.ReflTransGen (fun x d => d ∈ g.depsOf x) u v) :
    Preempted t h n g u := by
  obtain ⟨a, b, w, pass, active, hinfix, hstage, hbuild, hgraph, hasks, hcancels, hvw⟩ := hv
  exact ⟨a, b, w, pass, active, hinfix, hstage, hbuild, hgraph, hasks, hcancels, hreach.trans hvw⟩

theorem Moves.steady (hs : s.Steady) (hmove : Moves t s s') : s'.Steady := by
  cases hmove with
  | step hstep => exact hs.step hstep
  | abandon h => exact hs.update rfl (by simp [h]) hs.timers

theorem History.steady (h : History t (s :: past)) : s.Steady := by
  generalize hstates : s :: past = states at h
  induction h generalizing s past with
  | init =>
    obtain ⟨rfl, -⟩ := List.cons.inj hstates
    exact steady_init
  | move _ hmove ih =>
    obtain ⟨rfl, -⟩ := List.cons.inj hstates
    exact hmove.steady (ih rfl)

/-! ## Layer B: the units of the running build -/

/-- The running build goes on, with the same units in its queue. -/
structure Stays (a b : BuildSystem) : Prop where
  stage : b.stage = a.stage
  running : b.control.running = a.control.running
  queued : ∀ u c, a.control.queued.get? u = some c → ∃ c', b.control.queued.get? u = some c'

/-- A build begins. -/
def Begins (s : BuildSystem) : Prop :=
  ∃ build p, s.stage = .begun build p ∧ s.control.running = some p

theorem begins_launch (s : BuildSystem) (c : Control) (p : Priority) : (s.launch c p).Begins :=
  ⟨c.builds + 1, p, rfl, rfl⟩

theorem stays_of_eq (hstage : b.stage = a.stage) (hrunning : b.control.running = a.control.running)
    (hqueued : b.control.queued = a.control.queued) : Stays a b :=
  ⟨hstage, hrunning, fun _ c hc => ⟨c, hqueued ▸ hc⟩⟩

/-- No unit is cancelled where the queue stays as it is. -/
theorem not_cancels_of_eq (hqueued : b.control.queued = a.control.queued) : ¬ Cancels a b u := by
  rintro ⟨hfalse, htrue⟩
  rw [hqueued, hfalse] at htrue
  cases htrue

/-- A move that cancels nothing: the running build goes on, or a build begins. -/
structure Calm (a b : BuildSystem) : Prop where
  queued : b.control.queued = a.control.queued
  course : Stays a b ∨ b.Begins

/-- A build that is due begins, or waits for the running one. -/
theorem calm_enqueue (c : Control) (hc : c.shutdown = false)
    (hrunning : c.running = s.control.running) (hqueued : c.queued = s.control.queued)
    (p : Priority) : Calm s (s.take (c.enqueue p)) := by
  rw [take_enqueue s hc]
  split
  · split
    · exact ⟨hqueued, .inl (stays_of_eq rfl hrunning hqueued)⟩
    · exact ⟨hqueued, .inl (stays_of_eq rfl hrunning hqueued)⟩
  · split
    · exact ⟨hqueued, .inl (stays_of_eq rfl hrunning hqueued)⟩
    · exact ⟨hqueued, .inr (begins_launch ..)⟩

/-- **Timers cancel nothing.** -/
theorem Steady.calm_fired (hs : s.Steady) (k : TimerKey) :
    Calm s (s.take (BuildSystem.fired s.control k)) := by
  cases k with
  | debounce =>
    show Calm s (s.take (Control.enqueue { s.control with armed := false } .normal))
    exact calm_enqueue { s.control with armed := false } hs.shutdown rfl rfl .normal
  | retry =>
    simp only [BuildSystem.fired, Control.retryFired]
    split
    · exact ⟨rfl, .inl (stays_of_eq rfl rfl rfl)⟩
    · exact calm_enqueue s.control hs.shutdown rfl rfl .normal

/-- **Requests for normal builds cancel nothing.** -/
theorem Steady.calm_request (hs : s.Steady) : Calm s (s.request t .normal) := by
  show Calm s (s.take (s.control.request t .normal))
  simp only [Control.request, hs.shutdown, Bool.false_eq_true, if_false]
  rw [take_requestNormal]
  split
  · exact ⟨rfl, .inl (stays_of_eq rfl rfl rfl)⟩
  · exact ⟨rfl, .inl (stays_of_eq rfl rfl rfl)⟩

/-- **A request leaves the running build its units**, cancelled or not, or a build begins. -/
theorem Steady.stays_or_begins (hs : s.Steady) (p : Priority) :
    Stays s (s.request t p) ∨ (s.request t p).Begins := by
  cases p with
  | normal => exact hs.calm_request.course
  | full =>
    show Stays s { s.take (s.control.request t .full) with journal := _ } ∨
      Begins { s.take (s.control.request t .full) with journal := _ }
    simp only [Control.request, hs.shutdown, Bool.false_eq_true, if_false]
    rw [take_requestFull]
    simp only
    split
    -- a build is running: it keeps its units, each of them cancelled
    · refine .inl ⟨rfl, rfl, ?_⟩
      intro u c hc
      exact Control.get?_cancelAll hc
    · exact .inr ⟨_, .full, rfl, rfl⟩

/-- **Only requests for full builds cancel units of a build that control knows as a full one.** -/
theorem Moves.asksFull (hs : a.Steady) (hmove : Moves t a b) (hstage : a.stage = .going pass active)
    (hrunning : a.control.running = some .full) (hcancels : Cancels a b u) : AsksFull t a b := by
  cases hmove with
  | abandon h => simp [hstage] at h
  | step hstep =>
    cases hstep with
    | notice | look | unknown | unowned | owned | mark | wait | elapse | prepare | discover | adopt
    | refuse | ticket | indexed | endPass =>
      exact absurd hcancels (not_cancels_of_eq rfl)
    | cancel =>
      -- an edit asks how the build was asked for, and leaves a full one alone
      refine absurd hcancels (not_cancels_of_eq ?_)
      simp [Control.cancelQueued, hrunning]
    | ask hask =>
      rename_i l r p
      cases p with
      | full => exact .ask hask
      | normal =>
        have hcalm := (hs.of_editors (l ++ r)).calm_request (t := t)
        exact absurd hcancels (not_cancels_of_eq hcalm.queued)
    | request p =>
      cases p with
      | full => exact .request
      | normal => exact absurd hcancels (not_cancels_of_eq hs.calm_request.queued)
    | fire hdue =>
      rename_i l r k
      exact absurd hcancels (not_cancels_of_eq ((hs.of_due (l ++ r)).calm_fired k).queued)
    | halt h => simp [hstage] at h
    | enqueue h => simp [hstage] at h
    | finish h => simp [hstage] at h
    | start | skip =>
      -- the queue only loses a unit
      obtain ⟨hfalse, htrue⟩ := hcancels
      change (a.control.queued.erase _).get? u = some true at htrue
      rw [Table.get?_erase] at htrue
      split at htrue
      · cases htrue
      · rw [hfalse] at htrue
        cases htrue
    | failed h fault hfault =>
      rename_i v
      obtain ⟨attempts, timers, n, heq, -⟩ := noteFailure_spec hs.timers t pass v fault
      refine absurd hcancels (not_cancels_of_eq ?_)
      obtain ⟨rfl, -⟩ := Stage.going.inj (hstage.symm.trans h)
      rw [heq]

/-! ## Layer C: the invariant of a full build -/

/-- **What is known of a full build whose units are on their way**, given the history up to now. -/
structure Guarded (t : BuildTiming) (h : List BuildSystem) (s : BuildSystem) (pass : Pass)
    (active : List UnitId) : Prop where
  priority : pass.priority = .full
  running : s.control.running = some .full
  sound : ∃ targets, pass.Sound targets active
  /-- Units that have not started are queued, and only full builds have cancelled any. -/
  queued : ∀ u ∈ pass.remaining [], ∃ c, s.control.queued.get? u = some c ∧
    (c = true → Preempted t h pass.build pass.graph u)
  skipped : ∀ u ∈ pass.skipped, Preempted t h pass.build pass.graph u

/-- **What holds of the build `n` at each stage**, provided it was asked for as a full one. -/
def Protected (t : BuildTiming) (h : List BuildSystem) (n : Nat) (s : BuildSystem) : Prop :=
  match s.stage with
  | .idle => True
  | .begun _ p => s.control.running = some p
  | .refused _ _ => True
  | .reclaimed build g => g.Sound ∧ (build = n → s.control.running = some .full)
  | .prepared build p g targets =>
    build = n → p = .full ∧ s.control.running = some .full ∧ g.Sound ∧ targets = g.unitIds
  | .ticketed pass =>
    pass.build = n → s.control.running = some .full ∧ ∃ g ticket, g.Sound ∧
      pass = Pass.new n .full g g.unitIds ticket
  | .going pass active => pass.build = n → Guarded t h s pass active
  | .ended none => True
  | .ended (some summary) =>
    summary.build = n → summary.priority = .full ∧
      ∃ g, ∀ u ∈ summary.skipped, Preempted t h n g u

theorem Begins.isProtected (hs : s.Begins) (t : BuildTiming) (h : List BuildSystem) (n : Nat) :
    Protected t h n s := by
  obtain ⟨build, p, hstage, hrunning⟩ := hs
  unfold Protected
  rw [hstage]
  exact hrunning

theorem Protected.begun {build : Nat} {p : Priority} (h : Protected t past n s)
    (hstage : s.stage = .begun build p) : s.control.running = some p := by
  unfold Protected at h
  rwa [hstage] at h

theorem Protected.reclaimed {build : Nat} {g : UnitGraph} (h : Protected t past n s)
    (hstage : s.stage = .reclaimed build g) :
    g.Sound ∧ (build = n → s.control.running = some .full) := by
  unfold Protected at h
  rwa [hstage] at h

theorem Protected.prepared {build : Nat} {p : Priority} {g : UnitGraph} {targets : KeySet UnitId}
    (h : Protected t past n s) (hstage : s.stage = .prepared build p g targets) (hbuild : build = n) :
    p = .full ∧ s.control.running = some .full ∧ g.Sound ∧ targets = g.unitIds := by
  unfold Protected at h
  rw [hstage] at h
  exact h hbuild

theorem Protected.ticketed (h : Protected t past n s) (hstage : s.stage = .ticketed pass)
    (hbuild : pass.build = n) :
    s.control.running = some .full ∧ ∃ g ticket, g.Sound ∧
      pass = Pass.new n .full g g.unitIds ticket := by
  unfold Protected at h
  rw [hstage] at h
  exact h hbuild

theorem Protected.going (h : Protected t past n s) (hstage : s.stage = .going pass active)
    (hbuild : pass.build = n) : Guarded t past s pass active := by
  unfold Protected at h
  rw [hstage] at h
  exact h hbuild

/-! ## Layer D: moves -/

/-- **A move that leaves the build where it is.** What it cancels, it cancels for a full build. -/
theorem Guarded.stays (h : Guarded t (s :: past) s pass active) (hs : s.Steady)
    (hmove : Moves t s s') (hstage : s.stage = .going pass active) (hstays : Stays s s') :
    Guarded t (s' :: s :: past) s' pass active := by
  refine ⟨h.priority, hstays.running.trans h.running, h.sound, ?_,
    fun u hu => (h.skipped u hu).cons s'⟩
  intro u hu
  obtain ⟨c, hc, hwhy⟩ := h.queued u hu
  obtain ⟨c', hc'⟩ := hstays.queued u c hc
  refine ⟨c', hc', ?_⟩
  rintro rfl
  cases c with
  | true => exact (hwhy rfl).cons s'
  | false =>
    -- the unit was cancelled just now
    have hcancels : Cancels s s' u := ⟨hc, hc'⟩
    have hasks := hmove.asksFull hs hstage h.running hcancels
    exact ⟨s, s', u, pass, active, ⟨[], past, rfl⟩, hstage, rfl, rfl, hasks, hcancels, .refl⟩

theorem Protected.stays (h : Protected t (s :: past) n s) (hs : s.Steady) (hmove : Moves t s s')
    (hstays : Stays s s') : Protected t (s' :: s :: past) n s' := by
  unfold Protected at h ⊢
  rw [hstays.stage, hstays.running]
  cases hstage : s.stage with
  | idle => trivial
  | refused build fault => trivial
  | begun build p => simpa [hstage] using h
  | reclaimed build g => simpa [hstage] using h
  | prepared build p g targets => simpa [hstage] using h
  | ticketed pass => simpa [hstage] using h
  -- only here does the queue matter, and in the end only what was skipped
  | going pass active =>
    simp only [hstage] at h
    exact fun hbuild => (h hbuild).stays hs hmove hstage hstays
  | ended summary =>
    cases summary with
    | none => trivial
    | some summary =>
      simp only [hstage] at h
      intro hbuild
      obtain ⟨hpriority, g, hskipped⟩ := h hbuild
      exact ⟨hpriority, g, fun u hu => (hskipped u hu).cons s'⟩

/-- **The units of a build go on**, while control only takes units out of its queue. -/
theorem Guarded.advance {next : Pass} {active' : List UnitId}
    (h : Guarded t (s :: past) s pass active) (hpriority : next.priority = pass.priority)
    (hcontinues : pass.Continues next) (hsound : ∃ targets, next.Sound targets active')
    (hrunning : s'.control.running = s.control.running)
    (hqueued : ∀ v ∈ next.remaining [], v ∈ pass.remaining [] ∧
      s'.control.queued.get? v = s.control.queued.get? v)
    (hskipped : ∀ v ∈ next.skipped, v ∈ pass.skipped ∨
      Preempted t (s :: past) pass.build pass.graph v) :
    Guarded t (s' :: s :: past) s' next active' := by
  refine ⟨hpriority.trans h.priority, hrunning.trans h.running, hsound, ?_, ?_⟩
  · rw [hcontinues.build, hcontinues.graph]
    intro v hv
    obtain ⟨hmem, hget⟩ := hqueued v hv
    obtain ⟨c, hc, hwhy⟩ := h.queued v hmem
    exact ⟨c, hget.trans hc, fun htrue => (hwhy htrue).cons s'⟩
  · rw [hcontinues.build, hcontinues.graph]
    intro v hv
    -- what was taken along before stays so, whatever is added to the history
    rcases hskipped v hv with hold | hnew
    · exact (h.skipped v hold).cons s'
    · exact hnew.cons s'

/-- **A unit is started**, and leaves the queue. -/
theorem Guarded.start (h : Guarded t (s :: past) s pass active) {next : Pass}
    (hnext : pass.next? = some (u, next)) (hcontrol : s'.control = s.control.dequeue u) :
    Guarded t (s' :: s :: past) s' next (u :: active) := by
  obtain ⟨targets, hpass⟩ := h.sound
  have hcontinues := Pass.continues_next hnext
  have hstarted := hpass.start hnext
  have hqueued : ∀ v ∈ next.remaining [], v ∈ pass.remaining [] ∧
      s'.control.queued.get? v = s.control.queued.get? v := by
    intro v hv
    obtain ⟨hmem, hne⟩ := hpass.unstarted_of_next hnext hv
    rw [hcontrol]
    exact ⟨hmem, get?_dequeue_of_ne _ hne⟩
  obtain ⟨rest, -, -, rfl⟩ := Pass.next?_eq_some hnext hpass.ready_ordered
  exact h.advance rfl hcontinues ⟨targets, hstarted⟩ (by rw [hcontrol]; rfl) hqueued
    fun v hv => .inl hv

/-- **A unit that may not start was cancelled for a full build**, since the project knows it. -/
theorem Guarded.preempted_of_skip (h : Guarded t past s pass active) {next : Pass}
    (hnext : pass.next? = some (u, next))
    (hmay : ¬ (s.control.mayStart u = true ∧ (pass.graph.unit? u).isSome = true)) :
    Preempted t past pass.build pass.graph u := by
  obtain ⟨targets, hpass⟩ := h.sound
  have hmem := Pass.mem_unstarted_of_next hnext hpass.ready_ordered
  obtain ⟨unit, hunit⟩ := hpass.graph.toLinked.unit?_isSome (hpass.known_of_unstarted hmem)
  obtain ⟨c, hget, hwhy⟩ := h.queued u hmem
  cases c with
  | true => exact hwhy rfl
  | false => exact absurd ⟨by simp [Control.mayStart, hget], by simp [hunit]⟩ hmay

/-- **A unit is skipped** with all that wait for it. -/
theorem Guarded.skip (h : Guarded t (s :: past) s pass active) {next : Pass}
    (hnext : pass.next? = some (u, next))
    (hmay : ¬ (s.control.mayStart u = true ∧ (pass.graph.unit? u).isSome = true))
    (hcontrol : s'.control = s.control.dequeue u) :
    Guarded t (s' :: s :: past) s' (next.skip u).2.count active := by
  have hcause := h.preempted_of_skip hnext hmay
  obtain ⟨targets, hpass⟩ := h.sound
  obtain ⟨hskip, -⟩ := hpass.skip hnext
  have hcontinues := Pass.continues_next hnext
  have hstarted := hpass.start hnext
  have hmet : u ∈ targets.toList := hstarted.mem_iff.2 (.inl (by simp [Pass.remaining]))
  obtain ⟨hpriority, hbefore⟩ : next.priority = pass.priority ∧ next.skipped = pass.skipped := by
    obtain ⟨rest, -, -, rfl⟩ := Pass.next?_eq_some hnext hpass.ready_ordered
    exact ⟨rfl, rfl⟩
  refine h.advance hpriority ⟨hcontinues.build, hcontinues.graph, hcontinues.ticket,
    hcontinues.order⟩ ⟨targets, hskip.count⟩ (by rw [hcontrol]; rfl) ?_ ?_
  · intro v hv
    obtain ⟨hmem, hne⟩ := hpass.unstarted_of_skip hnext hv
    rw [hcontrol]
    exact ⟨hmem, get?_dequeue_of_ne _ hne⟩
  · intro v hv
    rcases List.mem_append.1 hv with hold | hnew
    · exact .inl (hbefore ▸ hold)
    · -- it waited for the cancelled unit, directly or behind others
      have hreach := hstarted.reaches_of_skip hmet v hnew
      rw [hcontinues.graph] at hreach
      refine .inr (hcause.behind (Relation.ReflTransGen.mono ?_ _ _ hreach))
      intro x d hd
      exact (UnitGraph.mem_depsWithin.1 hd).1

/-- **A unit ends.** -/
theorem Guarded.ends {l r : List UnitId} {next : Pass}
    (h : Guarded t (s :: past) s pass (l ++ u :: r)) (hpriority : next.priority = pass.priority)
    (hcontinues : pass.Continues next) (hskipped : next.skipped = pass.skipped)
    (hsound : ∀ targets, pass.Sound targets (l ++ u :: r) → next.Sound targets (l ++ r) ∧
      (u :: next.remaining (l ++ r)).Perm (pass.remaining (l ++ u :: r)))
    (hcontrol : s'.control = { s.control with attempts := s'.control.attempts }) :
    Guarded t (s' :: s :: past) s' next (l ++ r) := by
  obtain ⟨targets, hpass⟩ := h.sound
  obtain ⟨hnext, hperm⟩ := hsound targets hpass
  refine h.advance hpriority hcontinues ⟨targets, hnext⟩ (by rw [hcontrol]) ?_
    fun v hv => .inl (hskipped ▸ hv)
  intro v hv
  refine ⟨(Pass.unstarted_perm_of_end hperm).mem_iff.1 hv, ?_⟩
  rw [hcontrol]

theorem Guarded.noteIndexed {l r : List UnitId} (h : Guarded t (s :: past) s pass (l ++ u :: r))
    (hcontrol : s'.control = { s.control with attempts := s'.control.attempts }) :
    Guarded t (s' :: s :: past) s' (pass.count.noteIndexed u) (l ++ r) := by
  have hframe := Pass.frame_release { pass.count with indexed := pass.count.indexed ++ [u] } u
  exact h.ends hframe.priority (pass.continues_noteIndexed u) hframe.skipped
    (fun _ hpass => hpass.count.noteIndexed) hcontrol

theorem Guarded.noteFailed {l r : List UnitId} (h : Guarded t (s :: past) s pass (l ++ u :: r))
    (hcontrol : s'.control = { s.control with attempts := s'.control.attempts }) :
    Guarded t (s' :: s :: past) s' (pass.count.noteFailed u) (l ++ r) := by
  have hframe := Pass.frame_release { pass.count with failed := pass.count.failed ++ [u] } u
  exact h.ends hframe.priority (pass.continues_noteFailed u) hframe.skipped
    (fun _ hpass => hpass.count.noteFailed) hcontrol

/-- **At the end of a build** no more units are skipped than were taken along. -/
theorem Guarded.preempted_of_skipRest (h : Guarded t past s pass []) (hnext : pass.next? = none)
    (hu : u ∈ pass.skipRest.2.skipped) : Preempted t past pass.build pass.graph u := by
  obtain ⟨targets, hpass⟩ := h.sound
  -- every unit that waits has a dependency ahead of it, so none is left
  have hwaiting := hpass.waiting_nil (Pass.next?_eq_none hnext)
  change u ∈ pass.skipped ++ pass.waiting.keys at hu
  rw [hwaiting, List.append_nil] at hu
  exact h.skipped u hu

/-- **The units of a full build are queued**, and none of them is cancelled. -/
theorem guarded_enqueue {g : UnitGraph} {ticket : DirtyTicket} (hs : s.Steady) (hg : g.Sound)
    (hrunning : s.control.running = some .full)
    (hcontrol : s'.control = s.control.queueUnits .full (g.topoOrder g.unitIds)) :
    Guarded t past s' (Pass.new n .full g g.unitIds ticket) [] := by
  have hordered := hg.toLinked.unitIds_ordered
  obtain ⟨hpass, hremaining⟩ := Pass.sound_new hg hordered (fun _ => id) n .full ticket
  have horder := hg.topoOrder_perm hordered fun _ => id
  refine ⟨rfl, by rw [hcontrol]; exact hrunning, ⟨g.unitIds, hpass⟩, ?_, nofun⟩
  intro u hu
  -- nothing is cancelled yet
  refine ⟨false, ?_, nofun⟩
  have hnodup : (((g.topoOrder g.unitIds).map fun u => (u, false)).map (·.1)).Nodup := by
    simpa [Function.comp_def] using horder.nodup_iff.2 hordered.nodup
  have hqueued : s'.control.queued =
      Table.ofList ((g.topoOrder g.unitIds).map fun u => (u, false)) := by
    have hfull : (Priority.full == Priority.normal) = false := by decide
    rw [hcontrol]
    simp [Control.queueUnits, hs.shutdown, hfull]
  rw [hqueued, Table.get?_ofList hnodup]
  exact List.mem_map.2 ⟨u, horder.mem_iff.2 (hremaining.mem_iff.1 hu), rfl⟩

/-- **One move at a time.** -/
theorem Protected.move (h : Protected t (s :: past) n s) (hs : s.Steady)
    (hasked : s.stage.beginsNormal n = false) (hmove : Moves t s s') :
    Protected t (s' :: s :: past) n s' := by
  -- requests and timers either leave the running build where it is or begin another one
  have hcourse : Stays s s' ∨ s'.Begins → Protected t (s' :: s :: past) n s' := by
    rintro (hstays | hbegins)
    · exact h.stays hs hmove hstays
    · exact hbegins.isProtected t _ n
  cases hmove with
  | abandon hstage => trivial
  | step hstep =>
    cases hstep with
    | notice | look | unknown | unowned | owned | mark | wait | elapse =>
      exact hcourse (.inl (stays_of_eq rfl rfl rfl))
    | cancel hcancel =>
      refine hcourse (.inl ⟨rfl, ?_, ?_⟩)
      · rw [Control.cancelQueued_eq]
      · intro u c hc
        exact Control.get?_cancelQueued _ hc
    | ask hask =>
      rename_i l r p
      rcases (hs.of_editors (l ++ r)).stays_or_begins (t := t) p with hstays | hbegins
      · exact hcourse (.inl ⟨hstays.stage, hstays.running, hstays.queued⟩)
      · exact hcourse (.inr hbegins)
    | request p => exact hcourse (hs.stays_or_begins p)
    | fire hdue =>
      rename_i l r k
      rcases ((hs.of_due (l ++ r)).calm_fired k).course with hstays | hbegins
      · exact hcourse (.inl ⟨hstays.stage, hstays.running, hstays.queued⟩)
      · exact hcourse (.inr hbegins)
    | prepare hstage hg =>
      -- the build was asked for as a normal one, so it is another one
      rintro rfl
      simp [hstage, Stage.beginsNormal] at hasked
    | discover hstage hp result hg =>
      rename_i build p g
      refine ⟨sound_graphOf hg, ?_⟩
      rintro rfl
      cases p with
      | full => exact h.begun hstage
      | normal => simp [hstage, Stage.beginsNormal] at hasked
    | adopt hstage =>
      obtain ⟨hg, hrunning⟩ := h.reclaimed hstage
      exact fun hbuild => ⟨rfl, hrunning hbuild, hg, rfl⟩
    | refuse hstage => trivial
    | halt hstage => trivial
    | ticket hstage =>
      rename_i build p g targets
      intro hbuild
      obtain ⟨rfl, hrunning, hg, rfl⟩ := h.prepared hstage hbuild
      obtain rfl : build = n := hbuild
      exact ⟨hrunning, g, s.dirty.ticket, hg, rfl⟩
    | enqueue hstage =>
      intro hbuild
      obtain ⟨hrunning, g, ticket, hg, rfl⟩ := h.ticketed hstage hbuild
      exact guarded_enqueue hs hg hrunning rfl
    | start hstage hnext =>
      intro hbuild
      exact (h.going hstage ((Pass.continues_next hnext).build.symm.trans hbuild)).start hnext rfl
    | skip hstage hnext hmay =>
      intro hbuild
      exact (h.going hstage ((Pass.continues_next hnext).build.symm.trans hbuild)).skip hnext hmay rfl
    | indexed hstage =>
      rename_i pass l r u
      intro hbuild
      have hthis := (pass.continues_noteIndexed u).build.symm.trans hbuild
      exact (h.going hstage hthis).noteIndexed rfl
    | failed hstage fault =>
      rename_i pass l r u hfault
      obtain ⟨attempts, timers, k, heq, -⟩ := noteFailure_spec hs.timers t pass u fault
      intro hbuild
      have hthis := (pass.continues_noteFailed u).build.symm.trans hbuild
      refine (h.going hstage hthis).noteFailed ?_
      rw [heq]
    | endPass hstage hnext =>
      rename_i pass
      intro hbuild
      have hguarded := h.going hstage hbuild
      refine ⟨hguarded.priority, pass.graph, fun u hu => ?_⟩
      exact hbuild ▸ (hguarded.preempted_of_skipRest hnext hu).cons _
    | finish hstage duration =>
      rename_i summary
      have hfinished := take_finishPass { s with stage := .idle } s.control summary duration
      simp only at hfinished
      rw [hfinished]
      cases s.control.following with
      | some p => exact (begins_launch ..).isProtected t _ n
      | none => trivial

/-! ## Layer E: runs -/

/-- **The invariant holds throughout every run** of a build that was not asked for as a normal
one. -/
theorem History.isProtected (h : History t (s :: past))
    (hasked : ∀ a ∈ past, a.stage.beginsNormal n = false) : Protected t (s :: past) n s := by
  generalize hstates : s :: past = states at h
  induction h generalizing s past with
  | init =>
    obtain ⟨rfl, rfl⟩ := List.cons.inj hstates
    trivial
  | move hprev hmove ih =>
    obtain ⟨rfl, rfl⟩ := List.cons.inj hstates
    have hbefore := ih (fun a ha => hasked a (List.mem_cons_of_mem _ ha)) rfl
    exact hbefore.move hprev.steady (hasked _ (List.mem_cons_self ..)) hmove

/-- Two states that follow each other in a history are those of a move. -/
theorem History.moves_of_infix {states : List BuildSystem} (h : History t states)
    (hab : [b, a] <:+: states) :
    ∃ before, a :: before <:+ states.tail ∧ History t (a :: before) ∧ Moves t a b := by
  induction h with
  | init =>
    have hlength := hab.length_le
    simp at hlength
  | move hprev hmove ih =>
    -- the pair is the last one of the history, or it stands further back
    rcases List.infix_cons_iff.1 hab with hprefix | hinfix
    · obtain ⟨before, heq⟩ := hprefix
      obtain ⟨rfl, hrest⟩ := List.cons.inj heq
      obtain ⟨rfl, rfl⟩ := List.cons.inj hrest
      exact ⟨_, List.suffix_refl _, hprev, hmove⟩
    · obtain ⟨before, hsuffix, hearlier⟩ := ih hinfix
      exact ⟨before, hsuffix.trans (List.tail_suffix _), hearlier⟩

/-- **Edits never preempt a build that was asked for as a full one.** If a build has ended and was
not asked for as a normal one, it was a full build; every unit that it skipped was taken along by a
full build that was asked for while it ran; and nothing else cancelled any of its units. -/
theorem full_build_yields_to_full_requests {summary : BuildSummary} (h : History t (s :: past))
    (hended : s.stage = .ended (some summary))
    (hasked : ∀ a ∈ past, a.stage.beginsNormal summary.build = false) :
    summary.priority = .full ∧
      (∃ g, ∀ u ∈ summary.skipped, Preempted t (s :: past) summary.build g u) ∧
      ∀ a b u pass active, [b, a] <:+: s :: past → a.stage = .going pass active →
        pass.build = summary.build → Cancels a b u → AsksFull t a b := by
  have hprotected := h.isProtected hasked
  unfold Protected at hprotected
  rw [hended] at hprotected
  obtain ⟨hpriority, hskipped⟩ := hprotected rfl
  refine ⟨hpriority, hskipped, ?_⟩
  intro a b u pass active hab hstage hbuild hcancels
  obtain ⟨before, hsuffix, hearlier, hmove⟩ := h.moves_of_infix hab
  -- what is not in the whole history is not in its beginning
  have hasked' : ∀ c ∈ before, c.stage.beginsNormal summary.build = false := by
    intro c hc
    exact hasked c (hsuffix.subset (List.mem_cons_of_mem _ hc))
  have hguarded := (hearlier.isProtected hasked').going hstage hbuild
  exact hmove.asksFull hearlier.steady hstage hguarded.running hcancels

/-- The journal forgets no request. -/
private theorem Moves.requestedFull_mem (hmove : Moves t a b) {during : Option Nat}
    (h : .requestedFull during ∈ a.journal) : .requestedFull during ∈ b.journal := by
  have hrequest : ∀ (c : BuildSystem) p, .requestedFull during ∈ c.journal →
      .requestedFull during ∈ (c.request t p).journal := by
    intro c p hc
    cases p with
    | full =>
      rw [BuildSystem.request, take_journal]
      exact List.mem_cons_of_mem _ hc
    | normal => rwa [BuildSystem.request, take_journal]
  cases hmove with
  | abandon => exact h
  | step hstep =>
    cases hstep with
    | notice | look | unknown | unowned | owned | cancel | wait | elapse | prepare | adopt | enqueue
    | start | skip | endPass => exact h
    | mark | discover | refuse | ticket | indexed => exact List.mem_cons_of_mem _ h
    | ask => exact hrequest _ _ h
    | request => exact hrequest _ _ h
    | fire | finish => rwa [take_journal]
    | halt =>
      rw [take_journal]
      exact List.mem_cons_of_mem _ h
    | failed =>
      refine List.mem_cons_of_mem _ ?_
      unfold scheduleRetry
      split
      · simp only
        split <;> exact h
      · exact h

/-- A unit is taken along only if a full build was ever asked for. -/
theorem History.requestedFull_of_preempted {g : UnitGraph} (h : History t (s :: past))
    (hu : Preempted t (s :: past) n g u) : ∃ during, .requestedFull during ∈ s.journal := by
  -- the journal only grows, so an entry of any earlier state is there
  have hlater : ∀ b ∈ s :: past, ∀ during, .requestedFull during ∈ b.journal →
      .requestedFull during ∈ s.journal := by
    clear hu
    generalize hstates : s :: past = states at h
    induction h generalizing s past with
    | init =>
      obtain ⟨rfl, -⟩ := List.cons.inj hstates
      intro b hb during hjournal
      rwa [List.mem_singleton.1 hb] at hjournal
    | move hprev hmove ih =>
      obtain ⟨rfl, -⟩ := List.cons.inj hstates
      intro b hb during hjournal
      rcases List.mem_cons.1 hb with rfl | hb
      · exact hjournal
      · exact hmove.requestedFull_mem (ih rfl b hb during hjournal)
  obtain ⟨a, b, v, pass, active, hab, -, -, -, hasks, -⟩ := hu
  cases hasks with
  | request => exact ⟨_, hlater _ (hab.subset (List.mem_cons_self ..)) _ (List.mem_cons_self ..)⟩
  | ask => exact ⟨_, hlater _ (hab.subset (List.mem_cons_self ..)) _ (List.mem_cons_self ..)⟩

/-- The project of a library and a program that depends on it. -/
private theorem graphOf_chainModel :
    graphOf (.ok Course.chainModel) = .ok (UnitGraph.assemble Course.chainModel) := by
  decide +kernel

/-- A full build is asked for while the library is built, and the program is skipped for it. -/
theorem chain_yields_to_full_request :
    ∃ s past summary, History {} (s :: past) ∧ s.stage = .ended (some summary) ∧
      (∀ a ∈ past, a.stage.beginsNormal summary.build = false) ∧ .lib "app" ∈ summary.skipped ∧
      ∃ g, Preempted {} (s :: past) summary.build g (.lib "app") := by
  have hbegun := History.init.move (.step (.request (t := {}) _ .full))
  have hdiscovered := hbegun.move
    (.step (.discover rfl (Or.inl rfl) (.ok Course.chainModel) graphOf_chainModel))
  have hprepared := hdiscovered.move (.step (.adopt rfl))
  have hqueued := (hprepared.move (.step (.ticket rfl))).move (.step (.enqueue rfl))
  have hworking := hqueued.move
    (.step (.start (u := .lib "core") rfl rfl (by decide +kernel) (by decide +kernel)))
  -- the library is at work here, and the program has not started
  have hasked := hworking.move (.step (.request _ .full))
  have hindexed := hasked.move (.step (.indexed (l := []) (r := []) rfl))
  have hskipped := hindexed.move (.step (.skip (u := .lib "app") rfl rfl (by decide +kernel)))
  have hended := hskipped.move (.step (.endPass rfl rfl))
  have hfirst : _ ∧ _ ∧ _ := full_build_yields_to_full_requests hended rfl (by decide +kernel)
  obtain ⟨g, hg⟩ := hfirst.2.1
  exact ⟨_, _, _, hended, rfl, by decide +kernel, by decide +kernel, g, hg _ (by decide +kernel)⟩

/-- **The first build of a project yields to an edit** if it was asked for as a normal one. It becomes
a full build, and the program that changes while the library is built is skipped, though no full
build was ever asked for. -/
theorem first_build_yields_to_edit :
    ∃ s past summary, History {} (s :: past) ∧ s.stage = .ended (some summary) ∧
      summary.priority = .full ∧ summary.skipped = [.lib "app"] ∧
      ∀ g, ¬ Preempted {} (s :: past) summary.build g (.lib "app") := by
  have hbegun := (((History.init.move (.step (.request (t := {}) _ .normal))).move
    (.step (.elapse (List.Mem.head _)))).move (.step (.fire (l := []) (r := []) rfl)))
  have hdiscovered := hbegun.move
    (.step (.discover rfl (Or.inr rfl) (.ok Course.chainModel) graphOf_chainModel))
  have hprepared := hdiscovered.move (.step (.adopt rfl))
  have hqueued := (hprepared.move (.step (.ticket rfl))).move (.step (.enqueue rfl))
  have hworking := hqueued.move
    (.step (.start (u := .lib "core") rfl rfl (by decide +kernel) (by decide +kernel)))
  -- the source of the program changes
  have hnoticed := hworking.move (.step (.notice _ ⟨"/w/app/src/lib.rs"⟩))
  have hlooked := hnoticed.move (.step (.look (l := []) (r := []) rfl))
  have hconcerned : (UnitGraph.assemble Course.chainModel).concerned [] ⟨"/w/app/src/lib.rs"⟩ =
      some ⟨[.lib "app"]⟩ := by decide +kernel
  have howned := hlooked.move (.step (.owned (l := []) (r := []) rfl [] hconcerned))
  have hmarked := howned.move (.step (.mark (l := []) (r := []) rfl))
  have hcancelled := hmarked.move (.step (.cancel (l := []) (r := []) rfl))
  have hasked := hcancelled.move (.step (.ask (l := []) (r := []) rfl))
  have hindexed := hasked.move (.step (.indexed (l := []) (r := []) rfl))
  have hskipped := hindexed.move (.step (.skip (u := .lib "app") rfl rfl (by decide +kernel)))
  have hended := hskipped.move (.step (.endPass rfl rfl))
  refine ⟨_, _, _, hended, rfl, rfl, by decide +kernel, ?_⟩
  intro g hpreempted
  -- the journal has a discovery, a ticket, a marked file and an indexed unit
  obtain ⟨during, hrequested⟩ := hended.requestedFull_of_preempted hpreempted
  change JournalEntry.requestedFull during ∈
    [JournalEntry.indexed 1 (.lib "core"), .marked [.lib "app"], .ticket 1,
      .discovery (.ok Course.chainModel)] at hrequested
  simp at hrequested

end BuildSystem

end CodeAtlas
