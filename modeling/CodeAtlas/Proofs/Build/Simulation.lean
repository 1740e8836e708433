import CodeAtlas.Proofs.Build.System

/-!
# The build queue as a run of the system

The queue takes its steps one after another, and works on one unit at a time. Each of its steps, and
each thing that is asked of it, is a few steps of the system in a row. So what holds of all runs of
the system holds of the queue, as long as nothing is cancelled but by the queue itself.

## Architecture

- **Layer A**: what the system sees of a queue;
- **Layer B**: requests and changed files;
- **Layer C**: the beginning of a build;
- **Layer D**: units and timers;
- **Layer E**: lives of queues.
-/

namespace CodeAtlas

open BuildSystem

/-! ## Layer A: abstraction -/

/-- How far the running build is. -/
def Running.stage {τ : Type} : Running τ → Stage
  | .preparing build p => .begun build p
  | .choosing pass _ => .going pass []
  | .working pass _ u _ => .going pass [u]
  | .standing pass _ u _ _ => .going pass [u]

namespace Queue

variable {τ : Type} {q : Queue τ}

/-- **What the system sees of a queue**, with a journal of what has happened to it. -/
def system (q : Queue τ) (journal : List JournalEntry) : BuildSystem :=
  { control := q.control
    dirty := q.dirty
    timers := q.timers
    stage := (q.running.map Running.stage).getD .idle
    journal := journal }

/-- **The queue is part of a run** of the system. -/
def InRun (q : Queue τ) : Prop := ∃ journal, Reachable q.setup.timing (q.system journal)

private theorem foldl_perform (es : List Effect) (q : Queue τ) (j : List JournalEntry) :
    (es.foldl perform q).setup = q.setup ∧
      (es.foldl perform q).system j = es.foldl BuildSystem.perform (q.system j) := by
  induction es generalizing q with
  | nil => exact ⟨rfl, rfl⟩
  | cons e rest ih =>
    have hsetup : (q.perform e).setup = q.setup := by cases e <;> rfl
    have hsystem : (q.perform e).system j = (q.system j).perform e := by cases e <;> rfl
    rw [List.foldl_cons, List.foldl_cons, ← hsetup, ← hsystem]
    exact ih (q.perform e)

@[simp] theorem setup_act (q : Queue τ) (f : Control → Move) : (q.act f).setup = q.setup :=
  (foldl_perform (f q.control).effects { q with control := (f q.control).next } []).1

/-- An action of control is a move of the system. -/
theorem system_act (q : Queue τ) (f : Control → Move) (j : List JournalEntry) :
    (q.act f).system j = (q.system j).take (f q.control) :=
  (foldl_perform (f q.control).effects { q with control := (f q.control).next } j).2

/-! ## Layer B: from outside -/

theorem inRun_new (setup : QueueSetup τ) (state : BuildState τ) :
    InRun { setup := setup, state := state } :=
  ⟨[], .init⟩

/-- A request is a request to the system. -/
theorem exists_request (q : Queue τ) (p : Priority) (j : List JournalEntry) :
    ∃ j', (q.request p).system j' = (q.system j).request q.setup.timing p := by
  have hact : (q.request p).system j =
      (q.system j).take ((q.system j).control.request q.setup.timing p) := system_act q _ j
  unfold BuildSystem.request
  rw [← hact]
  cases p with
  | full => exact ⟨.requestedFull (q.system j).current? :: j, rfl⟩
  | normal => exact ⟨j, rfl⟩

theorem InRun.request (h : q.InRun) (p : Priority) : (q.request p).InRun := by
  obtain ⟨j, h⟩ := h
  obtain ⟨j', hj'⟩ := exists_request q p j
  refine ⟨j', ?_⟩
  rw [hj', Queue.request, setup_act]
  exact h.step (.request _ p)

/-- The last thing that is done for a changed file is to ask for a build. -/
private theorem inRun_of_asking {j : List JournalEntry} {p : Priority}
    (h : Reachable q.setup.timing { q.system j with editors := [.asking p] }) :
    (q.request p).InRun := by
  obtain ⟨j', hj'⟩ := exists_request q p j
  refine ⟨j', ?_⟩
  rw [hj', Queue.request, setup_act]
  exact h.step (.ask (l := []) (r := []) rfl)

/-- **A changed file** is taken note of by one thread, from its beginning to its end. -/
theorem InRun.fileChanged (h : q.InRun) (path : Path) : (q.fileChanged path).InRun := by
  obtain ⟨j, h⟩ := h
  -- the thread notices the file, then looks at the graph
  have hlooked : Reachable q.setup.timing
      { q.system j with editors := [.looked q.control.graph path] } :=
    (h.step (.notice _ path)).step (.look (l := []) (r := []) rfl)
  unfold Queue.fileChanged
  cases hg : q.control.graph with
  | none =>
    rw [hg] at hlooked
    exact inRun_of_asking (hlooked.step (.unknown (l := []) (r := []) rfl))
  | some g =>
    rw [hg] at hlooked
    rw [Option.bind_some]
    cases hunits : q.concerned g path with
    | none => exact inRun_of_asking (hlooked.step (.unowned (l := []) (r := []) rfl _ hunits))
    | some units =>
      have howned := hlooked.step (.owned (l := []) (r := []) rfl _ hunits)
      have hmarked := howned.step (.mark (l := []) (r := []) rfl)
      exact inRun_of_asking (q := { q with
          dirty := q.dirty.markFile path units.toList
          control := q.control.cancelQueued (g.affected units) })
        (hmarked.step (.cancel (l := []) (r := []) rfl))

/-! ## Layer C: the beginning of a build -/

/-- A build that is decided takes its ticket and queues its units. -/
private theorem inRun_startPass {j : List JournalEntry} {build : Nat} {p : Priority}
    {g : UnitGraph} {targets : KeySet UnitId}
    (h : Reachable q.setup.timing { q.system j with stage := .prepared build p g targets }) :
    (q.startPass build p g targets).InRun := by
  have hqueued := (h.step (.ticket rfl)).step (.enqueue rfl)
  exact ⟨.ticket build :: j, hqueued⟩

private theorem inRun_finish {j : List JournalEntry} {summary : Option BuildSummary}
    (h : Reachable q.setup.timing { q.system j with stage := .ended summary }) :
    (q.finish summary).InRun := by
  refine ⟨j, ?_⟩
  unfold Queue.finish
  rw [setup_act, system_act]
  exact h.step (.finish rfl 0)

/-- What a discovery comes to, without the traces it leaves. -/
theorem exists_discover (q : Queue τ) :
    ∃ state result, q.discover = ({ q with state := state }, graphOf result) := by
  unfold Queue.discover
  simp only
  generalize Activity.runThrough false q.state _ = out
  refine ⟨out.1, out.2, ?_⟩
  unfold graphOf
  cases out.2 with
  | error fault => rfl
  | ok m =>
    simp only
    cases UnitGraph.ofModel m <;> rfl

/-- A normal build of a project that is not known yet goes the way of a full one. -/
private theorem prepare_eq_full {build : Nat} {p : Priority}
    (hp : p = .full ∨ q.control.graph = none) : q.prepare build p = q.prepare build .full := by
  cases p with
  | full => rfl
  | normal =>
    unfold Queue.prepare
    rw [hp.resolve_left (by decide)]

/-- A build that discovers a project goes on with it. -/
private theorem prepare_of_ok {q' : Queue τ} {build : Nat} {p : Priority} {g : UnitGraph}
    (hp : p = .full ∨ q.control.graph = none) (heq : q.discover = (q', .ok g)) :
    q.prepare build p = (q'.adopt g).startPass build .full g g.unitIds := by
  rw [prepare_eq_full hp]
  unfold Queue.prepare
  rw [heq]

/-- A build whose discovery fails halts the queue. -/
private theorem prepare_of_error {q' : Queue τ} {build : Nat} {p : Priority} {fault : BuildFault}
    (hp : p = .full ∨ q.control.graph = none) (heq : q.discover = (q', .error fault))
    (hfault : fault ≠ .cancelled) :
    q.prepare build p = (q'.act (·.halt fault)).finish none := by
  rw [prepare_eq_full hp]
  unfold Queue.prepare
  rw [heq]
  cases fault with
  | cancelled => exact absurd rfl hfault
  | inputNotFound | compileErrors | crash | planStale | configurationInvalid | io => rfl

/-- **A build begins.** -/
theorem InRun.prepare {build : Nat} {p : Priority} (h : q.InRun)
    (hrunning : q.running = some (.preparing build p))
    (hdiscover : q.discover.2 ≠ .error .cancelled) : (q.prepare build p).InRun := by
  obtain ⟨j, h⟩ := h
  have hstage : (q.system j).stage = .begun build p := by simp [system, hrunning, Running.stage]
  by_cases hp : p = .full ∨ q.control.graph = none
  · obtain ⟨state, result, heq⟩ := exists_discover q
    cases hresult : graphOf result with
    | ok g =>
      have hadopted := (h.step (.discover hstage hp result hresult)).step (.adopt rfl)
      rw [prepare_of_ok hp (hresult ▸ heq)]
      exact inRun_startPass (q := Queue.adopt { q with state := state } g)
        (j := .discovery result :: j) hadopted
    | error fault =>
      have hfault : fault ≠ .cancelled := by
        rintro rfl
        exact hdiscover (by rw [heq, hresult])
      rw [prepare_of_error hp (hresult ▸ heq) hfault]
      exact inRun_finish (j := .halted build fault :: .discovery result :: j)
        ((h.step (.refuse hstage hp result hresult hfault)).step (.halt rfl))
  · obtain ⟨hnormal, hknown⟩ := not_or.1 hp
    obtain ⟨g, hg⟩ := Option.ne_none_iff_exists'.1 hknown
    cases p with
    | full => exact absurd rfl hnormal
    | normal =>
      unfold Queue.prepare
      rw [hg]
      exact inRun_startPass (q := q.dropStalePlans) (h.step (.prepare hstage hg))

/-! ## Layer D: units and timers -/

/-- **The next unit is started or skipped**, or the build ends. -/
theorem InRun.choose {pass : Pass} {n : Nat} (h : q.InRun)
    (hrunning : q.running = some (.choosing pass n)) : (q.choose pass n).InRun := by
  obtain ⟨j, h⟩ := h
  have hstage : (q.system j).stage = .going pass [] := by simp [system, hrunning, Running.stage]
  unfold Queue.choose
  cases hnext : pass.next? with
  | none =>
    have hended := h.step (.endPass hstage hnext)
    exact inRun_finish (q := (q.markUnits pass.skipRest.1).report _) hended
  | some out =>
    obtain ⟨u, next⟩ := out
    have hgraph := (Pass.continues_next hnext).graph
    simp only
    split
    · rename_i unit hunit hmay
      have hstarted := h.step (.start hstage hnext hmay (by rw [← hgraph, hunit]; rfl))
      exact ⟨j, hstarted⟩
    · rename_i hnot
      have hskipped := h.step (.skip hstage hnext ?_)
      · exact ⟨j, hskipped⟩
      · rintro ⟨hmay, hunit⟩
        -- a unit that may start would have been started
        obtain ⟨unit, hunit⟩ := Option.isSome_iff_exists.1 hunit
        exact hnot unit (hgraph ▸ hunit) hmay

/-- A fault other than a cancellation is noted as a failure. -/
theorem noteResult_error {pass : Pass} {u : UnitId} {fault : BuildFault}
    (hfault : fault ≠ .cancelled) :
    q.noteResult pass u (.error fault) =
      let marked := { q with dirty := (q.dirty.complete u pass.ticket).markUnit u }
      let retried := if fault.isTransient then marked.scheduleRetry u else marked
      (retried.tell (.failed pass.build u fault), pass.noteFailed u) := by
  cases fault with
  | cancelled => exact absurd rfl hfault
  | inputNotFound | compileErrors | crash | planStale | configurationInvalid | io => rfl

/-- **A unit is worked on** to its end or to a gate. -/
theorem InRun.work {pass : Pass} {n : Nat} {u : UnitId}
    {rest : Activity (BuildState τ) (Except BuildFault BuildState.Indexed)} (h : q.InRun)
    (hrunning : q.running = some (.working pass n u rest))
    (hresult : (rest.run q.control.shutdown q.state).2 ≠ .finished (.error .cancelled)) :
    (q.work pass n u rest).InRun := by
  obtain ⟨j, h⟩ := h
  have hstage : (q.system j).stage = .going pass ([] ++ u :: []) := by
    simp [system, hrunning, Running.stage]
  unfold Queue.work
  cases hout : rest.run q.control.shutdown q.state with
  | mk state reached =>
    rw [hout] at hresult
    cases reached with
    | standing unit rest' =>
      -- nothing happens that the system could see
      have hsame : Queue.system { q with
          state := state, running := some (.standing pass n u unit rest') } j = q.system j := by
        simp [system, hrunning, Running.stage]
      exact ⟨j, hsame ▸ h⟩
    | finished result =>
      cases result with
      | ok x =>
        have hindexed := h.step (.indexed hstage)
        exact ⟨.indexed pass.build u :: j, hindexed⟩
      | error fault =>
        have hfault : fault ≠ .cancelled := fun heq => hresult (by rw [heq])
        have hfailed := h.step (.failed hstage fault hfault)
        simp only [noteResult_error hfault]
        unfold noteFailure BuildSystem.scheduleRetry at hfailed
        unfold Queue.scheduleRetry
        cases htransient : fault.isTransient with
        | false =>
          simp only [htransient, Bool.false_eq_true, if_false] at hfailed ⊢
          exact ⟨_, hfailed⟩
        | true =>
          simp only [htransient, if_true] at hfailed ⊢
          split
          · rename_i hover
            rw [if_pos (by exact hover)] at hfailed
            exact ⟨_, hfailed⟩
          · rename_i hover
            rw [if_neg (by exact hover)] at hfailed
            exact ⟨_, hfailed⟩

/-- **A timer runs out**, and its action is not late. -/
theorem InRun.fireTimer {horizon : Horizon} {q' : Queue τ} (h : q.InRun)
    (hfire : q.fireTimer? horizon = some q') : q'.InRun := by
  obtain ⟨j, h⟩ := h
  unfold Queue.fireTimer? at hfire
  obtain ⟨a, hdue, rfl⟩ := Option.map_eq_some_iff.1 hfire
  -- the timer that fires is one of those that wait
  have hmem : a ∈ q.timers.waiting := by
    have hsorted := List.mem_of_head? hdue
    unfold sortBy at hsorted
    exact (List.mem_filter.1 (List.mem_mergeSort.1 hsorted)).1
  have hfired := (h.step (.elapse hmem)).step (.fire (l := []) (r := []) rfl)
  refine ⟨j, ?_⟩
  simp only
  cases hkey : a.key with
  | debounce =>
    simp only
    rw [setup_act, system_act]
    simp only [hkey] at hfired
    exact hfired
  | retry =>
    simp only
    rw [setup_act, system_act]
    simp only [hkey] at hfired
    exact hfired

/-! ## Layer E: lives of queues -/

/-- The next step would report a cancellation that the queue did not ask for. -/
def Cancels (q : Queue τ) : Prop :=
  match q.running with
  | some (.preparing _ _) => q.discover.2 = .error .cancelled
  | some (.working _ _ _ rest) =>
    (rest.run q.control.shutdown q.state).2 = .finished (.error .cancelled)
  | _ => False

theorem InRun.step {horizon : Horizon} {q' : Queue τ} (h : q.InRun)
    (hstep : q.step? horizon = some q') (hcancels : ¬ q.Cancels) : q'.InRun := by
  unfold Queue.step? at hstep
  unfold Cancels at hcancels
  cases hrunning : q.running with
  | none =>
    rw [hrunning] at hstep
    exact h.fireTimer hstep
  | some running =>
    rw [hrunning] at hstep hcancels
    cases running with
    | preparing build p =>
      obtain rfl := Option.some.inj hstep
      exact h.prepare hrunning hcancels
    | choosing pass n =>
      obtain rfl := Option.some.inj hstep
      exact h.choose hrunning
    | working pass n u rest =>
      obtain rfl := Option.some.inj hstep
      exact h.work hrunning hcancels
    | standing pass n u unit rest => exact h.fireTimer hstep

theorem InRun.openGate (h : q.InRun) : q.openGate.1.InRun := by
  obtain ⟨j, h⟩ := h
  unfold Queue.openGate
  split
  · rename_i pass n u unit rest hrunning
    have hsame :
        Queue.system { q with running := some (.working pass n u rest) } j = q.system j := by
      simp [system, hrunning, Running.stage]
    exact ⟨j, hsame ▸ h⟩
  · exact ⟨j, h⟩

/-- **What may become of a queue** (`BuildQueue`) that is not closed. Its surroundings may change at
any time, and so may the hour. -/
inductive Life : Queue τ → Prop
  | new (setup : QueueSetup τ) (state : BuildState τ) : Life { setup := setup, state := state }
  | surroundings {q : Queue τ} (h : Life q) (state : BuildState τ) : Life { q with state := state }
  | wait {q : Queue τ} (h : Life q) (now : Nat) :
      Life { q with timers := { q.timers with now := now } }
  | request {q : Queue τ} (h : Life q) (p : Priority) : Life (q.request p)
  | fileChanged {q : Queue τ} (h : Life q) (path : Path) : Life (q.fileChanged path)
  | openGate {q : Queue τ} (h : Life q) : Life q.openGate.1
  | step {q q' : Queue τ} (h : Life q) {horizon : Horizon} (hstep : q.step? horizon = some q')
      (hcancels : ¬ q.Cancels) : Life q'

/-- **Every queue is part of a run of the system.** -/
theorem Life.inRun (h : Life q) : q.InRun := by
  induction h with
  | new setup state => exact inRun_new setup state
  | surroundings _ state ih => exact ih
  | wait _ now ih =>
    obtain ⟨j, h⟩ := ih
    exact ⟨j, h.step (.wait _ now)⟩
  | request _ p ih => exact ih.request p
  | fileChanged _ path ih => exact ih.fileChanged path
  | openGate _ ih => exact ih.openGate
  | step _ hstep hcancels ih => exact ih.step hstep hcancels

end Queue

end CodeAtlas
