import CodeAtlas.Proofs.Build.Course.Steps
import CodeAtlas.Proofs.Index.History

/-!
# What a build pass tells, and what it leaves in the index

The journal of a pass has a reason for whatever becomes of its units: results for those that were
indexed or failed, and cancellations for those that were skipped. The index has the records of one
merge for every result that was indexed, and is otherwise as it was.

## Architecture

- **Layer A**: what the work on a unit does to the index;
- **Layer B**: the invariant of journal and index;
- **Layer C**: that steps keep it.
-/

namespace CodeAtlas

namespace Course

variable {s : KeySet UnitId} {c : Course} {u : UnitId} {workers : Nat}

/-! ## Layer A: work and the index -/

/-- The records of a unit are those that a merge with the given outcome put there. -/
def TakenIn (x : Index) (u : UnitId) (info : BuildState.Indexed) : Prop :=
  ∃ (y y' : Index) (s : Snapshot),
    y.merge u s = (y', .ok info.stats) ∧ x.view.units.get? u = y'.view.units.get? u

/-- An accepted snapshot replaces the records of its unit. -/
theorem view_of_merge_ok {x x' : Index} {s : Snapshot} {stats : MergeStats}
    (h : x.merge u s = (x', .ok stats)) :
    ∃ records, x'.view = ⟨x.view.units.insert u records, x.view.generation + 1⟩ := by
  obtain ⟨l, hl⟩ := Index.lower_ok_of_merge h
  rw [Index.merge_accept hl] at h
  rw [← (Prod.mk.inj h).1]
  exact ⟨_, rfl⟩

/-- A rejected snapshot replaces none. -/
theorem view_of_merge_error {x x' : Index} {s : Snapshot} {fault : IndexFault}
    (h : x.merge u s = (x', .error fault)) : x'.view = x.view := by
  rw [Index.merge_reject (Index.lower_error_of_merge h)] at h
  rw [← (Prod.mk.inj h).1]

/-- **Work on a unit touches the records of no other.** -/
theorem Works.get?_of_ne {x x' : Index} {result : UnitResult} {v : UnitId}
    (h : Works x u result x') (hv : v ≠ u) : x'.view.units.get? v = x.view.units.get? v := by
  cases h with
  | indexed hmerge =>
    obtain ⟨records, hview⟩ := view_of_merge_ok hmerge
    rw [hview]
    exact Table.get?_insert_of_ne hv _ _
  | rejected hmerge => rw [view_of_merge_error hmerge]
  | unmerged => rfl

/-- **Work that is indexed replaces the records of its unit.** -/
theorem Works.takenIn {x x' : Index} {info : BuildState.Indexed} (h : Works x u (.ok info) x') :
    TakenIn x' u info := by
  cases h with
  | indexed hmerge => exact ⟨x, x', _, hmerge, rfl⟩

/-- The records of another unit are those that they were. -/
theorem Works.takenIn_of_ne {x x' : Index} {result : UnitResult} {v : UnitId}
    {info : BuildState.Indexed} (h : Works x u result x') (hv : v ≠ u) (htaken : TakenIn x v info) :
    TakenIn x' v info := by
  obtain ⟨y, y', snapshot, hmerge, hget⟩ := htaken
  exact ⟨y, y', snapshot, hmerge, by rw [h.get?_of_ne hv, hget]⟩

/-- **Work that fails leaves all records as they are.** -/
theorem Works.of_error {x x' : Index} {fault : BuildFault} (h : Works x u (.error fault) x') :
    x'.view = x.view := by
  cases h with
  | rejected hmerge => exact view_of_merge_error hmerge
  | unmerged => rfl

/-- **Work is counted** if it is indexed. -/
theorem Works.generation_eq {x x' : Index} {result : UnitResult} (h : Works x u result x') :
    x'.view.generation = x.view.generation + if result.isOk then 1 else 0 := by
  cases h with
  | indexed hmerge =>
    obtain ⟨records, hview⟩ := view_of_merge_ok hmerge
    rw [hview]
    rfl
  | rejected hmerge =>
    rw [view_of_merge_error hmerge]
    rfl
  | unmerged => rfl

/-! ## Layer B: the invariant -/

/-- A result stands in the journal for a unit that others need not wait for any more. -/
def Settled (journal : List CourseEntry) (d : UnitId) : Prop :=
  ∃ result, result ≠ .error .cancelled ∧ .noted d result ∈ journal

/-- **No unit was started too early**: all it depends on in the pass was noted before. -/
def Waits (g : UnitGraph) (s : KeySet UnitId) (journal : List CourseEntry) : Prop :=
  ∀ l r u, journal = l ++ .started u :: r → ∀ d ∈ g.depsWithin u s, Settled r d

theorem Waits.cons {g : UnitGraph} {journal : List CourseEntry} {e : CourseEntry}
    (h : Waits g s journal)
    (he : ∀ u, e = .started u → ∀ d ∈ g.depsWithin u s, Settled journal d) :
    Waits g s (e :: journal) := by
  intro l r u heq
  cases l with
  | nil =>
    obtain ⟨rfl, rfl⟩ := List.cons.inj heq
    exact he u rfl
  | cons e' l => exact h l r u (List.cons.inj heq).2

/-- **The invariant of what a course tells**: its journal and the index, which was `x₀` at first. -/
structure Told (g : UnitGraph) (s : KeySet UnitId) (x₀ : Index) (c : Course) : Prop where
  graph : c.pass.graph = g
  reported : ∀ e ∈ c.results, .worked e.1 e.2 ∈ c.journal
  started : Waits g s c.journal
  indexed : ∀ u ∈ c.pass.indexed, ∃ info,
    .worked u (.ok info) ∈ c.journal ∧ .noted u (.ok info) ∈ c.journal ∧ TakenIn c.index u info
  failed : ∀ u ∈ c.pass.failed, ∃ fault, fault ≠ .cancelled ∧
    .worked u (.error fault) ∈ c.journal ∧ .noted u (.error fault) ∈ c.journal
  /-- Every skipped unit depends on one that was cancelled, or is one. -/
  skipped : ∀ v ∈ c.pass.skipped, ∃ u,
    Relation.ReflTransGen (fun a d => d ∈ g.depsWithin a s) v u ∧
      (.dropped u (some true) ∈ c.journal ∨ .worked u (.error .cancelled) ∈ c.journal)
  taken : ∀ u info, (u, .ok info) ∈ c.results → TakenIn c.index u info
  unchanged : ∀ u, u ∉ c.pass.indexed → (∀ info, (u, .ok info) ∉ c.results) →
    c.index.view.units.get? u = x₀.view.units.get? u
  generation : c.index.view.generation =
    x₀.view.generation + c.pass.indexed.length + c.results.countP fun e => e.2.isOk

variable {g : UnitGraph} {x₀ : Index}

theorem told_begin (build : Nat) (priority : Priority) (ticket : DirtyTicket) (control : Control)
    (dirty : DirtySet) :
    Told g s x₀ (begin build priority g s ticket control dirty x₀) where
  graph := rfl
  reported := by intro e he; cases he
  started := by intro l r u heq; simp [begin] at heq
  indexed := by intro u hu; cases hu
  failed := by intro u hu; cases hu
  skipped := by intro u hu; cases hu
  taken := by intro u info hu; cases hu
  unchanged _ _ _ := rfl
  generation := rfl

/-- Units that others need not wait for have a result in the journal. -/
theorem Told.settled (h : Told g s x₀ c) {d : UnitId} (hd : d ∈ c.pass.done) :
    Settled c.journal d := by
  rcases List.mem_append.1 hd with hd | hd
  · obtain ⟨info, -, hnoted, -⟩ := h.indexed d hd
    exact ⟨.ok info, by simp, hnoted⟩
  · obtain ⟨fault, hfault, -, hnoted⟩ := h.failed d hd
    exact ⟨.error fault, by simpa using hfault, hnoted⟩

/-- An entry is added to the journal. What was told before stays true. -/
theorem Told.log {e : CourseEntry} (h : Told g s x₀ c)
    (he : ∀ u, e = .started u → ∀ d ∈ g.depsWithin u s, Settled c.journal d) :
    Told g s x₀ { c with journal := e :: c.journal } where
  graph := h.graph
  reported e he := List.mem_cons_of_mem _ (h.reported e he)
  started := h.started.cons he
  indexed := by
    intro u hu
    obtain ⟨info, hworked, hnoted, htaken⟩ := h.indexed u hu
    exact ⟨info, List.mem_cons_of_mem _ hworked, List.mem_cons_of_mem _ hnoted, htaken⟩
  failed := by
    intro u hu
    obtain ⟨fault, hfault, hworked, hnoted⟩ := h.failed u hu
    exact ⟨fault, hfault, List.mem_cons_of_mem _ hworked, List.mem_cons_of_mem _ hnoted⟩
  skipped := by
    intro v hv
    obtain ⟨u, hreach, hu⟩ := h.skipped v hv
    exact ⟨u, hreach, hu.imp (List.mem_cons_of_mem _) (List.mem_cons_of_mem _)⟩
  taken := h.taken
  unchanged := h.unchanged
  generation := h.generation

/-! ## Layer C: steps -/

theorem Told.start {next : Pass} (h : Told g s x₀ c) (hkept : Kept s c)
    (hnext : c.pass.next? = some (u, next)) :
    Told g s x₀ { c with
      pass := next
      running := u :: c.running
      control := c.control.dequeue u
      journal := .started u :: c.journal } := by
  obtain ⟨rest, hready, -, rfl⟩ := Pass.next?_eq_some hnext hkept.paced.ready_ordered
  have hlog := h.log (e := .started u) (by
    intro v hv d hd
    obtain rfl := CourseEntry.started.inj hv
    exact h.settled (hkept.paced.free u (Or.inl (by simp [hready])) d (h.graph ▸ hd)))
  exact ⟨hlog.graph, hlog.reported, hlog.started, hlog.indexed, hlog.failed, hlog.skipped,
    hlog.taken, hlog.unchanged, hlog.generation⟩

/-- A unit that is met and not started was cancelled. -/
theorem Kept.token_of_not_mayStart {next : Pass} (h : Kept s c)
    (hnext : c.pass.next? = some (u, next))
    (hmay : ¬ (c.control.mayStart u = true ∧ (c.pass.graph.unit? u).isSome = true)) :
    c.control.queued.get? u = some true := by
  obtain ⟨rest, hready, -, -⟩ := Pass.next?_eq_some hnext h.paced.ready_ordered
  have hmem : u ∈ c.pass.remaining [] := by simp [Pass.remaining, hready]
  have hunit : (c.pass.graph.unit? u).isSome = true := by
    have hknown := h.paced.known_of_remaining (u := u) (by simp [Pass.remaining, hready])
    obtain ⟨unit, hunit⟩ := h.paced.graph.unit?_isSome hknown
    rw [hunit]
    rfl
  obtain ⟨token, htoken⟩ := Option.isSome_iff_exists.1 (h.tokens u hmem)
  -- it stands in the queue and its unit is known: only its token can keep it from starting
  cases token with
  | true => exact htoken
  | false => exact absurd ⟨by simp [Control.mayStart, htoken], hunit⟩ hmay

theorem Told.drop {next : Pass} (h : Told g s x₀ c) (hkept : Kept s c)
    (hnext : c.pass.next? = some (u, next))
    (hmay : ¬ (c.control.mayStart u = true ∧ (c.pass.graph.unit? u).isSome = true)) :
    Told g s x₀ { c with
      pass := (next.skip u).2.count
      control := c.control.dequeue u
      dirty := (next.skip u).1.foldl DirtySet.markUnit c.dirty
      journal := .dropped u (c.control.queued.get? u) :: c.journal } := by
  rw [hkept.token_of_not_mayStart hnext hmay]
  have hlog := h.log (e := .dropped u (some true)) (by intro v hv; cases hv)
  have hstart := (hkept.paced.start hnext).toSound
  have hu : u ∈ s.toList := hstart.mem_iff.2 (Or.inl (by simp [Pass.remaining]))
  have hreach := hstart.reaches_of_skip hu
  obtain ⟨rest, -, -, rfl⟩ := Pass.next?_eq_some hnext hkept.paced.ready_ordered
  refine ⟨hlog.graph, hlog.reported, hlog.started, hlog.indexed, hlog.failed, ?_, hlog.taken,
    hlog.unchanged, hlog.generation⟩
  intro v hv
  rcases List.mem_append.1 hv with hv | hv
  · exact hlog.skipped v hv
  · exact ⟨u, h.graph ▸ hreach v hv, Or.inl (List.mem_cons_self ..)⟩

/-- A unit that is worked on has no result yet, and has not been indexed. -/
theorem Kept.ne_of_running {l r : List UnitId} {v : UnitId} (h : Kept s c)
    (hrunning : c.running = l ++ u :: r)
    (hv : v ∈ c.pass.indexed ∨ v ∈ c.results.map (·.1)) : v ≠ u := by
  rintro rfl
  have hnodup := h.paced.nodup
  refine absurd (List.nodup_iff_count_le_one.1 hnodup v) ?_
  simp only [Pass.remaining, active, hrunning, Pass.done, List.count_append, List.count_cons_self]
  rcases hv with hv | hv
  · have := List.count_pos_iff.2 hv
    omega
  · have := List.count_pos_iff.2 hv
    omega

theorem Told.work {l r : List UnitId} {result : UnitResult} {x : Index} (h : Told g s x₀ c)
    (hkept : Kept s c) (hrunning : c.running = l ++ u :: r) (hwork : Works c.index u result x) :
    Told g s x₀ { c with
      running := l ++ r
      results := (u, result) :: c.results
      index := x
      journal := .worked u result :: c.journal } := by
  have hlog := h.log (e := .worked u result) (by intro v hv; cases hv)
  refine ⟨hlog.graph, ?_, hlog.started, ?_, hlog.failed, hlog.skipped, ?_, ?_, ?_⟩
  · intro e he
    rcases List.mem_cons.1 he with rfl | he
    · exact List.mem_cons_self ..
    · exact hlog.reported e he
  · intro v hv
    obtain ⟨info, hworked, hnoted, htaken⟩ := hlog.indexed v hv
    have hne := hkept.ne_of_running hrunning (Or.inl hv)
    exact ⟨info, hworked, hnoted, hwork.takenIn_of_ne hne htaken⟩
  · intro v info hv
    rcases List.mem_cons.1 hv with heq | hv
    · obtain ⟨rfl, rfl⟩ := Prod.mk.inj heq
      exact hwork.takenIn
    · have hne := hkept.ne_of_running hrunning (Or.inr (List.mem_map.2 ⟨_, hv, rfl⟩))
      exact hwork.takenIn_of_ne hne (h.taken v info hv)
  · intro v hv hresults
    have hsame : x.view.units.get? v = c.index.view.units.get? v := by
      by_cases hvu : v = u
      · -- without a good result of its own, its work has failed
        subst hvu
        cases result with
        | ok info => exact absurd (List.mem_cons_self ..) (hresults info)
        | error fault => rw [hwork.of_error]
      · exact hwork.get?_of_ne hvu
    rw [hsame]
    exact h.unchanged v hv fun info hmem => hresults info (List.mem_cons_of_mem _ hmem)
  · rw [hwork.generation_eq, h.generation, List.countP_cons]
    exact Nat.add_assoc _ _ _

/-- What is told of results when one of them is taken out. -/
private theorem Told.without {l r : List (UnitId × UnitResult)} {result : UnitResult}
    (h : Told g s x₀ c) (hresults : c.results = l ++ (u, result) :: r) :
    (∀ e ∈ l ++ r, .worked e.1 e.2 ∈ c.journal) ∧
      (∀ v info, (v, .ok info) ∈ l ++ r → TakenIn c.index v info) := by
  have hsub : ∀ e ∈ l ++ r, e ∈ c.results := by
    intro e he
    rw [hresults]
    simp only [List.mem_append, List.mem_cons] at he ⊢
    tauto
  exact ⟨fun e he => h.reported e (hsub e he), fun v info hv => h.taken v info (hsub _ hv)⟩

private theorem Told.noteIndexed {l r : List (UnitId × UnitResult)} {info : BuildState.Indexed}
    (h : Told g s x₀ c) (hresults : c.results = l ++ (u, .ok info) :: r) :
    Told g s x₀ { c.note u (.ok info) with
      results := l ++ r
      journal := .noted u (.ok info) :: c.journal } := by
  have hlog := h.log (e := .noted u (.ok info)) (by intro v hv; cases hv)
  obtain ⟨hreported, htaken⟩ := hlog.without hresults
  have hmem : (u, .ok info) ∈ c.results := by simp [hresults]
  have hframe := Pass.frame_release
    { c.pass.count with indexed := c.pass.count.indexed ++ [u] } u
  have hindexed : (c.pass.count.noteIndexed u).indexed = c.pass.indexed ++ [u] := hframe.indexed
  refine ⟨hframe.graph.trans h.graph, hreported, hlog.started, ?_, ?_, ?_, htaken, ?_, ?_⟩
  · intro v hv
    rcases List.mem_append.1 (hindexed ▸ hv) with hv | hv
    · exact hlog.indexed v hv
    · obtain rfl := List.mem_singleton.1 hv
      exact ⟨info, hlog.reported _ hmem, List.mem_cons_self .., h.taken v info hmem⟩
  · intro v hv
    exact hlog.failed v (hframe.failed ▸ hv)
  · intro v hv
    exact hlog.skipped v (hframe.skipped ▸ hv)
  · intro v hv hout
    -- a unit that is not among the indexed ones is not the one that is noted now
    have hv' : v ∉ c.pass.indexed ++ [u] := fun hin => hv (hindexed ▸ hin)
    simp only [List.mem_append, List.mem_singleton, not_or] at hv'
    refine h.unchanged v hv'.1 fun info' hin => ?_
    rw [hresults] at hin
    rcases List.mem_append.1 hin with hin | hin
    · exact hout info' (List.mem_append.2 (Or.inl hin))
    · rcases List.mem_cons.1 hin with heq | hin
      · exact hv'.2 (Prod.mk.inj heq).1
      · exact hout info' (List.mem_append.2 (Or.inr hin))
  · have hgeneration := h.generation
    simp only [hresults, List.countP_append, List.countP_cons, Except.isOk, Except.toBool, if_true]
      at hgeneration
    simp only [Course.note, hindexed, List.length_append, List.length_singleton,
      List.countP_append, hgeneration, Except.isOk, Except.toBool]
    omega

/-- A fault that is taken out of the results takes no record along. -/
private theorem Told.unchanged_of_error {l r : List (UnitId × UnitResult)} {fault : BuildFault}
    (h : Told g s x₀ c) (hresults : c.results = l ++ (u, .error fault) :: r) :
    (∀ v, v ∉ c.pass.indexed → (∀ info, (v, .ok info) ∉ l ++ r) →
        c.index.view.units.get? v = x₀.view.units.get? v) ∧
      c.index.view.generation =
        x₀.view.generation + c.pass.indexed.length + (l ++ r).countP fun e => e.2.isOk := by
  constructor
  · intro v hv hout
    refine h.unchanged v hv fun info hin => hout info ?_
    rw [hresults] at hin
    simpa using hin
  · rw [h.generation, hresults]
    simp [Except.isOk, Except.toBool]

private theorem Told.noteFailed {l r : List (UnitId × UnitResult)} {fault : BuildFault}
    (h : Told g s x₀ c) (hresults : c.results = l ++ (u, .error fault) :: r)
    (hfault : fault ≠ .cancelled) :
    Told g s x₀ { c.note u (.error fault) with
      results := l ++ r
      journal := .noted u (.error fault) :: c.journal } := by
  have hlog := h.log (e := .noted u (.error fault)) (by intro v hv; cases hv)
  obtain ⟨hreported, htaken⟩ := hlog.without hresults
  obtain ⟨hunchanged, hgeneration⟩ := h.unchanged_of_error hresults
  have hframe := Pass.frame_release { c.pass.count with failed := c.pass.count.failed ++ [u] } u
  have hindexed : (c.pass.count.noteFailed u).indexed = c.pass.indexed := hframe.indexed
  have hfailed : (c.pass.count.noteFailed u).failed = c.pass.failed ++ [u] := hframe.failed
  simp only [Course.note, if_neg hfault]
  -- only the list of failed units grows; what releases its dependents touches no list
  refine ⟨hframe.graph.trans h.graph, hreported, hlog.started, ?_, ?_, ?_, htaken, ?_, ?_⟩
  · intro v hv
    exact hlog.indexed v (hindexed ▸ hv)
  · intro v hv
    rcases List.mem_append.1 (hfailed ▸ hv) with hv | hv
    · exact hlog.failed v hv
    · obtain rfl := List.mem_singleton.1 hv
      exact ⟨fault, hfault, hlog.reported (v, .error fault) (by simp [hresults]),
        List.mem_cons_self ..⟩
  · intro v hv
    exact hlog.skipped v (hframe.skipped ▸ hv)
  · intro v hv
    exact hunchanged v (hindexed ▸ hv)
  · rw [hindexed]
    exact hgeneration

private theorem Told.noteCancelled {l r : List (UnitId × UnitResult)} (h : Told g s x₀ c)
    (hkept : Kept s c) (hresults : c.results = l ++ (u, .error .cancelled) :: r) :
    Told g s x₀ { c.note u (.error .cancelled) with
      results := l ++ r
      journal := .noted u (.error .cancelled) :: c.journal } := by
  have hlog := h.log (e := .noted u (.error .cancelled)) (by intro v hv; cases hv)
  obtain ⟨hreported, htaken⟩ := hlog.without hresults
  obtain ⟨hunchanged, hgeneration⟩ := h.unchanged_of_error hresults
  have hu : u ∈ s.toList := hkept.paced.mem_iff.2 (Or.inl (by
    simp [Pass.remaining, active_eq hresults]))
  have hreach := hkept.paced.count.toSound.reaches_of_skip hu
  simp only [Course.note, if_true]
  refine ⟨h.graph, hreported, hlog.started, hlog.indexed, hlog.failed, ?_, htaken, hunchanged,
    hgeneration⟩
  -- what is skipped now lies on a way from the unit that was cancelled
  intro v hv
  rcases List.mem_append.1 hv with hv | hv
  · exact hlog.skipped v hv
  · exact ⟨u, h.graph ▸ hreach v hv,
      Or.inr (hlog.reported (u, .error .cancelled) (by simp [hresults]))⟩

theorem Told.note {l r : List (UnitId × UnitResult)} {result : UnitResult} (h : Told g s x₀ c)
    (hkept : Kept s c) (hresults : c.results = l ++ (u, result) :: r) :
    Told g s x₀ { c.note u result with
      results := l ++ r
      journal := .noted u result :: c.journal } := by
  cases result with
  | ok info => exact h.noteIndexed hresults
  | error fault =>
    by_cases hfault : fault = .cancelled
    · subst hfault
      exact h.noteCancelled hkept hresults
    · exact h.noteFailed hresults hfault

theorem Told.step {c' : Course} (h : Told g s x₀ c) (hkept : Kept s c)
    (hstep : Step workers c c') : Told g s x₀ c' := by
  cases hstep with
  | start _ _ hnext _ _ => exact h.start hkept hnext
  | drop _ _ hnext hmay => exact h.drop hkept hnext hmay
  | work hrunning hwork => exact h.work hkept hrunning hwork
  | note _ hresults => exact h.note hkept hresults
  | close hopen hnext hactive =>
    rw [(hkept.close hopen hnext hactive).2]
    have hlog := h.log (e := .closed) (by intro v hv; cases hv)
    exact ⟨hlog.graph, hlog.reported, hlog.started, hlog.indexed, hlog.failed, hlog.skipped,
      hlog.taken, hlog.unchanged, hlog.generation⟩

theorem Told.stir {c' : Course} (h : Told g s x₀ c) (hstir : Stir c c') : Told g s x₀ c' := by
  cases hstir <;> exact ⟨h.graph, h.reported, h.started, h.indexed, h.failed, h.skipped, h.taken,
    h.unchanged, h.generation⟩

end Course

end CodeAtlas
