import CodeAtlas.Proofs.Build.Course.Journal

/-!
# How a build pass ends

A pass that goes on whenever it can comes to its end after a bounded number of steps, and in the end
every unit is indexed, failed or skipped.

## Architecture

- **Layer A**: runs;
- **Layer B**: the account of a pass.
-/

namespace CodeAtlas

namespace Course

variable {s : KeySet UnitId} {c : Course} {g : UnitGraph} {x₀ : Index} {workers : Nat}

/-! ## Layer A: runs -/

/-- **A course can always go on**: the pass takes a step by itself, or a unit is worked on whose
end is the next step. -/
theorem exists_step (hopen : c.isOver = false) (workers : Nat) :
    ∃ c', Step workers c c' := by
  -- a unit that the pass waits for is worked on, or its result is there
  have hwait : c.active ≠ [] → (c.pass.next? = none ∨ max workers 1 ≤ c.active.length) →
      ∃ c', Step workers c c' := by
    intro hactive hfull
    cases hresults : c.results with
    | cons e rest => exact ⟨_, .note (l := []) hfull hresults⟩
    | nil =>
      cases hrunning : c.running with
      | cons u rest => exact ⟨_, .work (l := []) hrunning (.unmerged .cancelled)⟩
      | nil => exact absurd (by simp [active, hresults, hrunning]) hactive
  by_cases hroom : c.active.length < max workers 1
  · cases hnext : c.pass.next? with
    | some out =>
      by_cases hmay : c.control.mayStart out.1 = true ∧ (c.pass.graph.unit? out.1).isSome = true
      · exact ⟨_, .start hopen hroom hnext hmay.1 hmay.2⟩
      · exact ⟨_, .drop hopen hroom hnext hmay⟩
    | none =>
      by_cases hactive : c.active = []
      · exact ⟨_, .close hopen hnext hactive⟩
      · exact hwait hactive (Or.inl hnext)
  · refine hwait ?_ (Or.inr (Nat.le_of_not_lt hroom))
    rintro hactive
    simp [hactive] at hroom

/-- **A run of a course**: the pass and others take turns in any order, and the pass goes on sooner
or later unless it is over. -/
structure Run (workers : Nat) (c₀ : Course) (f : Nat → Course) : Prop where
  begins : f 0 = c₀
  goes : ∀ n, Step workers (f n) (f (n + 1)) ∨ Stir (f n) (f (n + 1))
  fair : ∀ n, (f n).isOver = false → ∃ m, n ≤ m ∧ Step workers (f m) (f (m + 1))

theorem Run.reaches {c₀ : Course} {f : Nat → Course} (h : Run workers c₀ f) (n : Nat) :
    Reaches workers c₀ (f n) := by
  induction n with
  | zero => exact h.begins ▸ .refl
  | succ n ih =>
    rcases h.goes n with hstep | hstir
    · exact ih.step hstep
    · exact ih.stir hstir

theorem Step.length_journal {c' : Course} (h : Step workers c c') :
    c'.journal.length = c.journal.length + 1 := by
  cases h <;> rfl

theorem Stir.journal_eq {c' : Course} (h : Stir c c') : c'.journal = c.journal := by
  cases h <;> rfl

/-- The journal of a run that is never over grows beyond any length. -/
private theorem Run.exists_length_journal {c₀ : Course} {f : Nat → Course} (h : Run workers c₀ f)
    (hopen : ∀ n, (f n).isOver = false) (k : Nat) : ∃ n, k ≤ (f n).journal.length := by
  -- whatever happens, no entry is taken back
  have hmono : ∀ n m, n ≤ m → (f n).journal.length ≤ (f m).journal.length := by
    intro n m hnm
    induction m, hnm using Nat.le_induction with
    | base => exact Nat.le_refl _
    | succ m _ ih =>
      refine ih.trans ?_
      rcases h.goes m with hstep | hstir
      · rw [hstep.length_journal]
        omega
      · rw [hstir.journal_eq]
  induction k with
  | zero => exact ⟨0, Nat.zero_le _⟩
  | succ k ih =>
    obtain ⟨n, hn⟩ := ih
    -- sooner or later a step is taken, and it adds an entry
    obtain ⟨m, hnm, hstep⟩ := h.fair n (hopen n)
    refine ⟨m + 1, ?_⟩
    have := hmono n m hnm
    rw [hstep.length_journal]
    omega

/-- Whatever becomes of a course, its invariant holds. -/
theorem Kept.of_reaches {c₀ : Course} (h : Kept s c₀) (hreach : Reaches workers c₀ c) :
    Kept s c := by
  induction hreach with
  | refl => exact h
  | step _ hstep ih => exact ih.step hstep
  | stir _ hstir ih => exact ih.stir hstir

theorem Told.of_reaches {c₀ : Course} (h : Told g s x₀ c₀) (hkept : Kept s c₀)
    (hreach : Reaches workers c₀ c) : Told g s x₀ c := by
  induction hreach with
  | refl => exact h
  | step hreach hstep ih => exact ih.step (hkept.of_reaches hreach) hstep
  | stir _ hstir ih => exact ih.stir hstir

/-- **A run comes to its end.** -/
theorem Run.exists_isOver {c₀ : Course} {f : Nat → Course} (h : Run workers c₀ f)
    (hkept : Kept s c₀) : ∃ n, (f n).isOver = true := by
  -- otherwise the journal would outgrow its bound
  by_contra hnever
  have hopen : ∀ n, (f n).isOver = false := by
    intro n
    exact Bool.eq_false_iff.2 fun hover => hnever ⟨n, hover⟩
  obtain ⟨n, hn⟩ := h.exists_length_journal hopen (3 * s.size + 2)
  have hsteps := (hkept.of_reaches (h.reaches n)).steps
  omega

/-! ## Layer B: the account -/

/-- **What can be said of a pass over the units `s` of a graph** at any time, and in the end. The
index was `x₀` when the pass began. -/
structure Account (g : UnitGraph) (s : KeySet UnitId) (x₀ : Index) (workers : Nat) (c : Course) :
    Prop where
  goes_on : c.isOver = false → ∃ c', Step workers c c'
  bounded : c.journal.length ≤ 3 * s.size + 1
  /-- A unit is started after all its dependencies in the pass were indexed or failed. -/
  started : ∀ l r u, c.journal = l ++ .started u :: r →
    ∀ d ∈ g.depsWithin u s, ∃ result, result ≠ .error .cancelled ∧ .noted d result ∈ r
  /-- No count is lowered below zero when a result is taken note of. -/
  lowered : ∀ u result, (u, result) ∈ c.results →
    Pass.LowersNoZero { c.pass.count with indexed := c.pass.indexed ++ [u] } u ∧
      Pass.LowersNoZero { c.pass.count with failed := c.pass.failed ++ [u] } u
  /-- A unit counts as indexed or failed by what the work on it came to. -/
  indexed : ∀ u ∈ c.pass.indexed, ∃ info, .worked u (.ok info) ∈ c.journal
  failed : ∀ u ∈ c.pass.failed, ∃ fault, fault ≠ .cancelled ∧ .worked u (.error fault) ∈ c.journal
  /-- A skipped unit was cancelled before it started or while it was worked on, or depends on such
  a unit through units of the pass. -/
  skipped : ∀ v ∈ c.pass.skipped, ∃ u,
    Relation.ReflTransGen (fun a d => d ∈ g.depsWithin a s) v u ∧
      (.dropped u (some true) ∈ c.journal ∨ .worked u (.error .cancelled) ∈ c.journal)
  /-- What depends on a skipped unit through units of the pass is skipped. -/
  dependents : ∀ u ∈ c.pass.skipped, ∀ v ∈ s.toList,
    Relation.ReflTransGen (fun a d => d ∈ g.depsWithin a s) v u → v ∈ c.pass.skipped
  dirty : ∀ u, u ∈ c.pass.failed ∨ u ∈ c.pass.skipped → c.dirty.isDirty u = true
  /-- In the end every unit is indexed, failed or skipped, and is so once. -/
  parts : c.isOver = true → (c.pass.indexed ++ c.pass.failed ++ c.pass.skipped).Perm s.toList
  /-- In the end the records of the indexed units are those of one merge each. -/
  replaced : c.isOver = true → ∀ u ∈ c.pass.indexed, ∃ info,
    .worked u (.ok info) ∈ c.journal ∧ TakenIn c.index u info
  unchanged : c.isOver = true → ∀ u, u ∉ c.pass.indexed →
    c.index.view.units.get? u = x₀.view.units.get? u
  generation : c.isOver = true →
    c.index.view.generation = x₀.view.generation + c.pass.indexed.length

theorem account_of (hkept : Kept s c) (htold : Told g s x₀ c) :
    Account g s x₀ workers c := by
  have hclosed : c.isOver = true → c.pass.remaining [] = [] ∧ c.active = [] := by
    intro hover
    have hnil := hkept.closed hover
    rw [Pass.remaining_eq] at hnil
    exact List.append_eq_nil_iff.1 hnil
  have hresults : c.isOver = true → c.results = [] := by
    intro hover
    exact List.map_eq_nil_iff.1 (List.append_eq_nil_iff.1 (hclosed hover).2).2
  refine
    { goes_on := fun hopen => exists_step hopen workers
      bounded := Nat.le_trans (Nat.le_add_right ..) hkept.steps
      started := htold.started
      lowered := fun _ _ _ =>
        ⟨hkept.paced.lowersNoZero rfl rfl, hkept.paced.lowersNoZero rfl rfl⟩
      indexed := fun u hu => ?_
      failed := fun u hu => ?_
      skipped := htold.skipped
      dependents := fun u hu v hv hreach => ?_
      dirty := hkept.marked
      parts := fun hover => ?_
      replaced := fun hover u hu => ?_
      unchanged := fun hover u hu => ?_
      generation := fun hover => ?_ }
  · obtain ⟨info, hworked, -, -⟩ := htold.indexed u hu
    exact ⟨info, hworked⟩
  · obtain ⟨fault, hfault, hworked, -⟩ := htold.failed u hu
    exact ⟨fault, hfault, hworked⟩
  · -- along the path from the skipped unit back to the one that depends on it
    induction hreach using Relation.ReflTransGen.head_induction_on with
    | refl => exact hu
    | head hedge _ ih =>
      refine hkept.paced.mem_skipped hv (htold.graph ▸ hedge) (ih ?_)
      exact (UnitGraph.mem_depsWithin.1 hedge).2
  · have hplaces := hkept.paced.places
    rw [Pass.remaining_eq, (hclosed hover).1, (hclosed hover).2] at hplaces
    simpa [Pass.done] using hplaces
  · obtain ⟨info, hworked, -, htaken⟩ := htold.indexed u hu
    exact ⟨info, hworked, htaken⟩
  · exact htold.unchanged u hu (by simp [hresults hover])
  · simpa [hresults hover] using htold.generation

/-- **A build pass accounts for every unit once.** Whatever the number of workers, the results of
the units, the order in which they end and the moments at which others cancel them: the pass comes
to its end, and what it says of its units is true. -/
theorem accounts_for_every_unit {m : ProjectModel} {g : UnitGraph} {targets : KeySet UnitId}
    (hg : UnitGraph.ofModel m = .ok g) (htargets : targets.Ordered)
    (hknown : ∀ u ∈ targets.toList, u ∈ g.unitIds.toList) {dirty : DirtySet} (hdirty : dirty.Sound)
    (build : Nat) (priority : Priority) (ticket : DirtyTicket) (control : Control) (index : Index)
    (workers : Nat) :
    (∀ f, Run workers (begin build priority g targets ticket control dirty index) f →
        ∃ n, (f n).isOver = true) ∧
      ∀ c, Reaches workers (begin build priority g targets ticket control dirty index) c →
        Account g targets index workers c := by
  have hkept : Kept targets (begin build priority g targets ticket control dirty index) :=
    kept_begin (UnitGraph.sound_ofModel hg) htargets hknown hdirty
  constructor
  · intro f hrun
    exact hrun.exists_isOver hkept
  · intro c hreach
    have htold : Told g targets index
        (begin build priority g targets ticket control dirty index) :=
      told_begin build priority ticket control dirty
    exact account_of (hkept.of_reaches hreach) (htold.of_reaches hkept hreach)

/-- A library, and a program that depends on it. -/
def chainModel : ProjectModel :=
  { root := ⟨"/w"⟩
    units :=
      [.new (.lib "core") ⟨"/w/core/src/lib.rs"⟩,
        { CompilationUnit.new (.lib "app") ⟨"/w/app/src/lib.rs"⟩ with deps := [.lib "core"] }]
    manifests := []
    buildScriptFiles := [] }

/-- Two workers build the library while the program is cancelled: the library fails, the program is
skipped, and with that every unit is accounted for. -/
theorem chain_is_accounted_for :
    ∃ g c, UnitGraph.ofModel chainModel = .ok g ∧
      Reaches 2 (begin 1 .full g g.unitIds .empty {} .empty .empty) c ∧ c.isOver = true ∧
      c.pass.failed = [.lib "core"] ∧ c.pass.skipped = [.lib "app"] ∧
      (c.pass.indexed ++ c.pass.failed ++ c.pass.skipped).Perm [.lib "app", .lib "core"] ∧
      c.dirty.isDirty (.lib "app") = true := by
  have hg : UnitGraph.ofModel chainModel = .ok (UnitGraph.assemble chainModel) := by
    decide +kernel
  have hbegun := @Reaches.refl 2 (begin 1 .full (UnitGraph.assemble chainModel)
    (UnitGraph.assemble chainModel).unitIds .empty {} .empty .empty)
  -- the library is started, and then all that has not started is cancelled
  have hstarted := hbegun.step
    (.start (u := .lib "core") rfl (by decide) rfl (by decide +kernel) (by decide +kernel))
  have hcancelled := hstarted.stir (.cancel (cancels_cancelAll _))
  -- the library breaks down, and the program would be next
  have hworked := hcancelled.step
    (.work (l := []) (r := []) rfl (.unmerged (.crash (.lib "core") .timedOut)))
  have hnoted := hworked.step (.note (l := []) (r := []) (Or.inl rfl) rfl)
  have hdropped := hnoted.step
    (.drop (u := .lib "app") rfl (by decide) rfl (by decide +kernel))
  have hclosed := hdropped.step (.close rfl rfl rfl)
  have haccount := (accounts_for_every_unit hg
    (UnitGraph.sound_ofModel hg).unitIds_ordered (fun _ hu => hu) DirtySet.sound_empty 1 .full .empty
    {} .empty 2).2 _ hclosed
  exact ⟨_, _, hg, hclosed, rfl, rfl, rfl, haccount.parts rfl, haccount.dirty _ (Or.inr (by decide))⟩

end Course

end CodeAtlas
