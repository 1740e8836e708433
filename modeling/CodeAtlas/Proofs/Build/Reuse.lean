import CodeAtlas.Proofs.Build.Current
import CodeAtlas.Proofs.Build.Dependencies
import CodeAtlas.Proofs.Build.Routing
import CodeAtlas.Proofs.Cache.Store
import CodeAtlas.Proofs.Overlay.Basic

/-!
# Analyses that are used again

A unit outside the workspace is analyzed by a command, and what the command prints is stored and
served again under the same fingerprints. Here sources change, plans are dropped and the unit is
analyzed over and over. Whatever is served from the store was printed by a command that was run, and
of the files it lists all that the plan accounts for are as they were then. The others are those
below the source root of the unit which nothing declares: an analysis takes them for accounted for,
but they have no part in the fingerprints, so they may have changed.

## Architecture

- **Layer A**: commands that are run, and the record of it;
- **Layer B**: what an analysis by a command comes to;
- **Layer C**: the course of events;
- **Layer D**: what holds in all of it;
- **Layer E**: analyses from the store.
-/

namespace CodeAtlas

open Activity

/-! ## Layer A: commands -/

/-- **A command that was run**, with the sources as they were then. -/
structure CommandRun where
  command : CommandSpec
  read : SourceReader

/-- How commands turn out that do nothing but look at sources. -/
abbrev CommandBehavior := CommandSpec → SourceReader → Except IoFault CommandOutput

namespace CommandRun

/-- Runs a command and takes down that it was run. -/
def perform (f : CommandBehavior) (c : CommandSpec) :
    Activity (Workplace (List CommandRun)) (Except IoFault CommandOutput) :=
  .transform fun w => ({ w with own := w.own ++ [⟨c, w.read⟩] }, f c w.read)

/-- A run printed a snapshot of a unit. -/
def Printed (f : CommandBehavior) (u : UnitId) (r : CommandRun) (s : Snapshot) : Prop :=
  ∃ o, f r.command r.read = .ok o ∧ Analysis.ofOutput u o = .ok s

end CommandRun

/-! ## Layer B: by a command -/

namespace Analysis

variable {f : CommandBehavior} {st : Storage} {t : Collaborators (List CommandRun)} {root : Path}
  {u : CompilationUnit} {p : Plan} {w : Workplace (List CommandRun)}

/-- The workplace after the store was asked for an analysis. -/
def asked (st : Storage) (root : Path) (u : UnitId) (p : Plan) (w : Workplace (List CommandRun)) :
    Workplace (List CommandRun) :=
  { w with
    disk := (w.disk.loadSnapshot st.hash root u.cacheKey (p.storeFingerprint st.hash)).1 }

/-- The workplace after the command of a plan was run as well. -/
def commanded (st : Storage) (root : Path) (u : UnitId) (p : Plan)
    (w : Workplace (List CommandRun)) : Workplace (List CommandRun) :=
  { asked st root u p w with own := w.own ++ [⟨p.invocation.command, (asked st root u p w).read⟩] }

/-- **What an analysis by a command comes to** (`invoke_out_of_process`): it is found in the store,
or the command fails, or the command prints a snapshot, which is stored. -/
inductive Made (f : CommandBehavior) (st : Storage) (root : Path) (u : UnitId) (p : Plan)
    (w : Workplace (List CommandRun)) :
    Except BuildFault Analysis → Workplace (List CommandRun) → Prop
  | found {s : Snapshot} (hfound : (w.disk.loadSnapshot st.hash root u.cacheKey
      (p.storeFingerprint st.hash)).2 = some s) :
      Made f st root u p w (.ok (.of u s .cache)) (asked st root u p w)
  | failed (fault : BuildFault) : Made f st root u p w (.error fault) (commanded st root u p w)
  | printed {s : Snapshot}
      (hprinted : CommandRun.Printed f u ⟨p.invocation.command, (asked st root u p w).read⟩ s) :
      Made f st root u p w (.ok (.of u s .outOfProcess))
        { commanded st root u p w with
          disk := ((asked st root u p w).disk.storeSnapshot st.hash root u.cacheKey
            (p.storeFingerprint st.hash) 0 s).1 }

theorem ensures_made (ht : ∀ c, t.run c = CommandRun.perform f c) (hfolder : st.folder = some root)
    (hmember : u.member = false) (p : Plan) (w : Workplace (List CommandRun)) :
    Ensures Eq (Made f st root u.id p w) (make st t u p).run w := by
  unfold make
  rw [hmember]
  simp only [Bool.false_eq_true, if_false]
  unfold outOfProcess
  simp only [stored?, keep, hfolder, ht]
  rw [ensures_work_bind, ensures_lift, ensures_transform]
  simp only [either]
  -- a snapshot that is found ends the work; else the command runs, and what it prints is read
  cases hfound : (w.disk.loadSnapshot st.hash root u.id.cacheKey (p.storeFingerprint st.hash)).2 with
  | some s => exact .found hfound
  | none =>
    simp only
    rw [ensures_work_bind, ensures_lift]
    unfold CommandRun.perform
    rw [ensures_transform]
    simp only [either]
    generalize hrun : f p.invocation.command _ = output
    cases output with
    | error fault =>
      change Made f st root u.id p w _ (commanded st root u.id p w)
      exact .failed _
    | ok o =>
      simp only
      rw [ensures_work_bind]
      cases hout : ofOutput u.id o with
      | error fault =>
        change Made f st root u.id p w _ (commanded st root u.id p w)
        exact .failed fault
      | ok s => exact .printed ⟨o, hrun, hout⟩

/-- The files of an analysis are those that its snapshot lists, in canonical spelling. -/
theorem mem_readFiles_of {v : UnitId} {s : Snapshot} {source : AnalysisSource} {q : Path} :
    q ∈ (of v s source).readFiles ↔ q ∈ s.readFiles.map Path.normalize := by
  have hnormal : ∀ q ∈ s.readFiles.map Path.normalize, q.normalize = q := by
    intro q hq
    obtain ⟨r, -, rfl⟩ := List.mem_map.1 hq
    exact r.normalize_normalize
  exact KeySet.mem_ofList_of_distinct fun q hq r hr =>
    Path.eq_of_compare (hnormal q hq) (hnormal r hr)

end Analysis

/-! ## Layer C: the course of events -/

namespace BuildState

variable {τ : Type}

/-- The buffer of a path is set or dropped, and with it all plans that declare the path. -/
def edit (s : BuildState τ) (p : Path) (b : Option Buffer) : BuildState τ :=
  { s with
    place := { s.place with
      overlay := match b with
        | some b => s.place.overlay.put p b
        | none => s.place.overlay.clear p }
    plans := s.plans.invalidate (.inputs [p]) }

/-- What planning depends on in a state. -/
def situation (g : UnitGraph) (s : BuildState τ) : Situation := ⟨g, s.place.read, s.plans⟩

/-- All sequences of fields that are hashed in some states. -/
def hashedIn (g : UnitGraph) (h : Hash) (states : List (BuildState τ)) : Set (List Bytes) :=
  {fields | ∃ s ∈ states, fields ∈ (s.situation g).hashed h}

/-- The state after a unit was planned and analyzed once. -/
def examined (st : Analysis.Storage) (t : Collaborators τ) (g : UnitGraph) (u : CompilationUnit)
    (unwanted : Bool) (s : BuildState τ) : BuildState τ :=
  ((examine st t g u).run.runThrough unwanted s).1

/-- **How work on a unit goes on**: buffers change, plans are dropped (`invalidate`), and the unit
is planned and analyzed (`analyze_unit`). The list holds the states in which it was, the latest
first. -/
inductive Course (st : Analysis.Storage) (t : Collaborators τ) (g : UnitGraph)
    (u : CompilationUnit) (start : BuildState τ) : List (BuildState τ) → BuildState τ → Prop
  | refl : Course st t g u start [] start
  | edit {past : List (BuildState τ)} {s : BuildState τ} (p : Path) (b : Option Buffer)
      (hs : Course st t g u start past s) : Course st t g u start past (s.edit p b)
  | invalidate {past : List (BuildState τ)} {s : BuildState τ} (r : PlanCache.Invalidation)
      (hs : Course st t g u start past s) :
      Course st t g u start past { s with plans := s.plans.invalidate r }
  | examine {past : List (BuildState τ)} {s : BuildState τ} (unwanted : Bool)
      (hs : Course st t g u start past s) :
      Course st t g u start (s :: past) (s.examined st t g u unwanted)

/-! ## Layer D: invariants -/

/-- **The sources lie apart from the store**: they are all that units declare and all that commands
list for the unit, and whatever the store does to the disk, they read the same. -/
structure Apart (f : CommandBehavior) (h : Hash) (root : Path) (g : UnitGraph) (u : UnitId)
    (d : Disk) (sources : Set Path) : Prop where
  untouched : d.Untouched h root sources
  declared : ∀ v c, g.unit? v = some c → ∀ q ∈ c.allInputs.map Path.normalize, q ∈ sources
  listed : ∀ (r : CommandRun) s, r.Printed f u s → ∀ q ∈ s.readFiles, q.normalize ∈ sources

/-- **Where a stored snapshot comes from**: a plan with its fingerprint was made in an earlier
state, a command was run on the same sources and printed it, and all files it lists are accounted
for by now. -/
def Produced (f : CommandBehavior) (h : Hash) (g : UnitGraph) (u : CompilationUnit)
    (sources : Set Path) (past : List (BuildState (List CommandRun))) (runs : List CommandRun)
    (plans : PlanCache) (fp : Fingerprint) (snapshot : Snapshot) : Prop :=
  ∃ v ∈ past, ∃ p, (v.situation g).plan? h u = .ok p ∧ p.storeFingerprint h = fp ∧
    ∃ r ∈ runs, r.Printed f u.id snapshot ∧
      (∀ q ∈ sources, q.normalize = q → r.read q = v.place.read q) ∧
      ∀ q ∈ snapshot.readFiles, plans.Covers u q.normalize

/-- **What holds in the course of events.** -/
structure Kept (f : CommandBehavior) (h : Hash) (root : Path) (g : UnitGraph)
    (u : CompilationUnit) (d : Disk) (sources : Set Path)
    (past : List (BuildState (List CommandRun))) (s : BuildState (List CommandRun)) : Prop where
  current : s.plans.Current h s.place.read g
  disk : Relation.ReflTransGen (Disk.StoreStep h root) d s.place.disk
  learned : ∀ v, ∀ q ∈ (s.plans.learnedOf v).toList, q ∈ sources
  sound : ∀ v ∈ past, (v.situation g).Sound h
  stored : ∀ e, s.place.disk.Holds h u.id.cacheKey e →
    Produced f h g u sources past s.place.own s.plans e.fingerprint e.snapshot

section Invariants

variable {f : CommandBehavior} {st : Analysis.Storage} {h : Hash} {root : Path} {g : UnitGraph}
  {m : ProjectModel} {u : CompilationUnit} {d : Disk} {sources : Set Path}
  {past past' : List (BuildState (List CommandRun))} {s s' : BuildState (List CommandRun)}
  {runs runs' : List CommandRun} {plans plans' : PlanCache} {fp : Fingerprint} {snapshot : Snapshot}
  {settings : BuildSettings}

theorem Produced.mono (hp : Produced f h g u sources past runs plans fp snapshot)
    (hpast : past ⊆ past') (hruns : runs ⊆ runs')
    (hcovers : ∀ q, plans.Covers u q → plans'.Covers u q) :
    Produced f h g u sources past' runs' plans' fp snapshot := by
  obtain ⟨v, hv, p, hplan, hfp, r, hr, hprinted, hread, hlisted⟩ := hp
  exact ⟨v, hpast hv, p, hplan, hfp, r, hruns hr, hprinted, hread,
    fun q hq => hcovers _ (hlisted q hq)⟩

/-- The sources read the same while buffers stay as they are and only the store changes the disk. -/
theorem Apart.read_eq (hapart : Apart f h root g u.id d sources)
    {w w' : Workplace (List CommandRun)} (hoverlay : w'.overlay = w.overlay)
    (hw : Relation.ReflTransGen (Disk.StoreStep h root) d w.disk)
    (hw' : Relation.ReflTransGen (Disk.StoreStep h root) d w'.disk) {q : Path} (hq : q ∈ sources)
    (hnormal : q.normalize = q) : w'.read q = w.read q := by
  unfold Workplace.read
  rw [hoverlay]
  refine Overlay.read_congr rfl ?_
  rw [hnormal, hapart.untouched _ hw' q hq, hapart.untouched _ hw q hq]

/-- All inputs of units are among the sources, if what was learned is. -/
theorem Apart.mem_sources (hapart : Apart f h root g u.id d sources) (hc : plans.Tidy)
    (hlearned : ∀ v, ∀ q ∈ (plans.learnedOf v).toList, q ∈ sources) {c : CompilationUnit}
    (hunit : g.unit? c.id = some c) {q : Path} (hq : q ∈ plans.inputsOf c) : q ∈ sources := by
  rcases hc.mem_inputsOf.1 hq with hq | hq
  · exact hapart.declared c.id c hunit q hq
  · exact hlearned c.id q hq

/-- What the store does to the disk leaves current plans current. -/
theorem Apart.current (hapart : Apart f h root g u.id d sources)
    {w w' : Workplace (List CommandRun)} (hc : plans.Current h w.read g)
    (hlearned : ∀ v, ∀ q ∈ (plans.learnedOf v).toList, q ∈ sources)
    (hoverlay : w'.overlay = w.overlay)
    (hw : Relation.ReflTransGen (Disk.StoreStep h root) d w.disk)
    (hw' : Relation.ReflTransGen (Disk.StoreStep h root) d w'.disk) :
    plans.Current h w'.read g :=
  hc.of_read fun _ hunit _ hq => hapart.read_eq hoverlay hw hw'
    (hapart.mem_sources hc.toTidy hlearned hunit hq) (hc.normalize_of_mem_inputsOf hq)

/-- What is learned from a snapshot that was printed is among the sources. -/
theorem Apart.learned (hapart : Apart f h root g u.id d sources) (hc : plans.Tidy)
    (hlearned : ∀ v, ∀ q ∈ (plans.learnedOf v).toList, q ∈ sources) {r : CommandRun}
    (hprinted : r.Printed f u.id snapshot) (p : Plan) (source : AnalysisSource) :
    ∀ v, ∀ q ∈ ((plans.learnReads u p (.of u.id snapshot source)).1.learnedOf v).toList,
      q ∈ sources := by
  intro v q hq
  rcases hc.of_mem_learnedOf_learnReads hq with hq | hq
  · exact hlearned v q hq
  · obtain ⟨x, hx, rfl⟩ := List.mem_map.1 hq
    obtain ⟨y, hy, rfl⟩ := List.mem_map.1 (Analysis.mem_readFiles_of.1 hx)
    rw [Path.normalize_normalize]
    exact hapart.listed r snapshot hprinted y hy

/-- **What holds goes on to hold** while plans evolve, runs are added, the store changes the disk,
and all it holds anew was produced. -/
theorem Kept.advance (hs : Kept f h root g u d sources past s)
    (hcurrent : s'.plans.Current h s'.place.read g) (hplans : PlanCache.Evolves g s.plans s'.plans)
    (hdisk : Relation.ReflTransGen (Disk.StoreStep h root) s.place.disk s'.place.disk)
    (hruns : s.place.own ⊆ s'.place.own)
    (hlearned : ∀ v, ∀ q ∈ (s'.plans.learnedOf v).toList, q ∈ sources) (hpast : past ⊆ past')
    (hsound : ∀ v ∈ past', (v.situation g).Sound h)
    (hstored : ∀ e, s'.place.disk.Holds h u.id.cacheKey e → s.place.disk.Holds h u.id.cacheKey e ∨
      Produced f h g u sources past' s'.place.own s'.plans e.fingerprint e.snapshot) :
    Kept f h root g u d sources past' s' where
  current := hcurrent
  disk := hs.disk.trans hdisk
  learned := hlearned
  sound := hsound
  stored e he := by
    rcases hstored e he with he | hproduced
    · -- an old entry has more runs and more inputs to account for it than before
      exact (hs.stored e he).mono hpast hruns fun q hq =>
        hq.imp_left (hplans.mem_inputsOf hs.current.accounts)
    · exact hproduced

theorem Kept.invalidate (hs : Kept f h root g u d sources past s) (r : PlanCache.Invalidation) :
    Kept f h root g u d sources past { s with plans := s.plans.invalidate r } :=
  hs.advance (hs.current.invalidate r) (.single (.invalidate r)) .refl (List.Subset.refl _)
    hs.learned (List.Subset.refl _) hs.sound fun _ he => Or.inl he

theorem Kept.edit (hs : Kept f h root g u d sources past s) (p : Path) (b : Option Buffer) :
    Kept f h root g u d sources past (s.edit p b) := by
  have hread : ∀ q, q.normalize = q → q ≠ p.normalize →
      (s.edit p b).place.read q = s.place.read q := by
    intro q hnormal hne
    rw [← hnormal] at hne
    refine Overlay.read_congr ?_ rfl
    cases b with
    | none => exact Overlay.buffer?_clear_of_ne hne
    | some b => exact Overlay.buffer?_put_of_ne b hne
  exact hs.advance (hs.current.edit hread) (.single (.invalidate (.inputs [p]))) .refl
    (List.Subset.refl _) hs.learned (List.Subset.refl _) hs.sound fun _ he => Or.inl he

theorem Kept.start (hplans : s.plans = .new settings) (hempty : ∀ e,
    ¬ s.place.disk.Holds h u.id.cacheKey e) :
    Kept f h root g u s.place.disk sources [] s where
  current := hplans ▸ PlanCache.current_of_empty rfl (PlanCache.tidy_new settings)
  disk := .refl
  learned v q hq := by simp [hplans, PlanCache.learnedOf, PlanCache.new, Table.getD, KeySet.empty] at hq
  sound := by simp
  stored e he := absurd he (hempty e)

/-- States in which the unit was examined are sound, the present one included. -/
theorem Kept.sound_cons (hg : UnitGraph.ofModel m = .ok g)
    (hs : Kept f h root g u d sources past s) :
    ∀ v ∈ s :: past, (v.situation g).Sound h := by
  intro v hv
  rcases List.mem_cons.1 hv with rfl | hv
  · exact ⟨⟨m, hg⟩, hs.current⟩
  · exact hs.sound v hv

/-- **What an analysis by a command leaves**, after it was learned from. -/
theorem Kept.of_made (hg : UnitGraph.ofModel m = .ok g) (hu : g.unit? u.id = some u)
    (hapart : Apart f st.hash root g u.id d sources)
    (hs : Kept f st.hash root g u d sources past s) {p : Plan}
    (hplan : s.plans.planFor st.hash s.place.read g u = (plans, .ok p))
    {r : Except BuildFault Analysis} {w : Workplace (List CommandRun)}
    (hmade : Analysis.Made f st root u.id p s.place r w) :
    Kept f st.hash root g u d sources (s :: past)
      { s with plans := plans.learnFrom u p r, place := w } := by
  obtain ⟨hcurrent, hground⟩ := hs.current.planFor hg hu
  rw [hplan] at hcurrent hground
  obtain ⟨hevolves, hget⟩ := hs.current.accounts.of_planFor hg hu hplan
  have hlearned : ∀ v, ∀ q ∈ (plans.learnedOf v).toList, q ∈ sources := by
    intro v q hq
    unfold PlanCache.learnedOf at hq
    rw [hground.2] at hq
    exact hs.learned v q hq
  have hasked : Disk.StoreStep st.hash root s.place.disk
      (Analysis.asked st root u.id p s.place).disk := .load _ _
  cases hmade with
  | failed fault =>
    exact hs.advance (hapart.current hcurrent hlearned rfl hs.disk (hs.disk.tail hasked)) hevolves
      (.single hasked) (List.subset_append_left ..) hlearned (List.subset_cons_self ..)
      (hs.sound_cons hg) fun e he => Or.inl (Disk.holds_of_holds_loadSnapshot he)
  | @found snapshot hfound =>
    -- what is found was printed in an earlier run
    obtain ⟨e, he, -, rfl⟩ := Disk.holds_of_loadSnapshot hfound
    obtain ⟨-, -, -, -, -, run, -, hprinted, -⟩ := hs.stored e he
    have hlearned' := hapart.learned hcurrent.toTidy hlearned hprinted p .cache
    exact hs.advance (hapart.current (hcurrent.learnReads u p _) hlearned' rfl hs.disk
        (hs.disk.tail hasked)) (hevolves.trans (plans.evolves_learnReads g u p _))
      (.single hasked) (List.Subset.refl _) hlearned' (List.subset_cons_self ..)
      (hs.sound_cons hg) fun e he => Or.inl (Disk.holds_of_holds_loadSnapshot he)
  | @printed snapshot hprinted =>
    have hlearned' := hapart.learned hcurrent.toTidy hlearned hprinted p .outOfProcess
    have hstored : Disk.StoreStep st.hash root (Analysis.asked st root u.id p s.place).disk
        ((Analysis.asked st root u.id p s.place).disk.storeSnapshot st.hash root u.id.cacheKey
          (p.storeFingerprint st.hash) 0 snapshot).1 := .store _ _ _ _
    refine hs.advance (hapart.current (hcurrent.learnReads u p _) hlearned' rfl hs.disk
        ((hs.disk.tail hasked).tail hstored)) (hevolves.trans (plans.evolves_learnReads g u p _))
      (.tail (.single hasked) hstored) (List.subset_append_left ..) hlearned'
      (List.subset_cons_self ..) (hs.sound_cons hg) fun e he => ?_
    rcases Disk.holds_of_holds_storeSnapshot he with he | ⟨hfp, hsnapshot⟩
    · exact Or.inl (Disk.holds_of_holds_loadSnapshot he)
    · -- the entry that was just stored
      refine Or.inr ⟨s, List.mem_cons_self .., p, congrArg Prod.snd hplan, hfp.symm, _,
        List.mem_append_right _ (List.mem_singleton_self _), hsnapshot ▸ hprinted, ?_, ?_⟩
      · intro q hq hnormal
        have hread : (Analysis.asked st root u.id p s.place).read q = s.place.read q :=
          hapart.read_eq (by rfl) hs.disk (hs.disk.tail hasked) hq hnormal
        exact hread
      · intro q hq
        rw [hsnapshot] at hq
        exact hcurrent.accounts.covers_learnReads (fun i hi => hcurrent.inputs hu hget ▸ hi)
          (Analysis.mem_readFiles_of.2 (List.mem_map_of_mem hq)) q.normalize_normalize

/-- **An analysis was found in the store** in a state, and left another: it was produced by a plan
with the present fingerprint, and the sources still read the same. -/
def FoundIn (f : CommandBehavior) (h : Hash) (g : UnitGraph) (u : CompilationUnit)
    (sources : Set Path) (past : List (BuildState (List CommandRun)))
    (s s' : BuildState (List CommandRun)) (a : Analysis) : Prop :=
  ∃ p, (s.situation g).plan? h u = .ok p ∧
    Produced f h g u sources past s'.place.own s.plans (p.storeFingerprint h) a.snapshot ∧
    (∀ q ∈ a.readFiles, q ∈ a.snapshot.readFiles.map Path.normalize) ∧
    ∀ q ∈ sources, q.normalize = q → s'.place.read q = s.place.read q

variable {t : Collaborators (List CommandRun)}

/-- **What planning and analyzing the unit once comes to.** -/
theorem Kept.ensures_examine (hg : UnitGraph.ofModel m = .ok g) (hu : g.unit? u.id = some u)
    (hmember : u.member = false) (ht : ∀ c, t.run c = CommandRun.perform f c)
    (hfolder : st.folder = some root) (hapart : Apart f st.hash root g u.id d sources)
    (hs : Kept f st.hash root g u d sources past s) :
    Ensures Eq (fun r s' => Kept f st.hash root g u d sources (s :: past) s' ∧
        ∀ x, r = .ok x → x.1.source = .cache → FoundIn f st.hash g u sources past s s' x.1)
      (examine st t g u).run s := by
  refine BuildState.ensures_examine ⟨?_, by simp⟩ (fun plans fault hplan => ⟨?_, by simp⟩) ?_
  · exact hs.advance hs.current .refl .refl (List.Subset.refl _) hs.learned
      (List.subset_cons_self ..) (hs.sound_cons hg) fun _ he => Or.inl he
  · obtain ⟨hcurrent, hground⟩ := hs.current.planFor hg hu
    have hevolves := PlanCache.evolves_planFor hg st.hash s.place.read s.plans hu
    rw [hplan] at hcurrent hground hevolves
    refine hs.advance hcurrent hevolves .refl (List.Subset.refl _) (fun v q hq => ?_)
      (List.subset_cons_self ..) (hs.sound_cons hg) fun _ he => Or.inl he
    unfold PlanCache.learnedOf at hq
    rw [hground.2] at hq
    exact hs.learned v q hq
  · intro plans p hplan
    -- an analysis works on the place alone, so the rest is as planning left it
    have hwithin : Ensures Eq (fun r s₁ => Analysis.Made f st root u.id p s.place r s₁.place ∧
          s₁ = { s with plans := plans, place := s₁.place })
        (atPlace (Analysis.make st t u p).run) { s with plans := plans } :=
      ensures_within (fun _ _ => rfl) (fun r w hr => by rw [hr]) (fun _ _ heq hr => heq ▸ hr)
        (fun _ _ heq => heq ▸ rfl) rfl (Analysis.ensures_made ht hfolder hmember p s.place)
    refine hwithin.mono ?_
    rintro r s₁ ⟨hmade, heq⟩
    generalize s₁.place = w at hmade heq
    subst heq
    have hkept := hs.of_made hg hu hapart hplan hmade
    cases r with
    | error fault => exact ⟨hkept, by simp⟩
    | ok a =>
      refine ⟨hkept, ?_⟩
      rintro x hx hcache
      obtain rfl := Except.ok.inj hx
      cases hmade with
      | printed hprinted => cases hcache
      | @found snapshot hfound =>
        -- it was stored under the fingerprint of the plan, by an analysis of the past
        obtain ⟨e, he, hfp, rfl⟩ := Disk.holds_of_loadSnapshot hfound
        refine ⟨p, congrArg Prod.snd hplan, hfp ▸ hs.stored e he,
          fun q hq => Analysis.mem_readFiles_of.1 hq, fun q hq hnormal => ?_⟩
        have hread : (Analysis.asked st root u.id p s.place).read q = s.place.read q :=
          hapart.read_eq (by rfl) hs.disk (hs.disk.tail (.load _ _)) hq hnormal
        exact hread

/-- What holds at the start holds in all of the course of events. -/
theorem Course.kept (hg : UnitGraph.ofModel m = .ok g) (hu : g.unit? u.id = some u)
    (hmember : u.member = false) (ht : ∀ c, t.run c = CommandRun.perform f c)
    (hfolder : st.folder = some root) (hapart : Apart f st.hash root g u.id d sources)
    {start : BuildState (List CommandRun)} (hstart : Kept f st.hash root g u d sources [] start)
    (hs : Course st t g u start past s) : Kept f st.hash root g u d sources past s := by
  induction hs with
  | refl => exact hstart
  | edit p b _ ih => exact ih.edit p b
  | invalidate r _ ih => exact ih.invalidate r
  | @examine past s unwanted _ ih =>
    exact ((ih.ensures_examine hg hu hmember ht hfolder hapart).of_runThrough (fun _ => rfl)
      (rfl : (BuildState.examine st t g u).run.runThrough unwanted s = (_, _))).1

/-! ## Layer E: from the store -/

/-- **What is found in the store is as it was**, if the hash confuses nothing: it was printed by a
command that was run, and the files it lists read the same as then, but for those below the source
root that the unit does not declare. -/
theorem FoundIn.unchanged (hg : UnitGraph.ofModel m = .ok g) (hu : g.unit? u.id = some u)
    (hapart : Apart f h root g u.id d sources) (hs : Kept f h root g u d sources past s)
    {a : Analysis} (hfound : FoundIn f h g u sources past s s' a)
    (hclear : Set.InjOn (Fingerprint.ofFields h) (hashedIn g h (s :: past))) :
    ∃ r ∈ s'.place.own, r.Printed f u.id a.snapshot ∧ ∀ q ∈ a.readFiles,
      q ∈ u.allInputs.map Path.normalize ∨ UnitGraph.rootDepth? u q = none →
        r.read q = s'.place.read q := by
  obtain ⟨p, hplan, ⟨v, hv, p', hplan', hfp, r, hr, hprinted, hread, hlisted⟩, hreads, hsame⟩ :=
    hfound
  refine ⟨r, hr, hprinted, fun q hq hcovered => ?_⟩
  obtain ⟨x, hx, rfl⟩ := List.mem_map.1 (hreads q hq)
  have hpair : Situation.Clear (s.situation g) (v.situation g) h := by
    refine hclear.mono fun fields hfields => ?_
    rcases List.mem_append.1 hfields with hfields | hfields
    · exact ⟨s, List.mem_cons_self .., hfields⟩
    · exact ⟨v, List.mem_cons_of_mem _ hv, hfields⟩
  have hsound : (s.situation g).Sound h := ⟨⟨m, hg⟩, hs.current⟩
  have hmatch := (Situation.matches_of_key_eq hsound (hs.sound v hv) hpair hu hu hplan hplan'
    hfp.symm).1
  have hcontents := (hmatch.inputs hsound (hs.sound v hv) hpair hu hu).2
  -- the file is an input, since it is accounted for, and not by the source root
  have hinput : x.normalize ∈ s.plans.inputsOf u := by
    rcases hlisted x hx with hinput | hbelow
    · exact hinput
    · rcases hcovered with hdeclared | hnone
      · exact hs.current.mem_inputsOf.2 (Or.inl hdeclared)
      · rw [hnone] at hbelow
        cases hbelow
  have hsource : x.normalize ∈ sources := hapart.mem_sources hs.current.toTidy hs.learned hu hinput
  calc r.read x.normalize = v.place.read x.normalize := hread _ hsource x.normalize_normalize
    _ = s.place.read x.normalize := (hcontents _ hinput).symm
    _ = s'.place.read x.normalize := (hsame _ hsource x.normalize_normalize).symm

/-- **Analyses from the store are those of unchanged sources.** A unit outside the workspace is
planned and analyzed over and over, while buffers change and the plans that declare a changed file
are dropped. At first nothing was planned and the store holds nothing for the unit. Commands do
nothing but look at sources, the sources lie apart from the store, and the hash confuses nothing of
what was hashed. If an analysis of the unit comes from the store in the end, its snapshot was printed
by a command that was run, and every file it lists reads the same as then, if the unit declares it
or it lies outside of the unit's source root. -/
theorem reused_only_while_unchanged {start s s' : BuildState (List CommandRun)} {a : Analysis}
    {unwanted : Bool} (hg : UnitGraph.ofModel m = .ok g) (hu : g.unit? u.id = some u)
    (hmember : u.member = false) (ht : ∀ c, t.run c = CommandRun.perform f c)
    (hfolder : st.folder = some root)
    (hapart : Apart f st.hash root g u.id start.place.disk sources)
    (hplans : start.plans = .new settings)
    (hempty : ∀ e, ¬ start.place.disk.Holds st.hash u.id.cacheKey e)
    (hcourse : Course st t g u start past s)
    (hclear : Set.InjOn (Fingerprint.ofFields st.hash)
      (hashedIn g st.hash (s.examined st t g u unwanted :: s :: past)))
    (hrun : (examineAgain st t g u 1).run.runThrough unwanted s = (s', .ok a))
    (hcache : a.source = .cache) :
    ∃ r ∈ s'.place.own, r.Printed f u.id a.snapshot ∧ ∀ q ∈ a.readFiles,
      q ∈ u.allInputs.map Path.normalize ∨ UnitGraph.rootDepth? u q = none →
        r.read q = s'.place.read q := by
  have hs := hcourse.kept hg hu hmember ht hfolder hapart (Kept.start hplans hempty)
  have hone := hs.ensures_examine hg hu hmember ht hfolder hapart
  unfold examined at hclear
  rw [examineAgain, runThrough_work_bind] at hrun
  cases hfirst : (examine st t g u).run.runThrough unwanted s with
  | mk s₁ r =>
    obtain ⟨hs₁, hfound⟩ := hone.of_runThrough (fun _ => rfl) hfirst
    rw [hfirst] at hrun hclear
    rcases r with fault | ⟨a₁, new⟩
    · cases (Prod.mk.inj hrun).2
    · cases new with
      | false =>
        obtain ⟨rfl, ha⟩ := Prod.mk.inj hrun
        obtain rfl := Except.ok.inj ha
        refine (hfound _ rfl hcache).unchanged hg hu hapart hs (hclear.mono ?_)
        rintro fields ⟨v, hv, hfields⟩
        exact ⟨v, List.mem_cons_of_mem _ hv, hfields⟩
      | true =>
        -- the unit was analyzed again, by a plan that knows more of its inputs
        simp only [if_true, examineAgain] at hrun
        rw [runThrough_work_bind] at hrun
        cases hsecond : (examine st t g u).run.runThrough unwanted s₁ with
        | mk s₂ r =>
          obtain ⟨-, hfound₂⟩ := (hs₁.ensures_examine hg hu hmember ht hfolder hapart).of_runThrough
            (fun _ => rfl) hsecond
          rw [hsecond] at hrun
          rcases r with fault | ⟨a₂, new⟩
          · cases (Prod.mk.inj hrun).2
          · obtain ⟨rfl, ha⟩ := Prod.mk.inj hrun
            obtain rfl := Except.ok.inj ha
            exact (hfound₂ _ rfl hcache).unchanged hg hu hapart hs₁ hclear

end Invariants

/-- Nothing is confused if the same sequences are hashed in all states, and all are told apart. -/
theorem injOn_hashedIn {g : UnitGraph} {h : Hash} {states : List (BuildState τ)}
    (all : List (List Bytes)) (hstates : ∀ s ∈ states, (s.situation g).hashed h = all)
    (hall : (all.map (Fingerprint.ofFields h)).Nodup) :
    Set.InjOn (Fingerprint.ofFields h) (hashedIn g h states) := by
  rintro fields ⟨s, hs, hfields⟩ fields' ⟨s', hs', hfields'⟩ heq
  rw [hstates s hs] at hfields
  rw [hstates s' hs'] at hfields'
  exact List.inj_on_of_nodup_map hall hfields hfields' heq

/-! A library outside the workspace that reads a part below its source root. -/

/-- A hash that tells byte strings apart by their lengths. -/
def lengthHash : Hash := ⟨fun bs => ⟨String.singleton (Char.ofNat (33 + bs.length))⟩⟩

/-- The root file of the library. -/
def libraryRoot : Path := ⟨"src/lib.rs"⟩

/-- A part of the library that it does not declare. -/
def libraryPart : Path := ⟨"src/part.rs"⟩

/-- The library. -/
def partedLibrary : CompilationUnit :=
  { CompilationUnit.new (.lib "dep") libraryRoot with member := false }

/-- The project that depends on it. -/
def partedModel : ProjectModel := ⟨⟨"/"⟩, [partedLibrary], [], []⟩

/-- Its units. -/
def partedGraph : UnitGraph := UnitGraph.assemble partedModel

/-- What a command prints that lists the root file and the part. -/
def listingOutput : CommandOutput :=
  { (default : CommandOutput) with
    stdout := "\x7b\"read_files\": [\"src/lib.rs\", \"src/part.rs\"]\x7d" }

/-- A command that lists both files, whatever they hold. -/
def listingCommand : CommandBehavior := fun _ _ => .ok listingOutput

/-- Whether all files that a snapshot lists have relative paths. -/
def listsRelative : Except BuildFault Snapshot → Bool
  | .ok s => s.readFiles.all fun q => !q.normalize.isAbsolute
  | .error _ => true

/-- Collaborators that can do nothing but run the command. -/
def listingTeam : Collaborators (List CommandRun) where
  discover _ := throw .cancelled
  analyze _ _ := throw .cancelled
  run := CommandRun.perform listingCommand

/-- A store in the topmost folder. -/
def topStorage : Analysis.Storage := ⟨lengthHash, some ⟨"/"⟩⟩

/-- Both files are open in the editor, and the library was never analyzed. -/
def unanalyzed : BuildState (List CommandRun) where
  place :=
    { overlay := (Overlay.fresh.openBuffer libraryRoot "mod part;" 0).openBuffer libraryPart "" 0
      own := [] }

/-- The library was analyzed once, and then the part was changed. -/
def partEdited : BuildState (List CommandRun) :=
  (unanalyzed.examined topStorage listingTeam partedGraph partedLibrary false).edit libraryPart
    (some ⟨"fn added() \x7b\x7d", 1⟩)

/-- The analysis that follows the change. -/
def analyzedAgain : BuildState (List CommandRun) × Except BuildFault Analysis :=
  (examineAgain topStorage listingTeam partedGraph partedLibrary 1).run.runThrough false partEdited

/-- Whether an analysis comes from the store and lists a file. -/
def servedWith (file : Path) : Except BuildFault Analysis → Bool
  | .ok a => a.source == .cache && a.readFiles.contains file
  | .error _ => false

theorem exists_of_servedWith {file : Path} {r : Except BuildFault Analysis}
    (h : servedWith file r = true) : ∃ a, r = .ok a ∧ a.source = .cache ∧ file ∈ a.readFiles := by
  cases r with
  | error fault => cases h
  | ok a =>
    simp only [servedWith, Bool.and_eq_true, beq_iff_eq, List.contains_iff_mem] at h
    exact ⟨a, rfl, h⟩

theorem course_partEdited :
    Course topStorage listingTeam partedGraph partedLibrary unanalyzed [unanalyzed] partEdited :=
  .edit libraryPart _ (.examine false .refl)

/-- Nothing that is hashed for the library is confused. -/
theorem clear_partEdited : Set.InjOn (Fingerprint.ofFields lengthHash)
    (hashedIn partedGraph lengthHash
      [partEdited.examined topStorage listingTeam partedGraph partedLibrary false, partEdited,
        unanalyzed]) :=
  injOn_hashedIn ((unanalyzed.situation partedGraph).hashed lengthHash) (by decide +kernel)
    (by decide +kernel)

theorem apart_listingCommand :
    Apart listingCommand lengthHash ⟨"/"⟩ partedGraph partedLibrary.id unanalyzed.place.disk
      {p | p.isAbsolute = false} where
  untouched := Disk.untouched_relative _ _ _
  declared v c hc q hq := by
    have hg : UnitGraph.ofModel partedModel = .ok partedGraph := by decide +kernel
    have hmem := ((UnitGraph.sound_ofModel hg).ordered.get?_eq_some_iff v c).1 hc
    -- all paths of the model are relative, and the store lies at an absolute one
    have hall : ∀ c ∈ partedGraph.units.values, ∀ q ∈ c.allInputs.map Path.normalize,
        q.isAbsolute = false := by
      decide +kernel
    exact hall c (List.mem_map.2 ⟨_, hmem, rfl⟩) q hq
  listed r s hprinted q hq := by
    obtain ⟨o, ho, hs⟩ := hprinted
    have hrelative : listsRelative (Analysis.ofOutput partedLibrary.id listingOutput) = true := by
      decide +kernel
    have hsame : o = listingOutput := (Except.ok.inj ho).symm
    rw [← hsame, hs] at hrelative
    simpa [listsRelative] using List.all_eq_true.1 hrelative q hq

/-- After the change of the part the library is served from the store. Its root file is as it was
when the command was run. -/
theorem root_is_served_unchanged :
    ∃ s' a, analyzedAgain = (s', .ok a) ∧ a.source = .cache ∧ ∃ r ∈ s'.place.own,
      r.Printed listingCommand partedLibrary.id a.snapshot ∧
        r.read libraryRoot = s'.place.read libraryRoot := by
  have hserved : servedWith libraryRoot analyzedAgain.2 = true := by decide +kernel
  have hdeclared : libraryRoot ∈ partedLibrary.allInputs.map Path.normalize := by decide +kernel
  have hg : UnitGraph.ofModel partedModel = .ok partedGraph := by decide +kernel
  have hu : partedGraph.unit? partedLibrary.id = some partedLibrary := by decide +kernel
  obtain ⟨a, ha, hcache, hlisted⟩ := exists_of_servedWith hserved
  generalize hrun : analyzedAgain = again at ha ⊢
  obtain ⟨s', r⟩ := again
  obtain rfl : r = .ok a := ha
  have hthrough : (examineAgain topStorage listingTeam partedGraph partedLibrary 1).run.runThrough
      false partEdited = (s', .ok a) := hrun
  -- the root file is declared, which is the case that the theorem is about
  obtain ⟨r, hr, hprinted, hread⟩ := reused_only_while_unchanged hg hu rfl (fun _ => rfl) rfl
    apart_listingCommand rfl (Disk.not_holds_empty _ _) course_partEdited clear_partEdited hthrough
    hcache
  exact ⟨s', a, rfl, hcache, r, hr, hprinted, hread _ hlisted (Or.inl hdeclared)⟩

/-- The part is not as it was in any run of the command, though the analysis lists it and nothing is
confused by the hash. -/
theorem part_is_served_changed :
    Course topStorage listingTeam partedGraph partedLibrary unanalyzed [unanalyzed] partEdited ∧
    Set.InjOn (Fingerprint.ofFields lengthHash) (hashedIn partedGraph lengthHash
      [partEdited.examined topStorage listingTeam partedGraph partedLibrary false, partEdited,
        unanalyzed]) ∧
    ∃ s' a, analyzedAgain = (s', .ok a) ∧ a.source = .cache ∧ libraryPart ∈ a.readFiles ∧
      ∀ r ∈ s'.place.own, r.read libraryPart ≠ s'.place.read libraryPart := by
  have hserved : servedWith libraryPart analyzedAgain.2 = true := by decide +kernel
  have hchanged : ∀ r ∈ analyzedAgain.1.place.own,
      r.read libraryPart ≠ analyzedAgain.1.place.read libraryPart := by
    decide +kernel
  obtain ⟨a, ha, hcache, hlisted⟩ := exists_of_servedWith hserved
  generalize analyzedAgain = again at ha hchanged ⊢
  obtain ⟨s', r⟩ := again
  obtain rfl : r = .ok a := ha
  exact ⟨course_partEdited, clear_partEdited, s', a, rfl, hcache, hlisted, hchanged⟩

end BuildState

end CodeAtlas
