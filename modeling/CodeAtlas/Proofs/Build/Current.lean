import CodeAtlas.Proofs.Build.Fields
import CodeAtlas.Proofs.Build.Indexing
import CodeAtlas.Proofs.Build.Plan

/-!
# Keeping plans current

Plans at hand stay current while sources change, if the plans that declare a changed file are
dropped, and while inputs are learned, since the plan of a unit that has learned something is
dropped. While changes are still to be passed on, plans lag, but no further than the files that have
changed account for.

## Architecture

- **Layer A**: lagging plans;
- **Layer B**: current plans.
-/

namespace CodeAtlas

/-- Only the files that are read matter to their fields. -/
theorem contentFields_congr {read read' : SourceReader} {ps : List Path}
    (h : ∀ q ∈ ps, read' q = read q) : contentFields read' ps = contentFields read ps := by
  induction ps with
  | nil => rfl
  | cons p ps ih =>
    rw [contentFields_cons, contentFields_cons, h p (List.mem_cons_self ..),
      ih fun q hq => h q (List.mem_cons_of_mem _ hq)]

namespace PlanCache

variable {h : Hash} {read read' : SourceReader} {g : UnitGraph} {m : ProjectModel}
  {c c' : PlanCache} {u : CompilationUnit} {p : Plan} {stale stale' : List Path}

/-! ## Layer A: lagging plans -/

theorem planAfresh_congr {root : Path} {deps : Fingerprint} (hsettings : c'.settings = c.settings)
    (hinputs : c'.inputsOf u = c.inputsOf u) (hread : ∀ q ∈ c.inputsOf u, read' q = read q) :
    planAfresh h read' root c' u deps = planAfresh h read root c u deps := by
  unfold planAfresh shapeOf
  rw [hinputs, hsettings, contentFields_congr hread]

/-- A current plan names the inputs of its unit, all of them and no others. -/
theorem Current.inputs (hc : c.Current h read g) (hu : g.unit? u.id = some u)
    (hp : c.get? u.id = some p) : p.invocation.inputs = c.inputsOf u := by
  have hfresh := hc.fresh u p hu hp
  unfold planAfresh at hfresh
  cases hfields : contentFields read (c.inputsOf u) with
  | error fault => simp [hfields, Except.map] at hfresh
  | ok fields =>
    rw [hfields] at hfresh
    rw [← Except.ok.inj hfresh]
    rfl

theorem Current.accounts (hc : c.Current h read g) : c.Accounts g where
  toTidy := hc.toTidy
  inputs _ _ hu hp _ hq := hc.inputs hu hp ▸ hq

/-- **Lagging plans**: every plan at hand names the inputs of its unit and is what would be made
afresh, unless one of the files it rests on is stale. -/
structure Lagging (h : Hash) (read : SourceReader) (g : UnitGraph) (stale : List Path)
    (c : PlanCache) : Prop extends Tidy c where
  inputs : ∀ u p, g.unit? u.id = some u → c.get? u.id = some p →
    p.invocation.inputs = c.inputsOf u
  fresh : ∀ u p, g.unit? u.id = some u → c.get? u.id = some p →
    (∃ q ∈ stale, q ∈ c.inputsOf u) ∨ planAfresh h read g.root c u p.depsFingerprint = .ok p

theorem Current.lagging (hc : c.Current h read g) : c.Lagging h read g stale where
  toTidy := hc.toTidy
  inputs _ _ hu hp := hc.inputs hu hp
  fresh u p hu hp := Or.inr (hc.fresh u p hu hp)

/-- Where no file is stale, plans are current. -/
theorem Lagging.current (hc : c.Lagging h read g []) : c.Current h read g where
  toTidy := hc.toTidy
  fresh u p hu hp := by
    rcases hc.fresh u p hu hp with ⟨q, hq, -⟩ | hfresh
    · cases hq
    · exact hfresh

/-- **Plans lag no further** if every plan that is kept has the inputs it had before, and those of
them that were stale, or read otherwise now, are stale. -/
theorem Lagging.of_kept (hc : c.Lagging h read g stale) (hc' : c'.Tidy)
    (hsettings : c'.settings = c.settings)
    (hkept : ∀ u p, g.unit? u.id = some u → c'.get? u.id = some p → c.get? u.id = some p ∧
      c'.inputsOf u = c.inputsOf u ∧
      ∀ q ∈ c.inputsOf u, q ∈ stale ∨ read' q ≠ read q → q ∈ stale') :
    c'.Lagging h read' g stale' where
  toTidy := hc'
  inputs u p hu hp := by
    obtain ⟨hget, hinputs, -⟩ := hkept u p hu hp
    rw [hinputs, hc.inputs u p hu hget]
  fresh u p hu hp := by
    obtain ⟨hget, hinputs, hstale⟩ := hkept u p hu hp
    rw [hinputs]
    -- a plan with a stale input may be outdated; any other reads what it read before
    by_cases hsome : ∃ q ∈ stale', q ∈ c.inputsOf u
    · exact Or.inl hsome
    · have hread : ∀ q ∈ c.inputsOf u, read' q = read q := fun q hq =>
        by_contra fun hne => hsome ⟨q, hstale q hq (Or.inr hne), hq⟩
      rw [planAfresh_congr hsettings hinputs hread]
      refine (hc.fresh u p hu hget).imp_left ?_
      rintro ⟨q, hq, hmem⟩
      exact absurd ⟨q, hstale q hmem (Or.inl hq), hmem⟩ hsome

/-- Where there are no plans, none lags. -/
theorem Tidy.lagging_of_none (hc : c.Tidy) (hnone : ∀ v, c.get? v = none) :
    c.Lagging h read g stale where
  toTidy := hc
  inputs u p _ hp := by simp [hnone] at hp
  fresh u p _ hp := by simp [hnone] at hp

/-- Files that are passed on are stale no longer. -/
def Invalidation.settled : Invalidation → List Path → List Path
  | .inputs paths, stale => stale.filter fun q => !(paths.map Path.normalize).contains q
  | _, stale => stale

/-- **Dropping plans** takes those away that rest on the files that are passed on. -/
theorem Lagging.invalidate (hc : c.Lagging h read g stale) (r : Invalidation) :
    (c.invalidate r).Lagging h read g (r.settled stale) := by
  refine hc.of_kept (hc.toTidy.invalidate r) rfl fun u p hu hp => ?_
  obtain ⟨hget, hcovers⟩ := (hc.get?_invalidate r).1 hp
  refine ⟨hget, rfl, fun q hq hstale => ?_⟩
  have hstale : q ∈ stale := hstale.resolve_right fun hne => hne rfl
  cases r with
  | inputs paths =>
    refine List.mem_filter.2 ⟨hstale, ?_⟩
    by_contra hpassed
    have hpassed : q ∈ paths.map Path.normalize := by simpa using hpassed
    -- a plan that has the file among its inputs would have been dropped
    have hdeclares : p.declares q = true := by
      refine List.any_eq_true.2 ⟨q, ?_, by simp [Path.same]⟩
      rwa [hc.inputs u p hu hget]
    have hcovered : Invalidation.covers (.inputs paths) u.id p = true :=
      List.any_eq_true.2 ⟨q, hpassed, hdeclares⟩
    rw [hcovered] at hcovers
    cases hcovers
  | unit | features | all => exact hstale

theorem Lagging.learnInputs (hc : c.Lagging h read g stale) (v : UnitId) (paths : List Path) :
    (c.learnInputs v paths).1.Lagging h read g stale := by
  have htidy := hc.addLearned v paths
  rcases learnInputs_cases c v paths with ⟨heq, hsame⟩ | heq
  · rw [heq]
    refine hc.of_kept htidy rfl fun u _ _ hp => ⟨hp, inputsOf_congr (hsame u.id), ?_⟩
    exact fun _ _ hstale => hstale.resolve_right fun hne => hne rfl
  · rw [heq]
    refine hc.of_kept (htidy.invalidate _) rfl fun u p _ hp => ?_
    obtain ⟨hget, hcovers⟩ := (htidy.get?_invalidate _).1 hp
    have hne : u.id ≠ v := by simpa [Invalidation.covers] using hcovers
    refine ⟨hget, inputsOf_congr ((learnedOf_addLearned c v u.id paths).trans (if_neg hne)), ?_⟩
    exact fun _ _ hstale => hstale.resolve_right fun hne => hne rfl

theorem Tidy.get?_invalidate_all (hc : c.Tidy) (v : UnitId) : (c.invalidate .all).get? v = none :=
  Option.eq_none_iff_forall_ne_some.2 fun p hp => by
    have hcovers := ((hc.get?_invalidate .all).1 hp).2
    cases hcovers

theorem Lagging.setSettings (hc : c.Lagging h read g stale) (s : BuildSettings) :
    (c.setSettings s).1.Lagging h read g stale := by
  unfold PlanCache.setSettings
  split
  · exact hc
  · have htidy := hc.toTidy.withSettings s
    exact (htidy.invalidate .all).lagging_of_none htidy.get?_invalidate_all

theorem Lagging.reset (hc : c.Lagging h read g stale) : c.reset.Lagging h read g stale := by
  have hnone := hc.toTidy.get?_invalidate_all
  exact hc.toTidy.reset.lagging_of_none hnone

/-! ## Layer B: current plans -/

/-- **Plans stay current** if every plan that is kept rests on what it rested on before. -/
theorem Current.of_kept (hc : c.Current h read g) (hc' : c'.Tidy)
    (hsettings : c'.settings = c.settings)
    (hkept : ∀ u p, g.unit? u.id = some u → c'.get? u.id = some p → c.get? u.id = some p ∧
      c'.inputsOf u = c.inputsOf u ∧ ∀ q ∈ c.inputsOf u, read' q = read q) :
    c'.Current h read' g := by
  have hlagging : c.Lagging h read g [] := hc.lagging
  have hlagging' : c'.Lagging h read' g [] := by
    refine hlagging.of_kept hc' hsettings fun u p hu hp => ?_
    obtain ⟨hget, hinputs, hread⟩ := hkept u p hu hp
    exact ⟨hget, hinputs, fun q hq hstale => hstale.resolve_right fun hne => hne (hread q hq)⟩
  exact hlagging'.current

/-- Sources that read the same keep plans current. -/
theorem Current.of_read (hc : c.Current h read g)
    (hread : ∀ u, g.unit? u.id = some u → ∀ q ∈ c.inputsOf u, read' q = read q) :
    c.Current h read' g :=
  hc.of_kept hc.toTidy rfl fun u _ hu hp => ⟨hp, rfl, hread u hu⟩

theorem Current.invalidate (hc : c.Current h read g) (r : Invalidation) :
    (c.invalidate r).Current h read g := by
  have hsettled : r.settled [] = [] := by cases r <;> rfl
  exact Lagging.current (hsettled ▸ hc.lagging.invalidate r)

/-- **A change of one file keeps plans current** if the plans that declare it are dropped. -/
theorem Current.edit (hc : c.Current h read g) {path : Path}
    (hread : ∀ q, q.normalize = q → q ≠ path.normalize → read' q = read q) :
    (c.invalidate (.inputs [path])).Current h read' g := by
  refine hc.of_kept (hc.toTidy.invalidate _) rfl fun u p hu hp => ?_
  obtain ⟨hget, hcovers⟩ := (hc.get?_invalidate _).1 hp
  refine ⟨hget, rfl, fun q hq => hread q (hc.normalize_of_mem_inputsOf hq) ?_⟩
  rintro rfl
  -- a plan that has the file among its inputs would have been dropped
  have hdeclares : p.declares path.normalize = true := by
    refine List.any_eq_true.2 ⟨path.normalize, ?_, by simp [Path.same]⟩
    rwa [hc.inputs hu hget]
  simp [Invalidation.covers, hdeclares] at hcovers

/-- Learning keeps plans current: what a unit learned shows in no plan but its own. -/
theorem Current.learnInputs (hc : c.Current h read g) (v : UnitId) (paths : List Path) :
    (c.learnInputs v paths).1.Current h read g :=
  Lagging.current (hc.lagging.learnInputs v paths)

theorem Current.learnReads (hc : c.Current h read g) (u : CompilationUnit) (p : Plan)
    (a : Analysis) : (c.learnReads u p a).1.Current h read g := by
  unfold PlanCache.learnReads
  split
  · exact hc
  · exact hc.learnInputs _ _

/-- The plans after an analysis that may have failed. -/
def learnFrom (c : PlanCache) (u : CompilationUnit) (p : Plan) :
    Except BuildFault Analysis → PlanCache
  | .ok a => (c.learnReads u p a).1
  | .error _ => c

/-- What a unit has learned after an analysis it had learned before, or has read now. -/
theorem Tidy.of_mem_learnedOf_learnReads (hc : c.Tidy) {a : Analysis} {v : UnitId} {q : Path}
    (hq : q ∈ ((c.learnReads u p a).1.learnedOf v).toList) :
    q ∈ (c.learnedOf v).toList ∨ q ∈ a.readFiles.map Path.normalize := by
  unfold PlanCache.learnReads at hq
  split at hq
  · exact Or.inl hq
  · -- the reads that the plan does not declare are learned, and they are among the files read
    rw [learnedOf_learnInputs, hc.mem_learnedOf_addLearned_iff] at hq
    refine hq.imp_right fun ⟨_, hq⟩ => ?_
    obtain ⟨r, hr, rfl⟩ := List.mem_map.1 hq
    exact List.mem_map.2 ⟨r, (List.mem_filter.1 hr).1, rfl⟩

/-- Planning keeps plans current, and what they rest on as it is. -/
theorem Current.planFor (hg : UnitGraph.ofModel m = .ok g) (hc : c.Current h read g)
    (hu : g.unit? u.id = some u) :
    (PlanCache.planFor h read g c u).1.Current h read g ∧
      SameGround c (PlanCache.planFor h read g c u).1 := by
  obtain ⟨-, hcurrent, hground⟩ := hc.planWithin hg (planDepth g) hu
  unfold PlanCache.planFor
  generalize PlanCache.planWithin h read g (planDepth g) c u = planning at hcurrent hground ⊢
  obtain ⟨c', r⟩ := planning
  cases r with
  | none => exact ⟨hcurrent, hground⟩
  | some r => exact ⟨hcurrent, hground⟩

end PlanCache

end CodeAtlas
