import CodeAtlas.Proofs.Schedule.Activity

/-!
# What the work on a unit ensures

Rules for planning and analyzing a unit, stated once for whatever is to be shown of it.
-/

namespace CodeAtlas

open Activity

namespace Analysis

variable {τ : Type}

/-- What the program itself comes to is left to show of the compiler. -/
theorem ensures_inProcess {rely : Workplace τ → Workplace τ → Prop}
    {Q : Except BuildFault Analysis → Workplace τ → Prop} (t : Collaborators τ)
    (u : CompilationUnit) (p : Plan) (w : Workplace τ) (hfault : ∀ fault w, Q (.error fault) w)
    (h : Ensures rely (fun r w' => ∀ s, r = .ok (some s) →
        Q (.ok ⟨u.id, s, .inProcess, (w'.loaded.insertAll (s.readFiles.map Path.normalize)).toList⟩) w')
      (t.analyze u p).run { w with loaded := .empty }) :
    Ensures rely Q (inProcess t u p).run w := by
  unfold inProcess
  rw [ensures_work_bind, ensures_lift, ensures_modify]
  simp only [either]
  rw [ensures_work_bind]
  refine h.mono ?_
  rintro (fault | _ | snapshot) w' hw'
  · exact hfault _ _
  · exact hfault _ _
  · exact hw' snapshot rfl

/-- **How an analysis is made**: inside the program, or from a snapshot that a command printed or
the cache had. What holds of every fault and of every analysis of a snapshot is left to show of the
compiler alone. -/
theorem ensures_make {rely : Workplace τ → Workplace τ → Prop}
    {Q : Except BuildFault Analysis → Workplace τ → Prop} (st : Storage) (t : Collaborators τ)
    (u : CompilationUnit) (p : Plan) (w : Workplace τ) (hfault : ∀ fault w, Q (.error fault) w)
    (hsnapshot : ∀ s source w, Q (.ok (of u.id s source)) w)
    (hinside : Ensures rely (fun r w' => ∀ s, r = .ok (some s) →
        Q (.ok ⟨u.id, s, .inProcess, (w'.loaded.insertAll (s.readFiles.map Path.normalize)).toList⟩) w')
      (t.analyze u p).run { w with loaded := .empty }) :
    Ensures rely Q (make st t u p).run w := by
  unfold make
  split
  · exact ensures_inProcess t u p w hfault hinside
  · unfold outOfProcess
    rw [ensures_work_bind, ensures_lift]
    -- a snapshot is looked up, or else a command is run and its output read
    refine ensures_of_forall ?_ _
    rintro (_ | snapshot) w'
    · simp only [either]
      rw [ensures_work_bind, ensures_lift]
      refine ensures_of_forall ?_ _
      rintro (fault | o) w''
      · exact hfault _ _
      · simp only [either]
        rw [ensures_work_bind]
        cases ofOutput u.id o with
        | error fault => exact hfault _ _
        | ok snapshot =>
          change Ensures rely Q (_ >>= _ : Work (Workplace τ) Analysis).run w''
          rw [ensures_work_bind, ensures_lift]
          exact ensures_of_forall (fun _ w => hsnapshot snapshot .outOfProcess w) _
    · exact hsnapshot snapshot .cache _

/-- An analysis is about the unit it was made for. -/
theorem ensures_unit (st : Storage) (t : Collaborators τ) (u : CompilationUnit) (p : Plan)
    (rely : Workplace τ → Workplace τ → Prop) (w : Workplace τ) :
    Ensures rely (either (fun a _ => a.unit = u.id) fun _ _ => True) (make st t u p).run w :=
  ensures_make st t u p w (fun _ _ => trivial) (fun _ _ _ => rfl)
    (ensures_of_forall (fun _ _ _ _ => rfl) _)

end Analysis

namespace PlanCache

/-- The plans after an analysis, and whether it has shown anything new. -/
def learnReads (c : PlanCache) (u : CompilationUnit) (p : Plan) (a : Analysis) :
    PlanCache × Bool :=
  match Analysis.undeclaredReads u p a with
  | [] => (c, false)
  | reads => c.learnInputs u.id reads

end PlanCache

namespace BuildState

variable {τ : Type} {s : BuildState τ}

theorem ensures_learn {rely : BuildState τ → BuildState τ → Prop}
    {Q : Bool → BuildState τ → Prop} {u : CompilationUnit} {p : Plan} {a : Analysis} :
    Ensures rely Q (learn u p a) s ↔
      Q (s.plans.learnReads u p a).2 { s with plans := (s.plans.learnReads u p a).1 } := by
  unfold learn PlanCache.learnReads
  cases Analysis.undeclaredReads u p a with
  | nil => rfl
  | cons first rest => rfl

/-- **Planning, analyzing and learning**: what each of these has to come to. -/
theorem ensures_examine {rely : BuildState τ → BuildState τ → Prop}
    {Q : Except BuildFault (Analysis × Bool) → BuildState τ → Prop} {st : Analysis.Storage}
    {t : Collaborators τ} {g : UnitGraph} {u : CompilationUnit} (hcancelled : Q (.error .cancelled) s)
    (hunplanned : ∀ plans fault, s.plans.planFor st.hash s.place.read g u = (plans, .error fault) →
      Q (.error fault) { s with plans := plans })
    (hplanned : ∀ plans p, s.plans.planFor st.hash s.place.read g u = (plans, .ok p) →
      Ensures rely (either (fun a s' => Q (.ok (a, (s'.plans.learnReads u p a).2))
          { s' with plans := (s'.plans.learnReads u p a).1 }) fun fault => Q (.error fault))
        (atPlace (Analysis.make st t u p).run) { s with plans := plans }) :
    Ensures rely Q (examine st t g u).run s := by
  unfold examine
  rw [ensures_work_bind, ensures_lift, ensures_isUnwanted]
  -- a unit nobody wants any more is not even planned
  rintro (_ | _)
  · simp only [either, Bool.false_eq_true, if_false]
    rw [ensures_work_bind]
    change either _ _ (s.plans.planFor st.hash s.place.read g u).2
      { s with plans := (s.plans.planFor st.hash s.place.read g u).1 }
    cases hplan : s.plans.planFor st.hash s.place.read g u with
    | mk plans r =>
      cases r with
      | error fault => exact hunplanned plans fault hplan
      | ok p =>
        simp only [either]
        rw [ensures_work_bind]
        refine (hplanned plans p hplan).mono ?_
        rintro (fault | a) s' h
        · exact h
        · simp only [either] at h ⊢
          rw [ensures_work_bind, ensures_lift, ensures_learn]
          exact h
  · exact hcancelled

/-- An analysis that is made again if it has shown something new. -/
theorem ensures_examineAgain_succ {rely : BuildState τ → BuildState τ → Prop}
    {Q : Except BuildFault Analysis → BuildState τ → Prop} {st : Analysis.Storage}
    {t : Collaborators τ} {g : UnitGraph} {u : CompilationUnit} {n : Nat}
    (h : Ensures rely (either (fun r s' => if r.2 then
        Ensures rely Q (examineAgain st t g u n).run s' else Q (.ok r.1) s')
      fun fault => Q (.error fault)) (examine st t g u).run s) :
    Ensures rely Q (examineAgain st t g u (n + 1)).run s := by
  unfold examineAgain
  rw [ensures_work_bind]
  refine h.mono ?_
  rintro (fault | ⟨a, new⟩) s' h'
  · exact h'
  · simp only [either] at h' ⊢
    cases new with
    | true => exact h'
    | false => exact h'

theorem ensures_examineAgain_zero {rely : BuildState τ → BuildState τ → Prop}
    {Q : Except BuildFault Analysis → BuildState τ → Prop} {st : Analysis.Storage}
    {t : Collaborators τ} {g : UnitGraph} {u : CompilationUnit}
    (h : Ensures rely (either (fun r => Q (.ok r.1)) fun fault => Q (.error fault))
      (examine st t g u).run s) :
    Ensures rely Q (examineAgain st t g u 0).run s := by
  unfold examineAgain
  rw [ensures_work_bind]
  refine h.mono ?_
  rintro (fault | ⟨a, new⟩) s' h'
  · exact h'
  · exact h'

end BuildState

end CodeAtlas
