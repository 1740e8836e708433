import CodeAtlas.Proofs.Build.Dependencies
import CodeAtlas.Proofs.Ordered.Table
import CodeAtlas.Proofs.Schedule.Activity

/-!
# When code generation runs

A step of code generation is executed unless its last good run was made on what it would run on now.
What it runs on is its command and the contents of its inputs; the record keeps a fingerprint of
them, in which the command stands as it is shown to people. So a step that looks as it did is left
out, and this is right as long as commands that look alike are the same.

## Architecture

- **Layer A**: what a step runs on, and what the record sees of it;
- **Layer B**: attempts at a step, with a log of executed commands;
- **Layer C**: histories, and the invariant of the record;
- **Layer D**: all steps of a unit, and the main result;
- **Layer E**: a generator that is run for another target.
-/

namespace CodeAtlas

open Activity
open Fingerprint (textField pathField)

/-! ## Layer A: what a step runs on -/

namespace CommandSpec

/-- **A plain command** has no blanks in its program and its arguments, so nothing is quoted. -/
def Plain (c : CommandSpec) : Prop :=
  ∀ part ∈ c.program.text :: c.args, ' ' ∉ part.toList ∧ '\t' ∉ part.toList

/-- Arguments without blanks are shown as they are. -/
theorem shownArg_of_plain {arg : String} (h : ' ' ∉ arg.toList ∧ '\t' ∉ arg.toList) :
    shownArg arg = arg := by
  have hno : (arg.toList.any fun c => c == ' ' || c == '\t') = false := by
    apply List.any_eq_false.2
    intro c hc
    simp only [Bool.or_eq_true, beq_iff_eq, not_or]
    exact ⟨fun heq => h.1 (heq ▸ hc), fun heq => h.2 (heq ▸ hc)⟩
  simp [shownArg, hno]

/-- The words of a plain command are read off the line that shows it. -/
theorem splitOn_display {c : CommandSpec} (hc : c.Plain) :
    c.display.toList.splitOn ' ' = (c.program.text :: c.args).map String.toList := by
  have hargs : c.args.map shownArg = c.args.map id := by
    apply List.map_congr_left
    intro arg harg
    exact shownArg_of_plain (hc arg (List.mem_cons_of_mem _ harg))
  rw [display, hargs, List.map_id, String.toList_intercalate]
  apply List.splitOn_intercalate
  · intro word hword
    obtain ⟨part, hpart, rfl⟩ := List.mem_map.1 hword
    exact (hc part hpart).1
  · simp

/-- **A plain command is told by the line that shows it**, up to its folder and its variables. -/
theorem eq_of_display_eq {c d : CommandSpec} (hc : c.Plain) (hd : d.Plain)
    (hcwd : c.cwd = d.cwd) (henv : c.env = d.env) (h : c.display = d.display) : c = d := by
  have hwords : (c.program.text :: c.args).map String.toList =
      (d.program.text :: d.args).map String.toList := by
    rw [← splitOn_display hc, ← splitOn_display hd, h]
  have hparts := List.map_injective_iff.2 (fun _ _ => String.toList_inj.1) hwords
  obtain ⟨cwd, ⟨program⟩, args, env⟩ := c
  obtain ⟨cwd', ⟨program'⟩, args', env'⟩ := d
  simp_all

end CommandSpec

/-- **What a step runs on**: its command, and every input it declares with its content. -/
structure StepBasis where
  command : CommandSpec
  contents : List (Path × String)
  deriving Repr, DecidableEq

namespace StepBasis

/-- **Two bases look alike** if their commands are shown alike and their inputs are the same. -/
structure LooksLike (b b' : StepBasis) : Prop where
  display : b.command.display = b'.command.display
  contents : b.contents = b'.contents

instance (b b' : StepBasis) : Decidable (b.LooksLike b') :=
  decidable_of_iff (b.command.display = b'.command.display ∧ b.contents = b'.contents)
    ⟨fun h => ⟨h.1, h.2⟩, fun h => ⟨h.display, h.contents⟩⟩

/-- Plain commands in one folder and under the same variables look alike only if they are equal. -/
theorem looksLike_iff_eq {b b' : StepBasis} (hb : b.command.Plain) (hb' : b'.command.Plain)
    (hcwd : b.command.cwd = b'.command.cwd) (henv : b.command.env = b'.command.env) :
    b.LooksLike b' ↔ b = b' := by
  constructor
  · intro h
    have hcommand := CommandSpec.eq_of_display_eq hb hb' hcwd henv h.display
    have hcontents := h.contents
    cases b
    cases b'
    simp_all
  · intro h
    rw [h]
    exact ⟨rfl, rfl⟩

/-- The fields of an input. -/
def contentField (c : Path × String) : List Bytes := [pathField c.1, textField c.2]

/-- The fields that stand for a basis. -/
def fields (b : StepBasis) : List Bytes :=
  textField b.command.display :: b.contents.flatMap contentField

/-- The fingerprint of a basis. -/
def fingerprint (h : Hash) (b : StepBasis) : Fingerprint := .ofFields h b.fields

/-- **The fields show what a basis looks like**, and nothing else. -/
theorem fields_eq_iff {b b' : StepBasis} : b.fields = b'.fields ↔ b.LooksLike b' := by
  constructor
  · intro h
    obtain ⟨hdisplay, hcontents⟩ := List.cons_eq_cons.1 h
    refine ⟨Fingerprint.textField_injective hdisplay, ?_⟩
    -- each content contributes two fields, so they can be told apart by number
    have hpairs := forall₂_of_flatMap_eq (n := 1) (by simp [contentField]) (by simp [contentField])
      hcontents
    have hsame : List.Forall₂ (· = ·) b.contents b'.contents := by
      apply hpairs.imp
      intro c d hcd
      obtain ⟨hpath, htext⟩ := List.cons_eq_cons.1 hcd
      exact Prod.ext (Fingerprint.pathField_injective hpath)
        (Fingerprint.textField_injective (List.cons_eq_cons.1 htext).1)
    rwa [List.forall₂_eq_eq_eq] at hsame
  · intro h
    rw [fields, fields, h.display, h.contents]

end StepBasis

/-- The contents of files, if all of them can be read. -/
def contentsOf (read : SourceReader) : List Path → Except BuildFault (List (Path × String))
  | [] => .ok []
  | p :: rest => do
    let text ← (read p).mapError .ofOverlay
    let contents ← contentsOf read rest
    pure ((p, text) :: contents)

/-- The fields of files are those of their contents. -/
theorem contentFields_eq (read : SourceReader) (ps : List Path) :
    contentFields read ps = (contentsOf read ps).map (·.flatMap StepBasis.contentField) := by
  induction ps with
  | nil => rfl
  | cons p rest ih =>
    rw [contentFields_cons, ih, contentsOf]
    cases read p with
    | error fault => rfl
    | ok text => cases contentsOf read rest <;> rfl

/-- **What a step would run on now**, if its inputs can be read. -/
def PrebuildStep.basis (read : SourceReader) (s : PrebuildStep) : Except BuildFault StepBasis :=
  (contentsOf read s.inputs).map fun contents => ⟨s.command, contents⟩

/-- The fingerprint of a step is that of its basis. -/
theorem PrebuildStep.fingerprint_eq (h : Hash) (read : SourceReader) (s : PrebuildStep) :
    s.fingerprint h read = (s.basis read).map (·.fingerprint h) := by
  rw [fingerprint, contentFields_eq, basis]
  cases contentsOf read s.inputs <;> rfl

/-! ## Layer B: attempts -/

instance : Std.TransOrd StepKey :=
  inferInstanceAs (Std.TransCmp (compareLex (compareOn StepKey.unit) (compareOn StepKey.step)))

instance : Std.LawfulEqOrd StepKey where
  eq_of_compare {a b} h := by
    have hlex : compareLex (compareOn StepKey.unit) (compareOn StepKey.step) a b = .eq := h
    obtain ⟨hunit, hstep⟩ := compareLex_eq_eq.1 hlex
    cases a
    cases b
    exact congrArg₂ _ (Std.LawfulEqOrd.eq_of_compare hunit) (Std.LawfulEqOrd.eq_of_compare hstep)

/-- **An attempt at a step**: the sources as it found them, the commands that were executed, and how
it ended. -/
structure StepAttempt where
  unit : UnitId
  step : PrebuildStep
  read : SourceReader
  ran : List CommandSpec
  result : Except BuildFault Bool

namespace StepAttempt

/-- What the record knows the step by. -/
def key (a : StepAttempt) : StepKey := ⟨a.unit, a.step.name⟩

/-- What the step would run on, or ran on. -/
def basis (a : StepAttempt) : Except BuildFault StepBasis := a.step.basis a.read

/-- The step was executed, and nothing went wrong. -/
def Succeeded (a : StepAttempt) : Prop := a.ran ≠ [] ∧ a.result.isOk

instance (a : StepAttempt) : Decidable a.Succeeded := inferInstanceAs (Decidable (_ ∧ _))

end StepAttempt

variable {τ : Type}

/-- A workplace with a log, as it looks to those who keep none. -/
def Workplace.unlogged (s : Workplace (τ × List CommandSpec)) : Workplace τ :=
  { s with own := s.own.1 }

/-- A workplace that comes back from those who keep no log. -/
def Workplace.relogged (s : Workplace (τ × List CommandSpec)) (p : Workplace τ) :
    Workplace (τ × List CommandSpec) :=
  { p with own := (p.own, s.own.2) }

/-- **Collaborators that keep a log of the commands they execute**, and else do what others do. -/
def Collaborators.logged (t : Collaborators τ) : Collaborators (τ × List CommandSpec) where
  discover p := .mk ((t.discover p).run.within Workplace.unlogged Workplace.relogged)
  analyze u p := .mk ((t.analyze u p).run.within Workplace.unlogged Workplace.relogged)
  run c := do
    Activity.modify fun s : Workplace (τ × List CommandSpec) =>
      { s with own := (s.own.1, s.own.2 ++ [c]) }
    (t.run c).within Workplace.unlogged Workplace.relogged

namespace BuildState

/-- The commands that were executed, in order. -/
def log (s : BuildState (τ × List CommandSpec)) : List CommandSpec := s.place.own.2

/-- **What others do while no step is made**: anything but recording and executing steps. -/
def Undisturbed (s s' : BuildState (τ × List CommandSpec)) : Prop :=
  s'.prebuilt = s.prebuilt ∧ s'.log = s.log

end BuildState

open BuildState

/-- **How an attempt comes out**: for what the step runs on, and for the record. -/
inductive StepAttempt.Outcome (h : Hash) (s : BuildState (τ × List CommandSpec)) (a : StepAttempt)
    (s' : BuildState (τ × List CommandSpec)) : Prop
  /-- Without its inputs a step is not executed. -/
  | unreadable (fault : BuildFault) (hbasis : a.basis = .error fault) (hran : a.ran = [])
      (hresult : a.result = .error fault) (hsame : s' = s)
  | current (b : StepBasis) (hbasis : a.basis = .ok b)
      (hrecord : s.prebuilt.get? a.key = some (b.fingerprint h)) (hran : a.ran = [])
      (hresult : a.result = .ok false) (hsame : s' = s)
  | failed (b : StepBasis) (fault : BuildFault) (hbasis : a.basis = .ok b)
      (hstale : s.prebuilt.get? a.key ≠ some (b.fingerprint h)) (hran : a.ran = [a.step.command])
      (hresult : a.result = .error fault) (hrecord : s'.prebuilt = s.prebuilt)
  | succeeded (b : StepBasis) (hbasis : a.basis = .ok b)
      (hstale : s.prebuilt.get? a.key ≠ some (b.fingerprint h)) (hran : a.ran = [a.step.command])
      (hresult : a.result = .ok true)
      (hrecord : s'.prebuilt = s.prebuilt.insert a.key (b.fingerprint h))

namespace BuildState

/-- A command that is executed is logged once, and nothing is recorded yet. -/
private theorem ensures_run_logged (t : Collaborators τ) (c : CommandSpec)
    (s : BuildState (τ × List CommandSpec)) :
    Ensures Undisturbed (fun _ s' => s'.log = s.log ++ [c] ∧ s'.prebuilt = s.prebuilt)
      (atPlace (t.logged.run c)) s := by
  have hplace : Ensures (fun p p' => p'.own.2 = p.own.2)
      (fun _ p' => p'.own.2 = s.place.own.2 ++ [c]) (t.logged.run c) s.place := by
    show Ensures _ _ (Activity.modify _ >>= fun _ => _) s.place
    rw [ensures_bind, ensures_modify]
    -- those who keep no log cannot change it
    have hothers : Ensures (fun _ _ => True) (fun _ _ => True) (t.run c) s.place.unlogged :=
      ensures_of_forall (fun _ _ => trivial) _
    apply Ensures.mono
    · refine ensures_within (F := fun p => p.own.2 = s.place.own.2 ++ [c]) ?_ ?_ ?_ ?_ rfl hothers
      · intro r p
        rfl
      · intro r p hr
        exact hr
      · intro r r' hrely hr
        exact hrely.trans hr
      · intro r r' _
        trivial
    · intro _ p hp
      exact hp.2
  refine ensures_within (F := fun r => r.prebuilt = s.prebuilt) ?_ ?_ ?_ ?_ rfl hplace
  · intro r p
    rfl
  · intro r p hr
    exact hr
  · intro r r' hrely hr
    exact hrely.1.trans hr
  · intro r r' hrely
    exact hrely.2

/-- **Every attempt comes out in one of these ways.** -/
theorem ensures_runStep_outcome (h : Hash) (t : Collaborators τ) (u : UnitId)
    (step : PrebuildStep) (s : BuildState (τ × List CommandSpec)) :
    Ensures Undisturbed
      (fun r s' => ∃ ran, s'.log = s.log ++ ran ∧
        (⟨u, step, s.place.read, ran, r⟩ : StepAttempt).Outcome h s s')
      (runStep h t.logged u step).run s := by
  unfold runStep
  rw [ensures_work_bind, ensures_lift, ensures_current]
  simp only [either]
  rw [ensures_work_bind, step.fingerprint_eq]
  cases hread : step.basis s.place.read with
  | error fault => exact ⟨[], by simp, .unreadable fault hread rfl rfl rfl⟩
  | ok b =>
    show Ensures _ _ (ite _ _ _ : Work (BuildState (τ × List CommandSpec)) Bool).run s
    split
    case isTrue hcurrent =>
      have hrecord : s.prebuilt.get? ⟨u, step.name⟩ = some (b.fingerprint h) := by
        simpa [PrebuildRecord.isCurrent] using hcurrent
      exact ⟨[], by simp, .current b hread hrecord rfl rfl rfl⟩
    case isFalse hcurrent =>
      have hstale : s.prebuilt.get? ⟨u, step.name⟩ ≠ some (b.fingerprint h) := by
        simpa [PrebuildRecord.isCurrent] using hcurrent
      rw [ensures_work_bind, ensures_lift]
      apply (ensures_run_logged t step.command s).mono
      intro r s' hs'
      obtain ⟨hlog, hprebuilt⟩ := hs'
      cases r with
      | error fault => exact ⟨_, hlog, .failed b (.io fault) hread hstale rfl rfl hprebuilt⟩
      | ok o =>
        simp only [either]
        rw [ensures_work_bind]
        cases PrebuildRecord.verdict u step o with
        | error fault => exact ⟨_, hlog, .failed b fault hread hstale rfl rfl hprebuilt⟩
        | ok _ =>
          -- the step is recorded only now that its command ended well
          exact ⟨_, hlog, .succeeded b hread hstale rfl rfl (by rw [← hprebuilt]; rfl)⟩

end BuildState

namespace StepAttempt

/-- **An attempt that is made in one state and leaves another one.** -/
structure Made (h : Hash) (t : Collaborators τ) (s : BuildState (τ × List CommandSpec))
    (a : StepAttempt) (s' : BuildState (τ × List CommandSpec)) : Prop where
  read : a.read = s.place.read
  ran : s'.log = s.log ++ a.ran
  ends : Ends Undisturbed (runStep h t.logged a.unit a.step).run s a.result s'

variable {h : Hash} {t : Collaborators τ} {s s' : BuildState (τ × List CommandSpec)}
  {a : StepAttempt}

/-- Whatever way a step ends, it was an attempt. -/
theorem exists_made {u : UnitId} {step : PrebuildStep} {r : Except BuildFault Bool}
    (hends : Ends Undisturbed (runStep h t.logged u step).run s r s') :
    ∃ a : StepAttempt, a.unit = u ∧ a.step = step ∧ a.result = r ∧ a.Made h t s s' := by
  obtain ⟨ran, hran, -⟩ := (ensures_runStep_outcome h t u step s).of_ends hends
  exact ⟨⟨u, step, s.place.read, ran, r⟩, rfl, rfl, rfl, rfl, hran, hends⟩

/-- **An attempt that is made has an outcome.** -/
theorem Made.outcome (hmade : a.Made h t s s') : a.Outcome h s s' := by
  obtain ⟨hread, hran, hends⟩ := hmade
  obtain ⟨ran, hlog, houtcome⟩ := (ensures_runStep_outcome h t a.unit a.step s).of_ends hends
  obtain ⟨u, step, read, ran', result⟩ := a
  obtain rfl : read = s.place.read := hread
  obtain rfl : ran' = ran := List.append_cancel_left (hran.symm.trans hlog)
  exact houtcome

variable {k : StepKey}

namespace Made

/-- A step is executed once or not at all. -/
theorem ran_eq_nil_or (hmade : a.Made h t s s') : a.ran = [] ∨ a.ran = [a.step.command] := by
  cases hmade.outcome with
  | unreadable _ _ hran => exact Or.inl hran
  | current _ _ _ hran => exact Or.inl hran
  | failed _ _ _ _ hran => exact Or.inr hran
  | succeeded _ _ _ hran => exact Or.inr hran

/-- **A step is executed for what the record does not have.** -/
theorem ran_iff (hmade : a.Made h t s s') {b : StepBasis} (hb : a.basis = .ok b) :
    a.ran = [a.step.command] ↔ s.prebuilt.get? a.key ≠ some (b.fingerprint h) := by
  cases hmade.outcome with
  | unreadable fault hfault => cases hfault.symm.trans hb
  | current b' hb' hrecord hran =>
    obtain rfl := Except.ok.inj (hb'.symm.trans hb)
    simp [hrecord, hran]
  | failed b' fault hb' hstale hran =>
    obtain rfl := Except.ok.inj (hb'.symm.trans hb)
    simp [hstale, hran]
  | succeeded b' hb' hstale hran =>
    obtain rfl := Except.ok.inj (hb'.symm.trans hb)
    simp [hstale, hran]

/-- Without its inputs a step is not executed. -/
theorem of_unreadable (hmade : a.Made h t s s') {fault : BuildFault}
    (hfault : a.basis = .error fault) : a.ran = [] ∧ a.result = .error fault := by
  cases hmade.outcome with
  | unreadable fault' hfault' hran hresult =>
    obtain rfl := Except.error.inj (hfault'.symm.trans hfault)
    exact ⟨hran, hresult⟩
  | current b hb => cases hb.symm.trans hfault
  | failed b _ hb => cases hb.symm.trans hfault
  | succeeded b hb => cases hb.symm.trans hfault

/-- An attempt leaves the record of other steps alone. -/
theorem get?_of_ne (hmade : a.Made h t s s') (hk : a.key ≠ k) :
    s'.prebuilt.get? k = s.prebuilt.get? k := by
  cases hmade.outcome with
  | unreadable _ _ _ _ hsame => rw [hsame]
  | current _ _ _ _ _ hsame => rw [hsame]
  | failed _ _ _ _ _ _ hrecord => rw [hrecord]
  | succeeded _ _ _ _ _ hrecord => rw [hrecord, Table.get?_insert_of_ne (Ne.symm hk)]

/-- After an attempt without a fault the record has what the step runs on. -/
theorem recorded (hmade : a.Made h t s s') {executed : Bool} (hdone : a.result = .ok executed) :
    ∃ b, a.basis = .ok b ∧ s'.prebuilt.get? a.key = some (b.fingerprint h) := by
  cases hmade.outcome with
  | unreadable _ _ _ hresult => cases hresult.symm.trans hdone
  | current b hb hrecord _ _ hsame => exact ⟨b, hb, by rw [hsame, hrecord]⟩
  | failed _ _ _ _ _ hresult => cases hresult.symm.trans hdone
  | succeeded b hb _ _ _ hrecord => exact ⟨b, hb, by rw [hrecord, Table.get?_insert_self]⟩

/-- **A step that the record has is left out**, and nothing happens. -/
theorem of_current (hmade : a.Made h t s s') {u : UnitId} (hunit : a.unit = u) {b : StepBasis}
    (hb : a.step.basis s.place.read = .ok b)
    (hrecord : s.prebuilt.get? ⟨u, a.step.name⟩ = some (b.fingerprint h)) :
    a.result = .ok false ∧ s' = s := by
  subst hunit
  have hbasis : a.basis = .ok b := by rw [basis, hmade.read, hb]
  -- every other outcome says that the record has something else
  cases hmade.outcome with
  | unreadable _ hfault => cases hfault.symm.trans hbasis
  | current _ _ _ _ hresult hsame => exact ⟨hresult, hsame⟩
  | failed b' _ hb' hstale =>
    obtain rfl := Except.ok.inj (hb'.symm.trans hbasis)
    exact absurd hrecord hstale
  | succeeded b' hb' hstale =>
    obtain rfl := Except.ok.inj (hb'.symm.trans hbasis)
    exact absurd hrecord hstale

end Made

end StepAttempt

/-! ## Layer C: histories -/

/-- What happens to the record: a step is attempted (`run_for`), or the project is discovered anew
(`retain`). -/
inductive StepEvent where
  | attempt (a : StepAttempt)
  | rediscovered (g : UnitGraph)

/-- The basis of the last good run of a step after one more event. A project that does not declare
the step makes it forgotten. -/
def noteGood (k : StepKey) (before : Option StepBasis) : StepEvent → Option StepBasis
  | .attempt a => if a.key = k ∧ a.Succeeded then a.basis.toOption else before
  | .rediscovered g => if PrebuildRecord.isDeclared g k then before else none

/-- **What a step ran on when it last succeeded**, if it did. -/
def lastGood (k : StepKey) (past : List StepEvent) : Option StepBasis := past.foldl (noteGood k) none

theorem lastGood_snoc (k : StepKey) (past : List StepEvent) (e : StepEvent) :
    lastGood k (past ++ [e]) = noteGood k (lastGood k past) e := by
  simp [lastGood]

/-- What a step ran on belongs to an attempt. -/
theorem exists_attempt_of_lastGood {k : StepKey} {past : List StepEvent} {b : StepBasis}
    (hb : lastGood k past = some b) : ∃ a, .attempt a ∈ past ∧ a.basis = .ok b := by
  -- on the events, the last of them taken off
  induction past using List.reverseRecOn with
  | nil => cases hb
  | append_singleton past e ih =>
    have hold (hb : lastGood k past = some b) :
        ∃ a, .attempt a ∈ past ++ [e] ∧ a.basis = .ok b := by
      obtain ⟨a, ha, hbasis⟩ := ih hb
      exact ⟨a, List.mem_append_left _ ha, hbasis⟩
    rw [lastGood_snoc] at hb
    cases e with
    | attempt a =>
      rw [noteGood] at hb
      split at hb
      case isTrue =>
        refine ⟨a, by simp, ?_⟩
        cases hbasis : a.basis with
        | error fault => simp [hbasis, Except.toOption] at hb
        | ok b' => simpa [hbasis, Except.toOption] using hb
      case isFalse => exact hold hb
    | rediscovered g =>
      rw [noteGood] at hb
      split at hb
      case isTrue => exact hold hb
      case isFalse => cases hb

/-- Without another good run the last one stays what it was, or it is forgotten. -/
theorem lastGood_later {k : StepKey} (past : List StepEvent) {later : List StepEvent}
    (hlater : ∀ a, .attempt a ∈ later → a.key = k → ¬ a.Succeeded) :
    lastGood k (past ++ later) = lastGood k past ∨ lastGood k (past ++ later) = none := by
  induction later using List.reverseRecOn with
  | nil => simp
  | append_singleton later e ih =>
    have hold := ih fun a ha => hlater a (List.mem_append_left _ ha)
    rw [← List.append_assoc, lastGood_snoc]
    -- a failed attempt leaves the last good run; a discovery may have forgotten it
    cases e with
    | attempt a =>
      rw [noteGood, if_neg]
      · exact hold
      · intro hgood
        exact hlater a (by simp) hgood.1 hgood.2
    | rediscovered g =>
      rw [noteGood]
      split
      case isTrue => exact hold
      case isFalse => exact Or.inr rfl

/-- **A history of the record**: from an empty record on, steps are attempted one after the other,
the project is discovered anew, and in between others do what they like. -/
inductive StepHistory (h : Hash) (t : Collaborators τ) :
    List StepEvent → BuildState (τ × List CommandSpec) → Prop
  | start {s : BuildState (τ × List CommandSpec)} (hempty : s.prebuilt = .empty) :
      StepHistory h t [] s
  | elsewhere {past : List StepEvent} {s s' : BuildState (τ × List CommandSpec)}
      (hist : StepHistory h t past s) (hothers : Undisturbed s s') : StepHistory h t past s'
  | attempt {past : List StepEvent} {s s' : BuildState (τ × List CommandSpec)} {a : StepAttempt}
      (hist : StepHistory h t past s) (hmade : a.Made h t s s') :
      StepHistory h t (past ++ [.attempt a]) s'
  | rediscovered {past : List StepEvent} {s : BuildState (τ × List CommandSpec)}
      (hist : StepHistory h t past s) (g : UnitGraph) :
      StepHistory h t (past ++ [.rediscovered g]) { s with prebuilt := s.prebuilt.retain g }

/-- **The invariant of the record**: it has the fingerprint of what each step last ran on. -/
structure Recorded (h : Hash) (past : List StepEvent) (r : PrebuildRecord) : Prop where
  ordered : r.Ordered
  get? : ∀ k, r.get? k = (lastGood k past).map (·.fingerprint h)

variable {h : Hash} {t : Collaborators τ} {past : List StepEvent}
  {s s' : BuildState (τ × List CommandSpec)} {a : StepAttempt}

/-- **An attempt keeps the invariant.** -/
theorem Recorded.attempt (hrec : Recorded h past s.prebuilt) (hmade : a.Made h t s s') :
    Recorded h (past ++ [.attempt a]) s'.prebuilt := by
  -- an attempt without success changes neither the record nor the last good run
  have hsame (hfailed : ¬ a.Succeeded) (hprebuilt : s'.prebuilt = s.prebuilt) :
      Recorded h (past ++ [.attempt a]) s'.prebuilt := by
    rw [hprebuilt]
    refine ⟨hrec.ordered, ?_⟩
    intro k
    rw [lastGood_snoc, noteGood, if_neg (fun hgood => hfailed hgood.2)]
    exact hrec.get? k
  cases hmade.outcome with
  | unreadable _ _ hran _ hstate => exact hsame (fun hgood => hgood.1 hran) (by rw [hstate])
  | current _ _ _ hran _ hstate => exact hsame (fun hgood => hgood.1 hran) (by rw [hstate])
  | failed _ _ _ _ _ hresult hprebuilt =>
    apply hsame _ hprebuilt
    intro hgood
    simpa [hresult, Except.isOk, Except.toBool] using hgood.2
  | succeeded b hbasis _ hran hresult hprebuilt =>
    rw [hprebuilt]
    refine ⟨hrec.ordered.insert _ _, ?_⟩
    intro k
    rw [lastGood_snoc, noteGood]
    by_cases hkey : a.key = k
    · obtain rfl := hkey
      have hgood : a.Succeeded := ⟨by simp [hran], by simp [hresult, Except.isOk, Except.toBool]⟩
      rw [if_pos ⟨rfl, hgood⟩, Table.get?_insert_self, hbasis]
      rfl
    · rw [if_neg (fun hgood => hkey hgood.1), Table.get?_insert_of_ne (Ne.symm hkey)]
      exact hrec.get? k

/-- **Discovering the project anew keeps the invariant.** -/
theorem Recorded.retain {r : PrebuildRecord} (hrec : Recorded h past r) (g : UnitGraph) :
    Recorded h (past ++ [.rediscovered g]) (r.retain g) := by
  refine ⟨hrec.ordered.filter _, ?_⟩
  intro k
  rw [lastGood_snoc, noteGood]
  apply Option.ext
  intro f
  rw [PrebuildRecord.retain, hrec.ordered.get?_filter_eq_some_iff, hrec.get?]
  split
  case isTrue hdeclared => simp [hdeclared]
  case isFalse hdeclared => simp [hdeclared]

/-- **The invariant holds after every history.** -/
theorem StepHistory.recorded (hist : StepHistory h t past s) : Recorded h past s.prebuilt := by
  induction hist with
  | start hempty =>
    rw [hempty]
    exact ⟨Table.ordered_empty, fun k => rfl⟩
  | elsewhere _ hothers ih => rwa [hothers.1]
  | attempt _ hmade ih => exact ih.attempt hmade
  | rediscovered _ g ih => exact ih.retain g

/-- The fields that were hashed in the course of events. -/
def hashedFields (events : List StepEvent) : Set (List Bytes) :=
  { f | ∃ a b, .attempt a ∈ events ∧ a.basis = .ok b ∧ f = b.fields }

theorem hashedFields_mono {events events' : List StepEvent} (hsub : events ⊆ events') :
    hashedFields events ⊆ hashedFields events' := by
  intro f hf
  obtain ⟨a, b, ha, hb, rfl⟩ := hf
  exact ⟨a, b, hsub ha, hb, rfl⟩

/-- **The record has what looks as the step does** when it last succeeded. -/
theorem StepHistory.get?_eq_some_iff (hist : StepHistory h t past s) {b : StepBasis}
    (hb : a.basis = .ok b)
    (hinj : Set.InjOn (Fingerprint.ofFields h) (hashedFields (past ++ [.attempt a]))) :
    s.prebuilt.get? a.key = some (b.fingerprint h) ↔
      ∃ b', lastGood a.key past = some b' ∧ b'.LooksLike b := by
  rw [hist.recorded.get?, Option.map_eq_some_iff]
  apply exists_congr
  intro b'
  apply and_congr_right
  intro hb'
  rw [← StepBasis.fields_eq_iff]
  obtain ⟨a', ha', hbasis⟩ := exists_attempt_of_lastGood hb'
  -- both were hashed in this history, where hashes are told apart
  apply hinj.eq_iff
  · exact ⟨a', b', List.mem_append_left _ ha', hbasis, rfl⟩
  · exact ⟨a, b, by simp, hb, rfl⟩

/-! ## Layer D: all steps of a unit -/

/-- **A call** (`run_for`): the steps of a unit are attempted one after the other, up to one that
fails. -/
inductive StepCall (h : Hash) (t : Collaborators τ) (u : UnitId) :
    List PrebuildStep → BuildState (τ × List CommandSpec) → List StepAttempt →
      Except BuildFault Nat → BuildState (τ × List CommandSpec) → Prop
  | done {s : BuildState (τ × List CommandSpec)} : StepCall h t u [] s [] (.ok 0) s
  | stopped {rest : List PrebuildStep} {s s' : BuildState (τ × List CommandSpec)}
      {a : StepAttempt} {fault : BuildFault} (hunit : a.unit = u) (hmade : a.Made h t s s')
      (hfailed : a.result = .error fault) :
      StepCall h t u (a.step :: rest) s [a] (.error fault) s'
  | next {rest : List PrebuildStep} {s s₁ s' : BuildState (τ × List CommandSpec)}
      {a : StepAttempt} {as : List StepAttempt} {executed : Bool} {r : Except BuildFault Nat}
      (hunit : a.unit = u) (hmade : a.Made h t s s₁) (hdone : a.result = .ok executed)
      (hrest : StepCall h t u rest s₁ as r s') :
      StepCall h t u (a.step :: rest) s (a :: as) (r.map (· + executed.toNat)) s'

namespace StepCall

variable {u : UnitId} {steps : List PrebuildStep} {as : List StepAttempt}
  {r : Except BuildFault Nat}

/-- **Whatever way the steps of a unit end, they were attempted in order.** -/
theorem exists_of_ends (hends : Ends Undisturbed (runSteps h t.logged u steps).run s r s') :
    ∃ as, StepCall h t u steps s as r s' := by
  induction steps generalizing s r with
  | nil =>
    have hdone : Ends Undisturbed (.done (.ok 0)) s r s' := hends
    cases hdone
    exact ⟨[], .done⟩
  | cons step rest ih =>
    unfold runSteps at hends
    -- either the first step ends well and the others follow, or its fault ends the call
    obtain ⟨executed, s₁, hfirst, hsecond⟩ | ⟨fault, hfirst, rfl⟩ := hends.of_work_bind
    · obtain ⟨a, hunit, rfl, hresult, hmade⟩ := StepAttempt.exists_made hfirst
      obtain ⟨more, s₂, hmore, hcount⟩ | ⟨fault, hmore, rfl⟩ := hsecond.of_work_bind
      · have hdone : Ends Undisturbed (.done (.ok (more + executed.toNat))) s₂ r s' := hcount
        cases hdone
        obtain ⟨as, has⟩ := ih hmore
        exact ⟨a :: as, .next hunit hmade hresult has⟩
      · obtain ⟨as, has⟩ := ih hmore
        exact ⟨a :: as, .next hunit hmade hresult has⟩
    · obtain ⟨a, hunit, rfl, hresult, hmade⟩ := StepAttempt.exists_made hfirst
      exact ⟨[a], .stopped hunit hmade hresult⟩

/-- **What was executed in a call** is what was executed in its attempts. -/
theorem log_eq (hcall : StepCall h t u steps s as r s') :
    s'.log = s.log ++ as.flatMap StepAttempt.ran := by
  induction hcall with
  | done => simp
  | stopped _ hmade _ => simpa using hmade.ran
  | next _ hmade _ _ ih => simp [ih, hmade.ran]

/-- The number that a call ends with counts the commands that were executed. -/
theorem count_eq (hcall : StepCall h t u steps s as r s') {n : Nat} (hr : r = .ok n) :
    n = (as.flatMap StepAttempt.ran).length := by
  induction hcall generalizing n with
  | done => simpa using hr.symm
  | stopped _ _ _ => cases hr
  | @next rest s s₁ s' a as executed r _ hmade hdone _ ih =>
    cases r with
    | error fault => cases hr
    | ok more =>
      obtain rfl : more + executed.toNat = n := Except.ok.inj hr
      -- an attempt that did not fail has executed its command or has found it current
      have hran : executed.toNat = a.ran.length := by
        cases hmade.outcome with
        | unreadable _ _ _ hresult => cases hresult.symm.trans hdone
        | current _ _ _ hran hresult =>
          obtain rfl := Except.ok.inj (hresult.symm.trans hdone)
          simp [hran]
        | failed _ _ _ _ _ hresult => cases hresult.symm.trans hdone
        | succeeded _ _ _ hran hresult =>
          obtain rfl := Except.ok.inj (hresult.symm.trans hdone)
          simp [hran]
      rw [ih rfl, hran, List.flatMap_cons, List.length_append, Nat.add_comm]

/-- The attempts of a call are at the steps of its unit, in order. If none fails, all are attempted. -/
theorem steps_prefix (hcall : StepCall h t u steps s as r s') :
    (∀ a ∈ as, a.unit = u) ∧ as.map StepAttempt.step <+: steps ∧
      ((∃ n, r = .ok n) → as.map StepAttempt.step = steps) := by
  induction hcall with
  | done => simp
  | stopped hunit _ _ => simp [hunit]
  | @next rest s s₁ s' a as executed r hunit _ _ _ ih =>
    obtain ⟨hunits, hprefix, hall⟩ := ih
    refine ⟨?_, ?_, ?_⟩
    · simpa [hunit] using hunits
    · simpa using hprefix
    · intro hr
      obtain ⟨n, hn⟩ := hr
      cases r with
      | error fault => cases hn
      | ok more => rw [List.map_cons, hall ⟨more, rfl⟩]

/-- **A call continues a history.** -/
theorem history (hist : StepHistory h t past s) (hcall : StepCall h t u steps s as r s') :
    StepHistory h t (past ++ as.map .attempt) s' := by
  induction hcall generalizing past with
  | done => simpa using hist
  | stopped _ hmade _ => exact hist.attempt hmade
  | next _ hmade _ _ ih => simpa using ih (hist.attempt hmade)

/-- Every attempt of a call was made after the history and the attempts before it. -/
theorem exists_made (hist : StepHistory h t past s) {front back : List StepAttempt}
    (hcall : StepCall h t u steps s (front ++ a :: back) r s') :
    ∃ s₁ s₂, StepHistory h t (past ++ front.map .attempt) s₁ ∧ a.Made h t s₁ s₂ := by
  induction front generalizing past s steps r with
  | nil =>
    rw [List.nil_append] at hcall
    cases hcall with
    | stopped _ hmade _ => exact ⟨s, s', by simpa using hist, hmade⟩
    | next _ hmade _ _ => exact ⟨s, _, by simpa using hist, hmade⟩
  | cons a₀ front ih =>
    rw [List.cons_append] at hcall
    -- the call is taken apart by its first attempt, so the list has to be a variable
    generalize hrest : front ++ a :: back = rest at hcall
    cases hcall with
    | stopped _ _ _ => simp at hrest
    | next _ hmade _ hcall =>
      subst hrest
      obtain ⟨s₁, s₂, hfront, ha⟩ := ih (hist.attempt hmade) hcall
      exact ⟨s₁, s₂, by simpa using hfront, ha⟩

/-- A call leaves the record of steps with other names alone. -/
theorem get?_of_fresh (hcall : StepCall h t u steps s as r s') {k : StepKey}
    (hk : k.step ∉ steps.map PrebuildStep.name) : s'.prebuilt.get? k = s.prebuilt.get? k := by
  induction hcall with
  | done => rfl
  | stopped _ hmade _ =>
    apply hmade.get?_of_ne
    intro hkey
    exact hk (by simp [← hkey, StepAttempt.key])
  | next _ hmade _ _ ih =>
    rw [ih (fun hrest => hk (List.mem_cons_of_mem _ hrest))]
    apply hmade.get?_of_ne
    intro hkey
    exact hk (by simp [← hkey, StepAttempt.key])

/-- A call for one step is one attempt. -/
theorem eq_singleton {step : PrebuildStep} (hcall : StepCall h t u [step] s as r s') :
    ∃ a, as = [a] ∧ a.unit = u ∧ a.step = step ∧ a.Made h t s s' ∧
      r = a.result.map Bool.toNat := by
  cases hcall with
  | stopped hunit hmade hfailed => exact ⟨_, rfl, hunit, rfl, hmade, by rw [hfailed]; rfl⟩
  | next hunit hmade hdone hrest =>
    cases hrest
    refine ⟨_, rfl, hunit, rfl, hmade, ?_⟩
    rw [hdone]
    simp [Except.map]

/-- Only the last attempt of a call can fail. -/
theorem eq_of_failed (hcall : StepCall h t u steps s as r s') (ha : a ∈ as) {fault : BuildFault}
    (hfault : a.result = .error fault) : ∃ front, as = front ++ [a] := by
  induction hcall with
  | done => cases ha
  | stopped _ _ _ =>
    obtain rfl := List.mem_singleton.1 ha
    exact ⟨[], rfl⟩
  | @next rest s s₁ s' first as executed r _ _ hdone _ ih =>
    obtain rfl | ha := List.mem_cons.1 ha
    · cases hdone.symm.trans hfault
    · obtain ⟨front, rfl⟩ := ih ha
      exact ⟨first :: front, rfl⟩

/-- After a call without a fault the record has every step of the unit. -/
theorem recorded (hcall : StepCall h t u steps s as r s') {n : Nat} (hr : r = .ok n)
    (hnames : (steps.map PrebuildStep.name).Nodup) :
    ∀ a ∈ as, ∃ b, a.basis = .ok b ∧ s'.prebuilt.get? a.key = some (b.fingerprint h) := by
  induction hcall generalizing n with
  | done => simp
  | stopped _ _ _ => cases hr
  | @next rest s s₁ s' a as executed r _ hmade hdone hrest ih =>
    obtain ⟨hname, hnames⟩ := List.nodup_cons.1 hnames
    intro a' ha'
    obtain rfl | ha' := List.mem_cons.1 ha'
    · obtain ⟨b, hb, hrecord⟩ := hmade.recorded hdone
      exact ⟨b, hb, (hrest.get?_of_fresh hname).trans hrecord⟩
    · cases r with
      | error fault => cases hr
      | ok more => exact ih rfl hnames a' ha'

/-- **A call in which nothing is new executes nothing**, and changes nothing. -/
theorem eq_of_current (hcall : StepCall h t u steps s as r s')
    (hcurrent : ∀ step ∈ steps, ∃ b, step.basis s.place.read = .ok b ∧
      s.prebuilt.get? ⟨u, step.name⟩ = some (b.fingerprint h)) :
    r = .ok 0 ∧ s' = s := by
  induction hcall with
  | done => exact ⟨rfl, rfl⟩
  | @stopped rest s s' a fault hunit hmade hfailed =>
    obtain ⟨b, hb, hrecord⟩ := hcurrent a.step List.mem_cons_self
    obtain ⟨hresult, -⟩ := hmade.of_current hunit hb hrecord
    cases hresult.symm.trans hfailed
  | @next rest s s₁ s' a as executed r hunit hmade hdone _ ih =>
    obtain ⟨b, hb, hrecord⟩ := hcurrent a.step List.mem_cons_self
    obtain ⟨hresult, rfl⟩ := hmade.of_current hunit hb hrecord
    obtain rfl := Except.ok.inj (hresult.symm.trans hdone)
    obtain ⟨rfl, rfl⟩ := ih fun step hstep => hcurrent step (List.mem_cons_of_mem _ hstep)
    exact ⟨rfl, rfl⟩

end StepCall

/-- **An attempt that was due**: the step was executed exactly if it had to be, after the events
before. -/
structure StepAttempt.Due (past : List StepEvent) (a : StepAttempt) : Prop where
  once : a.ran = [] ∨ a.ran = [a.step.command]
  /-- Without its inputs the step is not executed, and the call ends. -/
  unreadable : ∀ fault, a.basis = .error fault → a.ran = [] ∧ a.result = .error fault
  /-- The step is executed unless it looks as it did when it last succeeded. -/
  executed : ∀ b, a.basis = .ok b → (a.ran = [a.step.command] ↔
    ¬ ∃ b', lastGood a.key past = some b' ∧ b'.LooksLike b)
  /-- For plain commands in one folder and under the same variables to look alike is to be equal. -/
  plain : ∀ b, a.basis = .ok b → b.command.Plain →
    (∀ b', lastGood a.key past = some b' →
      b'.command.Plain ∧ b'.command.cwd = b.command.cwd ∧ b'.command.env = b.command.env) →
    (a.ran = [a.step.command] ↔ lastGood a.key past ≠ some b)

/-- **Every attempt after a history is due.** -/
theorem StepHistory.due (hist : StepHistory h t past s) (hmade : a.Made h t s s')
    (hinj : Set.InjOn (Fingerprint.ofFields h) (hashedFields (past ++ [.attempt a]))) :
    a.Due past := by
  have hexecuted : ∀ b, a.basis = .ok b → (a.ran = [a.step.command] ↔
      ¬ ∃ b', lastGood a.key past = some b' ∧ b'.LooksLike b) := by
    intro b hb
    rw [hmade.ran_iff hb, ne_eq, hist.get?_eq_some_iff hb hinj]
  refine ⟨hmade.ran_eq_nil_or, fun _ => hmade.of_unreadable, hexecuted, ?_⟩
  intro b hb hplain hgood
  rw [hexecuted b hb]
  apply not_congr
  constructor
  · intro hlast
    obtain ⟨b', hb', halike⟩ := hlast
    -- bases that look alike are the same once both are plain and run in the same place
    obtain ⟨hplain', hcwd, henv⟩ := hgood b' hb'
    rw [hb', (StepBasis.looksLike_iff_eq hplain' hplain hcwd henv).1 halike]
  · intro hlast
    exact ⟨b, hlast, rfl, rfl⟩

/-- **A step that failed is executed again** on the same basis, unless it succeeded in between. -/
theorem StepHistory.ran_again (hist : StepHistory h t past s) (hmade : a.Made h t s s')
    (hran : a.ran ≠ []) {b : StepBasis} (hb : a.basis = .ok b) {later : List StepEvent}
    {s₁ s₂ : BuildState (τ × List CommandSpec)} (hist' : StepHistory h t (past ++ later) s₁)
    (hlater : ∀ e, .attempt e ∈ later → e.key = a.key → ¬ e.Succeeded) {a' : StepAttempt}
    (hmade' : a'.Made h t s₁ s₂) (hkey : a'.key = a.key) (hb' : a'.basis = .ok b) :
    a'.ran = [a'.step.command] := by
  -- the record did not have the basis then, and it can only have lost an entry since
  have hstale : s.prebuilt.get? a.key ≠ some (b.fingerprint h) :=
    (hmade.ran_iff hb).1 (hmade.ran_eq_nil_or.resolve_left hran)
  rw [hmade'.ran_iff hb', hkey, hist'.recorded.get?]
  obtain hsame | hnone := lastGood_later past hlater
  · rwa [hsame, ← hist.recorded.get?]
  · simp [hnone]

/-- **A call that runs what it must**, after a history: the attempts it consists of, and what is said
of them. -/
structure ProperCall (h : Hash) (t : Collaborators τ) (past : List StepEvent) (u : UnitId)
    (steps : List PrebuildStep) (s : BuildState (τ × List CommandSpec)) (as : List StepAttempt)
    (r : Except BuildFault Nat) (s' : BuildState (τ × List CommandSpec)) : Prop where
  call : StepCall h t u steps s as r s'
  history : StepHistory h t (past ++ as.map .attempt) s'
  log : s'.log = s.log ++ as.flatMap StepAttempt.ran
  units : ∀ a ∈ as, a.unit = u
  /-- The steps of the unit are attempted in order. -/
  attempted : as.map StepAttempt.step <+: steps
  /-- Without a fault all of them are, and the number counts what was executed. -/
  counted : ∀ n, r = .ok n →
    as.map StepAttempt.step = steps ∧ n = (as.flatMap StepAttempt.ran).length
  /-- Every attempt is due, if the hash confuses nothing that was hashed. -/
  due : Set.InjOn (Fingerprint.ofFields h) (hashedFields (past ++ as.map .attempt)) →
    ∀ front a back, as = front ++ a :: back → a.Due (past ++ front.map .attempt)
  /-- After a call without a fault, while the inputs are as they were found, another call executes
  nothing. -/
  again : (steps.map PrebuildStep.name).Nodup → ∀ n, r = .ok n → ∀ s₁, Undisturbed s' s₁ →
    (∀ a ∈ as, a.step.basis s₁.place.read = a.basis) →
    ∀ r' s₂, Ends Undisturbed (runSteps h t.logged u steps).run s₁ r' s₂ → r' = .ok 0 ∧ s₂ = s₁
  /-- A step that was executed and failed is executed again on the same basis, whatever happens in
  between, unless it succeeds. -/
  failed : ∀ a ∈ as, a.ran ≠ [] → ∀ fault, a.result = .error fault →
    ∀ (later : List StepEvent) (s₁ : BuildState (τ × List CommandSpec)),
    StepHistory h t (past ++ as.map .attempt ++ later) s₁ →
    (∀ e, .attempt e ∈ later → e.key = a.key → ¬ e.Succeeded) →
    ∀ (a' : StepAttempt) (s₂ : BuildState (τ × List CommandSpec)), a'.Made h t s₁ s₂ →
      a'.key = a.key → a'.basis = a.basis → a'.ran = [a'.step.command]

/-- **Code generation runs exactly when it must**, as far as its record can see, whatever way a call
ends after whatever history. -/
theorem StepHistory.steps_run_when_due {u : UnitId} {steps : List PrebuildStep}
    {r : Except BuildFault Nat} (hist : StepHistory h t past s)
    (hends : Ends Undisturbed (runSteps h t.logged u steps).run s r s') :
    ∃ as, ProperCall h t past u steps s as r s' := by
  obtain ⟨as, hcall⟩ := StepCall.exists_of_ends hends
  obtain ⟨hunits, hprefix, hall⟩ := hcall.steps_prefix
  refine ⟨as, hcall, hcall.history hist, hcall.log_eq, hunits, hprefix, ?count, ?due, ?again,
    ?failed⟩
  case count =>
    intro n hr
    exact ⟨hall ⟨n, hr⟩, hcall.count_eq hr⟩
  case due =>
    -- what was hashed up to this attempt is part of all that was hashed
    intro hinj front a back has
    obtain rfl := has
    obtain ⟨s₁, s₂, hfront, hmade⟩ := hcall.exists_made hist
    apply hfront.due hmade
    apply hinj.mono
    apply hashedFields_mono
    simp
  case again =>
    -- names are different, so what a step recorded was not overwritten by a later one
    intro hnames n hr s₁ hothers hsame r' s₂ hends'
    obtain ⟨as', hcall'⟩ := StepCall.exists_of_ends hends'
    apply hcall'.eq_of_current
    intro step hstep
    rw [← hall ⟨n, hr⟩] at hstep
    obtain ⟨a, ha, rfl⟩ := List.mem_map.1 hstep
    obtain ⟨b, hb, hrecord⟩ := hcall.recorded hr hnames a ha
    refine ⟨b, (hsame a ha).trans hb, ?_⟩
    rw [hothers.1, ← hrecord, StepAttempt.key, hunits a ha]
  case failed =>
    -- the failed attempt is the last one of its call, and no good run itself
    intro a ha hran fault hfault later s₁ hist' hlater a' s₂ hmade' hkey hbasis
    obtain ⟨front, rfl⟩ := hcall.eq_of_failed ha hfault
    obtain ⟨s₀, s₀', hfront, hmade⟩ := hcall.exists_made hist
    cases hb : a.basis with
    | error unread => exact absurd (hmade.of_unreadable hb).1 hran
    | ok b =>
      have hist'' : StepHistory h t (past ++ front.map .attempt ++ .attempt a :: later) s₁ := by
        simpa using hist'
      apply hfront.ran_again hmade hran hb hist'' _ hmade' hkey (hbasis.trans hb)
      intro e he hkey'
      obtain heq | he := List.mem_cons.1 he
      · obtain rfl := StepEvent.attempt.inj heq
        intro hgood
        simpa [hfault, Except.isOk, Except.toBool] using hgood.2
      · exact hlater e he hkey'

/-! ## Layer E: a generator that is run for another target -/

namespace PrebuildStep

open Situation (writtenOut ofBytes_writtenOut_injective)

/-- A step that generates code for a target, which it finds in a variable. -/
def codegenFor (target : String) : PrebuildStep where
  name := "codegen"
  command := ⟨⟨"/w"⟩, ⟨"codegen"⟩, ["api.proto"], Table.ofList [("TARGET", target)]⟩
  inputs := [⟨"/w/api.proto"⟩]
  outputs := [⟨"/w/api.rs"⟩]

/-- Collaborators whose commands end well. -/
def obliging : Collaborators Unit where
  discover _ := throw .cancelled
  analyze _ _ := pure none
  run _ := pure (.ok ⟨⟨0⟩, "", "", false, false, false⟩)

/-- Nothing was generated yet. -/
def ungenerated : BuildState (Unit × List CommandSpec) where
  place := { overlay := Overlay.fresh.openBuffer ⟨"/w/api.proto"⟩ "rpc" 0, own := ((), []) }

/-- What a call for a target leaves, and how it ends. -/
def generate (target : String) (s : BuildState (Unit × List CommandSpec)) :
    BuildState (Unit × List CommandSpec) × Except BuildFault Nat :=
  (runSteps writtenOut obliging.logged (.lib "api") [codegenFor target]).run.runThrough false s

theorem ends_generate (target : String) (s : BuildState (Unit × List CommandSpec)) :
    Ends Undisturbed (runSteps writtenOut obliging.logged (.lib "api") [codegenFor target]).run s
      (generate target s).2 (generate target s).1 :=
  ends_of_runThrough (fun _ => ⟨rfl, rfl⟩) rfl

/-- What the step runs on, while its input is as it was. -/
def basisFor (target : String) : StepBasis :=
  ⟨(codegenFor target).command, [(⟨"/w/api.proto"⟩, "rpc")]⟩

theorem basis_codegenFor (target : String) {s : BuildState (Unit × List CommandSpec)}
    (hs : s.place.overlay = ungenerated.place.overlay) :
    (codegenFor target).basis s.place.read = .ok (basisFor target) := by
  have hread : s.place.read ⟨"/w/api.proto"⟩ = .ok "rpc" := by
    have hbuffer : ungenerated.place.overlay.buffer? ⟨"/w/api.proto"⟩ = some ⟨"rpc", 0⟩ := by
      decide +kernel
    rw [Workplace.read, hs, Overlay.read, hbuffer]
  have hcontents : contentsOf s.place.read [⟨"/w/api.proto"⟩] = .ok [(⟨"/w/api.proto"⟩, "rpc")] := by
    rw [contentsOf, hread]
    rfl
  rw [basis, show (codegenFor target).inputs = [⟨"/w/api.proto"⟩] from rfl, hcontents]
  rfl

/-- An attempt at the step finds its input as it was. -/
theorem basis_of_made {target : String} {a : StepAttempt}
    {s s' : BuildState (Unit × List CommandSpec)} (hmade : a.Made writtenOut obliging s s')
    (hstep : a.step = codegenFor target) (hs : s.place.overlay = ungenerated.place.overlay) :
    a.basis = .ok (basisFor target) := by
  rw [StepAttempt.basis, hmade.read, hstep]
  exact basis_codegenFor target hs

/-- Code is generated once: the first call executes the step, and the next one does not. -/
theorem codegen_runs_once :
    StepHistory writtenOut obliging [] ungenerated ∧
      ∃ a, ProperCall writtenOut obliging [] (.lib "api") [codegenFor "arm"] ungenerated [a] (.ok 1)
          (generate "arm" ungenerated).1 ∧
        Set.InjOn (Fingerprint.ofFields writtenOut) (hashedFields [.attempt a]) ∧
        a.ran = [(codegenFor "arm").command] ∧
        (generate "arm" (generate "arm" ungenerated).1).2 = .ok 0 := by
  have hist : StepHistory writtenOut obliging [] ungenerated := .start rfl
  obtain ⟨as, hproper⟩ := hist.steps_run_when_due (ends_generate "arm" ungenerated)
  obtain ⟨a, rfl, hunit, hstep, hmade, -⟩ := hproper.call.eq_singleton
  have hbasis : a.basis = .ok (basisFor "arm") := basis_of_made hmade hstep rfl
  have hinj : Set.InjOn (Fingerprint.ofFields writtenOut) (hashedFields [.attempt a]) := by
    apply Fingerprint.injOn_ofFields ofBytes_writtenOut_injective
    intro fs hfs
    obtain ⟨a', b, ha', hb, rfl⟩ := hfs
    obtain rfl := StepEvent.attempt.inj (List.mem_singleton.1 ha')
    obtain rfl := Except.ok.inj (hb.symm.trans hbasis)
    decide +kernel
  have hone : (generate "arm" ungenerated).2 = .ok 1 := by decide +kernel
  -- there is no good run before, so it is due
  have hran : a.ran = [a.step.command] := by
    apply ((hproper.due hinj [] a [] rfl).executed _ hbasis).2
    simp [lastGood]
  refine ⟨hist, a, hone ▸ hproper, hinj, by rw [hran, hstep], ?_⟩
  -- the step writes nothing that it reads, so it looks the same afterwards
  have hsame : ∀ a' ∈ [a], a'.step.basis (generate "arm" ungenerated).1.place.read = a'.basis := by
    intro a' ha'
    obtain rfl := List.mem_singleton.1 ha'
    rw [hbasis, hstep]
    exact basis_codegenFor "arm" rfl
  exact (hproper.again (by simp) 1 hone _ ⟨rfl, rfl⟩ hsame _ _ (ends_generate "arm" _)).1

/-- The project with the step for another target. -/
def otherTarget : UnitGraph :=
  .assemble (Situation.modelOf [{ Situation.libraryWith [] with
    id := .lib "api", prebuild := [codegenFor "x86"] }])

/-- Code was generated for one target, and then the project was discovered anew, with another one. -/
def retargeted : BuildState (Unit × List CommandSpec) :=
  let s := (generate "arm" ungenerated).1
  { s with prebuilt := s.prebuilt.retain otherTarget }

/-- The step for the first target is executed well. -/
theorem exists_succeeded : ∃ a : StepAttempt,
    a.Made writtenOut obliging ungenerated (generate "arm" ungenerated).1 ∧
      a.unit = .lib "api" ∧ a.step = codegenFor "arm" ∧ a.basis = .ok (basisFor "arm") ∧
      a.Succeeded := by
  obtain ⟨as, hcall⟩ := StepCall.exists_of_ends (ends_generate "arm" ungenerated)
  obtain ⟨a, -, hunit, hstep, hmade, hresult⟩ := hcall.eq_singleton
  have hbasis : a.basis = .ok (basisFor "arm") := basis_of_made hmade hstep rfl
  refine ⟨a, hmade, hunit, hstep, hbasis, ?_, ?_⟩
  · rw [(hmade.ran_iff hbasis).2]
    · simp
    · simp [ungenerated, Table.get?_empty]
  · have hone : (generate "arm" ungenerated).2 = .ok 1 := by decide +kernel
    rw [hone] at hresult
    cases hended : a.result with
    | error fault => simp [hended, Except.map] at hresult
    | ok executed => rfl

/-- **Another target goes unnoticed**: the step last succeeded with one value of its variable, it is
still declared, and it is not executed with another one. The hash confuses nothing. -/
theorem other_target_is_not_generated :
    Function.Injective writtenOut.ofBytes ∧ ∃ a₀ a : StepAttempt,
      StepHistory writtenOut obliging [.attempt a₀, .rediscovered otherTarget] retargeted ∧
      PrebuildRecord.isDeclared otherTarget a.key = true ∧
      a.Made writtenOut obliging retargeted (generate "x86" retargeted).1 ∧
      a.step = codegenFor "x86" ∧ a.basis = .ok (basisFor "x86") ∧
      lastGood a.key [.attempt a₀, .rediscovered otherTarget] = some (basisFor "arm") ∧
      (basisFor "arm").command.env ≠ (basisFor "x86").command.env ∧ a.ran = [] := by
  obtain ⟨a₀, hmade₀, hunit₀, hstep₀, hbasis₀, hgood₀⟩ := exists_succeeded
  have hist : StepHistory writtenOut obliging [.attempt a₀, .rediscovered otherTarget] retargeted :=
    ((StepHistory.start rfl).attempt hmade₀).rediscovered otherTarget
  obtain ⟨as, hcall⟩ := StepCall.exists_of_ends (ends_generate "x86" retargeted)
  obtain ⟨a, -, hunit, hstep, hmade, -⟩ := hcall.eq_singleton
  have hbasis : a.basis = .ok (basisFor "x86") := basis_of_made hmade hstep rfl
  have hkey : a.key = ⟨.lib "api", "codegen"⟩ := by rw [StepAttempt.key, hunit, hstep]; rfl
  have hkey₀ : a₀.key = ⟨.lib "api", "codegen"⟩ := by rw [StepAttempt.key, hunit₀, hstep₀]; rfl
  have hdeclared : PrebuildRecord.isDeclared otherTarget ⟨.lib "api", "codegen"⟩ = true := by
    decide +kernel
  have hrecord : retargeted.prebuilt.get? ⟨.lib "api", "codegen"⟩ =
      some ((basisFor "x86").fingerprint writtenOut) := by
    decide +kernel
  refine ⟨ofBytes_writtenOut_injective, a₀, a, hist, by rw [hkey, hdeclared], hmade, hstep, hbasis,
    ?_, ?_, ?_⟩
  · simp [lastGood, noteGood, hkey, hkey₀, hgood₀, hbasis₀, hdeclared, Except.toOption]
  · decide +kernel
  · -- the record has the new basis, since it looks like the old one
    apply hmade.ran_eq_nil_or.resolve_right
    rw [hmade.ran_iff hbasis, hkey]
    exact fun hstale => hstale hrecord

end PrebuildStep

end CodeAtlas
