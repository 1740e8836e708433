import CodeAtlas.Build.Indexing

/-!
# A logic of activities

What holds when an activity ends, whatever happens at its gates: while it stands at one, others may
change the state within the bounds of a relation they are relied on to keep. Checkpoints may turn
out either way.

## Architecture

- **Layer A**: the judgment, and what it says of running and of other ways to end;
- **Layer B**: rules for composed activities;
- **Layer C**: work that may fail, and work on a part of the state.
-/

namespace CodeAtlas

namespace Activity

variable {σ ρ α β : Type}

/-! ## Layer A: the judgment -/

/-- **An activity that is begun in a state ensures `Q`** of its value and the state at its end, if
others keep to `rely` while it stands at a gate. -/
def Ensures (rely : σ → σ → Prop) (Q : α → σ → Prop) : Activity σ α → σ → Prop
  | .done a, s => Q a s
  | .observe next, s => Ensures rely Q (next s) s
  | .change s next, _ => Ensures rely Q next s
  | .checkpoint next, s => ∀ unwanted, Ensures rely Q (next unwanted) s
  | .gate _ next, s => ∀ s', rely s s' → Ensures rely Q next s'

variable {rely : σ → σ → Prop} {Q Q' : α → σ → Prop} {s : σ}

theorem Ensures.mono {a : Activity σ α} (h : Ensures rely Q a s)
    (hQ : ∀ x s', Q x s' → Q' x s') : Ensures rely Q' a s := by
  induction a generalizing s with
  | done x => exact hQ x s h
  | observe next ih => exact ih s h
  | change s' next ih => exact ih h
  | checkpoint next ih => exact fun unwanted => ih unwanted (h unwanted)
  | gate u next ih => exact fun s' hrely => ih (h s' hrely)

/-- An activity that runs to its end ensures what it promised. -/
theorem Ensures.of_finished {a : Activity σ α} {unwanted : Bool} {s' : σ} {x : α}
    (h : Ensures rely Q a s) (hrun : a.run unwanted s = (s', .finished x)) : Q x s' := by
  induction a generalizing s with
  | done x =>
    obtain ⟨rfl, hx⟩ := Prod.mk.inj hrun
    obtain rfl := Reached.finished.inj hx
    exact h
  | observe next ih => exact ih s h hrun
  | change s next ih => exact ih h hrun
  | checkpoint next ih => exact ih unwanted (h unwanted) hrun
  | gate u next ih => cases (Prod.mk.inj hrun).2

/-- An activity that stands at a gate ensures it still, once the gate is opened. -/
theorem Ensures.of_standing {a rest : Activity σ α} {unwanted : Bool} {s' s'' : σ} {u : UnitId}
    (h : Ensures rely Q a s) (hrun : a.run unwanted s = (s', .standing u rest))
    (hrely : rely s' s'') : Ensures rely Q rest s'' := by
  induction a generalizing s with
  | done x => cases (Prod.mk.inj hrun).2
  | observe next ih => exact ih s h hrun
  | change s next ih => exact ih h hrun
  | checkpoint next ih => exact ih unwanted (h unwanted) hrun
  | gate v next ih =>
    obtain ⟨rfl, hrest⟩ := Prod.mk.inj hrun
    obtain ⟨-, rfl⟩ := Reached.standing.inj hrest
    exact h s'' hrely

/-- **How an activity that is begun in a state can end**: checkpoints turn out either way, and others
keep to `rely` while it stands at a gate. -/
inductive Ends (rely : σ → σ → Prop) : Activity σ α → σ → α → σ → Prop
  | done {x : α} {s : σ} : Ends rely (.done x) s x s
  | observe {next : σ → Activity σ α} {s s' : σ} {x : α} (h : Ends rely (next s) s x s') :
      Ends rely (.observe next) s x s'
  | change {next : Activity σ α} {s s₁ s' : σ} {x : α} (h : Ends rely next s₁ x s') :
      Ends rely (.change s₁ next) s x s'
  | checkpoint {next : Bool → Activity σ α} {s s' : σ} {x : α} (unwanted : Bool)
      (h : Ends rely (next unwanted) s x s') : Ends rely (.checkpoint next) s x s'
  | gate {u : UnitId} {next : Activity σ α} {s s₁ s' : σ} {x : α} (hrely : rely s s₁)
      (h : Ends rely next s₁ x s') : Ends rely (.gate u next) s x s'

/-- **Whatever way it ends, an activity ensures what it promised.** -/
theorem Ensures.of_ends {a : Activity σ α} {x : α} {s' : σ} (h : Ensures rely Q a s)
    (hends : Ends rely a s x s') : Q x s' := by
  induction hends with
  | done => exact h
  | observe _ ih => exact ih h
  | change _ ih => exact ih h
  | checkpoint unwanted _ ih => exact ih (h unwanted)
  | gate hrely _ ih => exact ih (h _ hrely)

/-- To be run through, with no one else at work, is one way to end. -/
theorem ends_of_runThrough {a : Activity σ α} {unwanted : Bool} {x : α} {s' : σ}
    (hrely : ∀ s, rely s s) (hrun : a.runThrough unwanted s = (s', x)) : Ends rely a s x s' := by
  induction a generalizing s with
  | done x =>
    obtain ⟨rfl, rfl⟩ := Prod.mk.inj hrun
    exact .done
  | observe next ih => exact .observe (ih s hrun)
  | change s next ih => exact .change (ih hrun)
  | checkpoint next ih => exact .checkpoint unwanted (ih unwanted hrun)
  | gate u next ih => exact .gate (hrely s) (ih hrun)

/-- An activity that is run through, with no one else at work, ensures what it promised. -/
theorem Ensures.of_runThrough {a : Activity σ α} {unwanted : Bool} {s' : σ} {x : α}
    (h : Ensures rely Q a s) (hrely : ∀ s, rely s s) (hrun : a.runThrough unwanted s = (s', x)) :
    Q x s' :=
  h.of_ends (ends_of_runThrough hrely hrun)

/-! ## Layer B: composition -/

/-- One activity after another ensures what the second does from where the first ends. -/
theorem ensures_bind {a : Activity σ α} {f : α → Activity σ β} {Q : β → σ → Prop} :
    Ensures rely Q (a >>= f) s ↔ Ensures rely (fun x s' => Ensures rely Q (f x) s') a s := by
  induction a generalizing s with
  | done x => rfl
  | observe next ih => exact ih s
  | change s' next ih => exact ih
  | checkpoint next ih => exact forall_congr' fun unwanted => ih unwanted
  | gate u next ih => exact forall_congr' fun s' => imp_congr_right fun _ => ih

/-- One activity after another ends where the second does, begun where the first ends. -/
theorem Ends.of_bind {a : Activity σ α} {f : α → Activity σ β} {y : β} {s' : σ}
    (h : Ends rely (a >>= f) s y s') :
    ∃ x s₁, Ends rely a s x s₁ ∧ Ends rely (f x) s₁ y s' := by
  -- the run of both is cut where the first activity is done
  induction a generalizing s with
  | done x => exact ⟨x, s, .done, h⟩
  | observe next ih =>
    cases h with
    | observe h =>
      obtain ⟨x, s₁, hfirst, hsecond⟩ := ih _ h
      exact ⟨x, s₁, .observe hfirst, hsecond⟩
  | change s₀ next ih =>
    cases h with
    | change h =>
      obtain ⟨x, s₁, hfirst, hsecond⟩ := ih h
      exact ⟨x, s₁, .change hfirst, hsecond⟩
  | checkpoint next ih =>
    cases h with
    | checkpoint unwanted h =>
      obtain ⟨x, s₁, hfirst, hsecond⟩ := ih unwanted h
      exact ⟨x, s₁, .checkpoint unwanted hfirst, hsecond⟩
  | gate u next ih =>
    cases h with
    | gate hrely h =>
      obtain ⟨x, s₁, hfirst, hsecond⟩ := ih h
      exact ⟨x, s₁, .gate hrely hfirst, hsecond⟩

theorem ensures_pure {x : α} : Ensures rely Q (pure x) s ↔ Q x s := Iff.rfl

theorem ensures_current {Q : σ → σ → Prop} : Ensures rely Q current s ↔ Q s s := Iff.rfl

theorem ensures_modify {Q : Unit → σ → Prop} {f : σ → σ} :
    Ensures rely Q (modify f) s ↔ Q () (f s) := Iff.rfl

theorem ensures_transform {f : σ → σ × α} :
    Ensures rely Q (transform f) s ↔ Q (f s).2 (f s).1 := Iff.rfl

theorem ensures_isUnwanted {Q : Bool → σ → Prop} :
    Ensures rely Q isUnwanted s ↔ ∀ unwanted, Q unwanted s := Iff.rfl

/-- What holds of all values and states holds in the end. -/
theorem ensures_of_forall (hQ : ∀ x s', Q x s') (a : Activity σ α) : Ensures rely Q a s := by
  induction a generalizing s with
  | done x => exact hQ x s
  | observe next ih => exact ih s
  | change s' next ih => exact ih
  | checkpoint next ih => exact fun unwanted => ih unwanted
  | gate u next ih => exact fun s' _ => ih

/-- **Work on a part of a state** ensures of that part what it ensures by itself, and keeps what
neither changes of the part nor others can break. -/
theorem ensures_within {rely : ρ → ρ → Prop} {rely' : σ → σ → Prop} {get : ρ → σ}
    {set : ρ → σ → ρ} {F : ρ → Prop} {a : Activity σ α} {r : ρ} (hget : ∀ r p, get (set r p) = p)
    (hset : ∀ r p, F r → F (set r p)) (hframe : ∀ r r', rely r r' → F r → F r')
    (hrely : ∀ r r', rely r r' → rely' (get r) (get r')) (hF : F r)
    (h : Ensures rely' Q a (get r)) :
    Ensures rely (fun x r' => Q x (get r') ∧ F r') (within get set a) r := by
  induction a generalizing r with
  | done x => exact ⟨h, hF⟩
  | observe next ih => exact ih (get r) hF h
  | change p next ih =>
    -- the part that was set is the one that is read back
    refine ih (hset r p hF) ?_
    rw [hget]
    exact h
  | checkpoint next ih => exact fun unwanted => ih unwanted hF (h unwanted)
  | gate u next ih =>
    exact fun r' hr => ih (hframe r r' hr hF) (h (get r') (hrely r r' hr))

/-! ## Layer C: work that may fail -/

/-- A condition on the value of work, and one on its fault. -/
def either (Q : α → σ → Prop) (E : BuildFault → σ → Prop) : Except BuildFault α → σ → Prop
  | .ok a, s => Q a s
  | .error fault, s => E fault s

/-- Work goes on with the value of the work before it, or ends with its fault. -/
theorem ensures_work_bind {a : Work σ α} {f : α → Work σ β}
    {Q : Except BuildFault β → σ → Prop} :
    Ensures rely Q (a >>= f).run s ↔
      Ensures rely (either (fun x s' => Ensures rely Q (f x).run s') fun fault => Q (.error fault))
        a.run s := by
  change Ensures rely Q (a.run >>= ExceptT.bindCont f) s ↔ _
  rw [ensures_bind]
  constructor <;> refine fun h => h.mono ?_ <;> rintro (fault | x) s' h' <;> exact h'

/-- Work that goes on after other work ends behind it, or at its fault. -/
theorem Ends.of_work_bind {a : Work σ α} {f : α → Work σ β} {r : Except BuildFault β} {s' : σ}
    (h : Ends rely (a >>= f).run s r s') :
    (∃ x s₁, Ends rely a.run s (.ok x) s₁ ∧ Ends rely (f x).run s₁ r s') ∨
      ∃ fault, Ends rely a.run s (.error fault) s' ∧ r = .error fault := by
  have hbind : Ends rely (a.run >>= ExceptT.bindCont f) s r s' := h
  obtain ⟨x, s₁, hfirst, hsecond⟩ := hbind.of_bind
  cases x with
  | ok x => exact Or.inl ⟨x, s₁, hfirst, hsecond⟩
  | error fault =>
    have hdone : Ends rely (.done (.error fault)) s₁ r s' := hsecond
    cases hdone
    exact Or.inr ⟨fault, hfirst, rfl⟩

theorem ensures_lift {a : Activity σ α} {Q : Except BuildFault α → σ → Prop} :
    Ensures rely Q (liftM a : Work σ α).run s ↔ Ensures rely (fun x => Q (.ok x)) a s := by
  change Ensures rely Q (a >>= fun x => pure (Except.ok x)) s ↔ _
  rw [ensures_bind]
  rfl

/-- Work goes on with the value of the work before it, or ends with its fault. -/
theorem runThrough_work_bind {a : Work σ α} {k : α → Work σ β} {unwanted : Bool}
    {s : σ} : (a >>= k).run.runThrough unwanted s = match a.run.runThrough unwanted s with
      | (s', .ok x) => (k x).run.runThrough unwanted s'
      | (s', .error fault) => (s', .error fault) := by
  change ((a.run >>= ExceptT.bindCont k : Activity σ _)).runThrough unwanted s = _
  generalize a.run = work
  induction work generalizing s with
  | done r => cases r <;> rfl
  | observe next ih => exact ih s
  | change s' next ih => exact ih
  | checkpoint next ih => exact ih unwanted
  | gate v next ih => exact ih

/-- Running work that cannot fail gives its value. -/
theorem runThrough_lift {a : Activity σ α} {unwanted : Bool} :
    (liftM a : Work σ α).run.runThrough unwanted s =
      ((a.runThrough unwanted s).1, .ok (a.runThrough unwanted s).2) := by
  change (a >>= fun x => pure (Except.ok x)).runThrough unwanted s = _
  induction a generalizing s with
  | done x => rfl
  | observe next ih => exact ih s
  | change s' next ih => exact ih
  | checkpoint next ih => exact ih unwanted
  | gate u next ih => exact ih

end Activity

end CodeAtlas
