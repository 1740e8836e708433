import CodeAtlas.Proofs.Build.Promises

/-!
# The journal

What the journal says of a unit: how its last analysis ended, and whether it has been marked since a
build took its ticket. Builds are told apart by their numbers, so a ticket is taken under each
number at most once.
-/

namespace CodeAtlas

namespace JournalEntry

/-- Whether an entry tells how an analysis of a unit ended. -/
def analyses (u : UnitId) : JournalEntry → Bool
  | .indexed _ v => v == u
  | .failed _ v _ _ => v == u
  | _ => false

/-- The build that takes its ticket. -/
def ticket? : JournalEntry → Option Nat
  | .ticket build => some build
  | _ => none

end JournalEntry

/-- The number of a build that has no ticket yet. -/
def Stage.opening? : Stage → Option Nat
  | .begun build _ => some build
  | .reclaimed build _ => some build
  | .prepared build _ _ _ => some build
  | _ => none

namespace BuildSystem

variable {t : BuildTiming} {s s' : BuildSystem} {j : List JournalEntry} {e : JournalEntry}
  {u : UnitId} {build : Nat}

/-! ## Units -/

/-- How the last analysis of a unit ended. -/
def lastAnalysis (j : List JournalEntry) (u : UnitId) : Option JournalEntry :=
  j.find? (·.analyses u)

theorem lastAnalysis_cons_of_not (h : e.analyses u = false) :
    lastAnalysis (e :: j) u = lastAnalysis j u := by
  simp [lastAnalysis, h]

theorem lastAnalysis_cons_of_analyses (h : e.analyses u = true) :
    lastAnalysis (e :: j) u = some e := by
  simp [lastAnalysis, h]

/-- No file has been marked for a unit since a build took its ticket. -/
def TicketSince (build : Nat) (u : UnitId) (j : List JournalEntry) : Prop :=
  ∃ l r, j = l ++ .ticket build :: r ∧ ∀ us, .marked us ∈ l → u ∉ us

theorem ticketSince_cons_ticket : TicketSince build u (.ticket build :: j) :=
  ⟨[], j, rfl, by simp⟩

theorem TicketSince.cons (h : TicketSince build u j) (he : ∀ us, e = .marked us → u ∉ us) :
    TicketSince build u (e :: j) := by
  obtain ⟨l, r, rfl, hmarks⟩ := h
  refine ⟨e :: l, r, rfl, ?_⟩
  intro us hus
  rcases List.mem_cons.1 hus with heq | hus
  · exact he us heq.symm
  · exact hmarks us hus

/-! ## Tickets -/

/-- The builds that have taken their tickets. -/
def tickets (j : List JournalEntry) : List Nat := j.filterMap JournalEntry.ticket?

theorem tickets_cons_of_none (h : e.ticket? = none) : tickets (e :: j) = tickets j :=
  List.filterMap_cons_none h

theorem tickets_cons_ticket : tickets (.ticket build :: j) = build :: tickets j :=
  List.filterMap_cons_some rfl

theorem mem_tickets : build ∈ tickets j ↔ .ticket build ∈ j := by
  simp only [tickets, List.mem_filterMap]
  constructor
  · rintro ⟨e, he, hbuild⟩
    cases e <;> cases hbuild
    exact he
  · intro h
    exact ⟨_, h, rfl⟩

/-- **Every build takes one ticket**, under a number of its own. -/
structure Numbered (s : BuildSystem) : Prop where
  nodup : (tickets s.journal).Nodup
  below : ∀ b ∈ tickets s.journal, b ≤ s.control.builds
  opening : ∀ b, s.stage.opening? = some b → b ≤ s.control.builds ∧ b ∉ tickets s.journal

/-- Steps that take no ticket, and that begin no build but under a new number. -/
theorem Numbered.update (h : s.Numbered) (hjournal : tickets s'.journal = tickets s.journal)
    (hbuilds : s.control.builds ≤ s'.control.builds)
    (hopening : ∀ b, s'.stage.opening? = some b → s.stage.opening? = some b ∨
      s.control.builds < b ∧ b ≤ s'.control.builds) : s'.Numbered where
  nodup := hjournal ▸ h.nodup
  below := by
    intro b hb
    exact (h.below b (hjournal ▸ hb)).trans hbuilds
  opening := by
    intro b hb
    rw [hjournal]
    rcases hopening b hb with hold | ⟨hnew, hle⟩
    · exact ⟨(h.opening b hold).1.trans hbuilds, (h.opening b hold).2⟩
    · exact ⟨hle, fun hmem => absurd (h.below b hmem) (Nat.not_le.2 hnew)⟩

theorem Numbered.asked (h : s.Numbered) (hasked : Asked s s')
    (hjournal : tickets s'.journal = tickets s.journal) : s'.Numbered := by
  rcases hasked.stage with ⟨hstage, hbuilds⟩ | ⟨-, hbuilds, p, hstage⟩
  · refine h.update hjournal hbuilds.ge ?_
    intro b hb
    exact Or.inl (hstage ▸ hb)
  · -- a build that begins has a number above all tickets
    refine h.update hjournal (by omega) ?_
    intro b hb
    simp only [hstage, Stage.opening?, Option.some.injEq] at hb
    exact Or.inr (by omega)

theorem tickets_request (t : BuildTiming) (s : BuildSystem) (p : Priority) :
    tickets (s.request t p).journal = tickets s.journal := by
  cases p with
  | full => rw [request, tickets_cons_of_none rfl, take_journal]
  | normal => rw [request, take_journal]

theorem Numbered.step (hsteady : s.Steady) (h : s.Numbered) (hstep : Step t s s') :
    s'.Numbered := by
  cases hstep with
  | notice | look | unknown | unowned | owned | wait | elapse | mark =>
    exact h.update rfl (Nat.le_refl _) fun b hb => Or.inl hb
  | cancel =>
    rw [Control.cancelQueued_eq]
    exact h.update rfl (Nat.le_refl _) fun b hb => Or.inl hb
  | ask hask =>
    rename_i l r p
    have hn : Numbered { s with editors := l ++ r } :=
      h.update rfl (Nat.le_refl _) fun b hb => Or.inl hb
    exact hn.asked ((hsteady.of_editors (l ++ r)).request t p) (tickets_request ..)
  | request p => exact h.asked (hsteady.request t p) (tickets_request ..)
  | fire hdue =>
    rename_i l r k
    have hn : Numbered { s with due := l ++ r } :=
      h.update rfl (Nat.le_refl _) fun b hb => Or.inl hb
    exact hn.asked ((hsteady.of_due (l ++ r)).fired k) (by rw [take_journal])
  | prepare hs | discover hs | adopt hs =>
    refine h.update rfl (Nat.le_refl _) fun b hb => Or.inl ?_
    rw [hs]
    exact hb
  | refuse hs | enqueue hs | start hs | skip hs | indexed hs | endPass hs =>
    exact h.update rfl (Nat.le_refl _) fun b hb => by simp [Stage.opening?] at hb
  | ticket hs =>
    rename_i b p g targets
    -- the build had no ticket up to now
    obtain ⟨hle, hnew⟩ := h.opening b (by rw [hs]; rfl)
    refine ⟨?_, ?_, fun b' hb' => by simp [Stage.opening?] at hb'⟩
    · rw [tickets_cons_ticket]
      exact List.nodup_cons.2 ⟨hnew, h.nodup⟩
    · intro b' hb'
      rw [tickets_cons_ticket] at hb'
      rcases List.mem_cons.1 hb' with rfl | hb'
      · exact hle
      · exact h.below b' hb'
  | halt hs =>
    refine h.update (by rw [take_journal]; exact tickets_cons_of_none rfl) (Nat.le_refl _) ?_
    intro b hb
    simp [Stage.opening?, take, Control.halt, perform] at hb
  | failed hs fault hfault =>
    obtain ⟨attempts, timers, n, heq, -⟩ := noteFailure_spec hsteady.timers t _ _ fault
    rw [heq]
    exact h.update rfl (Nat.le_refl _) fun b hb => by simp [Stage.opening?] at hb
  | finish hs duration =>
    rename_i summary
    have hfinished := hsteady.finishPass hs summary duration
    rcases hfinished.stage with ⟨hidle, hbuilds⟩ | ⟨hbuilds, p, hbegun⟩
    · refine h.update (by rw [take_journal]) hbuilds.ge ?_
      intro b hb
      simp [hidle, Stage.opening?] at hb
    · refine h.update (by rw [take_journal]) (by omega) ?_
      intro b hb
      simp only [hbegun, Stage.opening?, Option.some.injEq] at hb
      exact Or.inr (by omega)

theorem Reachable.numbered (h : Reachable t s) : s.Numbered := by
  induction h with
  | init => exact ⟨List.nodup_nil, by simp [tickets], by simp [Stage.opening?]⟩
  | step hs hstep ih => exact ih.step hs.steady hstep

end BuildSystem

end CodeAtlas
