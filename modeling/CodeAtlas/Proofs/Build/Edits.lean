import CodeAtlas.Proofs.Build.Accounts

/-!
# No edit is lost

Changes may land at any time: before a build decides which units it covers, between that and its
ticket, while its units wait, while they are worked on, and after it has ended. No step leaves a
unit unaccounted for. So when the queue is at rest, what is clean has been indexed since it last
changed, and what is dirty failed.

## Architecture

- **Layer A**: the beginning of a build;
- **Layer B**: the units of a build;
- **Layer C**: runs, and the queue at rest.
-/

namespace CodeAtlas

namespace BuildSystem

variable {t : BuildTiming} {s s' : BuildSystem} {u : UnitId} {pass : Pass} {active : List UnitId}

/-! ## Layer A: the beginning of a build -/

/-- Files that are marked while a build has its ticket are not what the ticket saw. -/
theorem Ticketed.mark {editors : List Editor} (heditors : editors ≠ [])
    (h : s.Ticketed pass active) (p : Path) (us : List UnitId) :
    Ticketed { s with
      dirty := s.dirty.markFile p us, editors := editors, journal := .marked us :: s.journal }
      pass active := by
  -- versions only grow, and the ticket saw none above those given out by now
  have hunseen : ∀ q (f : DirtyFile), f.version = s.dirty.lastVersion + 1 →
      pass.ticket.files.get? q ≠ some f.version := by
    intro q f hversion hseen
    have := h.versions q f.version hseen
    omega
  refine ⟨h.sound, h.graph, h.order, ?_, ?_, h.units, ?_⟩
  · intro q n hn
    exact Nat.le_succ_of_le (h.versions q n hn)
  · intro q f hf
    exact Or.inr (.editing heditors)
  · intro u hu
    by_cases hmem : u ∈ us
    · obtain ⟨q, f, hf, hpending, hversion⟩ := DirtySet.exists_markFile_of_mem s.dirty p hmem
      exact Or.inr ⟨q, f, hf, hpending, hunseen q f hversion⟩
    · rcases h.marks u hu with hticket | ⟨q, f, hf, hpending, hne⟩
      · left
        refine hticket.cons ?_
        rintro us' heq
        obtain rfl := JournalEntry.marked.inj heq
        exact hmem
      · -- an older mark that the ticket did not see, on this file or on another one
        obtain ⟨f', hf', hpending', heq⟩ :=
          DirtySet.exists_markFile_of_pending p us hf hpending
        refine Or.inr ⟨q, f', hf', hpending', ?_⟩
        rcases heq with rfl | hversion
        · exact hne
        · exact hunseen q f' hversion

/-- **A file is marked.** The thread that marked it has still to ask for a build. -/
theorem Sound.mark {editors : List Editor} (heditors : editors ≠ []) (h : s.Sound t) (p : Path)
    (us : List UnitId) :
    Sound t { s with
      dirty := s.dirty.markFile p us, editors := editors, journal := .marked us :: s.journal } := by
  have hpromised : Promised { s with
      dirty := s.dirty.markFile p us, editors := editors, journal := .marked us :: s.journal } :=
    .editing heditors
  refine ⟨h.dirty.markFile p us, h.graph, ?_, ?_⟩
  · refine h.stage.imp rfl rfl (fun pass active hticketed => hticketed.mark heditors p us) ?_
    intro pass active _ hqueued u hu
    obtain ⟨cancelled, hget, -⟩ := hqueued u hu
    exact ⟨cancelled, hget, fun _ => hpromised⟩
  · intro g hg u hu
    cases hdirty : (s.dirty.markFile p us).isDirty u with
    | true => exact .promised hdirty hpromised
    | false =>
      -- the change does not concern the unit, and so it is still what it was
      have hold := (h.dirty.isDirty_markFile p us u).not.1 (by simp [hdirty])
      obtain ⟨hmem, hclean⟩ := not_or.1 hold
      cases h.accounted g hg u hu with
      | covered hcovers => exact .covered hcovers
      | promised hd _ => exact absurd hd hclean
      | failedLast hd _ => exact absurd hd hclean
      | upToDate _ hdate =>
        obtain ⟨build, hlast, hticket⟩ := hdate
        refine .upToDate hdirty ⟨build, (lastAnalysis_cons_of_not rfl).trans hlast, ?_⟩
        refine hticket.cons ?_
        rintro us' heq
        obtain rfl := JournalEntry.marked.inj heq
        exact hmem

/-- **A normal build covers all that is dirty.** -/
theorem Sound.prepare {build : Nat} {g : UnitGraph} (h : s.Sound t)
    (hstage : s.stage = .begun build .normal) (hg : s.control.graph = some g) :
    Sound t { s with stage := .prepared build .normal g (g.affected s.dirty.pendingUnits) } := by
  have hlinked := (h.graph g hg).toLinked
  obtain ⟨hordered, hknown⟩ :=
    UnitGraph.affected_known hlinked (DirtySet.pendingUnits_ordered s.dirty)
  refine ⟨h.dirty, h.graph, ⟨hg, hordered, hknown⟩, ?_⟩
  intro g' hg' u hu
  obtain rfl : g = g' := Option.some.inj (hg.symm.trans hg')
  cases hdirty : s.dirty.isDirty u with
  | true =>
    -- dirty units are among those that the build is for
    exact .covered (UnitGraph.mem_affected hlinked (h.dirty.mem_pendingUnits.2 hdirty) hu)
  | false =>
    -- others are up to date: what else accounts for a unit needs it to be dirty
    cases h.accounted g hg u hu with
    | covered hcovers => simp [hstage, Stage.Covers] at hcovers
    | promised hd _ => simp [hdirty] at hd
    | failedLast hd _ => simp [hdirty] at hd
    | upToDate _ hdate => exact .upToDate hdirty hdate

theorem sound_graphOf {result : Except BuildFault ProjectModel} {g : UnitGraph}
    (h : graphOf result = .ok g) : g.Sound := by
  unfold graphOf at h
  split at h
  · cases h
  · split at h
    · cases h
    · rename_i hok
      obtain rfl := Except.ok.inj h
      exact UnitGraph.sound_ofModel hok

/-- **A full build covers all units** of the project that it discovers. -/
theorem Sound.discover {build : Nat} {g : UnitGraph} (h : s.Sound t)
    (result : Except BuildFault ProjectModel) (hg : graphOf result = .ok g) :
    Sound t { s with
      dirty := s.dirty.reclaim g
      stage := .reclaimed build g
      journal := .discovery result :: s.journal } :=
  ⟨h.dirty.reclaim g, h.graph, sound_graphOf hg, fun _ _ _ _ => .covered trivial⟩

theorem Sound.adopt {build : Nat} {g : UnitGraph} (h : s.Sound t)
    (hstage : s.stage = .reclaimed build g) :
    Sound t { s with
      control := { s.control with graph := some g }
      stage := .prepared build .full g g.unitIds } := by
  have hg : g.Sound := by
    have := h.stage
    rwa [StageSound, hstage] at this
  refine ⟨h.dirty, ?_, ⟨rfl, hg.toLinked.unitIds_ordered, fun _ => id⟩, ?_⟩
  · rintro g' hg'
    obtain rfl := Option.some.inj hg'
    exact hg
  · rintro g' hg' u hu
    obtain rfl := Option.some.inj hg'
    -- a full build is for all units of the new graph
    exact .covered hu

/-- **A build takes its ticket.** -/
theorem Sound.ticket {build : Nat} {p : Priority} {g : UnitGraph} {targets : KeySet UnitId}
    (h : s.Sound t) (hstage : s.stage = .prepared build p g targets) :
    Sound t { s with
      stage := .ticketed (Pass.new build p g targets s.dirty.ticket)
      journal := .ticket build :: s.journal } := by
  obtain ⟨hgraph, hordered, hknown⟩ :
      s.control.graph = some g ∧ targets.Ordered ∧ ∀ u ∈ targets.toList, u ∈ g.unitIds.toList := by
    have := h.stage
    rwa [StageSound, hstage] at this
  have hg := h.graph g hgraph
  obtain ⟨hpass, hremaining⟩ := Pass.sound_new hg hordered hknown build p s.dirty.ticket
  have horder := hg.topoOrder_perm hordered hknown
  refine ⟨h.dirty, h.graph, ⟨⟨targets, hpass⟩, hgraph, ⟨?_, ?_⟩, ?_, ?_, ?_, ?_⟩, ?_⟩
  · exact horder.nodup_iff.2 hordered.nodup
  · intro u hu
    exact horder.mem_iff.2 (hremaining.mem_iff.1 hu)
  -- nothing has been marked since the ticket was taken
  · intro q n hn
    change s.dirty.ticket.files.get? q = some n at hn
    rw [DirtySet.get?_ticket] at hn
    obtain ⟨f, hf, rfl⟩ := Option.map_eq_some_iff.1 hn
    exact h.dirty.versions q f hf
  · intro q f hf
    left
    change s.dirty.ticket.files.get? q = some f.version
    rw [DirtySet.get?_ticket, hf]
    rfl
  · intro u hu
    rfl
  · intro u hu
    exact Or.inl ticketSince_cons_ticket
  · intro g' hg' u hu
    refine (h.accounted g' hg' u hu).advance ?_ rfl ?_ (lastAnalysis_cons_of_not rfl) ?_ Or.inl
    · rw [hstage]
      exact hremaining.mem_iff.2
    · exact fun hp => hp.update rfl rfl (by simp [hstage])
    · exact fun build' hticket => hticket.cons (by simp)

/-- **The units of a build are queued.** They are cancelled only if another build follows. -/
theorem Sound.enqueue (hsteady : s.Steady) (h : s.Sound t) (hstage : s.stage = .ticketed pass) :
    Sound t { s with
      control := s.control.queueUnits pass.priority pass.order
      stage := .going pass [] } := by
  have hticketed : s.Ticketed pass [] := by
    have := h.stage
    rwa [StageSound, hstage] at this
  have hpromised : s.Promised → Promised { s with
      control := s.control.queueUnits pass.priority pass.order, stage := .going pass [] } :=
    fun hp => hp.update rfl rfl (by simp [hstage])
  refine ⟨h.dirty, h.graph, ⟨⟨hticketed.sound, hticketed.graph, hticketed.order,
    hticketed.versions, ?_, hticketed.units, hticketed.marks⟩, ?_⟩, ?_⟩
  · intro p f hf
    exact (hticketed.files p f hf).imp_right hpromised
  · intro u hu
    refine ⟨_, (Table.get?_ofList ?_ u _).2 (List.mem_map.2 ⟨u, hticketed.order.2 u hu, rfl⟩), ?_⟩
    · simpa [Function.comp_def] using hticketed.order.1
    · -- units are cancelled from the start only if a full build is pending
      intro hpreempted
      refine hpromised (.pending ?_)
      simp only [hsteady.shutdown, Bool.or_false, Bool.and_eq_true, beq_iff_eq] at hpreempted
      simp [hpreempted.2]
  · intro g hg u hu
    refine (h.accounted g hg u hu).advance ?_ rfl hpromised rfl (fun _ => id) Or.inl
    rw [hstage]
    exact id

/-! ## Layer B: the units of a build -/

theorem Sound.going (h : s.Sound t) (hstage : s.stage = .going pass active) :
    s.Ticketed pass active ∧ s.Queued pass := by
  have := h.stage
  rwa [StageSound, hstage] at this

/-- A build goes on. -/
theorem Ticketed.advance (h : s.Ticketed pass active) {next : Pass} {active' : List UnitId}
    (hsound : ∃ targets, next.Sound targets active') (hnext : pass.Continues next)
    (hremaining : ∀ u ∈ next.remaining active', u ∈ pass.remaining active)
    (hgraph : s'.control.graph = s.control.graph)
    (hdirty : DirtySet.Advances pass.ticket (next.remaining active') s.dirty s'.dirty)
    (hpromised : s.Promised → s'.Promised)
    (htickets : ∀ u, TicketSince pass.build u s.journal → TicketSince pass.build u s'.journal) :
    s'.Ticketed next active' where
  sound := hsound
  graph := by rw [hgraph, h.graph, hnext.graph]
  order := by
    rw [hnext.order]
    exact ⟨h.order.1, fun u hu => h.order.2 u (hremaining u hu)⟩
  versions := by
    rw [hnext.ticket]
    exact fun p n hn => (h.versions p n hn).trans hdirty.version
  files := by
    rw [hnext.ticket]
    intro p f' hf'
    obtain ⟨f, hf, hversion⟩ := hdirty.files p f' hf'
    rw [← hversion]
    exact (h.files p f hf).imp_right hpromised
  units := by
    rw [hnext.ticket]
    exact fun u hu => (hdirty.units u hu).trans (h.units u (hremaining u hu))
  marks := by
    rw [hnext.ticket, hnext.build]
    -- a mark that had no ticket yet is behind an edit, which is still pending
    intro u hu
    rcases h.marks u (hremaining u hu) with hticket | ⟨p, f, hf, hpending, hne⟩
    · exact Or.inl (htickets u hticket)
    · exact Or.inr ⟨p, f, hdirty.unseen p f hf hne, hpending, hne⟩

theorem Queued.advance (h : s.Queued pass) {next : Pass}
    (hqueued : ∀ u ∈ next.remaining [], u ∈ pass.remaining [] ∧
      s'.control.queued.get? u = s.control.queued.get? u)
    (hpromised : s.Promised → s'.Promised) : s'.Queued next := by
  intro u hu
  obtain ⟨hmem, hget⟩ := hqueued u hu
  obtain ⟨cancelled, hc, hwhy⟩ := h u hmem
  exact ⟨cancelled, hget.trans hc, fun hcancelled => hpromised (hwhy hcancelled)⟩

theorem get?_dequeue_of_ne {v : UnitId} (c : Control) (h : v ≠ u) :
    (c.dequeue u).queued.get? v = c.queued.get? v :=
  Table.get?_erase_of_ne h _

/-- **A unit is started.** -/
theorem Sound.start (h : s.Sound t) (hstage : s.stage = .going pass active) {next : Pass}
    (hnext : pass.next? = some (u, next)) :
    Sound t { s with control := s.control.dequeue u, stage := .going next (u :: active) } := by
  obtain ⟨hticketed, hqueued⟩ := h.going hstage
  obtain ⟨targets, hpass⟩ := hticketed.sound
  have hperm := Pass.perm_start hnext hpass.ready_ordered active
  have hpromised : s.Promised → Promised { s with
      control := s.control.dequeue u, stage := .going next (u :: active) } :=
    fun hp => hp.update rfl rfl (by simp [hstage])
  refine ⟨h.dirty, h.graph, ⟨?_, ?_⟩, ?_⟩
  · exact hticketed.advance ⟨targets, hpass.start hnext⟩ (Pass.continues_next hnext)
      (fun v => hperm.mem_iff.1) rfl (.refl ..) hpromised (fun _ => id)
  · refine hqueued.advance ?_ hpromised
    intro v hv
    -- the started unit leaves the queue, and no other has its name
    obtain ⟨hmem, hne⟩ := hpass.unstarted_of_next hnext hv
    exact ⟨hmem, get?_dequeue_of_ne _ hne⟩
  · intro g hg v hv
    refine (h.accounted g hg v hv).advance ?_ rfl hpromised rfl (fun _ => id) Or.inl
    rw [hstage]
    exact hperm.mem_iff.2

/-- A unit that may not start was cancelled, and so another build is to come. -/
theorem Sound.promised_of_skip (h : s.Sound t) (hstage : s.stage = .going pass active)
    {next : Pass} (hnext : pass.next? = some (u, next))
    (hmay : ¬ (s.control.mayStart u = true ∧ (pass.graph.unit? u).isSome = true)) :
    s.Promised := by
  obtain ⟨hticketed, hqueued⟩ := h.going hstage
  obtain ⟨targets, hpass⟩ := hticketed.sound
  have hmem := Pass.mem_unstarted_of_next hnext hpass.ready_ordered
  -- the project knows the unit, so it can only have been cancelled
  obtain ⟨unit, hunit⟩ := hpass.graph.toLinked.unit?_isSome (hpass.known_of_unstarted hmem)
  obtain ⟨cancelled, hget, hwhy⟩ := hqueued u hmem
  refine hwhy ?_
  cases cancelled with
  | true => rfl
  | false => exact absurd ⟨by simp [Control.mayStart, hget], by simp [hunit]⟩ hmay

/-- **A unit is skipped** with all that wait for it, and marked for the build that is to come. -/
theorem Sound.skip (h : s.Sound t) (hstage : s.stage = .going pass active) {next : Pass}
    (hnext : pass.next? = some (u, next))
    (hmay : ¬ (s.control.mayStart u = true ∧ (pass.graph.unit? u).isSome = true)) :
    Sound t { s with
      control := s.control.dequeue u
      dirty := (next.skip u).1.foldl DirtySet.markUnit s.dirty
      stage := .going (next.skip u).2.count active } := by
  obtain ⟨hticketed, hqueued⟩ := h.going hstage
  obtain ⟨targets, hpass⟩ := hticketed.sound
  obtain ⟨hskip, hperm⟩ := hpass.skip hnext
  have hcount : (next.skip u).2.count.remaining = (next.skip u).2.remaining := rfl
  have hpromised : Promised { s with
      control := s.control.dequeue u
      dirty := (next.skip u).1.foldl DirtySet.markUnit s.dirty
      stage := .going (next.skip u).2.count active } :=
    (h.promised_of_skip hstage hnext hmay).update rfl rfl (by simp [hstage])
  -- no unit is in two places, so the skipped ones are not among those that remain
  have hnodup : ((next.skip u).1 ++ (next.skip u).2.remaining active).Nodup := by
    refine hperm.nodup_iff.2 ?_
    exact (List.nodup_append.1 hpass.nodup).1
  have hleft : ∀ v ∈ (next.skip u).2.remaining active, v ∉ (next.skip u).1 :=
    fun v hv hv' => (List.nodup_append.1 hnodup).2.2 v hv' v hv rfl
  refine ⟨h.dirty.markUnits _, h.graph, ⟨?_, ?_⟩, ?_⟩
  · have hcontinues := Pass.continues_next hnext
    refine hticketed.advance ⟨targets, hskip.count⟩ ⟨hcontinues.build, hcontinues.graph,
      hcontinues.ticket, hcontinues.order⟩ ?_ rfl ?_ (fun _ => hpromised) (fun _ => id)
    · intro v hv
      exact hperm.mem_iff.1 (List.mem_append_right _ hv)
    · exact DirtySet.advances_markUnits hleft pass.ticket s.dirty
  · refine hqueued.advance ?_ fun _ => hpromised
    intro v hv
    rw [hcount] at hv
    obtain ⟨hmem, hne⟩ := hpass.unstarted_of_skip hnext hv
    exact ⟨hmem, get?_dequeue_of_ne _ hne⟩
  · intro g hg v hv
    have hdirty := h.dirty.isDirty_markUnits (next.skip u).1 v
    by_cases hskipped : v ∈ (next.skip u).1
    · exact .promised (hdirty.2 (Or.inl hskipped)) hpromised
    · refine (h.accounted g hg v hv).advance ?_ ?_ (fun _ => hpromised) rfl (fun _ => id) Or.inl
      · rw [hstage]
        intro hcovers
        rcases List.mem_append.1 (hperm.mem_iff.2 hcovers) with hmem | hmem
        · exact absurd hmem hskipped
        · exact hmem
      · rw [Bool.eq_iff_iff, hdirty]
        simp [hskipped]

/-- **A unit ends.** Nothing changes for the others, and what becomes of it is up to the caller. -/
theorem Sound.ends {l r : List UnitId} {next : Pass} {e : JournalEntry} (h : s.Sound t)
    (hstage : s.stage = .going pass (l ++ u :: r))
    (hpass : ∃ targets, next.Sound targets (l ++ r)) (hcontinues : pass.Continues next)
    (hperm : (u :: next.remaining (l ++ r)).Perm (pass.remaining (l ++ u :: r)))
    (hstage' : s'.stage = .going next (l ++ r))
    (hcontrol : s'.control = { s.control with attempts := s'.control.attempts })
    (hpromised : s.Promised → s'.Promised)
    (hdirty : s'.dirty.Sound)
    (hothers : ∀ v, v ≠ u → (s'.dirty.isDirty v = true ↔ s.dirty.isDirty v = true))
    (hadvances : DirtySet.Advances pass.ticket (next.remaining (l ++ r)) s.dirty s'.dirty)
    (hjournal : s'.journal = e :: s.journal) (he : ∀ v, v ≠ u → e.analyses v = false)
    (hmarks : ∀ us, e ≠ .marked us) (hretry : s.RetryToCome → s'.RetryToCome)
    (hself : s'.Accounted t u) : s'.Sound t := by
  obtain ⟨hticketed, hqueued⟩ := h.going hstage
  have hgraph : s'.control.graph = s.control.graph := by rw [hcontrol]
  have htickets : ∀ build v, TicketSince build v s.journal → TicketSince build v s'.journal := by
    intro build v hticket
    rw [hjournal]
    exact hticket.cons fun us heq => absurd heq (hmarks us)
  refine ⟨hdirty, hgraph ▸ h.graph, ?_, ?_⟩
  · unfold StageSound
    rw [hstage']
    refine ⟨hticketed.advance hpass hcontinues
      (fun v hv => hperm.mem_iff.1 (List.mem_cons_of_mem _ hv)) hgraph hadvances hpromised
      (htickets _), hqueued.advance ?_ hpromised⟩
    intro v hv
    exact ⟨(Pass.unstarted_perm_of_end hperm).mem_iff.1 hv, by rw [hcontrol]⟩
  · rw [hgraph]
    intro g hg v hv
    -- the unit that ends is accounted for by the caller; the others are where they were
    by_cases hvu : v = u
    · exact hvu ▸ hself
    · refine (h.accounted g hg v hv).advance ?_ ?_ hpromised ?_ (htickets · v)
        (fun hr => Or.inl (hretry hr))
      · rw [hstage, hstage']
        intro hcovers
        rcases List.mem_cons.1 (hperm.mem_iff.2 hcovers) with heq | hcovers
        · exact absurd heq hvu
        · exact hcovers
      · rw [Bool.eq_iff_iff, hothers v hvu]
      · rw [hjournal]
        exact lastAnalysis_cons_of_not (he v hvu)

/-- What a unit that ends leaves behind in the dirty set. -/
theorem Ticketed.isDirty_complete (h : s.Ticketed pass active) (hdirty : s.dirty.Sound)
    (hu : u ∈ pass.remaining active) :
    (s.dirty.complete u pass.ticket).isDirty u = true ∧ s.Promised ∨
      (s.dirty.complete u pass.ticket).isDirty u = false ∧ TicketSince pass.build u s.journal := by
  have hself := hdirty.isDirty_complete_self u pass.ticket
  cases hd : (s.dirty.complete u pass.ticket).isDirty u with
  | true =>
    -- the marks of units are as the ticket saw them, so a file must have changed since
    left
    refine ⟨rfl, ?_⟩
    rcases hself.1 hd with ⟨n, hn, hne⟩ | ⟨p, f, hf, -, hne⟩
    · rw [h.units u hu] at hn
      exact absurd hn hne
    · exact (h.files p f hf).resolve_left hne
  | false =>
    right
    refine ⟨rfl, (h.marks u hu).resolve_right ?_⟩
    intro hunseen
    have hstill := hself.2 (Or.inr hunseen)
    simp [hd] at hstill

/-- **A unit is indexed.** It is clean afterwards unless it was marked since the ticket. -/
theorem Sound.indexed {l r : List UnitId} (h : s.Sound t)
    (hstage : s.stage = .going pass (l ++ u :: r)) :
    Sound t { s with
      control := s.control.forgetFailures u
      dirty := s.dirty.complete u pass.ticket
      stage := .going (pass.count.noteIndexed u) (l ++ r)
      journal := .indexed pass.build u :: s.journal } := by
  obtain ⟨hticketed, -⟩ := h.going hstage
  obtain ⟨targets, hpass⟩ := hticketed.sound
  obtain ⟨hnext, hperm⟩ := hpass.count.noteIndexed
  have hpromised : s.Promised → Promised { s with
      control := s.control.forgetFailures u
      dirty := s.dirty.complete u pass.ticket
      stage := .going (pass.count.noteIndexed u) (l ++ r)
      journal := .indexed pass.build u :: s.journal } :=
    fun hp => hp.update rfl rfl (by simp [hstage])
  have hmem : u ∈ pass.remaining (l ++ u :: r) := hperm.mem_iff.1 (List.mem_cons_self ..)
  have hgone := hpass.count.not_mem_of_end hperm
  refine h.ends hstage ⟨targets, hnext⟩ (pass.continues_noteIndexed u) hperm rfl rfl hpromised
    (h.dirty.complete u pass.ticket) (fun v hv => h.dirty.isDirty_complete_of_ne hv)
    (h.dirty.advances_complete hgone pass.ticket) rfl ?_ (by simp) id ?_
  · intro v hv
    simp [JournalEntry.analyses, Ne.symm hv]
  · -- a mark behind the ticket stays, and another build is to come; without one the unit is clean
    rcases hticketed.isDirty_complete h.dirty hmem with ⟨hd, hp⟩ | ⟨hd, hticket⟩
    · exact .promised hd (hpromised hp)
    · refine .upToDate hd ⟨pass.build, ?_, hticket.cons (by simp)⟩
      exact lastAnalysis_cons_of_analyses (by simp [JournalEntry.analyses])

/-- **A unit fails.** It stays dirty, and is tried again if that may help. -/
theorem Sound.failed {l r : List UnitId} (hsteady : s.Steady) (h : s.Sound t)
    (hstage : s.stage = .going pass (l ++ u :: r)) (fault : BuildFault) :
    Sound t { s.noteFailure t pass u fault with
      stage := .going (pass.count.noteFailed u) (l ++ r) } := by
  obtain ⟨hticketed, -⟩ := h.going hstage
  obtain ⟨targets, hpass⟩ := hticketed.sound
  obtain ⟨hnext, hperm⟩ := hpass.count.noteFailed
  obtain ⟨attempts, timers, n, heq, -, hwaits, hwhy⟩ :=
    noteFailure_spec hsteady.timers t pass u fault
  have hgone := hpass.count.not_mem_of_end hperm
  have hcompleted := h.dirty.complete u pass.ticket
  rw [heq]
  -- its mark is taken away and set again, so only this unit differs
  refine h.ends hstage ⟨targets, hnext⟩ (pass.continues_noteFailed u) hperm rfl rfl
    (fun hp => hp.update rfl rfl (by simp [hstage])) (hcompleted.markUnit u) ?_ ?_ rfl ?_ (by simp)
    ?_ ?_
  · intro v hv
    rw [hcompleted.isDirty_markUnit, h.dirty.isDirty_complete_of_ne hv]
    simp [hv]
  · exact (h.dirty.advances_complete hgone pass.ticket).trans (DirtySet.advances_markUnit hgone _ _)
  · intro v hv
    simp [JournalEntry.analyses, Ne.symm hv]
  · exact Or.imp_left hwaits
  · refine .failedLast ?_ ⟨pass.build, fault, n, ?_, ?_⟩
    · exact (hcompleted.isDirty_markUnit u u).2 (Or.inl rfl)
    · exact lastAnalysis_cons_of_analyses (by simp [JournalEntry.analyses])
    · exact hwhy.imp_right (Or.imp_right Or.inl)

/-- **A build has no unit left.** None waits for one that was never reached. -/
theorem Sound.endPass (h : s.Sound t) (hstage : s.stage = .going pass [])
    (hnext : pass.next? = none) :
    Sound t { s with
      dirty := pass.skipRest.1.foldl DirtySet.markUnit s.dirty
      stage := .ended (some pass.skipRest.2.summary) } := by
  obtain ⟨⟨⟨targets, hpass⟩, -⟩, -⟩ := h.going hstage
  -- every unit that waits has a dependency ahead of it, and there is none
  have hready := Pass.next?_eq_none hnext
  have hwaiting := hpass.waiting_nil hready
  have hrest : pass.skipRest.1 = [] := hwaiting
  rw [hrest]
  refine ⟨h.dirty, h.graph, trivial, ?_⟩
  intro g hg u hu
  refine (h.accounted g hg u hu).advance ?_ rfl ?_ rfl (fun _ => id) Or.inl
  · intro hcovers
    simp [hstage, Stage.Covers, Pass.remaining, hready, hwaiting] at hcovers
  · exact fun hp => hp.update rfl rfl (by simp [hstage])

/-! ## Layer C: runs -/

theorem Sound.step (hsteady : s.Steady) (h : s.Sound t) (hstep : Step t s s') : s'.Sound t := by
  cases hstep with
  | notice | look | unknown | unowned | owned => exact h.quiet (quiet_editors (by simp))
  | mark hmark => exact h.mark (by simp) _ _
  | cancel hcancel => exact h.quiet (quiet_cancelQueued (by simp) _)
  | ask hask =>
    -- the last of the threads may be gone, but its request has promised a build
    rename_i l r p
    have hrest := hsteady.of_editors (l ++ r)
    have hpromised := (hrest.request t p).promised
    exact h.quiet { quiet_request hrest t p with
      promised := fun _ => hpromised, retry := fun _ => Or.inr hpromised }
  | request p => exact h.quiet (quiet_request hsteady t p)
  | wait now => exact h.quiet (quiet_wait now)
  | elapse ha => exact h.quiet (quiet_elapse hsteady.timers ha)
  | fire hdue =>
    -- an attempt that was to come is spent on the promise of a build
    rename_i l r k
    have hrest := hsteady.of_due (l ++ r)
    have hpromised := (hrest.fired k).promised
    exact h.quiet { quiet_fired hrest k with
      promised := fun _ => hpromised, retry := fun _ => Or.inr hpromised }
  | prepare hs hg => exact h.prepare hs hg
  | discover hs hp result hg => exact h.discover result hg
  | adopt hs => exact h.adopt hs
  | refuse hs hp result hg hfault => exact h.quiet (quiet_refuse hs result _)
  | halt hs => exact h.quiet (quiet_halt hs)
  | ticket hs => exact h.ticket hs
  | enqueue hs => exact h.enqueue hsteady hs
  | start hs hnext hmay hunit => exact h.start hs hnext
  | skip hs hnext hmay => exact h.skip hs hnext hmay
  | indexed hs => exact h.indexed hs
  | failed hs fault hfault => exact h.failed hsteady hs fault
  | endPass hs hnext => exact h.endPass hs hnext
  | finish hs duration => exact h.quiet (quiet_finish hsteady hs duration)

theorem Reachable.sound (h : Reachable t s) : s.Sound t := by
  induction h with
  | init => exact sound_init
  | step hs hstep ih => exact ih.step hs.steady hstep

/-- In the journal of a run, a ticket is the only one of its build. -/
theorem Reachable.ticket_unique (h : Reachable t s) {build : Nat} {l r : List JournalEntry}
    (hjournal : s.journal = l ++ .ticket build :: r) :
    .ticket build ∉ l ∧ .ticket build ∉ r := by
  have hnodup := h.numbered.nodup
  have hsplit : tickets s.journal = tickets l ++ build :: tickets r := by
    rw [hjournal, tickets, List.filterMap_append]
    exact congrArg _ tickets_cons_ticket
  rw [hsplit] at hnodup
  obtain ⟨-, hcons, hdisjoint⟩ := List.nodup_append.1 hnodup
  constructor
  · intro hl
    exact hdisjoint build (mem_tickets.2 hl) build (List.mem_cons_self ..) rfl
  · intro hr
    exact (List.nodup_cons.1 hcons).1 (mem_tickets.2 hr)

/-- **No edit is lost.** When the queue is idle, normal builds are not halted and no changed file is
being taken note of, every clean unit of the project was last indexed by a build whose ticket is
younger than the last mark of the unit. Every dirty unit failed last, and either the fault does not
pass by itself, or the unit has used up its attempts, or it will be tried again. -/
theorem no_edit_is_lost {g : UnitGraph} (h : Reachable t s) (hidle : s.control.phase = .idle)
    (hhalted : s.control.halted = none) (heditors : s.editors = [])
    (hg : s.control.graph = some g) (hu : u ∈ g.unitIds.toList) :
    (s.dirty.isDirty u = false → ∃ build l r,
      lastAnalysis s.journal u = some (.indexed build u) ∧
        s.journal = l ++ .ticket build :: r ∧ .ticket build ∉ l ∧ .ticket build ∉ r ∧
        ∀ us, .marked us ∈ l → u ∉ us) ∧
    (s.dirty.isDirty u = true → ∃ build fault attempts,
      lastAnalysis s.journal u = some (.failed build u fault attempts) ∧
        (fault.isTransient = false ∨ t.maxRetries < attempts ∨ s.RetryToCome)) := by
  have hpromised := h.steady.not_promised hidle hhalted heditors
  have hstage : s.stage = .idle := by
    refine h.steady.stage_eq_idle ?_
    simp [(h.steady.idle hidle).1]
  -- a queue at rest covers no unit and promises no build, so only the other two ways are left
  cases h.sound.accounted g hg u hu with
  | covered hcovers => simp [hstage, Stage.Covers] at hcovers
  | promised _ hp => exact absurd hp hpromised
  | upToDate hclean hdate =>
    refine ⟨fun _ => ?_, fun hdirty => by simp [hclean] at hdirty⟩
    obtain ⟨build, hlast, l, r, hjournal, hmarks⟩ := hdate
    obtain ⟨hl, hr⟩ := h.ticket_unique hjournal
    exact ⟨build, l, r, hlast, hjournal, hl, hr, hmarks⟩
  | failedLast hdirty hfailed =>
    exact ⟨fun hclean => by simp [hdirty] at hclean, fun _ => hfailed⟩

/-- The one unit of a small project. -/
def soloUnit : UnitId := ⟨"core", "core", .lib⟩

/-- Its source. -/
def soloSource : Path := ⟨"/w/core/src/lib.rs"⟩

/-- The project. -/
def soloModel : ProjectModel :=
  { root := ⟨"/w"⟩, units := [.new soloUnit soloSource], manifests := [], buildScriptFiles := [] }

/-- A file changes while its unit is worked on, and the unit is indexed anew by a second build; and
a unit that crashed in its first build is tried again. -/
theorem solo_edit_is_not_lost :
    (∃ s build l r, Reachable {} s ∧ s.control.phase = .idle ∧ s.control.halted = none ∧
      s.editors = [] ∧ s.control.graph = some (UnitGraph.assemble soloModel) ∧
      soloUnit ∈ (UnitGraph.assemble soloModel).unitIds.toList ∧
      .marked [soloUnit] ∈ s.journal ∧ s.dirty.isDirty soloUnit = false ∧
      lastAnalysis s.journal soloUnit = some (.indexed build soloUnit) ∧
      s.journal = l ++ .ticket build :: r ∧ .ticket build ∉ l ∧ .ticket build ∉ r ∧
      ∀ us, .marked us ∈ l → soloUnit ∉ us) ∧
    ∃ s build fault attempts, Reachable {} s ∧ s.control.phase = .idle ∧ s.control.halted = none ∧
      s.editors = [] ∧ s.dirty.isDirty soloUnit = true ∧
      lastAnalysis s.journal soloUnit = some (.failed build soloUnit fault attempts) ∧
      (fault.isTransient = false ∨ 6 < attempts ∨ s.RetryToCome) := by
  have hgraph : graphOf (.ok soloModel) = .ok (UnitGraph.assemble soloModel) := by decide +kernel
  have hconcerned : (UnitGraph.assemble soloModel).concerned [] soloSource = some ⟨[soloUnit]⟩ := by
    decide +kernel
  have hmem : soloUnit ∈ (UnitGraph.assemble soloModel).unitIds.toList := by decide +kernel
  -- the first build discovers the project and starts its unit
  have hbegun := Reachable.step (t := {}) .init (.request _ .full)
  have hdiscovered := hbegun.step (.discover rfl (Or.inl rfl) (.ok soloModel) hgraph)
  have hprepared := hdiscovered.step (.adopt rfl)
  have hticketed := hprepared.step (.ticket rfl)
  have hqueued := hticketed.step (.enqueue rfl)
  have hworking := hqueued.step
    (.start (u := soloUnit) rfl rfl (by decide +kernel) (by decide +kernel))
  constructor
  · -- its source changes
    have hnoticed := hworking.step (.notice _ soloSource)
    have hlooked := hnoticed.step (.look (l := []) (r := []) rfl)
    have howned := hlooked.step (.owned (l := []) (r := []) rfl [] hconcerned)
    have hmarked := howned.step (.mark (l := []) (r := []) rfl)
    have hcancelled := hmarked.step (.cancel (l := []) (r := []) rfl)
    have hasked := hcancelled.step (.ask (l := []) (r := []) rfl)
    -- the build ends, and the next one follows when the timer runs out
    have hindexed := hasked.step (.indexed (l := []) (r := []) rfl)
    have hfinished := (hindexed.step (.endPass rfl rfl)).step (.finish rfl 0)
    have helapsed := hfinished.step (.elapse (List.Mem.head _))
    have hagain := (helapsed.step (.fire (l := []) (r := []) rfl)).step (.prepare rfl rfl)
    have hqueued' := (hagain.step (.ticket rfl)).step (.enqueue rfl)
    have hworking' := hqueued'.step (.start rfl rfl (by decide +kernel) (by decide +kernel))
    have hindexed' := hworking'.step (.indexed (l := []) (r := []) rfl)
    have hend := (hindexed'.step (.endPass rfl rfl)).step (.finish rfl 0)
    obtain ⟨build, l, r, hlost⟩ := (no_edit_is_lost hend rfl rfl rfl rfl hmem).1 (by decide +kernel)
    refine ⟨_, build, l, r, hend, rfl, rfl, rfl, rfl, hmem, ?_, by decide +kernel, hlost⟩
    exact .tail _ (.tail _ (.tail _ (.head _)))
  · have hfailed := hworking.step
      (.failed (l := []) (r := []) rfl (.crash soloUnit .timedOut) (by simp))
    have hend := (hfailed.step (.endPass rfl rfl)).step (.finish rfl 0)
    obtain ⟨build, fault, attempts, hlost⟩ :=
      (no_edit_is_lost hend rfl rfl rfl rfl hmem).2 (by decide +kernel)
    exact ⟨_, build, fault, attempts, hend, rfl, rfl, rfl, by decide +kernel, hlost⟩

end BuildSystem

end CodeAtlas
