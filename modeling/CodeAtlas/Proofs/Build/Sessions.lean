import CodeAtlas.Proofs.Build.Current
import CodeAtlas.Proofs.Build.Dependencies
import CodeAtlas.Proofs.Overlay.Basic

/-!
# Planning sessions

Plans are asked for, dropped and kept while files are edited, inputs are learned and settings
change. Here is what a whole session comes to. Planning ends for every unit, since chains of
dependencies are no longer than there are units. And the plans at hand never show: if every file
that has changed was passed on before the next plan is asked for, that plan is the one that would be
made without any plans at hand, or fails for the same reason.

## Architecture

- **Layer A**: planning ends, whatever is at hand;
- **Layer B**: what an edit changes;
- **Layer C**: sessions.
-/

namespace CodeAtlas

open Fingerprint (textField)

namespace PlanCache

variable {h : Hash} {read : SourceReader} {g : UnitGraph} {m : ProjectModel} {c : PlanCache}
  {u : CompilationUnit}

/-! ## Layer A: planning ends, whatever is at hand -/

/-- Plans one dependency, after those before it, and gathers the fields that stand for it. -/
def gather (h : Hash) (read : SourceReader) (g : UnitGraph) (n : Nat)
    (acc : PlanCache × Option (List Bytes)) (d : UnitId) : PlanCache × Option (List Bytes) :=
  match g.unit? d with
  | none => (acc.1, acc.2.map (· ++ [textField d.cacheKey, textField "unknown"]))
  | some dep =>
    ((planWithin h read g n acc.1 dep).1, do
      let fields ← acc.2
      let r ← (planWithin h read g n acc.1 dep).2
      pure (fields ++ textField d.cacheKey :: dependencyFields r))

theorem planWithin_succ (h : Hash) (read : SourceReader) (g : UnitGraph) (n : Nat) (c : PlanCache)
    (u : CompilationUnit) :
    planWithin h read g (n + 1) c u =
      match u.deps.foldl (gather h read g n) (c, some []) with
      | (c, none) => (c, none)
      | (c, some fields) =>
        ((planKnowing h read g.root c u (.ofFields h fields)).1,
          some (planKnowing h read g.root c u (.ofFields h fields)).2) := rfl

/-- Fields that are gathered alike along all long chains are the same in the end. -/
private theorem foldl_settles
    {F : Nat → PlanCache × Option (List Bytes) → UnitId → PlanCache × Option (List Bytes)}
    {n : Nat} {ds : List UnitId}
    (hF : ∀ d ∈ ds, ∀ c fields, ∃ c' fields',
      ∀ k, n ≤ k → F k (c, some fields) d = (c', some fields'))
    (c : PlanCache) (fields : List Bytes) :
    ∃ c' fields', ∀ k, n ≤ k → ds.foldl (F k) (c, some fields) = (c', some fields') := by
  induction ds generalizing c fields with
  | nil => exact ⟨c, fields, fun _ _ => rfl⟩
  | cons d rest ih =>
    obtain ⟨c₁, fields₁, hd⟩ := hF d List.mem_cons_self c fields
    obtain ⟨c', fields', hrest⟩ := ih (fun e he => hF e (List.mem_cons_of_mem _ he)) c₁ fields₁
    refine ⟨c', fields', fun k hk => ?_⟩
    rw [List.foldl_cons, hd k hk, hrest k hk]

/-- Planning comes to an answer along chains that are longer than the rank of the unit, and to the
same one along all longer chains. -/
theorem planWithin_of_rank (hg : UnitGraph.ofModel m = .ok g) (h : Hash) (read : SourceReader)
    {rank : UnitId → Nat} (hrank : ∀ u d, d ∈ g.depsWithin u g.unitIds → rank d < rank u)
    {n : Nat} (hu : g.unit? u.id = some u) (hn : rank u.id < n) (c : PlanCache) :
    ∃ c' r, ∀ k, n ≤ k → planWithin h read g k c u = (c', some r) := by
  induction n generalizing u c with
  | zero => omega
  | succ n ih =>
    have hgather : ∀ d ∈ u.deps, ∀ c fields, ∃ c' fields',
        ∀ k, n ≤ k → gather h read g k (c, some fields) d = (c', some fields') := by
      intro d hd c fields
      cases hget : g.unit? d with
      | none => exact ⟨c, _, fun k _ => by simp only [gather, hget]; rfl⟩
      | some dep =>
        -- the dependency ranks lower, so one step less is enough for it
        have hid := UnitGraph.id_of_unit? hg hget
        have hlinked := (UnitGraph.sound_ofModel hg).toLinked
        have hdeps : d ∈ g.depsOf u.id := by simpa [UnitGraph.depsOf, hu] using hd
        have hknown : d ∈ g.unitIds.toList :=
          hlinked.contains_iff.1 (Option.isSome_iff_exists.2 ⟨dep, hget⟩)
        have hlt := hrank u.id d (UnitGraph.mem_depsWithin.2 ⟨hdeps, hknown⟩)
        obtain ⟨c', r, hplan⟩ := ih (u := dep) (by rw [hid, hget]) (by rw [hid]; omega) c
        exact ⟨c', _, fun k hk => by simp only [gather, hget, hplan k hk]; rfl⟩
    obtain ⟨c', fields, hfold⟩ := foldl_settles hgather c []
    refine ⟨(planKnowing h read g.root c' u (.ofFields h fields)).1,
      (planKnowing h read g.root c' u (.ofFields h fields)).2, fun k hk => ?_⟩
    obtain ⟨k, rfl⟩ : ∃ k', k = k' + 1 := ⟨k - 1, by omega⟩
    rw [planWithin_succ, hfold k (by omega)]

/-- **Planning ends** for every unit of an accepted graph, whatever plans are at hand: a chain of
dependencies is no longer than there are units, so following longer ones changes nothing. -/
theorem planFor_ends_within (hg : UnitGraph.ofModel m = .ok g) (h : Hash) (read : SourceReader)
    (c : PlanCache) (hu : g.unit? u.id = some u) {n : Nat} (hn : planDepth g ≤ n) :
    planWithin h read g n c u = ((planFor h read g c u).1, some (planFor h read g c u).2) := by
  have hsound := UnitGraph.sound_ofModel hg
  obtain ⟨rank, hrank, hbound⟩ := hsound.exists_rank_lt
  have hknown : u.id ∈ g.unitIds.toList :=
    hsound.contains_iff.1 (Option.isSome_iff_exists.2 ⟨u, hu⟩)
  have hdepth : rank u.id < planDepth g := by
    have := hbound u.id hknown
    simp only [planDepth]
    omega
  obtain ⟨c', r, hplan⟩ := planWithin_of_rank hg h read hrank hu hdepth c
  rw [hplan n hn, planFor, hplan _ (Nat.le_refl _)]

/-- Current plans give what is given without any plans at hand. -/
theorem Current.planFor_eq_planFor_empty (hg : UnitGraph.ofModel m = .ok g)
    (hc : c.Current h read g) (hu : g.unit? u.id = some u) :
    (PlanCache.planFor h read g c u).2 =
      (PlanCache.planFor h read g { c with entries := Table.empty } u).2 := by
  have hground : SameGround c { c with entries := Table.empty } := ⟨rfl, rfl⟩
  have hempty : ({ c with entries := Table.empty } : PlanCache).Current h read g :=
    current_of_empty rfl (tidy_of_empty rfl hc.learned hc.normal)
  -- both come to what is planned from the settings and from what was learned, without any plans
  apply Option.some.inj
  calc some (PlanCache.planFor h read g c u).2
      = (PlanCache.planWithin h read g (planDepth g) c u).2 := by
        rw [planFor_ends_within hg h read c hu (Nat.le_refl _)]
    _ = PlanCache.planned h read g c (planDepth g) u := (hc.planWithin hg _ hu).1
    _ = PlanCache.planned h read g { c with entries := Table.empty } (planDepth g) u :=
        (hground.planned h read _ u).symm
    _ = (PlanCache.planWithin h read g (planDepth g) { c with entries := Table.empty } u).2 :=
        (hempty.planWithin hg _ hu).1.symm
    _ = some (PlanCache.planFor h read g { c with entries := Table.empty } u).2 := by
        rw [planFor_ends_within hg h read _ hu (Nat.le_refl _)]

end PlanCache

/-! ## Layer B: what an edit changes -/

namespace Overlay

variable {o : Overlay} {base : FileSource} {call : Call} {q : Path}

/-- A file reads the same under all spellings. -/
theorem read_normalize (o : Overlay) (base : FileSource) (p : Path) :
    o.read base p.normalize = o.read base p := by
  simp only [read, buffer?, Path.normalize_normalize]

/-- The file that a call changes, if it changes what is read. -/
def changedBy (base : FileSource) (o : Overlay) (call : Call) : List Path :=
  match call.path? with
  | none => []
  | some p =>
    if (o.perform base call).1.read base p = o.read base p then [] else [p.normalize]

/-- All other files read the same after a call. -/
theorem read_perform (hq : q.normalize = q) (hunchanged : q ∉ changedBy base o call) :
    (o.perform base call).1.read base q = o.read base q := by
  by_cases hother : ∀ p, call.path? = some p → q.normalize ≠ p.normalize
  · exact read_congr (buffer?_perform_of_ne base hother) rfl
  · simp only [not_forall, not_not] at hother
    obtain ⟨p, hp, hqp⟩ := hother
    rw [hq] at hqp
    subst hqp
    rw [read_normalize, read_normalize]
    by_contra hne
    rw [changedBy, hp] at hunchanged
    simp [hne] at hunchanged

end Overlay

/-! ## Layer C: sessions -/

/-- **The state of a session**: plans, open buffers, and the files that have changed since they were
passed on. -/
structure PlanSession where
  plans : PlanCache
  overlay : Overlay
  stale : List Path

/-- **What is done in a session**: calls on `PlanCache`, and edits of buffers. -/
inductive PlanCall where
  | plan (u : CompilationUnit)
  | invalidate (r : PlanCache.Invalidation)
  | learn (u : UnitId) (paths : List Path)
  | configure (s : BuildSettings)
  | reset
  | edit (call : Overlay.Call)
  deriving Repr, DecidableEq

namespace PlanSession

variable {h : Hash} {base : FileSource} {g : UnitGraph} {m : ProjectModel} {s : PlanSession}
  {u : CompilationUnit}

/-- A session that begins without plans. -/
def start (settings : BuildSettings) (o : Overlay) : PlanSession := ⟨.new settings, o, []⟩

/-- How sources are read. -/
def read (base : FileSource) (s : PlanSession) : SourceReader := s.overlay.read base

/-- **One call.** -/
def perform (h : Hash) (base : FileSource) (g : UnitGraph) (s : PlanSession) :
    PlanCall → PlanSession
  | .plan u => { s with plans := (s.plans.planFor h (s.read base) g u).1 }
  | .invalidate r => { s with plans := s.plans.invalidate r, stale := r.settled s.stale }
  | .learn u paths => { s with plans := (s.plans.learnInputs u paths).1 }
  | .configure settings => { s with plans := (s.plans.setSettings settings).1 }
  | .reset => { s with plans := s.plans.reset }
  | .edit call =>
    { s with
      overlay := (s.overlay.perform base call).1
      stale := Overlay.changedBy base s.overlay call ++ s.stale }

/-- All calls of a session. -/
def performAll (h : Hash) (base : FileSource) (g : UnitGraph) (s : PlanSession)
    (calls : List PlanCall) : PlanSession :=
  calls.foldl (perform h base g) s

/-- Plans are asked for units of the graph, once all files that have changed were passed on. -/
def allows (g : UnitGraph) (s : PlanSession) : PlanCall → Bool
  | .plan u => g.unit? u.id == some u && s.stale.isEmpty
  | _ => true

/-- Whether every call of a session is allowed when it comes. -/
def allowsAll (h : Hash) (base : FileSource) (g : UnitGraph) : PlanSession → List PlanCall → Bool
  | _, [] => true
  | s, call :: rest => s.allows g call && allowsAll h base g (s.perform h base g call) rest

/-- **One call keeps plans from lagging further** than the stale files account for. -/
theorem lagging_perform (hg : UnitGraph.ofModel m = .ok g)
    (hs : s.plans.Lagging h (s.read base) g s.stale) {call : PlanCall}
    (hallowed : s.allows g call = true) :
    (s.perform h base g call).plans.Lagging h ((s.perform h base g call).read base) g
      (s.perform h base g call).stale := by
  cases call with
  | plan u =>
    simp only [allows, Bool.and_eq_true, beq_iff_eq, List.isEmpty_iff] at hallowed
    obtain ⟨hu, hstale⟩ := hallowed
    rw [hstale] at hs
    exact (hs.current.planFor hg hu).1.lagging
  | invalidate r => exact hs.invalidate r
  | learn v paths => exact hs.learnInputs v paths
  | configure settings => exact hs.setSettings settings
  | reset => exact hs.reset
  | edit call =>
    refine hs.of_kept hs.toTidy rfl fun u p hu hp => ⟨hp, rfl, fun q hq hstale => ?_⟩
    -- an input that reads otherwise now was touched by the edit
    rcases hstale with hstale | hne
    · exact List.mem_append_right _ hstale
    · refine List.mem_append_left _ (by_contra fun hunchanged => hne ?_)
      exact Overlay.read_perform (hs.normalize_of_mem_inputsOf hq) hunchanged

theorem lagging_performAll (hg : UnitGraph.ofModel m = .ok g)
    (hs : s.plans.Lagging h (s.read base) g s.stale) {calls : List PlanCall}
    (hallowed : s.allowsAll h base g calls = true) :
    (s.performAll h base g calls).plans.Lagging h ((s.performAll h base g calls).read base) g
      (s.performAll h base g calls).stale := by
  induction calls generalizing s with
  | nil => exact hs
  | cons call rest ih =>
    obtain ⟨hcall, hrest⟩ := Bool.and_eq_true_iff.1 hallowed
    exact ih (lagging_perform hg hs hcall) hrest

/-- **The plans at hand never show.** Whatever was planned, dropped, learned, configured and edited
before: planning ends for every unit, however long the chains are that it may follow; and once all
files that have changed were passed on, it comes to what it would come to without any plans at
hand, be it a plan or a fault. -/
theorem plans_never_show (hg : UnitGraph.ofModel m = .ok g) (h : Hash) (base : FileSource)
    (settings : BuildSettings) (o : Overlay) (calls : List PlanCall)
    (hallowed : (start settings o).allowsAll h base g calls = true) (hu : g.unit? u.id = some u) :
    let s := (start settings o).performAll h base g calls
    let planning := s.plans.planFor h (s.read base) g u
    (∀ n, PlanCache.planDepth g ≤ n →
      s.plans.planWithin h (s.read base) g n u = (planning.1, some planning.2)) ∧
    (s.stale = [] → planning.2 =
      (({ s.plans with entries := Table.empty } : PlanCache).planFor h (s.read base) g u).2) := by
  intro s planning
  refine ⟨fun n hn => s.plans.planFor_ends_within hg h (s.read base) hu hn, fun hstale => ?_⟩
  have hlagging : s.plans.Lagging h (s.read base) g s.stale :=
    lagging_performAll hg (PlanCache.current_of_empty rfl (PlanCache.tidy_new settings)).lagging
      hallowed
  rw [hstale] at hlagging
  exact hlagging.current.planFor_eq_planFor_empty hg hu

open Situation (libraryWith modelOf programOnLibrary writtenOut)

/-- A program on a library. -/
def smallGraph : UnitGraph := UnitGraph.assemble (modelOf [libraryWith [], programOnLibrary])

/-- A source in which every file holds its own name. -/
def selfNamed : FileSource := ⟨fun p => .ok p.text, fun _ => true⟩

/-- The program is planned; then the library is edited and found to read another file, and the edit
is passed on under another spelling. -/
def libraryEdited : List PlanCall :=
  [.plan programOnLibrary, .edit (.write ⟨"/./core.rs"⟩ "pub fn run() \x7b\x7d"),
    .learn (.lib "core") [⟨"/x/../core.txt"⟩], .invalidate (.inputs [⟨"//core.rs"⟩])]

/-- The plan of the program that is at hand after the library was edited is out of date, and yet the
program is planned as it would be without any plans at hand. -/
theorem libraryEdited_planned_anew :
    let s := (start {} .fresh).performAll writtenOut selfNamed smallGraph libraryEdited
    let planning := s.plans.planFor writtenOut (s.read selfNamed) smallGraph programOnLibrary
    UnitGraph.ofModel (modelOf [libraryWith [], programOnLibrary]) = .ok smallGraph ∧
      (start {} .fresh).allowsAll writtenOut selfNamed smallGraph libraryEdited = true ∧
      smallGraph.unit? (.lib "app") = some programOnLibrary ∧ s.stale = [] ∧
      (∃ p, s.plans.get? (.lib "app") = some p ∧ planning.2 ≠ .ok p) ∧
      planning.2 = (({ s.plans with entries := Table.empty } : PlanCache).planFor writtenOut
        (s.read selfNamed) smallGraph programOnLibrary).2 := by
  intro s planning
  have hg : UnitGraph.ofModel (modelOf [libraryWith [], programOnLibrary]) = .ok smallGraph := by
    decide +kernel
  have hallowed :
      (start {} .fresh).allowsAll writtenOut selfNamed smallGraph libraryEdited = true := by
    decide +kernel
  have hu : smallGraph.unit? (.lib "app") = some programOnLibrary := by decide +kernel
  have hstale : s.stale = [] := by decide +kernel
  have hkept : (s.plans.get? (.lib "app")).isSome = true := by decide +kernel
  have hold : (s.plans.get? (.lib "app")).map (·.depsFingerprint) ≠
      planning.2.toOption.map (·.depsFingerprint) := by decide +kernel
  -- the plan at hand has the fingerprint that the library had before
  obtain ⟨-, hanew⟩ := plans_never_show (u := programOnLibrary) hg writtenOut selfNamed {} .fresh
    libraryEdited hallowed hu
  obtain ⟨p, hp⟩ := Option.isSome_iff_exists.1 hkept
  refine ⟨hg, hallowed, hu, hstale, ⟨p, hp, fun hsame => hold ?_⟩, hanew hstale⟩
  rw [hp, hsame]
  rfl

end PlanSession

end CodeAtlas
