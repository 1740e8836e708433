import CodeAtlas.Proofs.Build.Artifacts
import CodeAtlas.Proofs.Build.Dependencies
import CodeAtlas.Proofs.Build.Reuse
import CodeAtlas.Proofs.Cache.Slots

/-!
# Whose snapshots the store serves

Units outside the workspace are analyzed one after the other, by whatever plans, and share one store.
A snapshot that is served was printed for a unit with the same key, under the same fingerprint. The
key is made of names that are joined by slashes, so that is the same unit unless one of the two has a
slash in its package and the other has one in its target. Such units share key and fingerprint if
nothing but their names tells them apart.

## Architecture

- **Layer A**: units that keys do not tell apart;
- **Layer B**: entries of other keys;
- **Layer C**: what an analysis by a command takes from the store and adds to it;
- **Layer D**: sessions of many analyses.
-/

namespace CodeAtlas

open Activity

/-! ## Layer A: keys -/

namespace UnitId

variable {u v : UnitId}

/-- **Units that keys do not tell apart**: package and target, joined by a slash, are the same text,
and they are of one kind. -/
def SpeltAlike (u v : UnitId) : Prop :=
  u.package ++ "/" ++ u.target = v.package ++ "/" ++ v.target ∧ u.kind = v.kind

instance (u v : UnitId) : Decidable (u.SpeltAlike v) := inferInstanceAs (Decidable (_ ∧ _))

theorem cacheKey_eq (u : UnitId) :
    u.cacheKey = u.package ++ "/" ++ u.target ++ "/" ++ u.kind.name := rfl

/-- **The kind is read off the end of a key**, since no kind is written with a slash. -/
theorem cacheKey_eq_iff : u.cacheKey = v.cacheKey ↔ u.SpeltAlike v := by
  rw [cacheKey_eq, cacheKey_eq]
  constructor
  · intro h
    have hlists : (u.package ++ "/" ++ u.target).toList ++ '/' :: u.kind.name.toList =
        (v.package ++ "/" ++ v.target).toList ++ '/' :: v.kind.name.toList := by
      simpa using congrArg String.toList h
    have hone : ∀ k : UnitKind, k.name.toList.splitOn '/' = [k.name.toList] := by
      intro k
      cases k <;> exact List.splitOn_eq_singleton (by decide)
    have hsplits := congrArg (List.splitOn '/') hlists
    rw [List.splitOn_append_cons_self, List.splitOn_append_cons_self, hone, hone] at hsplits
    -- a kind is one piece between slashes, so it is the last piece on both sides
    have hkind := List.singleton_inj.1 (List.append_inj_right' hsplits rfl)
    rw [hkind, List.append_cancel_right_eq] at hlists
    exact ⟨String.toList_inj.1 hlists, UnitKind.name_injective (String.toList_inj.1 hkind)⟩
  · rintro ⟨hnames, hkind⟩
    rw [hnames, hkind]

/-- **Different units that are spelt alike** have a slash in the package of one and in the target of
the other. -/
theorem SpeltAlike.slashes (h : u.SpeltAlike v) (hne : u ≠ v) :
    '/' ∈ u.package.toList ∧ '/' ∈ v.target.toList ∨
      '/' ∈ v.package.toList ∧ '/' ∈ u.target.toList := by
  obtain ⟨hnames, hkind⟩ := h
  have hlists : u.package.toList ++ '/' :: u.target.toList =
      v.package.toList ++ '/' :: v.target.toList := by
    simpa using congrArg String.toList hnames
  refine (eq_or_mem_of_append_cons_eq hlists).resolve_left ?_
  rintro ⟨hpackage, htarget⟩
  obtain ⟨package, target, kind⟩ := u
  obtain rfl := String.toList_inj.1 hpackage
  obtain rfl := String.toList_inj.1 htarget
  obtain rfl : kind = v.kind := hkind
  exact hne rfl

end UnitId

/-! ## Layer B: entries of other keys -/

namespace SnapshotStore

variable {h : Hash} {f : Folder} {key asked : String} {fp : Fingerprint} {e : StoredSnapshot}

/-- **Storing under one key brings nothing to another**, even if both have their entries at one
place: an entry tells its key. -/
theorem holds_of_holds_store_under {savedAt : UInt64} {s : Snapshot}
    (he : Holds h (store h f asked fp savedAt s).1 key e) :
    Holds h f key e ∨ key = asked ∧ e.fingerprint = fp ∧ e.snapshot = s := by
  by_cases hkey : key = asked
  · subst hkey
    exact (holds_of_holds_store he).imp_right fun hnew => ⟨rfl, hnew⟩
  · -- another key may still have its entry at the same place, if the hash confuses the two
    refine Or.inl (he.of_files fun c hc => ?_)
    rw [← storeAmid_none] at he hc
    have hlock := (lockName_ne_entryName h key).symm
    rcases get?_storeAmid h f asked fp savedAt s none with ⟨-, hsame⟩ | ⟨-, hnew, hsame⟩
    · exact (hsame _ hlock).symm.trans hc
    · by_cases hname : entryName h key = entryName h asked
      · -- the entry there tells the key under which it was stored
        obtain ⟨c', hc', hsize, hdecode, hof⟩ := he
        rw [hname, hnew] at hc'
        obtain rfl := Entry.file.inj (Option.some.inj hc')
        rw [eq_of_decodeAll?_encode hsize hdecode, isOf_iff] at hof
        exact absurd (congrArg StoredSnapshot.key hof).symm hkey
      · exact (hsame _ hname hlock).symm.trans hc

end SnapshotStore

namespace Disk

variable {h : Hash} {d d' d'' : Disk} {root : Path} {key asked : String} {fp : Fingerprint}
  {e : StoredSnapshot}

/-- **No entry is added** to what a disk holds, under any key. -/
def AddsNoEntry (h : Hash) (d d' : Disk) : Prop := ∀ key e, d'.Holds h key e → d.Holds h key e

theorem AddsNoEntry.refl (h : Hash) (d : Disk) : AddsNoEntry h d d := fun _ _ he => he

theorem AddsNoEntry.trans (hd : AddsNoEntry h d d') (hd' : AddsNoEntry h d' d'') :
    AddsNoEntry h d d'' := fun key e he => hd key e (hd' key e he)

theorem addsNoEntry_loadSnapshot : AddsNoEntry h d (d.loadSnapshot h root asked fp).1 :=
  fun _ _ he => holds_of_holds_loadSnapshot he

/-- **Storing under one key brings nothing to another.** -/
theorem holds_of_holds_storeSnapshot_under {savedAt : UInt64} {s : Snapshot}
    (he : (d.storeSnapshot h root asked fp savedAt s).1.Holds h key e) :
    d.Holds h key e ∨ key = asked ∧ e.fingerprint = fp ∧ e.snapshot = s :=
  holds_of_storeSnapshot (fun _ => SnapshotStore.holds_of_holds_store_under) he

/-- What was just stored is found. -/
theorem Firm.loadSnapshot_storeSnapshot {place : Place} (hd : d.Firm root place) {savedAt : UInt64}
    {s : Snapshot} (hstored : (d.storeSnapshot h root key fp savedAt s).2 = .ok ())
    (hsize : (StoredSnapshot.codec.encode (.new key fp savedAt s)).length ≤
      SnapshotStore.sizeLimit) :
    ((d.storeSnapshot h root key fp savedAt s).1.loadSnapshot h root key fp).2 = some s := by
  rw [← storeAmid_none] at hstored ⊢
  rcases hd.under?_storeAmid h key fp savedAt s none with ⟨⟨fault, hfault⟩, -⟩ | ⟨-, hslot, -⟩
  · rw [hfault] at hstored
    cases hstored
  · rw [loadSnapshot_eq_some_iff]
    exact ⟨_, savedAt, hslot, by simpa [Content.size] using hsize, by simp [Content.toBytes]⟩

end Disk

/-! ## Layer C: one analysis -/

/-- **Others add nothing to the store.** They may change all else. -/
def Workplace.AddsNoEntry {τ : Type} (h : Hash) (w w' : Workplace τ) : Prop :=
  w.disk.AddsNoEntry h w'.disk

/-- **Commands add nothing to the store**, whatever else they do, and whatever others do meanwhile
that adds nothing either. -/
def Collaborators.LeavesStore {τ : Type} (h : Hash) (t : Collaborators τ) : Prop :=
  ∀ c w, Ensures (Workplace.AddsNoEntry h) (fun _ w' => w.AddsNoEntry h w') (t.run c) w

namespace Analysis

variable {τ : Type} {st : Storage} {t : Collaborators τ} {u : CompilationUnit} {p : Plan}
  {w w' : Workplace τ} {key : String} {fp : Fingerprint}

theorem make_of_member_eq_false (hmember : u.member = false) :
    make st t u p = outOfProcess st t u p := by
  unfold make
  rw [hmember]
  rfl

/-- **What an analysis by a command takes from the store and adds to it**
(`invoke_out_of_process`). -/
inductive Files (h : Hash) (key : String) (fp : Fingerprint) (w : Workplace τ) (u : UnitId) :
    Except BuildFault Analysis → Workplace τ → Prop
  /-- It is served an entry that is held under the unit's own key, and adds nothing. -/
  | served {e : StoredSnapshot} {w' : Workplace τ} (hheld : w.disk.Holds h key e)
      (hfp : e.fingerprint = fp) (hkept : w.AddsNoEntry h w') :
      Files h key fp w u (.ok (.of u e.snapshot .cache)) w'
  /-- It fails and adds nothing. -/
  | failed {w' : Workplace τ} (fault : BuildFault) (hkept : w.AddsNoEntry h w') :
      Files h key fp w u (.error fault) w'
  /-- A command printed a snapshot, and that is all that may be added, under the unit's own key. -/
  | printed {s : Snapshot} {w' : Workplace τ} (hnew : ∀ other e, w'.disk.Holds h other e →
      w.disk.Holds h other e ∨ other = key ∧ e.fingerprint = fp ∧ e.snapshot = s) :
      Files h key fp w u (.ok (.of u s .outOfProcess)) w'

theorem ensures_stored? (st : Storage) (u : UnitId) (fp : Fingerprint) (w : Workplace τ) :
    Ensures (Workplace.AddsNoEntry st.hash) (fun found w' => w.AddsNoEntry st.hash w' ∧
      ∀ s, found = some s → ∃ e, w.disk.Holds st.hash u.cacheKey e ∧ e.fingerprint = fp ∧
        e.snapshot = s) (stored? st u fp) w := by
  unfold stored?
  cases st.folder with
  | none => exact ⟨.refl _ _, nofun⟩
  | some root =>
    rw [ensures_transform]
    exact ⟨Disk.addsNoEntry_loadSnapshot, fun _ => Disk.holds_of_loadSnapshot⟩

theorem ensures_keep (st : Storage) (u : UnitId) (fp : Fingerprint) (s : Snapshot)
    (w : Workplace τ) :
    Ensures (Workplace.AddsNoEntry st.hash) (fun _ w' => ∀ other e, w'.disk.Holds st.hash other e →
      w.disk.Holds st.hash other e ∨ other = u.cacheKey ∧ e.fingerprint = fp ∧ e.snapshot = s)
      (keep st u fp s) w := by
  unfold keep
  cases st.folder with
  | none => exact fun _ _ => Or.inl
  | some root =>
    rw [ensures_modify]
    exact fun _ _ => Disk.holds_of_holds_storeSnapshot_under

/-- **What every analysis by a command takes and adds.** -/
theorem ensures_files (ht : t.LeavesStore st.hash) (hmember : u.member = false) (p : Plan)
    (w : Workplace τ) :
    Ensures (Workplace.AddsNoEntry st.hash)
      (Files st.hash u.id.cacheKey (p.storeFingerprint st.hash) w u.id) (make st t u p).run w := by
  rw [make_of_member_eq_false hmember]
  unfold outOfProcess
  rw [ensures_work_bind, ensures_lift]
  refine (ensures_stored? st u.id (p.storeFingerprint st.hash) w).mono ?_
  rintro (_ | s) w₁ ⟨hasked, hfound⟩
  · simp only [either]
    rw [ensures_work_bind, ensures_lift]
    refine (ht p.invocation.command w₁).mono ?_
    rintro (fault | o) w₂ hran
    · exact .failed _ (hasked.trans hran)
    · simp only [either]
      rw [ensures_work_bind]
      cases ofOutput u.id o with
      | error fault => exact .failed fault (hasked.trans hran)
      | ok s =>
        -- the snapshot is kept, and the analysis is made of it
        change Ensures _ _ ((liftM (keep st u.id (p.storeFingerprint st.hash) s) :
          Work (Workplace τ) Unit) >>= fun _ => pure (of u.id s .outOfProcess)).run w₂
        rw [ensures_work_bind, ensures_lift]
        refine (ensures_keep st u.id (p.storeFingerprint st.hash) s w₂).mono ?_
        intro _ w₃ hnew
        refine .printed fun other e he => ?_
        exact (hnew other e he).imp_left fun he => (hasked.trans hran) other e he
  · obtain ⟨e, hheld, hfp, rfl⟩ := hfound s rfl
    exact .served hheld hfp hasked

variable {root : Path} {s : Snapshot} {unwanted : Bool}

theorem runThrough_stored? (hfolder : st.folder = some root) (v : UnitId) (fp : Fingerprint) :
    (stored? st v fp).runThrough unwanted w =
      ({ w with disk := (w.disk.loadSnapshot st.hash root v.cacheKey fp).1 },
        (w.disk.loadSnapshot st.hash root v.cacheKey fp).2) := by
  unfold stored?
  rw [hfolder]
  rfl

/-- A unit whose snapshot is found in the store is served that snapshot. -/
theorem runThrough_of_found (hfolder : st.folder = some root) (hmember : u.member = false)
    (hfound : (w.disk.loadSnapshot st.hash root u.id.cacheKey (p.storeFingerprint st.hash)).2 =
      some s) :
    (make st t u p).run.runThrough unwanted w =
      ({ w with disk := (w.disk.loadSnapshot st.hash root u.id.cacheKey
        (p.storeFingerprint st.hash)).1 }, .ok (.of u.id s .cache)) := by
  rw [make_of_member_eq_false hmember]
  unfold outOfProcess
  rw [runThrough_work_bind, runThrough_lift, runThrough_stored? hfolder, hfound]
  rfl

/-- A unit that is not found in the store gets what its command prints, which is stored. -/
theorem runThrough_of_printed (hfolder : st.folder = some root) (hmember : u.member = false)
    (hnone : (w.disk.loadSnapshot st.hash root u.id.cacheKey (p.storeFingerprint st.hash)).2 =
      none) {o : CommandOutput} (hrun : t.run p.invocation.command = pure (.ok o))
    (hprinted : ofOutput u.id o = .ok s) :
    (make st t u p).run.runThrough unwanted w =
      ({ w with disk := ((w.disk.loadSnapshot st.hash root u.id.cacheKey
        (p.storeFingerprint st.hash)).1.storeSnapshot st.hash root u.id.cacheKey
          (p.storeFingerprint st.hash) 0 s).1 }, .ok (.of u.id s .outOfProcess)) := by
  rw [make_of_member_eq_false hmember]
  unfold outOfProcess
  rw [runThrough_work_bind, runThrough_lift, runThrough_stored? hfolder, hnone]
  simp only [hrun, keep, hfolder]
  -- the command ran, and what is left is to read what it printed
  change ((liftM (ofOutput u.id o) : Work (Workplace τ) Snapshot) >>= _).run.runThrough unwanted _ =
    _
  rw [hprinted]
  rfl

/-! ## Layer D: sessions -/

/-- **An attempt at an analysis**: the plan it was made by, and what came of it. -/
structure Attempt where
  plan : Plan
  result : Except BuildFault Analysis

/-- **A session**: units outside the workspace are analyzed (`invoke`) one after the other. The list
holds the attempts, the latest first. -/
inductive Session (st : Storage) (t : Collaborators τ) (start : Workplace τ) :
    List Attempt → Workplace τ → Prop
  | start : Session st t start [] start
  /-- Others do what adds nothing to the store: sources change, plans are made and dropped. -/
  | meanwhile {log : List Attempt} {w w' : Workplace τ} (hs : Session st t start log w)
      (hw : w.AddsNoEntry st.hash w') : Session st t start log w'
  /-- A unit is analyzed by any plan, and it may be cancelled on the way. -/
  | analyze {log : List Attempt} {w w' : Workplace τ} {r : Except BuildFault Analysis}
      (u : CompilationUnit) (p : Plan) (hs : Session st t start log w) (hmember : u.member = false)
      (hends : Ends (Workplace.AddsNoEntry st.hash) (make st t u p).run w r w') :
      Session st t start (⟨p, r⟩ :: log) w'

/-- An attempt printed a snapshot that is filed under a key and a fingerprint. -/
def Attempt.Printed (h : Hash) (x : Attempt) (key : String) (fp : Fingerprint) (s : Snapshot) :
    Prop :=
  ∃ a, x.result = .ok a ∧ a.source = .outOfProcess ∧ a.unit.cacheKey = key ∧
    x.plan.storeFingerprint h = fp ∧ a.snapshot = s

variable {start : Workplace τ} {log : List Attempt}

/-- **All that the store holds in a session was printed in it**, if it held nothing at the start. -/
theorem Session.held (ht : t.LeavesStore st.hash)
    (hempty : ∀ key e, ¬ start.disk.Holds st.hash key e) (hs : Session st t start log w) :
    ∀ key e, w.disk.Holds st.hash key e →
      ∃ x ∈ log, x.Printed st.hash key e.fingerprint e.snapshot := by
  induction hs with
  | start => exact fun key e he => absurd he (hempty key e)
  | meanwhile _ hw ih => exact fun key e he => ih key e (hw key e he)
  | @analyze log w w' r u p _ hmember hends ih =>
    intro key e he
    -- an entry from before was printed before
    have hbefore : w.disk.Holds st.hash key e →
        ∃ x ∈ (⟨p, r⟩ : Attempt) :: log, x.Printed st.hash key e.fingerprint e.snapshot := by
      intro he
      obtain ⟨x, hx, hprinted⟩ := ih key e he
      exact ⟨x, List.mem_cons_of_mem _ hx, hprinted⟩
    cases (ensures_files ht hmember p w).of_ends hends with
    | served _ _ hkept => exact hbefore (hkept key e he)
    | failed _ hkept => exact hbefore (hkept key e he)
    | printed hnew =>
      rcases hnew key e he with he | ⟨hkey, hfp, hsnapshot⟩
      · exact hbefore he
      · exact ⟨_, List.mem_cons_self, _, rfl, rfl, hkey.symm, hfp.symm, hsnapshot.symm⟩

/-- **What is served in a session was printed earlier in it**, under the same key and fingerprint. -/
theorem Session.printed_before (ht : t.LeavesStore st.hash)
    (hempty : ∀ key e, ¬ start.disk.Holds st.hash key e) (hs : Session st t start log w)
    {x : Attempt} {earlier : List Attempt} {a : Analysis} (hsuffix : x :: earlier <:+ log)
    (hx : x.result = .ok a) (hcache : a.source = .cache) :
    ∃ y ∈ earlier, y.Printed st.hash a.unit.cacheKey (x.plan.storeFingerprint st.hash)
      a.snapshot := by
  induction hs with
  | start => cases List.suffix_nil.1 hsuffix
  | meanwhile _ _ ih => exact ih hsuffix
  | @analyze log w w' r u p hs hmember hends ih =>
    rcases List.suffix_cons_iff.1 hsuffix with hnow | hsuffix
    · -- the attempt in question is the last one, and all that was held before it was printed
      obtain ⟨rfl, rfl⟩ := List.cons.inj hnow
      obtain rfl : r = .ok a := hx
      cases (ensures_files ht hmember p w).of_ends hends with
      | @served e _ hheld hfp _ => exact hfp ▸ hs.held ht hempty _ e hheld
      | printed => cases hcache
    · exact ih hsuffix

/-- **The store keeps units apart as far as their names go.** Commands add nothing to the store, and
it holds nothing at first. Then each snapshot that is served for a unit in a session was printed
earlier, under the same fingerprint, for a unit that is spelt alike; and an analysis adds nothing for
units that are not spelt like its own. Only such units have plans with the same key and fingerprint,
and different ones have a slash in the package of one and in the target of the other. Nothing is asked
of the hash, since an entry tells its key. -/
theorem snapshots_are_kept_apart (ht : t.LeavesStore st.hash)
    (hempty : ∀ key e, ¬ start.disk.Holds st.hash key e) (hs : Session st t start log w) :
    (∀ x earlier a, x :: earlier <:+ log → x.result = .ok a → a.source = .cache →
      ∃ y ∈ earlier, ∃ b, y.result = .ok b ∧ b.source = .outOfProcess ∧
        b.snapshot = a.snapshot ∧
        y.plan.storeFingerprint st.hash = x.plan.storeFingerprint st.hash ∧
        b.unit.SpeltAlike a.unit) ∧
    (∀ u p w r w', u.member = false →
      Ends (Workplace.AddsNoEntry st.hash) (make st t u p).run w r w' →
      ∀ v : UnitId, ¬ u.id.SpeltAlike v → ∀ e, w'.disk.Holds st.hash v.cacheKey e →
        w.disk.Holds st.hash v.cacheKey e) ∧
    ∀ u v : UnitId,
      (∀ p q : Plan, (u.cacheKey, p.storeFingerprint st.hash) =
        (v.cacheKey, q.storeFingerprint st.hash) → u.SpeltAlike v) ∧
      (u.SpeltAlike v → u ≠ v →
        '/' ∈ u.package.toList ∧ '/' ∈ v.target.toList ∨
          '/' ∈ v.package.toList ∧ '/' ∈ u.target.toList) := by
  refine ⟨?served, ?added, ?keys⟩
  case served =>
    intro x earlier a hsuffix hx hcache
    obtain ⟨y, hy, b, hb, hsource, hkey, hfp, hsnapshot⟩ :=
      hs.printed_before ht hempty hsuffix hx hcache
    exact ⟨y, hy, b, hb, hsource, hsnapshot, hfp, UnitId.cacheKey_eq_iff.1 hkey⟩
  case added =>
    intro u p w r w' hmember hends v hv e he
    cases (ensures_files ht hmember p w).of_ends hends with
    | served _ _ hkept => exact hkept _ e he
    | failed _ hkept => exact hkept _ e he
    | printed hnew =>
      refine (hnew _ e he).resolve_right ?_
      rintro ⟨hkey, -, -⟩
      exact hv (UnitId.cacheKey_eq_iff.1 hkey.symm)
  case keys =>
    intro u v
    refine ⟨?_, UnitId.SpeltAlike.slashes⟩
    intro p q hpair
    exact UnitId.cacheKey_eq_iff.1 (Prod.mk.inj hpair).1

/-- **A unit is served what was just printed for another one that is spelt alike**, if their plans
have the same fingerprint and the snapshot could be stored. -/
theorem served_to_spelt_alike {v : CompilationUnit} {q : Plan} {place : Place}
    (hfolder : st.folder = some root) (hu : u.member = false) (hv : v.member = false)
    (halike : u.id.SpeltAlike v.id)
    (hfp : p.storeFingerprint st.hash = q.storeFingerprint st.hash)
    (hfirm : w.disk.Firm root place)
    (hnone : (w.disk.loadSnapshot st.hash root u.id.cacheKey (p.storeFingerprint st.hash)).2 =
      none) {o : CommandOutput} (hrun : t.run p.invocation.command = pure (.ok o))
    (hprinted : ofOutput u.id o = .ok s)
    (hstored : ((w.disk.loadSnapshot st.hash root u.id.cacheKey
      (p.storeFingerprint st.hash)).1.storeSnapshot st.hash root u.id.cacheKey
        (p.storeFingerprint st.hash) 0 s).2 = .ok ())
    (hsize : (StoredSnapshot.codec.encode (.new u.id.cacheKey (p.storeFingerprint st.hash) 0
      s)).length ≤ SnapshotStore.sizeLimit) :
    ∃ w₁ w₂, (make st t u p).run.runThrough unwanted w = (w₁, .ok (.of u.id s .outOfProcess)) ∧
      (make st t v q).run.runThrough unwanted w₁ = (w₂, .ok (.of v.id s .cache)) := by
  have hasked := hfirm.afterEvent (.load u.id.cacheKey (p.storeFingerprint st.hash)) (h := st.hash)
  have hfound := hasked.loadSnapshot_storeSnapshot hstored hsize
  refine ⟨_, _, runThrough_of_printed hfolder hu hnone hrun hprinted, runThrough_of_found hfolder hv ?_⟩
  -- the second one looks under the key and the fingerprint of the first
  rw [← hfp, ← UnitId.cacheKey_eq_iff.2 halike]
  exact hfound

end Analysis

/-- **Units that differ in nothing but their names share fingerprints if they are spelt alike.** -/
theorem Situation.storeFingerprint_eq {s : Situation} {h : Hash} {u v : CompilationUnit} {p q : Plan}
    (hs : s.Sound h) (hu : s.graph.unit? u.id = some u) (hv : s.graph.unit? v.id = some v)
    (hp : s.plan? h u = .ok p) (hq : s.plan? h v = .ok q) (hnames : v = { u with id := v.id })
    (halike : u.id.SpeltAlike v.id)
    (hlearned : s.plans.learnedOf u.id = s.plans.learnedOf v.id) :
    p.storeFingerprint h = q.storeFingerprint h := by
  -- a fingerprint is made from inputs, dependencies and a shape, and the shape shows a name as it
  -- is spelt for the cache
  have hinputs : s.plans.inputsOf u = s.plans.inputsOf v := by
    unfold PlanCache.inputsOf
    rw [hlearned, hnames]
    rfl
  have hdeps : s.dependencyFields h u = s.dependencyFields h v := by
    rw [hnames]
    rfl
  have hshape : s.plans.shapeOf h u = s.plans.shapeOf h v := by
    unfold PlanCache.shapeOf
    rw [hinputs]
    unfold shapeFields
    rw [UnitId.cacheKey_eq_iff.2 halike, hnames]
  obtain ⟨fields, hfields, rfl⟩ := Situation.of_plan? hs hu hp
  obtain ⟨fields', hfields', rfl⟩ := Situation.of_plan? hs hv hq
  rw [hinputs, hfields'] at hfields
  obtain rfl := Except.ok.inj hfields
  unfold Plan.storeFingerprint
  rw [hdeps, hshape]

/-! Programs of several packages that share their root file. -/

namespace Analysis

/-- A program outside the workspace. -/
def programOf (package target : String) : CompilationUnit :=
  { CompilationUnit.new ⟨package, target, .bin⟩ ⟨"main.rs"⟩ with member := false }

/-- The program `cli` of the package `acme/tools`. -/
def toolsProgram : CompilationUnit := programOf "acme/tools" "cli"

/-- The program `tools/cli` of the package `acme`. -/
def nestedProgram : CompilationUnit := programOf "acme" "tools/cli"

/-- The project of these programs and of two with plain names. -/
def programsModel : ProjectModel :=
  Situation.modelOf [toolsProgram, nestedProgram, programOf "acme" "cli", programOf "tools" "cli"]

/-- The root file is open in the editor, and nothing was analyzed. -/
def programsOpen : Workplace Unit where
  overlay := Overlay.fresh.openBuffer ⟨"main.rs"⟩ "fn main() \x7b\x7d" 0
  own := ()

/-- The project before anything was planned. -/
def programs : Situation := ⟨UnitGraph.assemble programsModel, programsOpen.read, .new {}⟩

/-- The value of a result, if there is one. -/
def valueOf {ε α : Type} [Inhabited α] (r : Except ε α) : α := r.toOption.getD default

theorem eq_ok_valueOf {ε α : Type} [Inhabited α] {r : Except ε α}
    (h : r.toOption.isSome = true) : r = .ok (valueOf r) := by
  cases r with
  | error fault => cases h
  | ok x => rfl

/-- The plan of a program. -/
def planOf (h : Hash) (u : CompilationUnit) : Plan := valueOf (programs.plan? h u)

/-- What a command prints that tells the package it is run for. -/
def packageOutput (c : CommandSpec) : CommandOutput :=
  { (default : CommandOutput) with
    stdout := "\x7b\"crate_name\": \"" ++ (c.env.get? "CARGO_PKG_NAME").getD "" ++ "\"\x7d" }

/-- Collaborators that can do nothing but run this command. -/
def packageTeam : Collaborators Unit where
  discover _ := throw .cancelled
  analyze _ _ := throw .cancelled
  run c := pure (.ok (packageOutput c))

theorem packageTeam_leavesStore (h : Hash) : packageTeam.LeavesStore h := fun _ _ => .refl _ _

/-- The snapshot that the command prints for a program. -/
def snapshotOf (h : Hash) (u : CompilationUnit) : Snapshot :=
  valueOf (ofOutput u.id (packageOutput (planOf h u).invocation.command))

/-- A store in a folder that is not there at first. -/
def storeBy (h : Hash) : Storage := ⟨h, some ⟨"/c"⟩⟩

/-- A session in which some programs are analyzed, the one listed first at last. -/
def attempts (h : Hash) : List CompilationUnit → Workplace Unit × List Attempt
  | [] => (programsOpen, [])
  | u :: before =>
    let last := (make (storeBy h) packageTeam u (planOf h u)).run.runThrough false
      (attempts h before).1
    (last.1, ⟨planOf h u, last.2⟩ :: (attempts h before).2)

theorem session_attempts (h : Hash) (us : List CompilationUnit)
    (hmember : ∀ u ∈ us, u.member = false) :
    Session (storeBy h) packageTeam programsOpen (attempts h us).2 (attempts h us).1 := by
  induction us with
  | nil => exact .start
  | cons u before ih =>
    refine .analyze u (planOf h u) (ih fun v hv => hmember v (List.mem_cons_of_mem _ hv))
      (hmember u List.mem_cons_self) ?_
    exact ends_of_runThrough (fun _ => .refl _ _) rfl

/-- Whether the last attempt gave an analysis of a unit from a source. -/
def lastComesFrom (source : AnalysisSource) (u : UnitId) : List Attempt → Bool
  | ⟨_, .ok a⟩ :: _ => a.unit == u && a.source == source
  | _ => false

theorem exists_of_lastComesFrom {source : AnalysisSource} {u : UnitId} {log : List Attempt}
    (h : lastComesFrom source u log = true) :
    ∃ p a earlier, log = ⟨p, .ok a⟩ :: earlier ∧ a.unit = u ∧ a.source = source := by
  unfold lastComesFrom at h
  split at h
  · rename_i p a earlier
    simp only [Bool.and_eq_true, beq_iff_eq] at h
    exact ⟨p, a, earlier, rfl, h⟩
  · cases h

/-- A program with a plain name that is analyzed again, after another one, is served what was printed
for it. -/
theorem plain_program_is_served_its_own :
    ∃ p a earlier, (attempts BuildState.lengthHash
        [programOf "acme" "cli", programOf "tools" "cli", programOf "acme" "cli"]).2 =
          ⟨p, .ok a⟩ :: earlier ∧ a.source = .cache ∧
      ∃ y ∈ earlier, ∃ b, y.result = .ok b ∧ b.source = .outOfProcess ∧
        b.unit = (programOf "acme" "cli").id ∧ b.snapshot = a.snapshot := by
  have hserved : lastComesFrom .cache (programOf "acme" "cli").id (attempts BuildState.lengthHash
      [programOf "acme" "cli", programOf "tools" "cli", programOf "acme" "cli"]).2 = true := by
    decide +kernel
  obtain ⟨p, a, earlier, hlog, hunit, hcache⟩ := exists_of_lastComesFrom hserved
  have hsession := session_attempts BuildState.lengthHash
    [programOf "acme" "cli", programOf "tools" "cli", programOf "acme" "cli"] (by decide)
  rw [hlog] at hsession
  obtain ⟨hprinted, -, hnames⟩ := snapshots_are_kept_apart (packageTeam_leavesStore _)
    (Disk.not_holds_empty _) hsession
  obtain ⟨y, hy, b, hb, hsource, hsnapshot, -, halike⟩ :=
    hprinted ⟨p, .ok a⟩ earlier a List.suffix_rfl rfl hcache
  refine ⟨p, a, earlier, hlog, hcache, y, hy, b, hb, hsource, ?_, hsnapshot⟩
  rw [hunit] at halike
  -- were it for another unit, one of the two names would hold a slash
  by_contra hne
  rcases (hnames _ _).2 halike hne with ⟨-, hslash⟩ | ⟨hslash, -⟩
  · exact absurd hslash (by decide)
  · exact absurd hslash (by decide)

/-- **A program is served what was printed for another one**: `tools/cli` of `acme` what the command
printed for `cli` of `acme/tools`, and not what it prints for the program itself. The hash confuses
nothing. -/
theorem nested_program_is_served_anothers :
    Function.Injective Situation.writtenOut.ofBytes ∧ toolsProgram.id ≠ nestedProgram.id ∧
    ∃ p q, programs.plan? Situation.writtenOut toolsProgram = .ok p ∧
      programs.plan? Situation.writtenOut nestedProgram = .ok q ∧
      (toolsProgram.id.cacheKey, p.storeFingerprint Situation.writtenOut) =
        (nestedProgram.id.cacheKey, q.storeFingerprint Situation.writtenOut) ∧
      ∃ a b w, Session (storeBy Situation.writtenOut) packageTeam programsOpen
          [⟨q, .ok b⟩, ⟨p, .ok a⟩] w ∧
        a.unit = toolsProgram.id ∧ a.source = .outOfProcess ∧
        b.unit = nestedProgram.id ∧ b.source = .cache ∧ b.snapshot = a.snapshot ∧
        (ofOutput nestedProgram.id (packageOutput q.invocation.command)).toOption ≠
          some b.snapshot := by
  have hgraph : UnitGraph.ofModel programsModel = .ok programs.graph := by decide +kernel
  have hsound : programs.Sound Situation.writtenOut :=
    ⟨⟨_, hgraph⟩, PlanCache.current_of_empty rfl (PlanCache.tidy_new {})⟩
  have hp : programs.plan? Situation.writtenOut toolsProgram =
      .ok (planOf Situation.writtenOut toolsProgram) := eq_ok_valueOf (by decide +kernel)
  have hq : programs.plan? Situation.writtenOut nestedProgram =
      .ok (planOf Situation.writtenOut nestedProgram) := eq_ok_valueOf (by decide +kernel)
  have hprinted : ofOutput toolsProgram.id
      (packageOutput (planOf Situation.writtenOut toolsProgram).invocation.command) =
        .ok (snapshotOf Situation.writtenOut toolsProgram) := eq_ok_valueOf (by decide +kernel)
  have hother : (ofOutput nestedProgram.id
      (packageOutput (planOf Situation.writtenOut nestedProgram).invocation.command)).toOption ≠
        some (snapshotOf Situation.writtenOut toolsProgram) := by
    decide +kernel
  have halike : toolsProgram.id.SpeltAlike nestedProgram.id := by decide
  have hfp := Situation.storeFingerprint_eq hsound (by decide +kernel) (by decide +kernel) hp hq rfl
    halike rfl
  have hserved : ∃ w₁ w₂,
      (make (storeBy Situation.writtenOut) packageTeam toolsProgram
        (planOf Situation.writtenOut toolsProgram)).run.runThrough false programsOpen =
          (w₁, .ok (.of toolsProgram.id (snapshotOf Situation.writtenOut toolsProgram)
            .outOfProcess)) ∧
      (make (storeBy Situation.writtenOut) packageTeam nestedProgram
        (planOf Situation.writtenOut nestedProgram)).run.runThrough false w₁ =
          (w₂, .ok (.of nestedProgram.id (snapshotOf Situation.writtenOut toolsProgram)
            .cache)) :=
    served_to_spelt_alike rfl rfl rfl halike hfp Disk.firm_empty (by decide +kernel) rfl hprinted
      (by decide +kernel) (by decide +kernel)
  -- what the snapshot is does not matter any more, and it is large
  generalize snapshotOf Situation.writtenOut toolsProgram = s at hserved hother
  obtain ⟨w₁, w₂, hfirst, hsecond⟩ := hserved
  have hsession : Session (storeBy Situation.writtenOut) packageTeam programsOpen _ w₂ :=
    .analyze nestedProgram _ (.analyze toolsProgram _ .start rfl
      (ends_of_runThrough (fun _ => .refl _ _) hfirst)) rfl
      (ends_of_runThrough (fun _ => .refl _ _) hsecond)
  exact ⟨Situation.ofBytes_writtenOut_injective, by decide, _, _, hp, hq,
    Prod.ext (UnitId.cacheKey_eq_iff.2 halike) hfp, _, _, w₂, hsession, rfl, rfl, rfl, rfl, rfl,
    hother⟩

end Analysis

end CodeAtlas
