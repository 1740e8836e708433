import CodeAtlas.Project.Dirty
import CodeAtlas.Proofs.Project.Graph

/-!
# Theory of dirty sets

Which units are dirty after each operation. A completed unit stays dirty only by marks that differ
from what its ticket saw, and marks that are made after a ticket always differ: their versions are
new.
-/

namespace CodeAtlas

namespace DirtySet

/-- What every dirty set satisfies: files and units are in order, and no version is ahead of the
last one given out. -/
structure Sound (d : DirtySet) : Prop where
  files_ordered : d.files.Ordered
  units_ordered : d.units.Ordered
  versions : ∀ p f, d.files.get? p = some f → f.version ≤ d.lastVersion

variable {d : DirtySet} {u v : UnitId} {p : Path}

theorem sound_empty : empty.Sound :=
  ⟨Table.ordered_empty, Table.ordered_empty, by simp [empty]⟩

/-- A unit is marked by itself, or a file waits for it. -/
theorem Sound.isDirty_iff (h : d.Sound) (u : UnitId) :
    d.isDirty u = true ↔
      (∃ n, d.units.get? u = some n) ∨ ∃ p f, d.files.get? p = some f ∧ u ∈ f.pending.toList := by
  simp only [isDirty, Bool.or_eq_true, Table.contains, Option.isSome_iff_exists, List.any_eq_true,
    KeySet.contains_iff]
  refine or_congr Iff.rfl ?_
  constructor
  · rintro ⟨f, hf, hu⟩
    obtain ⟨⟨p, f⟩, he, rfl⟩ := List.mem_map.1 hf
    exact ⟨p, f, h.files_ordered.get?_of_mem he, hu⟩
  · rintro ⟨p, f, hf, hu⟩
    obtain ⟨q, -, he⟩ := Table.exists_mem_of_get? hf
    exact ⟨f, List.mem_map.2 ⟨(q, f), he, rfl⟩, hu⟩

/-- The units that have to be rebuilt are the dirty ones. -/
theorem Sound.mem_pendingUnits (h : d.Sound) :
    u ∈ d.pendingUnits.toList ↔ d.isDirty u = true := by
  have hkeys : u ∈ d.units.keys ↔ d.units.contains u = true := by
    rw [Table.contains, Option.isSome_iff_ne_none, ne_eq, h.units_ordered.get?_eq_none_iff, not_not]
  simp only [pendingUnits, KeySet.mem_insertAll, KeySet.mem_ofList, List.mem_flatMap, isDirty,
    Bool.or_eq_true, List.any_eq_true, KeySet.contains_iff, hkeys]

theorem pendingUnits_ordered (d : DirtySet) : d.pendingUnits.Ordered :=
  (KeySet.ordered_ofList _).insertAll _

/-! ## Marking -/

theorem Sound.markFile (h : d.Sound) (p : Path) (us : List UnitId) : (d.markFile p us).Sound := by
  refine ⟨h.files_ordered.insert _ _, h.units_ordered, ?_⟩
  intro q f hf
  simp only [DirtySet.markFile, Table.get?_insert] at hf ⊢
  split at hf
  · obtain rfl := Option.some.inj hf
    exact Nat.le_refl _
  · exact Nat.le_succ_of_le (h.versions q f hf)

theorem Sound.markUnit (h : d.Sound) (u : UnitId) : (d.markUnit u).Sound := by
  refine ⟨h.files_ordered, h.units_ordered.insert _ _, ?_⟩
  intro q f hf
  exact Nat.le_succ_of_le (h.versions q f hf)

/-- The file that is marked waits for its owners from then on, under a new version. -/
theorem get?_markFile (d : DirtySet) (p : Path) (us : List UnitId) (q : Path) :
    (d.markFile p us).files.get? q =
      if compare q p.normalize = .eq then
        some ⟨d.lastVersion + 1,
          (((d.files.get? p.normalize).map (·.pending)).getD KeySet.empty).insertAll us⟩
      else d.files.get? q := by
  simp only [markFile, Table.get?_insert]

theorem exists_markFile_of_mem (d : DirtySet) (p : Path) {us : List UnitId} (hu : u ∈ us) :
    ∃ q f, (d.markFile p us).files.get? q = some f ∧ u ∈ f.pending.toList ∧
      f.version = d.lastVersion + 1 := by
  have hget := get?_markFile d p us p.normalize
  rw [if_pos Std.ReflCmp.compare_self] at hget
  exact ⟨p.normalize, _, hget, KeySet.mem_insertAll.2 (Or.inl hu), rfl⟩

/-- A file that waits for a unit goes on waiting for it when files are marked. -/
theorem exists_markFile_of_pending {q : Path} {f : DirtyFile} (p : Path) (us : List UnitId)
    (hf : d.files.get? q = some f) (hu : u ∈ f.pending.toList) :
    ∃ f', (d.markFile p us).files.get? q = some f' ∧ u ∈ f'.pending.toList ∧
      (f' = f ∨ f'.version = d.lastVersion + 1) := by
  have hget := get?_markFile d p us q
  by_cases hq : compare q p.normalize = .eq
  · rw [if_pos hq] at hget
    rw [Table.get?_congr _ hq] at hf
    refine ⟨_, hget, KeySet.mem_insertAll.2 (Or.inr ?_), Or.inr rfl⟩
    simpa [hf] using hu
  · rw [if_neg hq, hf] at hget
    exact ⟨f, hget, hu, Or.inl rfl⟩

/-- **Marking a file makes its owners dirty**, and changes nothing for others. -/
theorem Sound.isDirty_markFile (h : d.Sound) (p : Path) (us : List UnitId) (u : UnitId) :
    (d.markFile p us).isDirty u = true ↔ u ∈ us ∨ d.isDirty u = true := by
  rw [(h.markFile p us).isDirty_iff, h.isDirty_iff]
  have hunits : (d.markFile p us).units = d.units := rfl
  rw [hunits]
  constructor
  · rintro (hunit | ⟨q, f, hf, hu⟩)
    · exact Or.inr (Or.inl hunit)
    · rw [get?_markFile] at hf
      split at hf
      · obtain rfl := Option.some.inj hf
        rcases KeySet.mem_insertAll.1 hu with hu | hu
        · exact Or.inl hu
        · -- it waited for the file already
          cases hold : d.files.get? p.normalize with
          | none => simp [hold, KeySet.empty] at hu
          | some f => exact Or.inr (Or.inr ⟨p.normalize, f, hold, by simpa [hold] using hu⟩)
      · exact Or.inr (Or.inr ⟨q, f, hf, hu⟩)
  · rintro (hu | hunit | ⟨q, f, hf, hu⟩)
    · obtain ⟨q, f, hf, hmem, -⟩ := exists_markFile_of_mem d p hu
      exact Or.inr ⟨q, f, hf, hmem⟩
    · exact Or.inl hunit
    · obtain ⟨f', hf', hmem, -⟩ := exists_markFile_of_pending p us hf hu
      exact Or.inr ⟨q, f', hf', hmem⟩

theorem Sound.isDirty_markUnit (h : d.Sound) (v u : UnitId) :
    (d.markUnit v).isDirty u = true ↔ u = v ∨ d.isDirty u = true := by
  rw [(h.markUnit v).isDirty_iff, h.isDirty_iff]
  by_cases huv : u = v
  · subst huv
    simp [DirtySet.markUnit]
  · simp [DirtySet.markUnit, Table.get?_insert_of_ne huv, huv]

/-- Several units are marked one after another. -/
theorem Sound.markUnits (h : d.Sound) (us : List UnitId) :
    (us.foldl DirtySet.markUnit d).Sound := by
  induction us generalizing d with
  | nil => exact h
  | cons u rest ih => exact ih (h.markUnit u)

theorem Sound.isDirty_markUnits (h : d.Sound) (us : List UnitId) (u : UnitId) :
    (us.foldl DirtySet.markUnit d).isDirty u = true ↔ u ∈ us ∨ d.isDirty u = true := by
  induction us generalizing d with
  | nil => simp
  | cons v rest ih =>
    rw [List.foldl_cons, ih (h.markUnit v), h.isDirty_markUnit, List.mem_cons]
    tauto

/-- Marking units leaves files, and the marks of other units, as they are. -/
theorem markUnits_frame (d : DirtySet) (us : List UnitId) :
    (us.foldl DirtySet.markUnit d).files = d.files ∧
      d.lastVersion ≤ (us.foldl DirtySet.markUnit d).lastVersion ∧
      ∀ u, u ∉ us → (us.foldl DirtySet.markUnit d).units.get? u = d.units.get? u := by
  induction us generalizing d with
  | nil => simp
  | cons v rest ih =>
    obtain ⟨hfiles, hversion, hunits⟩ := ih (d.markUnit v)
    refine ⟨hfiles, Nat.le_trans (Nat.le_succ _) hversion, ?_⟩
    intro u hu
    obtain ⟨huv, hrest⟩ := not_or.1 (fun hmem => hu (List.mem_cons.2 hmem))
    rw [List.foldl_cons, hunits u hrest]
    exact Table.get?_insert_of_ne huv _ _

/-! ## Completing -/

theorem get?_ticket (d : DirtySet) (p : Path) :
    d.ticket.files.get? p = (d.files.get? p).map (·.version) :=
  Table.get?_mapValues _ _ (fun _ _ _ _ => rfl) p

theorem get?_complete (h : d.Sound) (u : UnitId) (t : DirtyTicket) (p : Path) :
    (d.complete u t).files.get? p = (d.files.get? p).bind (completeFile u t p) := by
  refine h.files_ordered.get?_filterMap ?_ p
  intro q q' f hq
  simp only [completeFile, Table.get?_congr t.files hq]

/-- Completing changes at most the mark of the completed unit, which goes if the ticket saw it. -/
theorem units_complete (d : DirtySet) (u : UnitId) (t : DirtyTicket) (v : UnitId) :
    (d.complete u t).units.get? v =
      if u = v ∧ t.units.get? v = d.units.get? v then none else d.units.get? v := by
  by_cases hvu : u = v
  · subst hvu
    by_cases hseen : t.units.get? u = d.units.get? u
    · cases hu : d.units.get? u <;> simp_all [DirtySet.complete, Table.get?_erase]
    · have hne : ¬ d.units.get? u = t.units.get? u := fun heq => hseen heq.symm
      simp [DirtySet.complete, hseen, hne]
  · rw [if_neg fun hand => hvu hand.1]
    simp only [DirtySet.complete]
    split
    · exact Table.get?_erase_of_ne (Ne.symm hvu) _
    · rfl

theorem Sound.complete (h : d.Sound) (u : UnitId) (t : DirtyTicket) : (d.complete u t).Sound := by
  refine ⟨h.files_ordered.filterMap _, ?_, ?_⟩
  · simp only [DirtySet.complete]
    split
    · exact h.units_ordered.erase u
    · exact h.units_ordered
  · intro p f hf
    rw [get?_complete h] at hf
    obtain ⟨f', hf', hc⟩ := Option.bind_eq_some_iff.1 hf
    -- completing a unit shortens who waits, and leaves versions alone
    have hversion : f.version = f'.version := by
      unfold completeFile at hc
      split at hc
      · simp only at hc
        split at hc
        · cases hc
        · obtain rfl := Option.some.inj hc
          rfl
      · obtain rfl := Option.some.inj hc
        rfl
    rw [hversion]
    exact h.versions p f' hf'

/-- A file that has changed since the ticket is left alone. -/
theorem completeFile_of_ne {t : DirtyTicket} {f : DirtyFile}
    (h : t.files.get? p ≠ some f.version) : completeFile u t p f = some f := by
  simp [completeFile, h]

/-- A file that has not changed since the ticket waits for the same units, but for the completed
one. -/
theorem mem_completeFile {t : DirtyTicket} {f f' : DirtyFile} (h : completeFile u t p f = some f') :
    f'.version = f.version ∧ ∀ w, w ∈ f'.pending.toList ↔
      w ∈ f.pending.toList ∧ (w = u → t.files.get? p ≠ some f.version) := by
  unfold completeFile at h
  by_cases hseen : t.files.get? p = some f.version
  · simp only [hseen, beq_self_eq_true, if_true] at h
    split at h
    · cases h
    · obtain rfl := Option.some.inj h
      refine ⟨rfl, ?_⟩
      intro w
      rw [KeySet.mem_erase]
      simp [hseen]
  · simp only [beq_iff_eq, hseen, if_false] at h
    obtain rfl := Option.some.inj h
    exact ⟨rfl, fun w => by simp [hseen]⟩

/-- A file is forgotten only if it waits for nobody else. -/
theorem completeFile_eq_none {t : DirtyTicket} {f : DirtyFile} (h : completeFile u t p f = none) :
    ∀ w ∈ f.pending.toList, w = u ∧ t.files.get? p = some f.version := by
  unfold completeFile at h
  by_cases hseen : t.files.get? p = some f.version
  · simp only [hseen, beq_self_eq_true, if_true] at h
    split at h
    · rename_i hempty
      intro w hw
      -- whoever else waits would be left in the list
      by_contra hne
      have hmem : w ∈ (f.pending.erase u).toList :=
        KeySet.mem_erase.2 ⟨hw, fun heq => hne ⟨heq, hseen⟩⟩
      simp only [KeySet.isEmpty, List.isEmpty_iff] at hempty
      rw [hempty] at hmem
      cases hmem
    · cases h
  · simp only [beq_iff_eq, hseen, if_false] at h
    cases h

/-- Every changed file waits for somebody. -/
def Awaited (d : DirtySet) : Prop :=
  ∀ p f, d.files.get? p = some f → ∃ u, u ∈ f.pending.toList

theorem awaited_completeFile {t : DirtyTicket} {p : Path} {f f' : DirtyFile}
    (hf : ∃ w, w ∈ f.pending.toList) (hc : completeFile u t p f = some f') :
    ∃ w, w ∈ f'.pending.toList := by
  unfold completeFile at hc
  split at hc
  · simp only at hc
    split at hc
    · cases hc
    · rename_i hleft
      obtain rfl := Option.some.inj hc
      exact List.exists_mem_of_ne_nil _ fun hnil => hleft (List.isEmpty_iff.2 hnil)
  · obtain rfl := Option.some.inj hc
    exact hf

/-- Files that wait for a unit other than the completed one, or that have changed since the ticket,
keep waiting for it. -/
private theorem exists_complete_iff (h : d.Sound) (u w : UnitId) (t : DirtyTicket) :
    (∃ p f, (d.complete u t).files.get? p = some f ∧ w ∈ f.pending.toList) ↔
      ∃ p f, d.files.get? p = some f ∧ w ∈ f.pending.toList ∧
        (w = u → t.files.get? p ≠ some f.version) := by
  constructor
  · rintro ⟨p, f, hf, hw⟩
    rw [get?_complete h] at hf
    obtain ⟨f', hf', hc⟩ := Option.bind_eq_some_iff.1 hf
    obtain ⟨-, hmem⟩ := mem_completeFile hc
    exact ⟨p, f', hf', ((hmem w).1 hw).1, ((hmem w).1 hw).2⟩
  · rintro ⟨p, f, hf, hw, hstale⟩
    cases hc : completeFile u t p f with
    | none =>
      -- a file that is forgotten waited for nobody but the completed unit
      obtain ⟨heq, hseen⟩ := completeFile_eq_none hc w hw
      exact absurd hseen (hstale heq)
    | some f' =>
      refine ⟨p, f', ?_, ((mem_completeFile hc).2 w).2 ⟨hw, hstale⟩⟩
      rw [get?_complete h, hf]
      exact hc

/-- **Completing a unit changes nothing for others.** -/
theorem Sound.isDirty_complete_of_ne (h : d.Sound) {t : DirtyTicket} (huv : v ≠ u) :
    (d.complete u t).isDirty v = true ↔ d.isDirty v = true := by
  have hunits : (d.complete u t).units.get? v = d.units.get? v := by
    rw [units_complete, if_neg fun hand => huv hand.1.symm]
  rw [(h.complete u t).isDirty_iff, h.isDirty_iff, hunits, exists_complete_iff h]
  refine or_congr Iff.rfl ?_
  simp [huv]

/-- **A completed unit stays dirty by marks that its ticket did not see**, and by no others. -/
theorem Sound.isDirty_complete_self (h : d.Sound) (u : UnitId) (t : DirtyTicket) :
    (d.complete u t).isDirty u = true ↔
      (∃ n, d.units.get? u = some n ∧ t.units.get? u ≠ some n) ∨
        ∃ p f, d.files.get? p = some f ∧ u ∈ f.pending.toList ∧
          t.files.get? p ≠ some f.version := by
  rw [(h.complete u t).isDirty_iff, exists_complete_iff h]
  refine or_congr ?_ (by simp)
  rw [units_complete]
  by_cases hseen : t.units.get? u = d.units.get? u
  · rw [if_pos ⟨rfl, hseen⟩]
    simp [hseen]
  · rw [if_neg fun hand => hseen hand.2]
    refine exists_congr fun n => (and_iff_left_of_imp fun hn heq => hseen ?_).symm
    rw [heq, hn]

/-! ## Clean sets -/

/-- A set of awaited files is clean if no unit has to be rebuilt. -/
theorem Sound.isClean_iff (h : d.Sound) (hawaited : d.Awaited) :
    d.isClean = true ↔ d.pendingUnits.isEmpty = true := by
  simp only [isClean, Bool.and_eq_true, KeySet.isEmpty, Table.isEmpty, List.isEmpty_iff]
  have hpending : d.pendingUnits.toList = [] ↔ ∀ u, ¬ d.isDirty u = true := by
    rw [List.eq_nil_iff_forall_not_mem]
    exact forall_congr' fun u => not_congr h.mem_pendingUnits
  rw [hpending]
  simp only [h.isDirty_iff]
  constructor
  · rintro ⟨hfiles, hunits⟩ u
    simp [Table.get?, hfiles, hunits, Table.lookup]
  -- whatever is left would be a cause for some unit
  · intro hnone
    rw [List.eq_nil_iff_forall_not_mem, List.eq_nil_iff_forall_not_mem]
    constructor
    · rintro ⟨p, f⟩ he
      have hf := h.files_ordered.get?_of_mem he
      obtain ⟨u, hu⟩ := hawaited p f hf
      exact hnone u (Or.inr ⟨p, f, hf, hu⟩)
    · rintro ⟨u, n⟩ he
      exact hnone u (Or.inl ⟨n, h.units_ordered.get?_of_mem he⟩)

/-! ## Marks that a ticket did not see -/

/-- **How marks change while a build comes to its units**: files that have changed since its ticket
are left alone, and so are the marks of the units `us`. -/
structure Advances (t : DirtyTicket) (us : List UnitId) (d d' : DirtySet) : Prop where
  version : d.lastVersion ≤ d'.lastVersion
  files : ∀ p f', d'.files.get? p = some f' →
    ∃ f, d.files.get? p = some f ∧ f.version = f'.version
  unseen : ∀ p f, d.files.get? p = some f → t.files.get? p ≠ some f.version →
    d'.files.get? p = some f
  units : ∀ u ∈ us, d'.units.get? u = d.units.get? u

variable {t : DirtyTicket} {us : List UnitId}

theorem Advances.refl (t : DirtyTicket) (us : List UnitId) (d : DirtySet) : Advances t us d d where
  version := Nat.le_refl _
  files _ f hf := ⟨f, hf, rfl⟩
  unseen _ _ hf _ := hf
  units _ _ := rfl

theorem Advances.trans {d' d'' : DirtySet} (h : Advances t us d d') (h' : Advances t us d' d'') :
    Advances t us d d'' where
  version := h.version.trans h'.version
  files := by
    intro p f'' hf''
    obtain ⟨f', hf', hv'⟩ := h'.files p f'' hf''
    obtain ⟨f, hf, hv⟩ := h.files p f' hf'
    exact ⟨f, hf, hv.trans hv'⟩
  unseen p f hf hne := h'.unseen p f (h.unseen p f hf hne) hne
  units u hu := (h'.units u hu).trans (h.units u hu)

theorem Sound.advances_complete (h : d.Sound) (hu : u ∉ us) (t : DirtyTicket) :
    Advances t us d (d.complete u t) where
  version := Nat.le_refl _
  files := by
    intro p f' hf'
    rw [get?_complete h] at hf'
    obtain ⟨f, hf, hc⟩ := Option.bind_eq_some_iff.1 hf'
    exact ⟨f, hf, (mem_completeFile hc).1.symm⟩
  unseen := by
    intro p f hf hne
    rw [get?_complete h, hf]
    exact completeFile_of_ne hne
  units := by
    intro v hv
    -- only the mark of the completed unit may go
    have hvu : v ≠ u := by
      rintro rfl
      exact hu hv
    rw [units_complete, if_neg fun hand => hvu hand.1.symm]

theorem advances_markUnits {vs : List UnitId} (hvs : ∀ u ∈ us, u ∉ vs) (t : DirtyTicket)
    (d : DirtySet) : Advances t us d (vs.foldl DirtySet.markUnit d) := by
  obtain ⟨hfiles, hversion, hunits⟩ := markUnits_frame d vs
  refine ⟨hversion, ?_, ?_, fun u hu => hunits u (hvs u hu)⟩
  · intro p f hf
    rw [hfiles] at hf
    exact ⟨f, hf, rfl⟩
  · intro p f hf _
    rw [hfiles]
    exact hf

theorem advances_markUnit (hu : u ∉ us) (t : DirtyTicket) (d : DirtySet) :
    Advances t us d (d.markUnit u) := by
  have hother : ∀ v ∈ us, v ∉ [u] := by
    intro v hv hvu
    exact hu (List.mem_singleton.1 hvu ▸ hv)
  exact advances_markUnits hother t d

/-! ## A new project -/

theorem Sound.reclaim (h : d.Sound) (g : UnitGraph) : (d.reclaim g).Sound := by
  refine ⟨h.files_ordered.filterMap _, h.units_ordered.filter _, ?_⟩
  -- every file that is kept was there before, at the same version
  intro p f hf
  obtain ⟨q, -, he⟩ := Table.exists_mem_of_get? hf
  obtain ⟨⟨q', f'⟩, hmem, heq⟩ := List.mem_filterMap.1 he
  obtain ⟨f'', hf'', heq⟩ := Option.map_eq_some_iff.1 heq
  obtain ⟨rfl, rfl⟩ := Prod.mk.inj heq
  have hversion : f''.version = f'.version := by
    unfold reclaimFile at hf''
    split at hf''
    · cases hf''
    · obtain rfl := Option.some.inj hf''
      rfl
  rw [hversion]
  exact h.versions q' f' (h.files_ordered.get?_of_mem hmem)

end DirtySet

end CodeAtlas
