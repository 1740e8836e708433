import CodeAtlas.Index.Lowering
import Mathlib.Data.List.Basic
import Mathlib.Logic.Equiv.Defs

/-!
# Lowering under other namespaces

Lowering reads the table of namespaces only to number the units that a snapshot names. So its
result is a function of the numbers of these units: whether a snapshot is rejected, and why, does
not depend on them at all, and the records change with them by a mere renaming.

## Architecture

- **Layer A**: numbers in a growing table of namespaces;
- **Layer B**: the units that a snapshot names, and lowering as a function of their numbers;
- **Layer C**: renaming of qualified identifiers in records;
- **Layer D**: lowering commutes with renaming.
-/

namespace CodeAtlas

/-! ## Layer A: namespaces -/

namespace Namespaces

/-- The number of a unit; units that were never seen have none and count as zero. -/
def space (n : Namespaces) (u : UnitId) : Nat := (n.get? u).getD 0

variable {n m : Namespaces} {u v : UnitId}

private theorem idxOf?_of_mem {us : List UnitId} (h : u ∈ us) :
    us.idxOf? u = some (us.idxOf u) := by
  induction us with
  | nil => cases h
  | cons w rest ih =>
    by_cases hwu : w = u
    · simp [List.idxOf?_cons, hwu]
    · have hmem : u ∈ rest := (List.mem_cons.1 h).resolve_left (fun h => hwu h.symm)
      simp [List.idxOf?_cons, hwu, ih hmem]

theorem space_of_mem (h : u ∈ n.units) : n.space u = n.units.idxOf u := by
  simp [space, get?, idxOf?_of_mem h]

theorem space_lt_length (h : u ∈ n.units) : n.space u < n.units.length := by
  rw [space_of_mem h]
  exact List.idxOf_lt_length_of_mem h

/-- Different units that were seen have different numbers. -/
theorem space_injective (hu : u ∈ n.units) (hv : v ∈ n.units) (h : n.space u = n.space v) :
    u = v := by
  rw [space_of_mem hu, space_of_mem hv] at h
  exact (List.idxOf_inj hu).1 h

/-- A unit keeps its number while the table grows. -/
theorem space_of_prefix (h : n.units <+: m.units) (hu : u ∈ n.units) : m.space u = n.space u := by
  obtain ⟨more, hmore⟩ := h
  have hu' : u ∈ m.units := hmore ▸ List.mem_append_left more hu
  rw [space_of_mem hu, space_of_mem hu', ← hmore]
  exact List.idxOf_append_of_mem hu

theorem intern_of_mem (h : u ∈ n.units) : n.intern u = (n, n.space u) := by
  simp [intern, space, get?, idxOf?_of_mem h]

theorem intern_of_notMem (h : u ∉ n.units) :
    n.intern u = (⟨n.units ++ [u]⟩, n.units.length) := by
  have hnone : n.get? u = none := List.idxOf?_eq_none_iff.2 h
  simp [intern, hnone]

theorem prefix_intern (n : Namespaces) (u : UnitId) : n.units <+: (n.intern u).1.units := by
  by_cases h : u ∈ n.units
  · simp only [intern_of_mem h, List.prefix_refl]
  · rw [intern_of_notMem h]
    exact List.prefix_append _ _

theorem mem_intern_iff : v ∈ (n.intern u).1.units ↔ v ∈ n.units ∨ v = u := by
  by_cases h : u ∈ n.units
  · rw [intern_of_mem h]
    constructor
    · exact Or.inl
    · rintro (hv | rfl)
      · exact hv
      · exact h
  · simp [intern_of_notMem h]

/-- The number that is given out is the unit's number from then on. -/
theorem intern_snd (n : Namespaces) (u : UnitId) : (n.intern u).2 = (n.intern u).1.space u := by
  by_cases h : u ∈ n.units
  · rw [intern_of_mem h]
  · rw [intern_of_notMem h, space_of_mem (by simp)]
    simp [List.idxOf_append_of_notMem h]

theorem nodup_intern (h : n.units.Nodup) (u : UnitId) : (n.intern u).1.units.Nodup := by
  by_cases hu : u ∈ n.units
  · rwa [intern_of_mem hu]
  · rw [intern_of_notMem hu]
    refine List.nodup_append.2 ⟨h, by simp, ?_⟩
    rintro a ha b hb rfl
    exact hu (List.mem_singleton.1 hb ▸ ha)

/-- A table that has grown by some of the units `us`. -/
structure Grows (n m : Namespaces) (us : List UnitId) : Prop where
  keeps : n.units <+: m.units
  nodup : n.units.Nodup → m.units.Nodup
  mem : ∀ v ∈ m.units, v ∈ n.units ∨ v ∈ us

theorem grows_intern (n : Namespaces) (u : UnitId) : Grows n (n.intern u).1 [u] where
  keeps := prefix_intern n u
  nodup h := nodup_intern h u
  mem _ hv := (mem_intern_iff.1 hv).imp_right List.mem_singleton.2

theorem Grows.trans {k : Namespaces} {us vs : List UnitId} (hnm : Grows n m us)
    (hmk : Grows m k vs) : Grows n k (us ++ vs) where
  keeps := hnm.keeps.trans hmk.keeps
  nodup h := hmk.nodup (hnm.nodup h)
  mem v hv := by
    rcases hmk.mem v hv with hv | hv
    · exact (hnm.mem v hv).imp_right (List.mem_append_left _)
    · exact Or.inr (List.mem_append_right _ hv)

theorem Grows.mono {us vs : List UnitId} (h : Grows n m us) (hsub : us ⊆ vs) : Grows n m vs where
  keeps := h.keeps
  nodup := h.nodup
  mem v hv := (h.mem v hv).imp_right fun h => hsub h

/-- A table that has only grown by units it had has not grown. -/
theorem Grows.eq_of_subset {us : List UnitId} (h : Grows n m us) (hn : n.units.Nodup)
    (hus : us ⊆ n.units) : m = n := by
  obtain ⟨more, hmore⟩ := h.keeps
  have hnodup := h.nodup hn
  rw [← hmore] at hnodup
  -- a unit that was added would stand there twice
  have hnone : more = [] := by
    apply List.eq_nil_iff_forall_not_mem.2
    intro v hv
    have hmem : v ∈ n.units := by
      rcases h.mem v (hmore ▸ List.mem_append_right _ hv) with hv | hv
      · exact hv
      · exact hus hv
    exact (List.nodup_append.1 hnodup).2.2 v hmem v hv rfl
  rw [hnone, List.append_nil] at hmore
  obtain ⟨units⟩ := n
  obtain ⟨units'⟩ := m
  rw [show units = units' from hmore]

end Namespaces

/-! ## Layer B: the units a snapshot names -/

/-- Rejects extern units with a reserved number, or with one of `known` or an earlier unit. -/
def checkNumbers (known : List UInt32) : List ExternUnit → Except IndexFault Unit
  | [] => .ok ()
  | e :: rest =>
    if e.num == 0 then .error .reservedNumber
    else if known.contains e.num then .error (.duplicateNumber e.num)
    else checkNumbers (known ++ [e.num]) rest

namespace Snapshot

/-- The units a snapshot of `u` names: `u` itself and the extern ones. -/
def named (s : Snapshot) (u : UnitId) : List UnitId := u :: s.externs.map (·.unit)

/-- The scope in which a snapshot of `u` is lowered once its units have numbers. -/
def scope (s : Snapshot) (space : UnitId → Nat) (u : UnitId) : LoweringScope :=
  ⟨space u, (0, space u) :: s.externs.map fun e => (e.num, space e.unit), s.directory, s.crateName⟩

/-- **What a snapshot of `u` is lowered to**, as a function of the numbers of units. -/
def lowered (s : Snapshot) (space : UnitId → Nat) (u : UnitId) : Except IndexFault LoweredUnit :=
  match checkNumbers [0] s.externs with
  | .error fault => .error fault
  | .ok _ => lowerRecords (s.scope space u) u s

/-- Only the numbers of the named units matter. -/
theorem lowered_congr {s : Snapshot} {u : UnitId} {f g : UnitId → Nat}
    (h : ∀ v ∈ s.named u, f v = g v) : s.lowered f u = s.lowered g u := by
  have hscope : s.scope f u = s.scope g u := by
    have hext : (s.externs.map fun e => (e.num, f e.unit)) =
        s.externs.map fun e => (e.num, g e.unit) := by
      refine List.map_congr_left ?_
      intro e he
      rw [h e.unit (List.mem_cons_of_mem _ (List.mem_map_of_mem he))]
    simp only [scope, hext, h u (List.mem_cons_self ..)]
  simp only [lowered, hscope]

end Snapshot

private theorem lookup_isSome_iff (numbers : UnitNumbers) (k : UInt32) :
    (numbers.lookup k).isSome = (numbers.map (·.1)).contains k := by
  induction numbers with
  | nil => rfl
  | cons p rest ih =>
    obtain ⟨i, a⟩ := p
    rw [List.lookup_cons, List.map_cons, List.contains_cons]
    cases hki : k == i with
    | true => rfl
    | false => simpa using ih

open Namespaces in
private theorem numberExterns_grows (n : Namespaces) (numbers : UnitNumbers)
    (es : List ExternUnit) : Grows n (numberExterns n numbers es).1 (es.map (·.unit)) := by
  induction es generalizing n numbers with
  | nil => exact ⟨List.prefix_refl _, id, fun _ => Or.inl⟩
  | cons e rest ih =>
    simp only [numberExterns]
    split
    · exact ⟨List.prefix_refl _, id, fun _ => Or.inl⟩
    · split
      · exact (grows_intern n e.unit).mono (by simp)
      · exact (grows_intern n e.unit).trans (ih _ _)

/-- If no number is rejected, every extern unit has the number of the grown table. -/
private theorem numberExterns_snd (n : Namespaces) (numbers : UnitNumbers) (es : List ExternUnit) :
    match checkNumbers (numbers.map (·.1)) es with
    | .error fault => (numberExterns n numbers es).2 = .error fault
    | .ok _ => (∀ e ∈ es, e.unit ∈ (numberExterns n numbers es).1.units) ∧
        (numberExterns n numbers es).2 =
          .ok (numbers ++
            es.map fun e => (e.num, (numberExterns n numbers es).1.space e.unit)) := by
  induction es generalizing n numbers with
  | nil => simp [numberExterns, checkNumbers]
  | cons e rest ih =>
    by_cases hzero : e.num = 0
    · simp [numberExterns, checkNumbers, hzero]
    · have hz : (e.num == 0) = false := by simpa using hzero
      cases hdup : (numbers.map (·.1)).contains e.num with
      | true =>
        simp only [numberExterns, checkNumbers, hz, lookup_isSome_iff, hdup]
        rfl
      | false =>
        -- the table goes on growing, but the number this unit has got stays its number
        have hgrow := numberExterns_grows (n.intern e.unit).1
          (numbers ++ [(e.num, (n.intern e.unit).2)]) rest
        have hnext := ih (n.intern e.unit).1 (numbers ++ [(e.num, (n.intern e.unit).2)])
        have hown : e.unit ∈ (n.intern e.unit).1.units := Namespaces.mem_intern_iff.2 (Or.inr rfl)
        have hspace := Namespaces.space_of_prefix hgrow.keeps hown
        simp only [numberExterns, checkNumbers, hz, lookup_isSome_iff, hdup, List.map_append,
          List.map_cons, List.map_nil, Bool.false_eq_true, if_false] at hnext ⊢
        cases hcheck : checkNumbers (numbers.map (·.1) ++ [e.num]) rest with
        | error fault => simpa [hcheck] using hnext
        | ok _ =>
          rw [hcheck] at hnext
          refine ⟨?_, ?_⟩
          · intro f hf
            rcases List.mem_cons.1 hf with rfl | hf
            · exact hgrow.keeps.subset hown
            · exact hnext.1 f hf
          · rw [hnext.2, hspace, Namespaces.intern_snd]
            simp

private theorem lower_eq (n : Namespaces) (u : UnitId) (s : Snapshot) :
    lower n u s =
      let x := numberExterns (n.intern u).1 [(0, (n.intern u).2)] s.externs
      (x.1, x.2.bind fun numbers =>
        lowerRecords ⟨(n.intern u).2, numbers, s.directory, s.crateName⟩ u s) := by
  unfold lower
  simp only
  generalize numberExterns (n.intern u).1 [(0, (n.intern u).2)] s.externs = x
  obtain ⟨names, r⟩ := x
  cases r <;> rfl

/-- Lowering adds named units to the table, and nothing else. -/
theorem lower_grows (n : Namespaces) (u : UnitId) (s : Snapshot) :
    Namespaces.Grows n (lower n u s).1 (s.named u) := by
  rw [lower_eq]
  exact (Namespaces.grows_intern n u).trans (numberExterns_grows _ _ _)

/-- **The records of a snapshot depend on the numbers of its units alone.** -/
theorem lower_snd (n : Namespaces) (u : UnitId) (s : Snapshot) :
    (lower n u s).2 = s.lowered (lower n u s).1.space u := by
  have hgrow := numberExterns_grows (n.intern u).1 [(0, (n.intern u).2)] s.externs
  have hres := numberExterns_snd (n.intern u).1 [(0, (n.intern u).2)] s.externs
  -- numbers are never given out anew, so the one of the unit is the one it had at first
  have hspace := Namespaces.space_of_prefix hgrow.keeps
    (Namespaces.mem_intern_iff.2 (Or.inr rfl) : u ∈ (n.intern u).1.units)
  rw [lower_eq]
  simp only [Snapshot.lowered, List.map_cons, List.map_nil] at hres ⊢
  cases hcheck : checkNumbers [0] s.externs with
  | error fault =>
    rw [hcheck] at hres
    simp only at hres
    rw [hres]
    rfl
  | ok _ =>
    rw [hcheck] at hres
    rw [hres.2, Snapshot.scope, hspace, Namespaces.intern_snd]
    rfl

theorem Snapshot.checkNumbers_of_lowered {s : Snapshot} {space : UnitId → Nat} {u : UnitId}
    {l : LoweredUnit} (h : s.lowered space u = .ok l) : checkNumbers [0] s.externs = .ok () := by
  unfold Snapshot.lowered at h
  cases hcheck : checkNumbers [0] s.externs with
  | error fault => simp [hcheck] at h
  | ok _ => rfl

/-- All units that a snapshot names have numbers afterwards, if no number is rejected. -/
theorem mem_lower_of_check {n : Namespaces} {u : UnitId} {s : Snapshot}
    (h : checkNumbers [0] s.externs = .ok ()) : ∀ v ∈ s.named u, v ∈ (lower n u s).1.units := by
  have hgrow := numberExterns_grows (n.intern u).1 [(0, (n.intern u).2)] s.externs
  have hres := numberExterns_snd (n.intern u).1 [(0, (n.intern u).2)] s.externs
  rw [lower_eq]
  simp only [List.map_cons, List.map_nil, h] at hres ⊢
  intro v hv
  rcases List.mem_cons.1 hv with rfl | hv
  · exact hgrow.keeps.subset (Namespaces.mem_intern_iff.2 (Or.inr rfl))
  · obtain ⟨e, he, rfl⟩ := List.mem_map.1 hv
    exact hres.1 e he

theorem mem_lower_of_ok {n : Namespaces} {u : UnitId} {s : Snapshot} {l : LoweredUnit}
    (h : (lower n u s).2 = .ok l) : ∀ v ∈ s.named u, v ∈ (lower n u s).1.units := by
  rw [lower_snd] at h
  exact mem_lower_of_check (Snapshot.checkNumbers_of_lowered h)

/-! ## Layer C: renaming records -/

/-- A qualified identifier with its namespace renumbered. -/
def ScopedId.rename (ρ : Equiv.Perm Nat) (i : ScopedId) : ScopedId := ⟨ρ i.space, i.index⟩

@[simp] theorem ScopedId.rename_space (ρ : Equiv.Perm Nat) (i : ScopedId) :
    (i.rename ρ).space = ρ i.space := rfl

@[simp] theorem ScopedId.rename_index (ρ : Equiv.Perm Nat) (i : ScopedId) :
    (i.rename ρ).index = i.index := rfl

@[simp] theorem ScopedId.rename_inj (ρ : Equiv.Perm Nat) (i j : ScopedId) :
    i.rename ρ = j.rename ρ ↔ i = j := by
  cases i
  cases j
  simp [ScopedId.rename]

/-- A definition record with all namespaces renumbered. -/
def DefRecord.rename (ρ : Equiv.Perm Nat) (d : DefRecord) : DefRecord :=
  { d with
    parent := d.parent.map (ScopedId.rename ρ)
    children := d.children.map (ScopedId.rename ρ) }

@[simp] theorem DefRecord.rename_site (ρ : Equiv.Perm Nat) (d : DefRecord) :
    (d.rename ρ).site = d.site := rfl

/-- An implementation block with all namespaces renumbered. -/
def ImplRecord.rename (ρ : Equiv.Perm Nat) (i : ImplRecord) : ImplRecord :=
  { i with selfType := i.selfType.rename ρ, traitId := i.traitId.map (ScopedId.rename ρ) }

/-- A lowered definition with all namespaces renumbered. -/
def LoweredDef.rename (ρ : Equiv.Perm Nat) (d : LoweredDef) : LoweredDef :=
  { d with record := d.record.rename ρ }

/-- A lowered reference with its namespace renumbered. -/
def LoweredRef.rename (ρ : Equiv.Perm Nat) (r : LoweredRef) : LoweredRef :=
  { r with target := r.target.rename ρ }

/-- A lowered unit with all namespaces renumbered. -/
def LoweredUnit.rename (ρ : Equiv.Perm Nat) (l : LoweredUnit) : LoweredUnit :=
  { l with
    space := ρ l.space
    defs := l.defs.map (LoweredDef.rename ρ)
    refs := l.refs.map (LoweredRef.rename ρ)
    impls := l.impls.map (ImplRecord.rename ρ) }

/-- A scope with all namespaces renumbered. -/
def LoweringScope.rename (ρ : Equiv.Perm Nat) (c : LoweringScope) : LoweringScope :=
  { c with own := ρ c.own, numbers := c.numbers.map fun p => (p.1, ρ p.2) }

@[simp] theorem LoweringScope.rename_own (ρ : Equiv.Perm Nat) (c : LoweringScope) :
    (c.rename ρ).own = ρ c.own := rfl

@[simp] theorem LoweringScope.rename_resolve (ρ : Equiv.Perm Nat) (c : LoweringScope) (p : Path) :
    (c.rename ρ).resolve p = c.resolve p := rfl

/-! ## Layer D: lowering commutes with renaming -/

private theorem mapM_of_map {ε α β γ : Type} {f : α → Except ε β} {f' : α → Except ε γ} {g : β → γ}
    (h : ∀ a, f' a = (f a).map g) (xs : List α) : xs.mapM f' = (xs.mapM f).map (List.map g) := by
  induction xs with
  | nil => rfl
  | cons a rest ih =>
    simp only [List.mapM_cons, h, ih]
    cases f a with
    | error e => rfl
    | ok b => cases rest.mapM f <;> rfl

theorem lookup_map_value {κ α β : Type} [BEq κ] (f : α → β) (k : κ) (ps : List (κ × α)) :
    (ps.map fun p => (p.1, f p.2)).lookup k = (ps.lookup k).map f := by
  induction ps with
  | nil => rfl
  | cons p rest ih =>
    obtain ⟨i, a⟩ := p
    rw [List.map_cons, List.lookup_cons, List.lookup_cons]
    cases k == i with
    | true => rfl
    | false => exact ih

namespace LoweringScope

variable (c : LoweringScope) (ρ : Equiv.Perm Nat)

theorem qualify_rename (i : LocalId) :
    (c.rename ρ).qualify i = (c.qualify i).map (Option.map (ScopedId.rename ρ)) := by
  unfold qualify
  split
  · rfl
  · simp only [rename, lookup_map_value]
    cases c.numbers.lookup i.unit <;> rfl

theorem qualify?_rename (i : Option LocalId) :
    (c.rename ρ).qualify? i = (c.qualify? i).map (Option.map (ScopedId.rename ρ)) := by
  cases i with
  | none => rfl
  | some i => exact c.qualify_rename ρ i

@[simp] theorem span_rename (raw : RawSpan) : (c.rename ρ).span raw = c.span raw := rfl

theorem definition_rename (d : RawDef) :
    (c.rename ρ).definition d =
      (c.definition d).map fun p => (p.1.rename ρ, p.2.map (LoweredRef.rename ρ)) := by
  unfold definition
  rw [span_rename, qualify?_rename, qualify?_rename,
    mapM_of_map (c.qualify_rename ρ) d.children]
  -- each part is read before and after the renaming alike, and the first fault is the same
  cases c.span d.span with
  | error e => rfl
  | ok span =>
    cases c.qualify? d.declId with
    | error e => rfl
    | ok decl =>
      cases c.qualify? d.parent with
      | error e => rfl
      | ok parent =>
        cases d.children.mapM c.qualify with
        | error e => rfl
        | ok children =>
          cases decl <;>
            simp [bind, Except.bind, Except.map, pure, Except.pure, LoweredDef.rename,
              DefRecord.rename, LoweredRef.rename, List.filterMap_map, List.map_filterMap,
              rename]

theorem reference_rename (span : RawSpan) (target : Option LocalId) :
    (c.rename ρ).reference span target =
      (c.reference span target).map (List.map (LoweredRef.rename ρ)) := by
  unfold reference
  rw [qualify?_rename, span_rename]
  split
  · rfl
  · cases c.qualify? target with
    | error e => rfl
    | ok t =>
      cases t with
      | none => rfl
      | some t => cases c.span span <;> rfl

theorem references_rename {α : Type} (span : α → RawSpan) (target : α → Option LocalId)
    (xs : List α) :
    (xs.mapM fun x => (c.rename ρ).reference (span x) (target x)) =
      (xs.mapM fun x => c.reference (span x) (target x)).map
        (List.map (List.map (LoweredRef.rename ρ))) := by
  refine mapM_of_map ?_ xs
  intro x
  exact c.reference_rename ρ (span x) (target x)

theorem implementation_rename (impls : List RawImpl) (r : RawRelation) :
    (c.rename ρ).implementation impls r =
      (c.implementation impls r).map (List.map (ImplRecord.rename ρ)) := by
  unfold implementation
  rw [qualify?_rename, qualify_rename]
  cases impls.reverse.find? fun i => i.id == r.implId with
  | none => rfl
  | some i =>
    simp only [span_rename]
    split
    · rfl
    · cases c.qualify r.selfType with
      | error e => rfl
      | ok selfType =>
        cases selfType with
        | none => rfl
        | some selfType =>
          cases c.qualify? r.traitId with
          | error e => rfl
          | ok traitId => cases c.span i.span <;> rfl

end LoweringScope

private theorem listedParents_rename (ρ : Equiv.Perm Nat) (own : Nat) (ds : List LoweredDef) :
    listedParents (ρ own) (ds.map (LoweredDef.rename ρ)) =
      (listedParents own ds).map fun p => (p.1.rename ρ, p.2.rename ρ) := by
  simp only [listedParents, List.flatMap_map, List.map_flatMap, LoweredDef.rename,
    DefRecord.rename, List.map_map]
  rfl

private theorem lookup_rename (ρ : Equiv.Perm Nat) (i : ScopedId)
    (ps : List (ScopedId × ScopedId)) :
    (ps.map fun p => (p.1.rename ρ, p.2.rename ρ)).lookup (i.rename ρ) =
      (ps.lookup i).map (ScopedId.rename ρ) := by
  induction ps with
  | nil => rfl
  | cons p rest ih =>
    obtain ⟨j, a⟩ := p
    have hkey : (i.rename ρ == j.rename ρ) = (i == j) := by
      rw [Bool.eq_iff_iff]
      simp
    rw [List.map_cons, List.lookup_cons, List.lookup_cons, hkey]
    cases i == j with
    | true => rfl
    | false => exact ih

private theorem adoptParent_rename (ρ : Equiv.Perm Nat) (own : Nat)
    (listed : List (ScopedId × ScopedId)) (d : LoweredDef) :
    adoptParent (ρ own) (listed.map fun p => (p.1.rename ρ, p.2.rename ρ)) (d.rename ρ) =
      (adoptParent own listed d).rename ρ := by
  obtain ⟨index, kind, name, qualname, span, signature, docs, parent, children⟩ := d
  cases parent with
  | some p => rfl
  | none =>
    have hlookup := lookup_rename ρ ⟨own, index⟩ listed
    simp only [adoptParent, LoweredDef.rename, DefRecord.rename, Option.map_none, ← hlookup]
    rfl

private theorem adoptParents_rename (ρ : Equiv.Perm Nat) (own : Nat) (ds : List LoweredDef) :
    (ds.map (LoweredDef.rename ρ)).map
        (adoptParent (ρ own) (listedParents (ρ own) (ds.map (LoweredDef.rename ρ)))) =
      (ds.map (adoptParent own (listedParents own ds))).map (LoweredDef.rename ρ) := by
  rw [listedParents_rename, List.map_map, List.map_map]
  refine List.map_congr_left ?_
  intro d _
  exact adoptParent_rename ρ own (listedParents own ds) d

/-- **Renumbering the namespaces of a scope renumbers the records.** -/
theorem lowerRecords_rename (ρ : Equiv.Perm Nat) (c : LoweringScope) (u : UnitId) (s : Snapshot) :
    lowerRecords (c.rename ρ) u s = (lowerRecords c u s).map (LoweredUnit.rename ρ) := by
  have hrefs := c.references_rename ρ (·.span) (fun r => some r.target) s.refs
  have himports := c.references_rename ρ (·.span) (·.target) s.imports
  unfold lowerRecords
  rw [mapM_of_map (c.definition_rename ρ), hrefs, himports,
    mapM_of_map (c.implementation_rename ρ s.impls)]
  -- the first list that cannot be lowered decides the fault, and renaming alters no fault
  cases (keptDefs [] s.defs).mapM c.definition with
  | error e => rfl
  | ok defs =>
    cases s.refs.mapM fun r => c.reference r.span (some r.target) with
    | error e => rfl
    | ok refs =>
      cases s.imports.mapM fun i => c.reference i.span i.target with
      | error e => rfl
      | ok imports =>
        cases s.relations.mapM (c.implementation s.impls) with
        | error e => rfl
        | ok impls =>
          have hdefs : (defs.map fun p => (p.1.rename ρ, p.2.map (LoweredRef.rename ρ))).map (·.1) =
              (defs.map (·.1)).map (LoweredDef.rename ρ) := by simp
          simp only [bind, Except.bind, Except.map, pure, Except.pure, LoweredUnit.rename]
          rw [hdefs, LoweringScope.rename_own, adoptParents_rename]
          simp [List.flatMap_map, List.map_flatMap, List.map_flatten]

/-- **Lowering commutes with renaming**, rejections included. -/
theorem Snapshot.lowered_rename (ρ : Equiv.Perm Nat) (s : Snapshot) (space : UnitId → Nat)
    (u : UnitId) :
    s.lowered (fun v => ρ (space v)) u = (s.lowered space u).map (LoweredUnit.rename ρ) := by
  have hscope : s.scope (fun v => ρ (space v)) u = (s.scope space u).rename ρ := by
    simp [Snapshot.scope, LoweringScope.rename]
  unfold Snapshot.lowered
  rw [hscope, lowerRecords_rename]
  cases checkNumbers [0] s.externs <;> rfl

end CodeAtlas
