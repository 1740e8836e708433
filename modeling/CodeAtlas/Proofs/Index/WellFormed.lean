import CodeAtlas.Proofs.Index.References

/-!
# Which snapshots are accepted

A snapshot is read in several passes, which skip records, drop them or reject the whole snapshot
under different conditions and stop at the first thing that is wrong. Here is what a snapshot has to
look like, said without the passes: it is accepted if and only if it looks like that. The places of
an accepted snapshot become zero-based without an underflow.

## Architecture

- **Layer A**: well-formed snapshots, and what their records become;
- **Layer B**: places;
- **Layer C**: numbers and identifiers;
- **Layer D**: definitions, references and implementations, one at a time;
- **Layer E**: whole snapshots, and the main result.
-/

namespace CodeAtlas

/-! ## Layer A: well-formed snapshots, and what their records become -/

namespace RawSpan

/-- **A fit place**: lines and columns count from one, and neither the bytes nor the lines and
columns are reversed. -/
structure Fit (p : RawSpan) : Prop where
  lineStart : 1 ≤ p.lineStart.toNat
  lineEnd : 1 ≤ p.lineEnd.toNat
  columnStart : 1 ≤ p.columnStart.toNat
  columnEnd : 1 ≤ p.columnEnd.toNat
  bytes : p.byteStart.toNat ≤ p.byteEnd.toNat
  range : p.lineStart.toNat < p.lineEnd.toNat ∨
    (p.lineStart.toNat = p.lineEnd.toNat ∧ p.columnStart.toNat ≤ p.columnEnd.toNat)

/-- **The zero-based image of a place** whose file is seen from a folder. -/
structure Image (folder : Path) (p : RawSpan) (span : Span) : Prop where
  file : span.file = (folder.join p.fileName).normalize
  bytes : span.bytes = ⟨p.byteStart, p.byteEnd⟩
  startLine : span.range.start.line.toNat + 1 = p.lineStart.toNat
  startColumn : span.range.start.character.toNat + 1 = p.columnStart.toNat
  stopLine : span.range.stop.line.toNat + 1 = p.lineEnd.toNat
  stopColumn : span.range.stop.character.toNat + 1 = p.columnEnd.toNat
  bytesForward : span.bytes.start.toNat ≤ span.bytes.stop.toNat
  rangeForward : (compare span.range.start span.range.stop).isLE

end RawSpan

/-- A definition has a place of its own and a number of the analyzed unit. Only modules may begin
and end at the first byte of a file. -/
def RawDef.Placed (d : RawDef) : Prop :=
  d.span.isSynthetic = false ∧
    (d.kind = .module ∨ ¬ (d.span.byteStart = 0 ∧ d.span.byteEnd = 0)) ∧
    d.id.isNone = false ∧ d.id.unit = 0

namespace Snapshot

/-- **A definition that is kept**: it is placed, and none before it is placed and has its number. -/
def Keeps (s : Snapshot) (d : RawDef) : Prop :=
  ∃ front back, s.defs = front ++ d :: back ∧ d.Placed ∧
    ∀ e ∈ front, e.Placed → e.id.index ≠ d.id.index

/-- A unit number stands for the analyzed unit or for an extern one. -/
def Knows (s : Snapshot) (num : UInt32) : Prop := num = 0 ∨ ∃ e ∈ s.externs, e.num = num

/-- An identifier stands for nothing, or its unit number is known. -/
def Admits (s : Snapshot) (i : LocalId) : Prop := i.isNone = true ∨ s.Knows i.unit

/-- A reference from a place points at nothing, or the unit number of its target is known and its
place is fit. -/
def Points (s : Snapshot) (p : RawSpan) (target : LocalId) : Prop :=
  target.isNone = true ∨ (s.Knows target.unit ∧ p.Fit)

/-- The implementation block that a number stands for: the last one that has it. -/
def HasImpl (s : Snapshot) (num : UInt32) (i : RawImpl) : Prop :=
  ∃ front back, s.impls = front ++ i :: back ∧ i.id = num ∧ ∀ j ∈ back, j.id ≠ num

/-- What a kept definition names is known, and its place is fit. -/
structure FitDef (s : Snapshot) (d : RawDef) : Prop where
  place : d.span.Fit
  decl : ∀ i, d.declId = some i → s.Admits i
  parent : ∀ i, d.parent = some i → s.Admits i
  children : ∀ i ∈ d.children, s.Admits i

/-- A relation to an implementation block has no type, or what it names is known and the place of
the block is fit. -/
def FitRelation (s : Snapshot) (r : RawRelation) (i : RawImpl) : Prop :=
  r.selfType.isNone = true ∨
    (s.Knows r.selfType.unit ∧ (∀ t, r.traitId = some t → s.Admits t) ∧ i.span.Fit)

/-- **A well-formed snapshot.** Records that are dropped need not be fit. -/
structure WellFormed (s : Snapshot) : Prop where
  numbers_ne_zero : ∀ e ∈ s.externs, e.num ≠ 0
  numbers_nodup : (s.externs.map (·.num)).Nodup
  defs : ∀ d, s.Keeps d → s.FitDef d
  refs : ∀ r ∈ s.refs, r.span.isSynthetic = false → s.Points r.span r.target
  imports : ∀ i ∈ s.imports, i.span.isSynthetic = false →
    ∀ target, i.target = some target → s.Points i.span target
  relations : ∀ r ∈ s.relations, ∀ i, s.HasImpl r.implId i → i.span.isSynthetic = false →
    s.FitRelation r i

/-- **What an identifier of a snapshot stands for**: its number in the namespace of the unit that
the unit number stands for. -/
def StandsFor (s : Snapshot) (space : UnitId → Nat) (u : UnitId) (i : LocalId) (j : ScopedId) :
    Prop :=
  i.isNone = false ∧ ∃ v, s.unit? u i.unit = some v ∧ j = ⟨space v, i.index⟩

/-- What an identifier that may be missing stands for, if it is there and stands for something. -/
def StandsFor? (s : Snapshot) (space : UnitId → Nat) (u : UnitId) (i? : Option LocalId)
    (j? : Option ScopedId) : Prop :=
  ∀ j, j? = some j ↔ ∃ i, i? = some i ∧ s.StandsFor space u i j

/-- **The record of a definition**: it has the number, the place and the children of the definition,
and its parent if it has one. A definition without a parent may be given one. -/
structure LoweredFrom (s : Snapshot) (space : UnitId → Nat) (u : UnitId) (d : RawDef)
    (ld : LoweredDef) : Prop where
  index : ld.index = d.id.index
  place : d.span.Image s.directory ld.record.span
  parent : ∀ i j, d.parent = some i → s.StandsFor space u i j → ld.record.parent = some j
  children : ∀ j, j ∈ ld.record.children ↔ ∃ i ∈ d.children, s.StandsFor space u i j

/-- **The record of a relation**: it has the place of the block that the relation names, and what
the identifiers of the relation stand for. -/
structure LoweredImpl (s : Snapshot) (space : UnitId → Nat) (u : UnitId) (r : RawRelation)
    (i : RawImpl) (record : ImplRecord) : Prop where
  block : s.HasImpl r.implId i
  placed : i.span.isSynthetic = false
  selfType : s.StandsFor space u r.selfType record.selfType
  traitId : s.StandsFor? space u r.traitId record.traitId
  place : i.span.Image s.directory record.span

end Snapshot

/-! ## Layer B: places -/

private theorem toNat_pred {n : UInt32} (h : 1 ≤ n.toNat) : (n - 1).toNat + 1 = n.toNat := by
  have hle : (1 : UInt32) ≤ n := UInt32.le_iff_toNat_le.2 (by simpa using h)
  rw [UInt32.toNat_sub_of_le n 1 hle]
  show n.toNat - 1 + 1 = n.toNat
  omega

namespace RawSpan

variable {p : RawSpan} {folder : Path}

/-- The image of a place, if it has one. -/
def zeroBased (folder : Path) (p : RawSpan) : Span :=
  ⟨(folder.join p.fileName).normalize, ⟨p.byteStart, p.byteEnd⟩,
    ⟨⟨p.lineStart - 1, p.columnStart - 1⟩, ⟨p.lineEnd - 1, p.columnEnd - 1⟩⟩⟩

/-- A place has one image. -/
theorem Image.unique {folder : Path} {p : RawSpan} {span span' : Span} (h : p.Image folder span)
    (h' : p.Image folder span') : span = span' := by
  obtain ⟨file, bytes, ⟨⟨l, c⟩, ⟨l', c'⟩⟩⟩ := span
  obtain ⟨file', bytes', ⟨⟨k, d⟩, ⟨k', d'⟩⟩⟩ := span'
  obtain rfl : file = file' := h.file.trans h'.file.symm
  obtain rfl : bytes = bytes' := h.bytes.trans h'.bytes.symm
  obtain rfl : l = k := UInt32.toNat_inj.1 (Nat.succ.inj (h.startLine.trans h'.startLine.symm))
  obtain rfl : c = d := UInt32.toNat_inj.1 (Nat.succ.inj (h.startColumn.trans h'.startColumn.symm))
  obtain rfl : l' = k' := UInt32.toNat_inj.1 (Nat.succ.inj (h.stopLine.trans h'.stopLine.symm))
  obtain rfl : c' = d' := UInt32.toNat_inj.1 (Nat.succ.inj (h.stopColumn.trans h'.stopColumn.symm))
  rfl

/-- The zero-based positions are in the order of the one-based ones. -/
private theorem zeroBased_forward_iff (folder : Path) (hl : 1 ≤ p.lineStart.toNat)
    (hl' : 1 ≤ p.lineEnd.toNat) (hc : 1 ≤ p.columnStart.toNat) (hc' : 1 ≤ p.columnEnd.toNat) :
    (compare (p.zeroBased folder).range.start (p.zeroBased folder).range.stop).isLE ↔
      p.lineStart.toNat < p.lineEnd.toNat ∨
        (p.lineStart.toNat = p.lineEnd.toNat ∧ p.columnStart.toNat ≤ p.columnEnd.toNat) := by
  rw [Position.isLE_iff, UInt32.lt_iff_toNat_lt, ← UInt32.toNat_inj, UInt32.le_iff_toNat_le]
  show (p.lineStart - 1).toNat < (p.lineEnd - 1).toNat ∨
    (p.lineStart - 1).toNat = (p.lineEnd - 1).toNat ∧
      (p.columnStart - 1).toNat ≤ (p.columnEnd - 1).toNat ↔ _
  have := toNat_pred hl
  have := toNat_pred hl'
  have := toNat_pred hc
  have := toNat_pred hc'
  omega

/-- **A fit place has an image**: nothing is taken from zero. -/
theorem Fit.image (h : p.Fit) (folder : Path) : p.Image folder (p.zeroBased folder) where
  file := rfl
  bytes := rfl
  startLine := toNat_pred h.lineStart
  startColumn := toNat_pred h.columnStart
  stopLine := toNat_pred h.lineEnd
  stopColumn := toNat_pred h.columnEnd
  bytesForward := h.bytes
  rangeForward :=
    (zeroBased_forward_iff folder h.lineStart h.lineEnd h.columnStart h.columnEnd).2 h.range

/-- Only fit places have an image. -/
theorem Image.fit {span : Span} (h : p.Image folder span) : p.Fit := by
  have hstart := h.startLine
  have hstop := h.stopLine
  have hcolumn := h.startColumn
  have hcolumn' := h.stopColumn
  have hbytes := h.bytesForward
  have hforward := h.rangeForward
  rw [h.bytes] at hbytes
  rw [Position.isLE_iff, UInt32.lt_iff_toNat_lt, ← UInt32.toNat_inj, UInt32.le_iff_toNat_le]
    at hforward
  exact ⟨by omega, by omega, by omega, by omega, hbytes, by omega⟩

end RawSpan

namespace LoweringScope

variable {c : LoweringScope} {p : RawSpan} {span : Span}

theorem resolve_eq (c : LoweringScope) (file : Path) :
    c.resolve file = (c.directory.join file).normalize := by
  unfold resolve Path.join
  split
  · rfl
  · rfl

/-- **A place is lowered** to its zero-based image, if it has one. -/
theorem span_eq_ok_iff : c.span p = .ok span ↔ p.Image c.directory span := by
  have hone : ∀ n : UInt32, n = 0 ↔ ¬ 1 ≤ n.toNat := by
    intro n
    rw [← UInt32.toNat_inj]
    show n.toNat = 0 ↔ _
    omega
  -- the checks in their order; each one that fails contradicts a part of being fit
  unfold LoweringScope.span
  simp only [Bool.or_eq_true, beq_iff_eq, hone]
  split
  · rename_i hbad
    refine iff_of_false (by simp) fun h => ?_
    have := h.fit.lineStart
    have := h.fit.lineEnd
    have := h.fit.columnStart
    have := h.fit.columnEnd
    omega
  · rename_i hgood
    simp only [not_or, not_not] at hgood
    obtain ⟨⟨⟨hl, hl'⟩, hc⟩, hc'⟩ := hgood
    split
    · rename_i hbytes
      rw [UInt32.lt_iff_toNat_lt] at hbytes
      exact iff_of_false (by simp) fun h => Nat.not_lt.2 h.fit.bytes hbytes
    · rename_i hbytes
      rw [UInt32.lt_iff_toNat_lt, Nat.not_lt] at hbytes
      have hle_iff : Position.le ⟨p.lineStart - 1, p.columnStart - 1⟩
          ⟨p.lineEnd - 1, p.columnEnd - 1⟩ = true ↔
          (compare (p.zeroBased c.directory).range.start
            (p.zeroBased c.directory).range.stop).isLE := by
        rw [Position.le, bne_iff_ne, Ordering.isLE_iff_ne_gt]
        rfl
      rw [RawSpan.zeroBased_forward_iff c.directory hl hl' hc hc'] at hle_iff
      split
      · rename_i hle
        have hfit : p.Fit := ⟨hl, hl', hc, hc', hbytes, hle_iff.1 hle⟩
        rw [Except.ok.injEq, c.resolve_eq]
        constructor
        · rintro rfl
          exact hfit.image c.directory
        · exact (hfit.image c.directory).unique
      · rename_i hle
        exact iff_of_false (by simp) fun h => hle (hle_iff.2 h.fit.range)

theorem span_isOk_iff (c : LoweringScope) : (∃ span, c.span p = .ok span) ↔ p.Fit := by
  constructor
  · rintro ⟨span, h⟩
    exact (span_eq_ok_iff.1 h).fit
  · intro h
    exact ⟨p.zeroBased c.directory, span_eq_ok_iff.2 (h.image c.directory)⟩

end LoweringScope

/-! ## Layer C: numbers and identifiers -/

/-- **Numbers are accepted** if none is reserved and none is given twice. -/
theorem checkNumbers_eq_ok_iff {known : List UInt32} {es : List ExternUnit} :
    checkNumbers known es = .ok () ↔
      (∀ e ∈ es, e.num ≠ 0) ∧ (es.map (·.num)).Nodup ∧ ∀ e ∈ es, e.num ∉ known := by
  induction es generalizing known with
  | nil => simp [checkNumbers]
  | cons e rest ih =>
    unfold checkNumbers
    by_cases hzero : e.num = 0
    · simp [hzero]
    by_cases hknown : e.num ∈ known
    · simp [hzero, hknown]
    · -- the number counts as known from here on
      have hfresh : ∀ f : ExternUnit, f.num ∉ known ++ [e.num] ↔ f.num ∉ known ∧ f.num ≠ e.num := by
        intro f
        rw [List.mem_append, List.mem_singleton, not_or]
      simp only [beq_iff_eq, hzero, if_false, List.contains_iff_mem, hknown, ih, hfresh,
        List.forall_mem_cons, List.map_cons, List.nodup_cons, List.mem_map, not_exists, not_and,
        ne_eq, not_false_eq_true, true_and]
      constructor
      · rintro ⟨hne, hnodup, hall⟩
        exact ⟨hne, ⟨fun f hf => (hall f hf).2, hnodup⟩, fun f hf => (hall f hf).1⟩
      · rintro ⟨hne, ⟨hother, hnodup⟩, hall⟩
        exact ⟨hne, hnodup, fun f hf => ⟨hall f hf, hother f hf⟩⟩

/-- A traversal succeeds if its function does for every element. -/
theorem mapM_isOk_iff {ε α β : Type} {f : α → Except ε β} {xs : List α} :
    (∃ ys, xs.mapM f = .ok ys) ↔ ∀ x ∈ xs, ∃ y, f x = .ok y := by
  induction xs with
  | nil => simp [pure, Except.pure]
  | cons x rest ih =>
    simp only [List.mapM_cons, bind_eq_ok_iff, List.forall_mem_cons, ← ih]
    constructor
    · rintro ⟨-, y, hy, ys, hys, -⟩
      exact ⟨⟨y, hy⟩, ys, hys⟩
    · rintro ⟨⟨y, hy⟩, ys, hys⟩
      exact ⟨y :: ys, y, hy, ys, hys, rfl⟩

namespace Snapshot

variable {s : Snapshot} {space : UnitId → Nat} {u : UnitId} {l : LoweredUnit}

/-- The numbers of the scope are those the snapshot knows. -/
theorem knows_iff (space : UnitId → Nat) (u : UnitId) {num : UInt32} :
    s.Knows num ↔ ∃ n, (s.scope space u).numbers.lookup num = some n := by
  rw [← Option.isSome_iff_exists, List.lookup_isSome_iff]
  constructor
  · rintro (rfl | ⟨e, he, rfl⟩)
    · exact ⟨(0, space u), List.mem_cons_self .., by simp⟩
    · exact ⟨(e.num, space e.unit),
        List.mem_cons_of_mem _ (List.mem_map.2 ⟨e, he, rfl⟩), by simp⟩
  · rintro ⟨p, hp, hnum⟩
    obtain rfl : num = p.1 := by simpa using hnum
    rcases List.mem_cons.1 hp with rfl | hp
    · exact Or.inl rfl
    · obtain ⟨e, he, rfl⟩ := List.mem_map.1 hp
      exact Or.inr ⟨e, he, rfl⟩

theorem qualify_eq_none_iff {i : LocalId} :
    (s.scope space u).qualify i = .ok none ↔ i.isNone = true := by
  unfold LoweringScope.qualify
  split
  · rename_i hnone
    exact iff_of_true rfl hnone
  · rename_i hsome
    refine iff_of_false ?_ hsome
    cases (s.scope space u).numbers.lookup i.unit <;> simp

/-- An identifier is qualified to something if it stands for something whose unit is known. -/
theorem qualify_isSome_iff {i : LocalId} :
    (∃ j, (s.scope space u).qualify i = .ok (some j)) ↔ i.isNone = false ∧ s.Knows i.unit := by
  rw [knows_iff space u]
  unfold LoweringScope.qualify
  split
  · rename_i hnone
    simp [hnone]
  · rename_i hsome
    cases (s.scope space u).numbers.lookup i.unit <;> simp [hsome]

theorem qualify_isOk_iff (space : UnitId → Nat) (u : UnitId) {i : LocalId} :
    (∃ j?, (s.scope space u).qualify i = .ok j?) ↔ s.Admits i := by
  constructor
  · rintro ⟨_ | j, h⟩
    · exact Or.inl (qualify_eq_none_iff.1 h)
    · exact Or.inr (qualify_isSome_iff.1 ⟨j, h⟩).2
  · intro h
    cases hnone : i.isNone with
    | true => exact ⟨none, qualify_eq_none_iff.2 hnone⟩
    | false =>
      have hknown : s.Knows i.unit := h.resolve_left (by simp [hnone])
      obtain ⟨j, hj⟩ := qualify_isSome_iff.2 ⟨hnone, hknown⟩
      exact ⟨some j, hj⟩

/-- What follows on an identifier is done only if the identifier stands for something. -/
theorem bind_qualify_isOk_iff {β : Type} {i : LocalId} {P : Prop}
    {f : Option ScopedId → Except IndexFault β} (hnone : ∃ b, f none = .ok b)
    (hsome : ∀ j, (∃ b, f (some j) = .ok b) ↔ P) :
    (∃ b, ((s.scope space u).qualify i >>= f) = .ok b) ↔
      i.isNone = true ∨ (s.Knows i.unit ∧ P) := by
  simp only [bind_eq_ok_iff]
  constructor
  · rintro ⟨b, _ | j, hj, hb⟩
    · exact Or.inl (qualify_eq_none_iff.1 hj)
    · exact Or.inr ⟨(qualify_isSome_iff.1 ⟨j, hj⟩).2, (hsome j).1 ⟨b, hb⟩⟩
  · intro h
    -- the identifier stands for nothing, or for an item of a unit that is known
    cases hi : i.isNone with
    | true =>
      obtain ⟨b, hb⟩ := hnone
      exact ⟨b, none, qualify_eq_none_iff.2 hi, hb⟩
    | false =>
      obtain ⟨hknown, hP⟩ := h.resolve_left (by simp [hi])
      obtain ⟨j, hj⟩ := qualify_isSome_iff.2 ⟨hi, hknown⟩
      obtain ⟨b, hb⟩ := (hsome j).2 hP
      exact ⟨b, some j, hj, hb⟩

theorem qualify?_isOk_iff (space : UnitId → Nat) (u : UnitId) {i? : Option LocalId} :
    (∃ j?, (s.scope space u).qualify? i? = .ok j?) ↔ ∀ i, i? = some i → s.Admits i := by
  cases i? with
  | none => simp [LoweringScope.qualify?]
  | some i =>
    rw [LoweringScope.qualify?, qualify_isOk_iff space u]
    simp

/-! ## Layer D: one record at a time -/

theorem definition_isOk_iff (space : UnitId → Nat) (u : UnitId) {d : RawDef} :
    (∃ ld, (s.scope space u).definition d = .ok ld) ↔ s.FitDef d := by
  unfold LoweringScope.definition
  simp only [bind_eq_ok_iff]
  constructor
  · rintro ⟨ld, span, hspan, decl, hdecl, parent, hparent, children, hchildren, -⟩
    exact
      { place := (LoweringScope.span_isOk_iff _).1 ⟨span, hspan⟩
        decl := (qualify?_isOk_iff space u).1 ⟨decl, hdecl⟩
        parent := (qualify?_isOk_iff space u).1 ⟨parent, hparent⟩
        children := fun i hi =>
          (qualify_isOk_iff space u).1 (mapM_isOk_iff.1 ⟨children, hchildren⟩ i hi) }
  · intro h
    obtain ⟨span, hspan⟩ := (LoweringScope.span_isOk_iff (s.scope space u)).2 h.place
    obtain ⟨decl, hdecl⟩ := (qualify?_isOk_iff space u).2 h.decl
    obtain ⟨parent, hparent⟩ := (qualify?_isOk_iff space u).2 h.parent
    obtain ⟨children, hchildren⟩ := mapM_isOk_iff.2 fun i hi =>
      (qualify_isOk_iff space u).2 (h.children i hi)
    exact ⟨_, span, hspan, decl, hdecl, parent, hparent, children, hchildren, rfl⟩

theorem reference_isOk_iff (space : UnitId → Nat) (u : UnitId) {p : RawSpan}
    {target? : Option LocalId} :
    (∃ refs, (s.scope space u).reference p target? = .ok refs) ↔
      (p.isSynthetic = false → ∀ target, target? = some target → s.Points p target) := by
  unfold LoweringScope.reference
  cases p.isSynthetic with
  | true => simp
  | false =>
    cases target? with
    | none => exact iff_of_true ⟨[], rfl⟩ (by simp)
    | some target =>
      simp only [Bool.false_eq_true, if_false, forall_const, Option.some.injEq, forall_eq']
      -- what follows on the target is reading the place, whatever the target is
      apply bind_qualify_isOk_iff ⟨[], rfl⟩
      intro j
      rw [← LoweringScope.span_isOk_iff (s.scope space u)]
      simp only [bind_eq_ok_iff]
      constructor
      · rintro ⟨-, span, hspan, -⟩
        exact ⟨span, hspan⟩
      · rintro ⟨span, hspan⟩
        exact ⟨_, span, hspan, rfl⟩

/-- The last block with a number is the one that is found. -/
theorem hasImpl_iff {num : UInt32} {i : RawImpl} :
    s.HasImpl num i ↔ s.impls.reverse.find? (fun i => i.id == num) = some i := by
  rw [List.find?_eq_some_iff_append]
  constructor
  · rintro ⟨front, back, hsplit, hi, hback⟩
    refine ⟨by simpa using hi, back.reverse, front.reverse, by simp [hsplit], ?_⟩
    intro j hj
    simpa using hback j (List.mem_reverse.1 hj)
  · rintro ⟨hi, front, back, hsplit, hfront⟩
    refine ⟨back.reverse, front.reverse, ?_, by simpa using hi, ?_⟩
    · rw [← s.impls.reverse_reverse, hsplit]
      simp
    · intro j hj
      simpa using hfront j (List.mem_reverse.1 hj)

theorem implementation_isOk_iff (space : UnitId → Nat) (u : UnitId) {r : RawRelation} :
    (∃ impls, (s.scope space u).implementation s.impls r = .ok impls) ↔
      ∀ i, s.HasImpl r.implId i → i.span.isSynthetic = false → s.FitRelation r i := by
  simp only [hasImpl_iff]
  unfold LoweringScope.implementation
  cases s.impls.reverse.find? fun i => i.id == r.implId with
  | none => simp
  | some i =>
    simp only [Option.some.injEq, forall_eq']
    cases i.span.isSynthetic with
    | true => simp
    | false =>
      simp only [Bool.false_eq_true, if_false, forall_const]
      -- a block of a type that stands for nothing is left out, which is no fault
      apply bind_qualify_isOk_iff ⟨[], rfl⟩
      intro j
      simp only [bind_eq_ok_iff]
      constructor
      · rintro ⟨-, traitId, htrait, span, hspan, -⟩
        exact ⟨(qualify?_isOk_iff space u).1 ⟨traitId, htrait⟩,
          (LoweringScope.span_isOk_iff _).1 ⟨span, hspan⟩⟩
      · rintro ⟨htrait, hfit⟩
        obtain ⟨traitId, htrait⟩ := (qualify?_isOk_iff space u).2 htrait
        obtain ⟨span, hspan⟩ := (LoweringScope.span_isOk_iff (s.scope space u)).2 hfit
        exact ⟨_, traitId, htrait, span, hspan, rfl⟩

end Snapshot

/-! ## Layer E: whole snapshots -/

theorem RawDef.isPlaced_iff {d : RawDef} : d.isPlaced = true ↔ d.Placed := by
  unfold RawDef.isPlaced RawDef.Placed
  simp only [Bool.and_eq_true, Bool.not_eq_true', beq_iff_eq, bne_iff_ne, and_assoc,
    ne_eq, Bool.eq_false_iff]
  tauto

private theorem mem_keptDefs_from_iff {seen : List UInt32} {ds : List RawDef} {d : RawDef} :
    d ∈ keptDefs seen ds ↔ ∃ front back, ds = front ++ d :: back ∧ d.Placed ∧
      d.id.index ∉ seen ∧ ∀ e ∈ front, e.Placed → e.id.index ≠ d.id.index := by
  induction ds generalizing seen with
  | nil => simp [keptDefs]
  | cons e rest ih =>
    have hkeep : (e.isPlaced && !seen.contains e.id.index) = true ↔
        e.Placed ∧ e.id.index ∉ seen := by
      simp [RawDef.isPlaced_iff]
    unfold keptDefs
    split
    · rename_i h
      obtain ⟨hplaced, hfresh⟩ := hkeep.1 h
      rw [List.mem_cons, ih]
      constructor
      · rintro (rfl | ⟨front, back, rfl, hd, hseen, hfirst⟩)
        · exact ⟨[], rest, rfl, hplaced, hfresh, by simp⟩
        · obtain ⟨hne, hseen⟩ := not_or.1 (mt List.mem_cons.2 hseen)
          exact ⟨e :: front, back, rfl, hd, hseen,
            List.forall_mem_cons.2 ⟨fun _ => Ne.symm hne, hfirst⟩⟩
      · rintro ⟨_ | ⟨e', front⟩, back, hsplit, hd, hseen, hfirst⟩
        · exact Or.inl (List.cons.inj hsplit).1.symm
        · obtain ⟨rfl, rfl⟩ := List.cons.inj hsplit
          obtain ⟨hne, hfirst⟩ := List.forall_mem_cons.1 hfirst
          refine Or.inr ⟨front, back, rfl, hd, ?_, hfirst⟩
          exact mt List.mem_cons.1 (not_or.2 ⟨Ne.symm (hne hplaced), hseen⟩)
    · rename_i h
      rw [ih]
      constructor
      · rintro ⟨front, back, rfl, hd, hseen, hfirst⟩
        refine ⟨e :: front, back, rfl, hd, hseen, List.forall_mem_cons.2 ⟨?_, hfirst⟩⟩
        -- a placed definition that is not kept has a number that was seen
        intro hplaced heq
        exact h (hkeep.2 ⟨hplaced, heq ▸ hseen⟩)
      · rintro ⟨_ | ⟨e', front⟩, back, hsplit, hd, hseen, hfirst⟩
        · obtain ⟨rfl, rfl⟩ := List.cons.inj hsplit
          exact absurd (hkeep.2 ⟨hd, hseen⟩) h
        · obtain ⟨rfl, rfl⟩ := List.cons.inj hsplit
          exact ⟨front, back, rfl, hd, hseen, (List.forall_mem_cons.1 hfirst).2⟩

namespace Snapshot

variable {s : Snapshot} {space : UnitId → Nat} {u : UnitId} {l : LoweredUnit}

theorem mem_keptDefs_iff {d : RawDef} : d ∈ keptDefs [] s.defs ↔ s.Keeps d := by
  rw [mem_keptDefs_from_iff]
  simp [Keeps]

/-- **Well-formed snapshots are lowered, and no others**, whatever numbers the units have. -/
theorem lowered_isOk_iff : (∃ l, s.lowered space u = .ok l) ↔ s.WellFormed := by
  simp only [lowered_eq_ok_iff]
  constructor
  · rintro ⟨-, hnumbers, defs, refs, imports, impls, hdefs, hrefs, himports, himpls, -⟩
    obtain ⟨hzero, hnodup, -⟩ := checkNumbers_eq_ok_iff.1 hnumbers
    exact
      { numbers_ne_zero := hzero
        numbers_nodup := hnodup
        defs := fun d hd =>
          (definition_isOk_iff space u).1 (mapM_isOk_iff.1 ⟨defs, hdefs⟩ d (mem_keptDefs_iff.2 hd))
        refs := fun r hr hplace =>
          (reference_isOk_iff space u).1 (mapM_isOk_iff.1 ⟨refs, hrefs⟩ r hr) hplace r.target rfl
        imports := fun i hi =>
          (reference_isOk_iff space u).1 (mapM_isOk_iff.1 ⟨imports, himports⟩ i hi)
        relations := fun r hr =>
          (implementation_isOk_iff space u).1 (mapM_isOk_iff.1 ⟨impls, himpls⟩ r hr) }
  · intro h
    have hnumbers : checkNumbers [0] s.externs = .ok () :=
      checkNumbers_eq_ok_iff.2 ⟨h.numbers_ne_zero, h.numbers_nodup, fun e he =>
        mt List.mem_singleton.1 (h.numbers_ne_zero e he)⟩
    obtain ⟨defs, hdefs⟩ := mapM_isOk_iff.2 fun d hd =>
      (definition_isOk_iff space u).2 (h.defs d (mem_keptDefs_iff.1 hd))
    -- references are asked for with a target, imports with or without one
    have hwritten : ∀ r ∈ s.refs, ∃ refs,
        (s.scope space u).reference r.span (some r.target) = .ok refs := by
      intro r hr
      apply (reference_isOk_iff space u).2
      rintro hplace _ ⟨rfl⟩
      exact h.refs r hr hplace
    obtain ⟨refs, hrefs⟩ := mapM_isOk_iff.2 hwritten
    obtain ⟨imports, himports⟩ := mapM_isOk_iff.2 fun i hi =>
      (reference_isOk_iff space u).2 (h.imports i hi)
    obtain ⟨impls, himpls⟩ := mapM_isOk_iff.2 fun r hr =>
      (implementation_isOk_iff space u).2 (h.relations r hr)
    exact ⟨_, hnumbers, defs, refs, imports, impls, hdefs, hrefs, himports, himpls, rfl⟩

theorem qualify_eq_some_iff {i : LocalId} {j : ScopedId} :
    (s.scope space u).qualify i = .ok (some j) ↔ s.StandsFor space u i j := by
  unfold LoweringScope.qualify StandsFor
  cases i.isNone with
  | true => simp
  | false =>
    rw [lookup_numbers]
    cases s.unit? u i.unit with
    | none => simp
    | some v => simp [eq_comm]

theorem loweredFrom_of_definition {d : RawDef} {ld : LoweredDef × List LoweredRef}
    (h : (s.scope space u).definition d = .ok ld) : s.LoweredFrom space u d ld.1 := by
  unfold LoweringScope.definition at h
  -- a definition was lowered, so all of its parts were
  obtain ⟨span, hspan, h⟩ := bind_ok h
  obtain ⟨decl, -, h⟩ := bind_ok h
  obtain ⟨parent, hparent, h⟩ := bind_ok h
  obtain ⟨children, hchildren, h⟩ := bind_ok h
  obtain rfl := Except.ok.inj h
  refine ⟨rfl, LoweringScope.span_eq_ok_iff.1 hspan, ?_, ?_⟩
  · intro i j hi hj
    rw [hi] at hparent
    exact Except.ok.inj (hparent.symm.trans (qualify_eq_some_iff.2 hj))
  · intro j
    show j ∈ children.filterMap id ↔ _
    simp only [List.mem_filterMap, id_eq, exists_eq_right, (mapM_ok hchildren).1,
      qualify_eq_some_iff]

/-- A parent is given to definitions only that have none. -/
theorem LoweredFrom.adopted {d : RawDef} {ld : LoweredDef} (h : s.LoweredFrom space u d ld)
    (own : Nat) (listed : List (ScopedId × ScopedId)) :
    s.LoweredFrom space u d (adoptParent own listed ld) := by
  cases hparent : ld.record.parent with
  | some p =>
    have hsame : adoptParent own listed ld = ld := by simp [adoptParent, hparent]
    rwa [hsame]
  | none =>
    have hadopted : adoptParent own listed ld =
        { ld with record := { ld.record with parent := listed.lookup ⟨own, ld.index⟩ } } := by
      simp [adoptParent, hparent]
    rw [hadopted]
    refine ⟨h.index, h.place, ?_, h.children⟩
    intro i j hi hj
    -- a parent that the snapshot gives is kept, so this case does not come up
    rw [h.parent i j hi hj] at hparent
    cases hparent

/-- **The lowered definitions are the kept ones**, one after the other. -/
theorem defs_of_lowered (h : s.lowered space u = .ok l) :
    List.Forall₂ (s.LoweredFrom space u) (keptDefs [] s.defs) l.defs := by
  obtain ⟨-, defs, -, -, -, hdefs, -, -, -, rfl⟩ := lowered_eq_ok_iff.1 h
  rw [List.forall₂_map_right_iff, List.forall₂_map_right_iff]
  refine (forall₂_of_mapM hdefs).imp ?_
  intro d ld hd
  exact (loweredFrom_of_definition hd).adopted _ _

/-- A lowered definition is the record of a kept one. -/
theorem exists_keeps_of_mem (h : s.lowered space u = .ok l) {ld : LoweredDef} (hld : ld ∈ l.defs) :
    ∃ d, s.Keeps d ∧ s.LoweredFrom space u d ld := by
  have hpairs := defs_of_lowered h
  obtain ⟨i, hi, rfl⟩ := List.mem_iff_getElem.1 hld
  have hi' : i < (keptDefs [] s.defs).length := by
    rwa [hpairs.length_eq]
  exact ⟨_, mem_keptDefs_iff.1 (List.getElem_mem hi'), hpairs.get hi' hi⟩

theorem standsFor?_of_qualify? {i? : Option LocalId} {j? : Option ScopedId}
    (h : (s.scope space u).qualify? i? = .ok j?) : s.StandsFor? space u i? j? := by
  intro j
  cases i? with
  | none =>
    obtain rfl := Except.ok.inj h
    simp
  | some i =>
    change (s.scope space u).qualify i = .ok j? at h
    simp only [Option.some.injEq, exists_eq_left', ← qualify_eq_some_iff, h, Except.ok.injEq]

theorem StandsFor?.unique {i? : Option LocalId} {j? k? : Option ScopedId}
    (hj : s.StandsFor? space u i? j?) (hk : s.StandsFor? space u i? k?) : j? = k? :=
  Option.ext fun j => (hj j).trans (hk j).symm

/-- A number stands for one implementation block. -/
theorem HasImpl.unique {num : UInt32} {i j : RawImpl} (hi : s.HasImpl num i)
    (hj : s.HasImpl num j) : i = j :=
  Option.some.inj ((hasImpl_iff.1 hi).symm.trans (hasImpl_iff.1 hj))

/-- An identifier stands for one thing. -/
theorem StandsFor.unique {i : LocalId} {j k : ScopedId} (hj : s.StandsFor space u i j)
    (hk : s.StandsFor space u i k) : j = k :=
  Option.some.inj (Except.ok.inj
    ((qualify_eq_some_iff.2 hj).symm.trans (qualify_eq_some_iff.2 hk)))

/-- A relation has one record. -/
theorem LoweredImpl.unique {r : RawRelation} {i j : RawImpl} {record record' : ImplRecord}
    (h : s.LoweredImpl space u r i record) (h' : s.LoweredImpl space u r j record') :
    record = record' := by
  obtain rfl : i = j := h.block.unique h'.block
  obtain ⟨span, selfType, traitId⟩ := record
  obtain ⟨span', selfType', traitId'⟩ := record'
  obtain rfl : selfType = selfType' := h.selfType.unique h'.selfType
  obtain rfl : traitId = traitId' := h.traitId.unique h'.traitId
  obtain rfl : span = span' := h.place.unique h'.place
  rfl

/-- A relation is lowered to its record, if its block has a place and its type stands for
something. -/
theorem mem_implementation_iff {r : RawRelation} {records : List ImplRecord}
    (h : (s.scope space u).implementation s.impls r = .ok records) {record : ImplRecord} :
    record ∈ records ↔ ∃ i, s.LoweredImpl space u r i record := by
  unfold LoweringScope.implementation at h
  cases hfind : s.impls.reverse.find? fun i => i.id == r.implId with
  | none =>
    rw [hfind] at h
    obtain rfl := Except.ok.inj h
    refine iff_of_false List.not_mem_nil ?_
    rintro ⟨i, hi⟩
    simp [hasImpl_iff.1 hi.block] at hfind
  | some i =>
    have hblock : s.HasImpl r.implId i := hasImpl_iff.2 hfind
    rw [hfind] at h
    simp only at h
    split at h
    · rename_i hsynthetic
      obtain rfl := Except.ok.inj h
      refine iff_of_false List.not_mem_nil ?_
      rintro ⟨j, hj⟩
      obtain rfl := hj.block.unique hblock
      simp [hj.placed] at hsynthetic
    · rename_i hplaced
      rw [Bool.not_eq_true] at hplaced
      obtain ⟨selfType?, hself, h⟩ := bind_ok h
      cases selfType? with
      | none =>
        obtain rfl := Except.ok.inj h
        refine iff_of_false List.not_mem_nil ?_
        rintro ⟨j, hj⟩
        rw [qualify_eq_some_iff.2 hj.selfType] at hself
        cases hself
      | some selfType =>
        obtain ⟨traitId, htrait, h⟩ := bind_ok h
        obtain ⟨span, hspan, h⟩ := bind_ok h
        obtain rfl := Except.ok.inj h
        have hmade : s.LoweredImpl space u r i ⟨span, selfType, traitId⟩ :=
          ⟨hblock, hplaced, qualify_eq_some_iff.1 hself, standsFor?_of_qualify? htrait,
            LoweringScope.span_eq_ok_iff.1 hspan⟩
        rw [List.mem_singleton]
        constructor
        · rintro rfl
          exact ⟨i, hmade⟩
        · rintro ⟨j, hj⟩
          exact hj.unique hmade

/-- **The lowered blocks are those the relations ask for.** -/
theorem mem_impls_iff (h : s.lowered space u = .ok l) {record : ImplRecord} :
    record ∈ l.impls ↔ ∃ r ∈ s.relations, ∃ i, s.LoweredImpl space u r i record := by
  obtain ⟨-, -, -, -, impls, -, -, -, himpls, rfl⟩ := lowered_eq_ok_iff.1 h
  obtain ⟨hmem, hall⟩ := mapM_ok himpls
  simp only [List.mem_flatten, hmem]
  constructor
  · rintro ⟨records, ⟨r, hr, hrecords⟩, hrecord⟩
    exact ⟨r, hr, (mem_implementation_iff hrecords).1 hrecord⟩
  · rintro ⟨r, hr, hrecord⟩
    obtain ⟨records, hrecords⟩ := hall r hr
    exact ⟨records, ⟨r, hr, hrecords⟩, (mem_implementation_iff hrecords).2 hrecord⟩

end Snapshot

/-- **A snapshot is accepted if and only if it is well-formed**, whatever was seen before. The
records of an accepted snapshot have the zero-based images of the places in it, and name what the
identifiers in it stand for:
- the definitions are the kept ones, one after the other;
- the references are those of the snapshot that point at something;
- the implementation blocks are those that the relations ask for. -/
theorem lower_accepts_wellFormed (names : Namespaces) (u : UnitId) (s : Snapshot) :
    let space := (lower names u s).1.space
    ((∃ l, (lower names u s).2 = .ok l) ↔ s.WellFormed) ∧
    ∀ l, (lower names u s).2 = .ok l →
      List.Forall₂ (s.LoweredFrom space u) (keptDefs [] s.defs) l.defs ∧
      (∀ d, d ∈ keptDefs [] s.defs ↔ s.Keeps d) ∧
      (∀ r, r ∈ l.refs ↔ ∃ place target, s.Refers place target ∧
        s.StandsFor space u target r.target ∧ place.Image s.directory r.span) ∧
      (∀ record, record ∈ l.impls ↔
        ∃ r ∈ s.relations, ∃ i, s.LoweredImpl space u r i record) := by
  intro space
  rw [lower_snd]
  refine ⟨Snapshot.lowered_isOk_iff, ?_⟩
  intro l hl
  refine ⟨Snapshot.defs_of_lowered hl, fun d => Snapshot.mem_keptDefs_iff, ?_,
    fun record => Snapshot.mem_impls_iff hl⟩
  rintro ⟨target, span⟩
  rw [Snapshot.mem_refs_iff hl]
  simp only [Snapshot.qualify_eq_some_iff, LoweringScope.span_eq_ok_iff]
  rfl

/-- A program that refers to a function of a unit and implements a trait of it. -/
def implementingProgram : Snapshot :=
  { Snapshot.empty with
    directory := ⟨"/w"⟩
    externs := [⟨1, .lib "core"⟩]
    defs := [⟨.struct, ⟨0, 1⟩, ⟨⟨"main.rs"⟩, 4, 8, 1, 1, 5, 9⟩, "Unit", "Unit", none, "", none, [],
      none⟩]
    refs := [⟨.function, ⟨⟨"main.rs"⟩, 20, 24, 2, 2, 1, 5⟩, ⟨1, 4⟩⟩]
    impls := [⟨0, .direct, ⟨⟨"main.rs"⟩, 30, 40, 3, 3, 1, 11⟩⟩]
    relations := [⟨0, ⟨0, 1⟩, some ⟨1, 7⟩⟩] }

/-- The program is accepted, so it is well-formed. Its definition, its reference and its
implementation block have the records that they ask for. -/
theorem implementingProgram_is_lowered :
    let app : UnitId := .lib "app"
    let space := (lower ⟨[]⟩ app implementingProgram).1.space
    implementingProgram.WellFormed ∧
      ∃ d r record, (lower ⟨[]⟩ app implementingProgram).2 =
          .ok ⟨app, space app, [d], [r], [record], []⟩ ∧
        List.Forall₂ (implementingProgram.LoweredFrom space app) implementingProgram.defs [d] ∧
        (∃ place target, implementingProgram.Refers place target ∧
          implementingProgram.StandsFor space app target r.target ∧ place.Image ⟨"/w"⟩ r.span) ∧
        ∃ i ∈ implementingProgram.impls,
          implementingProgram.LoweredImpl space app ⟨0, ⟨0, 1⟩, some ⟨1, 7⟩⟩ i record := by
  intro app space
  obtain ⟨haccepts, hrecords⟩ := lower_accepts_wellFormed ⟨[]⟩ app implementingProgram
  obtain ⟨d, r, record, hlower⟩ : ∃ d r record, (lower ⟨[]⟩ app implementingProgram).2 =
      .ok ⟨app, space app, [d], [r], [record], []⟩ := ⟨_, _, _, rfl⟩
  obtain ⟨hdefs, -, hrefs, himpls⟩ := hrecords _ hlower
  refine ⟨haccepts.1 ⟨_, hlower⟩, d, r, record, hlower, hdefs,
    (hrefs _).1 (List.mem_singleton.2 rfl), ?_⟩
  obtain ⟨relation, hrelation, i, hlowered⟩ := (himpls _).1 (List.mem_singleton.2 rfl)
  obtain rfl := List.mem_singleton.1 hrelation
  obtain ⟨front, back, hsplit, -⟩ := hlowered.block
  exact ⟨i, hsplit ▸ by simp, hlowered⟩

/-- A place that counts from zero is tolerated where nothing is pointed at, and nowhere else. -/
example :
    let place : RawSpan := ⟨⟨"lib.rs"⟩, 3, 7, 0, 1, 4, 8⟩
    let pointing (target : LocalId) : Snapshot :=
      { Snapshot.empty with refs := [⟨.function, place, target⟩] }
    let result (s : Snapshot) := (lower ⟨[]⟩ (.lib "app") s).2
    (result (pointing .absent)).toOption.isSome ∧
      (result (pointing ⟨0, 4⟩)).toOption = none ∧
      ¬ (pointing ⟨0, 4⟩).WellFormed := by
  intro place pointing result
  refine ⟨by decide +kernel, by decide +kernel, fun h => ?_⟩
  have hpoints := h.refs _ (List.mem_cons_self ..) (by decide +kernel)
  rcases hpoints with hnone | ⟨-, hfit⟩
  · exact absurd hnone (by decide +kernel)
  · exact absurd hfit.lineStart (by decide +kernel)

end CodeAtlas
