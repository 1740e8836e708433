import CodeAtlas.Path.Basic
import CodeAtlas.Proofs.Ordered.Table

/-!
# Theory of normalized paths

A normalized path has the components it was put together from: names, and `..` parts in front of
them where the path is relative. So normalizing it again changes nothing, and two normalized paths
with the same components are the same.

## Architecture

- **Layer A**: parts that are written and read back;
- **Layer B**: stacks that normalization leaves alone;
- **Layer C**: the laws.
-/

namespace CodeAtlas

/-! ## Layer A: reading back -/

namespace Part

/-- **A part that is read back as it is written** between separators. -/
def Plain (q : Part) : Prop := ofSegment? q.text.toList = some q ∧ '/' ∉ q.text.toList

theorem plain_of_ofSegment? {s : List Char} {q : Part} (h : ofSegment? s = some q) (hs : '/' ∉ s) :
    q.Plain := by
  have htext : q.text.toList = s := by
    unfold ofSegment? at h
    split at h
    · cases h
    · split at h
      · rename_i hdots
        obtain rfl := Option.some.inj h
        exact (by simpa using hdots : s = ['.', '.']).symm
      · obtain rfl := Option.some.inj h
        exact String.toList_ofList
  exact ⟨by rw [htext]; exact h, by rw [htext]; exact hs⟩

theorem Plain.ne_nil {q : Part} (h : q.Plain) : q.text.toList ≠ [] := by
  intro hnil
  have := h.1
  rw [hnil] at this
  cases this

theorem Plain.ne_dot {q : Part} (h : q.Plain) : q.text.toList ≠ ['.'] := by
  intro hdot
  have := h.1
  rw [hdot] at this
  cases this

/-- No part that is read back as it is written is the root. -/
theorem Plain.ne_root {q : Part} (h : q.Plain) : q ≠ .root := by
  rintro rfl
  exact absurd h.1 (by decide)

end Part

namespace Path

private theorem not_mem_of_mem_splitOn {x : Char} {l xs : List Char} (h : l ∈ xs.splitOn x) :
    x ∉ l := by
  induction xs generalizing l with
  | nil =>
    obtain rfl := List.mem_singleton.1 h
    exact List.not_mem_nil
  | cons y ys ih =>
    rw [List.splitOn_cons_eq_if_modifyHead] at h
    split at h
    · rcases List.mem_cons.1 h with rfl | h
      · exact List.not_mem_nil
      · exact ih h
    · rename_i hne
      -- the character joins the first piece of what follows
      cases hsplit : ys.splitOn x with
      | nil => exact absurd hsplit (List.splitOn_ne_nil x ys)
      | cons first rest =>
        rw [hsplit] at h ih
        rcases List.mem_cons.1 h with rfl | h
        · intro hx
          rcases List.mem_cons.1 hx with rfl | hx
          · simp at hne
          · exact ih (List.mem_cons_self ..) hx
        · exact ih (List.mem_cons_of_mem _ h)

/-- The parts of a path behind its root or leading `.` are plain. -/
theorem plain_of_mem_segments (p : Path) : ∀ q ∈ p.segments.filterMap Part.ofSegment?, q.Plain := by
  intro q hq
  obtain ⟨s, hs, hq⟩ := List.mem_filterMap.1 hq
  exact Part.plain_of_ofSegment? hq (not_mem_of_mem_splitOn hs)

/-- Plain parts that are written between separators. -/
private def written (l : List Part) : List Char :=
  ['/'].intercalate (l.map fun q => q.text.toList)

private theorem splitOn_written {l : List Part} (h : ∀ q ∈ l, q.Plain) :
    (written l).splitOn '/' = if l.isEmpty then [[]] else l.map fun q => q.text.toList := by
  cases l with
  | nil => rfl
  | cons q rest =>
    refine List.splitOn_intercalate '/' ?_ (by simp)
    intro s hs
    obtain ⟨r, hr, rfl⟩ := List.mem_map.1 hs
    exact (h r hr).2

private theorem filterMap_written {l : List Part} (h : ∀ q ∈ l, q.Plain) :
    ((written l).splitOn '/').filterMap Part.ofSegment? = l := by
  rw [splitOn_written h]
  cases l with
  | nil => rfl
  | cons q rest =>
    simp only [List.isEmpty_cons, Bool.false_eq_true, if_false, List.filterMap_map]
    have hread : ∀ r ∈ q :: rest, (Part.ofSegment? ∘ fun q => q.text.toList) r = some r :=
      fun r hr => (h r hr).1
    rw [List.filterMap_congr hread, List.filterMap_some]

theorem isAbsolute_iff_parts (p : Path) : p.isAbsolute = true ↔ p.parts.head? = some .root := by
  unfold parts
  simp only
  split
  · rename_i h
    simp [h]
  · rename_i h
    refine iff_of_false h ?_
    split
    · simp
    · intro hroot
      exact (p.plain_of_mem_segments .root (List.mem_of_head? hroot)).ne_root rfl

/-- Parts without a root are read back from a relative path. -/
theorem parts_render {l : List Part} (h : ∀ q ∈ l, q.Plain) : (Path.mk (render l)).parts = l := by
  have hrender : (render l).toList = written l := by
    cases l with
    | nil => rfl
    | cons q rest =>
      have hroot : q ≠ .root := (h q (List.mem_cons_self ..)).ne_root
      cases q with
      | root => exact absurd rfl hroot
      | current | parent | name =>
        simp only [render, written, String.toList_intercalate, List.map_map]
        rfl
  have hsegments : (Path.mk (render l)).segments =
      if l.isEmpty then [[]] else l.map fun q => q.text.toList := by
    unfold segments
    rw [hrender, splitOn_written h]
  -- the first segment is neither empty, as in an absolute path, nor a dot
  have habsolute : (Path.mk (render l)).isAbsolute = false := by
    unfold isAbsolute
    rw [hrender]
    cases hw : written l with
    | nil => rfl
    | cons x xs =>
      rw [List.head?_cons]
      by_contra hslash
      have hx : x = '/' := by simpa using hslash
      have hsplit := splitOn_written h
      rw [hw, hx, List.splitOn_cons_eq_if_modifyHead] at hsplit
      cases l with
      | nil => cases hw
      | cons q rest =>
        simp only [beq_self_eq_true, if_true, List.isEmpty_cons, Bool.false_eq_true, if_false,
          List.map_cons] at hsplit
        exact (h q (List.mem_cons_self ..)).ne_nil (List.cons.inj hsplit).1.symm
  have hdot : (Path.mk (render l)).segments.head? ≠ some ['.'] := by
    rw [hsegments]
    cases l with
    | nil => decide
    | cons q rest => simpa using (h q (List.mem_cons_self ..)).ne_dot
  unfold parts
  simp only [habsolute, Bool.false_eq_true, if_false, beq_iff_eq, hdot]
  unfold segments
  rw [hrender, filterMap_written h]

/-- Parts behind a root are read back from an absolute path. -/
theorem parts_render_root {l : List Part} (h : ∀ q ∈ l, q.Plain) :
    (Path.mk (render (.root :: l))).parts = .root :: l := by
  -- the root is written as a separator, in front of which the text has an empty segment
  have hrender : (render (.root :: l)).toList = '/' :: written l := by
    simp only [render, written, String.toList_append, String.toList_intercalate, List.map_map]
    rfl
  have hsegments : (Path.mk (render (.root :: l))).segments = [] :: (written l).splitOn '/' := by
    unfold segments
    rw [hrender, List.splitOn_cons_eq_if_modifyHead]
    simp
  have habsolute : (Path.mk (render (.root :: l))).isAbsolute = true := by
    unfold isAbsolute
    rw [hrender]
    rfl
  unfold parts
  simp only [hsegments, habsolute, if_true, List.filterMap_cons]
  rw [show Part.ofSegment? [] = none from rfl, filterMap_written h]

/-! ## Layer B: stacks -/

/-- **A stack that normalization leaves alone**: names, and below them the `..` parts of a relative
path. -/
inductive Reduced (absolute : Bool) : List Part → Prop
  | nil : Reduced absolute []
  | name (s : String) {stack : List Part} (h : Reduced absolute stack) :
      Reduced absolute (.name s :: stack)
  | parent {stack : List Part} (h : Reduced absolute stack) (hrelative : absolute = false)
      (hbelow : ∀ s rest, stack ≠ .name s :: rest) : Reduced absolute (.parent :: stack)

theorem Reduced.reduce {absolute : Bool} {stack : List Part} (h : Reduced absolute stack)
    (q : Part) : Reduced absolute (reduce absolute stack q) := by
  cases q with
  | root => exact h
  | current => exact h
  | name s => exact .name s h
  | parent =>
    cases h with
    -- nothing to take back: a relative path keeps the step up
    | nil =>
      cases absolute with
      | true => exact .nil
      | false => exact .parent .nil rfl (by simp)
    | name s h => exact h
    | parent h hrelative hbelow =>
      -- below one step up only steps up can stand
      subst hrelative
      exact .parent (.parent h rfl hbelow) rfl (by simp)

/-- The parts of a reduced stack are put on it again one by one. -/
theorem Reduced.foldl_reverse {absolute : Bool} {stack : List Part} (h : Reduced absolute stack) :
    stack.reverse.foldl (Path.reduce absolute) [] = stack := by
  induction h with
  | nil => rfl
  | name s h ih =>
    rw [List.reverse_cons, List.foldl_append, ih]
    rfl
  | @parent stack h hrelative hbelow ih =>
    rw [List.reverse_cons, List.foldl_append, ih, hrelative]
    cases stack with
    | nil => rfl
    | cons q rest =>
      cases q with
      | name s => exact absurd rfl (hbelow s rest)
      | root | current | parent => rfl

/-- What normalization puts on its stack. -/
theorem reduced_foldl (absolute : Bool) (l : List Part) {stack : List Part}
    (h : Reduced absolute stack) : Reduced absolute (l.foldl (reduce absolute) stack) :=
  List.foldlRecOn l _ h fun _ hstack q _ => hstack.reduce q

private theorem mem_reduce {absolute : Bool} {stack : List Part} {q r : Part}
    (h : r ∈ reduce absolute stack q) : r ∈ stack ∨ r = q ∧ q ≠ .root ∧ q ≠ .current := by
  cases q with
  | root => exact Or.inl h
  | current => exact Or.inl h
  | name s =>
    rcases List.mem_cons.1 h with rfl | h
    · exact Or.inr ⟨rfl, by simp, by simp⟩
    · exact Or.inl h
  | parent =>
    -- a parent takes a name off the stack, or goes on top of it
    have hpush : r ∈ Part.parent :: stack → r ∈ stack ∨ r = .parent ∧ Part.parent ≠ .root ∧
        Part.parent ≠ .current := by
      intro h
      rcases List.mem_cons.1 h with rfl | h
      · exact Or.inr ⟨rfl, by simp, by simp⟩
      · exact Or.inl h
    cases stack with
    | nil => cases absolute with
      | true => exact Or.inl h
      | false => exact hpush h
    | cons top rest => cases top with
      | name s => exact Or.inl (List.mem_cons_of_mem _ h)
      | root | current | parent => cases absolute with
        | true => exact Or.inl h
        | false => exact hpush h

theorem plain_normalParts (p : Path) : ∀ q ∈ p.normalParts, q.Plain := by
  -- a part that is neither the root nor a dot was read from a segment
  have hparts : ∀ q ∈ p.parts, q ≠ .root → q ≠ .current → q.Plain := by
    intro q hq hroot hcurrent
    unfold parts at hq
    simp only at hq
    split at hq
    · exact p.plain_of_mem_segments q ((List.mem_cons.1 hq).resolve_left hroot)
    · split at hq
      · exact p.plain_of_mem_segments q ((List.mem_cons.1 hq).resolve_left hcurrent)
      · exact p.plain_of_mem_segments q hq
  intro q hq
  refine List.foldlRecOn (motive := fun stack => ∀ q ∈ stack, q.Plain) p.parts
    (reduce p.isAbsolute) (by simp) ?_ q (List.mem_reverse.1 hq)
  intro stack hstack r hr q hq
  rcases mem_reduce hq with hq | ⟨rfl, hroot, hcurrent⟩
  · exact hstack q hq
  · exact hparts q hr hroot hcurrent

/-! ## Layer C: laws -/

/-- Paths compare equal if they have the same components. -/
theorem compare_eq_iff {p q : Path} : compare p q = .eq ↔ p.parts = q.parts := by
  have hparts : compare p q = compare p.parts q.parts := rfl
  rw [hparts, Std.LawfulEqOrd.compare_eq_iff_eq]

/-- **The components of a normalized path.** -/
theorem parts_normalize (p : Path) :
    p.normalize.parts = if p.isAbsolute then .root :: p.normalParts else p.normalParts := by
  unfold normalize
  split
  · exact parts_render_root p.plain_normalParts
  · exact parts_render p.plain_normalParts

/-- Only the components of a path matter. -/
theorem normalize_congr {p q : Path} (h : p.parts = q.parts) : p.normalize = q.normalize := by
  have habsolute : p.isAbsolute = q.isAbsolute := by
    rw [Bool.eq_iff_iff, isAbsolute_iff_parts, isAbsolute_iff_parts, h]
  unfold normalize normalParts
  rw [habsolute, h]

@[simp] theorem isAbsolute_normalize (p : Path) : p.normalize.isAbsolute = p.isAbsolute := by
  rw [Bool.eq_iff_iff, isAbsolute_iff_parts, parts_normalize]
  cases p.isAbsolute with
  | true => simp
  | false =>
    simp only [Bool.false_eq_true, if_false, iff_false]
    intro hroot
    exact (p.plain_normalParts _ (List.mem_of_head? hroot)).ne_root rfl

/-- **Normalizing a path again changes nothing.** -/
@[simp] theorem normalize_normalize (p : Path) : p.normalize.normalize = p.normalize := by
  have hnormal : p.normalize.normalParts = p.normalParts := by
    have hreduced := reduced_foldl p.isAbsolute p.parts .nil
    have hstack := hreduced.foldl_reverse
    unfold normalParts at hstack ⊢
    rw [parts_normalize, isAbsolute_normalize]
    unfold normalParts
    split
    · exact congrArg List.reverse hstack
    · exact congrArg List.reverse hstack
  show (⟨render (if p.normalize.isAbsolute then .root :: p.normalize.normalParts
    else p.normalize.normalParts)⟩ : Path) = p.normalize
  rw [isAbsolute_normalize, hnormal]
  rfl

/-- Normalized paths with the same components are the same. -/
theorem eq_of_parts_eq {p q : Path} (hp : p.normalize = p) (hq : q.normalize = q)
    (h : p.parts = q.parts) : p = q := by
  rw [← hp, ← hq, normalize_congr h]

/-- Normalized paths that compare equal are the same. -/
theorem eq_of_compare {p q : Path} (hp : p.normalize = p) (hq : q.normalize = q)
    (h : compare p q = .eq) : p = q :=
  eq_of_parts_eq hp hq (compare_eq_iff.1 h)

end Path

end CodeAtlas
