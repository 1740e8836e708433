import CodeAtlas.Proofs.Path.Normal
import CodeAtlas.Text.Position

/-!
# Orders of positions and spans

Positions, ranges and byte ranges are ordered by their components, so those that compare equal are
equal. A span also has a file, which may be spelled in several ways; spans with normalized files are
the same if they compare equal.
-/

namespace CodeAtlas

instance : Std.TransOrd Position :=
  inferInstanceAs (Std.TransCmp (compareLex (compareOn Position.line)
    (compareOn Position.character)))

instance : Std.LawfulEqOrd Position where
  eq_of_compare {a b} h := by
    have hlex : compareLex (compareOn Position.line) (compareOn Position.character) a b = .eq := h
    obtain ⟨hline, hcharacter⟩ := compareLex_eq_eq.1 hlex
    cases a
    cases b
    exact congrArg₂ _ (Std.LawfulEqOrd.eq_of_compare hline)
      (Std.LawfulEqOrd.eq_of_compare hcharacter)

/-- Positions are ordered by line, and by column in the same line. -/
theorem Position.isLE_iff {p q : Position} : (compare p q).isLE ↔
    p.line < q.line ∨ p.line = q.line ∧ p.character ≤ q.character := by
  have hcompare : compare p q = (compare p.line q.line).then (compare p.character q.character) := rfl
  rw [hcompare]
  cases hline : compare p.line q.line with
  | lt =>
    have hlt : p.line < q.line := Std.compare_eq_lt.1 hline
    simp [hlt]
  | eq =>
    have heq : p.line = q.line := Std.LawfulEqOrd.eq_of_compare hline
    simp [heq, Std.LawfulOrderOrd.isLE_compare]
  | gt =>
    have hgt : q.line < p.line := Std.compare_eq_gt.1 hline
    have hne : p.line ≠ q.line := fun heq => UInt32.lt_irrefl _ (heq ▸ hgt)
    simp [hne, UInt32.le_of_lt hgt]

instance : Std.TransOrd Range :=
  inferInstanceAs (Std.TransCmp (compareLex (compareOn Range.start) (compareOn Range.stop)))

instance : Std.LawfulEqOrd Range where
  eq_of_compare {a b} h := by
    have hlex : compareLex (compareOn Range.start) (compareOn Range.stop) a b = .eq := h
    obtain ⟨hstart, hstop⟩ := compareLex_eq_eq.1 hlex
    cases a
    cases b
    exact congrArg₂ _ (Std.LawfulEqOrd.eq_of_compare hstart) (Std.LawfulEqOrd.eq_of_compare hstop)

namespace Span

instance : Std.TransOrd Span :=
  inferInstanceAs (Std.TransCmp (compareLex (compareOn file) (compareLex (compareOn range)
    (compareLex (compareOn (·.bytes.start)) (compareOn (·.bytes.stop))))))

/-- Spans with normalized files that compare equal are the same. -/
theorem eq_of_compare {s t : Span} (hs : s.file.normalize = s.file)
    (ht : t.file.normalize = t.file) (h : compare s t = .eq) : s = t := by
  have hlex : compareLex (compareOn file) (compareLex (compareOn range)
    (compareLex (compareOn (·.bytes.start)) (compareOn (·.bytes.stop)))) s t = .eq := h
  -- spans are compared by file, range and bytes in turn
  simp only [compareLex_eq_eq] at hlex
  obtain ⟨hfile, hrange, hstart, hstop⟩ := hlex
  have hbytes : s.bytes = t.bytes := by
    cases hsBytes : s.bytes
    cases htBytes : t.bytes
    simp only [compareOn, hsBytes, htBytes] at hstart hstop
    exact congrArg₂ _ (Std.LawfulEqOrd.eq_of_compare hstart) (Std.LawfulEqOrd.eq_of_compare hstop)
  cases s
  cases t
  obtain rfl := Path.eq_of_compare hs ht hfile
  obtain rfl := hbytes
  obtain rfl := Std.LawfulEqOrd.eq_of_compare hrange
  rfl

end Span

end CodeAtlas
