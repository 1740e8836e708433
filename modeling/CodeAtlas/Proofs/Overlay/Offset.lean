import CodeAtlas.Overlay.Buffer
import CodeAtlas.Proofs.Bytes.Basic
import CodeAtlas.Proofs.Text.Position
import Mathlib.Order.Bounds.Basic

/-!
# Offsets of positions

Positions are turned into offsets with a table of lines. Offsets count bytes, columns count UTF-16
units, and lines end in three ways; still every position has an offset, the text can be cut there,
and offsets follow the order of positions. What an offset is supposed to be is said without the
table: lines are pieces of the text with an end of line behind them, and a column is the longest
piece of a line that is not too wide.

## Architecture

- **Layer A**: cutting texts, and the bytes of the pieces;
- **Layer B**: lines, and the table of their offsets;
- **Layer C**: the offset of a position;
- **Layer D**: the first and the last position.
-/

namespace CodeAtlas

namespace Buffer

variable {cs a b before content tail : List Char} {c d : Char} {n k : Nat}

/-! ## Layer A: cutting -/

@[simp] theorem size_nil : size [] = 0 := rfl

@[simp] theorem size_cons (c : Char) (cs : List Char) : size (c :: cs) = c.utf8Size + size cs := rfl

@[simp] theorem size_append (a b : List Char) : size (a ++ b) = size a + size b := by
  induction a with
  | nil => simp
  | cons c rest ih => simp [ih, Nat.add_assoc]

@[simp] theorem width_cons (c : Char) (cs : List Char) : width (c :: cs) = units c + width cs := rfl


theorem bytes_append (a b : List Char) :
    Bytes.ofText (String.ofList (a ++ b)) =
      Bytes.ofText (String.ofList a) ++ Bytes.ofText (String.ofList b) := by
  simp [Bytes.ofText, String.ofList_append, String.toByteArray_append, ByteArray.data_append]

theorem utf8ByteSize_ofList (cs : List Char) : (String.ofList cs).utf8ByteSize = size cs := by
  induction cs with
  | nil => rfl
  | cons c rest ih => simp [size_cons, ← ih]

/-- A text has as many bytes as it counts. -/
theorem length_bytes (cs : List Char) : (Bytes.ofText (String.ofList cs)).length = size cs := by
  rw [← utf8ByteSize_ofList, ← String.size_toByteArray]
  simp [Bytes.ofText]

/-- **A text can be cut exactly where one of its pieces ends.** -/
theorem cut?_eq_some_iff : cut? cs n = some (a, b) ↔ cs = a ++ b ∧ size a = n := by
  constructor
  · intro h
    -- along the cut, which takes the size of each character from the offset
    fun_induction cut? cs n generalizing a b with
    | case1 cs =>
      obtain ⟨rfl, rfl⟩ := Prod.mk.inj (Option.some.inj h)
      exact ⟨rfl, rfl⟩
    | case2 n => cases h
    | case3 c rest n hinside => cases h
    | case4 c rest n hinside ih =>
      obtain ⟨⟨a', b'⟩, hcut, heq⟩ := Option.map_eq_some_iff.1 h
      obtain ⟨rfl, rfl⟩ := Prod.mk.inj heq
      obtain ⟨rfl, hsize⟩ := ih hcut
      refine ⟨rfl, ?_⟩
      rw [size_cons, hsize]
      omega
  · rintro ⟨rfl, rfl⟩
    induction a with
    | nil => simp [cut?]
    | cons c rest ih =>
      have hpos := c.utf8Size_pos
      obtain ⟨m, hm⟩ : ∃ m, size (c :: rest) = m + 1 :=
        ⟨c.utf8Size + size rest - 1, by rw [size_cons]; omega⟩
      have hrest : m + 1 - c.utf8Size = size rest := by
        rw [← hm, size_cons]
        omega
      rw [List.cons_append, hm, cut?, if_neg (by rw [← hm, size_cons]; omega), hrest, ih]
      rfl

theorem cut?_append (a b : List Char) : cut? (a ++ b) (size a) = some (a, b) :=
  cut?_eq_some_iff.2 ⟨rfl, rfl⟩

theorem slice?_append (a b c : List Char) :
    slice? (a ++ b ++ c) (size a) (size a + size b) = some b := by
  have hrest : size a + size b - size a = size b := by omega
  simp only [slice?, if_neg (show ¬ size a + size b < size a by omega), List.append_assoc,
    cut?_append, hrest, Option.bind_eq_bind, Option.bind_some, Option.pure_def]

/-- Of two pieces at the start of a text the shorter one has no more bytes. -/
theorem size_le_of_prefix (h : a <+: b) : size a ≤ size b := by
  obtain ⟨rest, rfl⟩ := h
  rw [size_append]
  exact Nat.le_add_right _ _

/-- A text cannot be cut inside a character. -/
theorem cut?_inside (h : 0 < k) (hk : k < c.utf8Size) : cut? (a ++ c :: b) (size a + k) = none := by
  cases hcut : cut? (a ++ c :: b) (size a + k) with
  | none => rfl
  | some p =>
    obtain ⟨x, y⟩ := p
    obtain ⟨heq, hsize⟩ := cut?_eq_some_iff.1 hcut
    -- the piece ends before the character or behind it
    rcases List.append_eq_append_iff.1 heq with ⟨z, rfl, hz⟩ | ⟨z, rfl, hz⟩
    · cases z with
      | nil =>
        simp only [List.append_nil] at hsize
        omega
      | cons e z =>
        obtain ⟨rfl, -⟩ := List.cons.inj hz
        simp only [size_append, size_cons] at hsize
        omega
    · simp only [size_append] at hsize
      omega

/-- What stands before the end of a character, seen from behind it. -/
theorem hasAt_last (hd : d.utf8Size = 1) :
    hasAt (a ++ c :: b) (size a + c.utf8Size - 1) d = (c == d) := by
  have hpos := c.utf8Size_pos
  by_cases hc : c.utf8Size = 1
  · rw [hc, Nat.add_sub_cancel]
    simp [hasAt, cut?_append]
  · have hinside : cut? (a ++ c :: b) (size a + c.utf8Size - 1) = none := by
      rw [Nat.add_sub_assoc hpos]
      exact cut?_inside (by omega) (by omega)
    have hne : c ≠ d := by
      rintro rfl
      exact hc hd
    simp [hasAt, hinside, hne]

/-! ## Layer B: lines -/

/-- A text without line ends. -/
def IsContent (cs : List Char) : Prop := ∀ c ∈ cs, c ≠ '\n' ∧ c ≠ '\r'

/-- **A line end**, in front of what follows. -/
inductive IsBreak : List Char → List Char → Prop
  | lineFeed (next : List Char) : IsBreak ['\n'] next
  | both (next : List Char) : IsBreak ['\r', '\n'] next
  | carriageReturn {next : List Char} (h : next.head? ≠ some '\n') : IsBreak ['\r'] next

/-- **Whole lines with their ends**, in front of what follows. -/
inductive Lines : Nat → List Char → List Char → Prop
  | none (after : List Char) : Lines 0 [] after
  | line {n : Nat} {content brk before after : List Char} (hcontent : IsContent content)
      (hbreak : IsBreak brk (before ++ after)) (h : Lines n before after) :
      Lines (n + 1) (content ++ brk ++ before) after

/-- A line of a text starts at an offset. -/
def StartsAt (cs : List Char) (n k : Nat) : Prop :=
  ∃ before after, cs = before ++ after ∧ Lines n before after ∧ size before = k

theorem startsAt_zero : StartsAt cs 0 k ↔ k = 0 := by
  constructor
  · rintro ⟨before, after, -, h, rfl⟩
    cases h
    rfl
  · rintro rfl
    exact ⟨[], cs, rfl, .none cs, rfl⟩

theorem startsAt_nil : ¬ StartsAt [] (n + 1) k := by
  rintro ⟨before, after, hcs, h, -⟩
  cases h with
  | line _ hbreak _ => cases hbreak <;> simp at hcs

/-- Where a line end stops is seen from the text. -/
theorem IsBreak.unique {brk brk' next next' : List Char} (h : IsBreak brk next)
    (h' : IsBreak brk' next') (heq : brk ++ next = brk' ++ next') : brk = brk' ∧ next = next' := by
  cases h with
  | lineFeed =>
    cases h' with
    | lineFeed => exact ⟨rfl, (List.cons.inj heq).2⟩
    | both => simp at heq
    | carriageReturn => simp at heq
  | both =>
    cases h' with
    | lineFeed => simp at heq
    | both => exact ⟨rfl, by simpa using heq⟩
    | carriageReturn hnext =>
      -- a carriage return before a line feed is no line end by itself
      obtain ⟨-, rfl⟩ := List.cons.inj heq
      exact absurd rfl hnext
  | carriageReturn hnext =>
    cases h' with
    | lineFeed => simp at heq
    | both =>
      obtain ⟨-, rfl⟩ := List.cons.inj heq
      exact absurd rfl hnext
    | carriageReturn => exact ⟨rfl, (List.cons.inj heq).2⟩

theorem IsBreak.head {brk next : List Char} (h : IsBreak brk next) :
    ∃ c rest, brk = c :: rest ∧ (c = '\n' ∨ c = '\r') := by
  cases h <;> simp

/-- **The line behind a line end.** -/
theorem startsAt_break {brk next : List Char} (h : IsBreak brk next) :
    StartsAt (brk ++ next) (n + 1) k ↔ ∃ j, k = size brk + j ∧ StartsAt next n j := by
  constructor
  · rintro ⟨before, after, hcs, hlines, rfl⟩
    cases hlines with
    | @line _ content brk' before _ hcontent hbreak hlines =>
      obtain ⟨c, rest, rfl, hc⟩ := h.head
      -- the text begins with a line end, so the first line is empty
      cases content with
      | nil =>
        obtain ⟨rfl, rfl⟩ := h.unique hbreak (by simpa using hcs)
        exact ⟨size before, by simp [Nat.add_assoc], before, after, rfl, hlines, rfl⟩
      | cons e content =>
        obtain ⟨rfl, -⟩ := List.cons.inj hcs
        have he := hcontent c (List.mem_cons_self ..)
        exact absurd hc (not_or.2 he)
  · rintro ⟨j, rfl, before, after, rfl, hlines, rfl⟩
    refine ⟨brk ++ before, after, by simp, ?_, by simp⟩
    exact (Lines.line (by simp [IsContent]) h hlines : Lines (n + 1) ([] ++ brk ++ before) after)

/-- **Characters of a line** move the lines behind it. -/
theorem startsAt_char (hc : c ≠ '\n' ∧ c ≠ '\r') :
    StartsAt (c :: cs) (n + 1) k ↔ ∃ j, k = c.utf8Size + j ∧ StartsAt cs (n + 1) j := by
  constructor
  · rintro ⟨before, after, hcs, hlines, rfl⟩
    cases hlines with
    | @line _ content brk before _ hcontent hbreak hlines =>
      -- the first line has the character, unless it has no content; but then it starts with a break
      cases content with
      | nil =>
        obtain ⟨e, rest, rfl, he⟩ := hbreak.head
        obtain ⟨rfl, -⟩ := List.cons.inj hcs
        exact absurd he (not_or.2 hc)
      | cons e content =>
        obtain ⟨rfl, rfl⟩ := List.cons.inj hcs
        have hcontent' : IsContent content := fun x hx =>
          hcontent x (List.mem_cons_of_mem _ hx)
        exact ⟨size (content ++ brk ++ before), by simp, _, after, by simp,
          .line hcontent' hbreak hlines, rfl⟩
  · rintro ⟨j, rfl, before, after, rfl, hlines, rfl⟩
    cases hlines with
    | @line _ content brk before _ hcontent hbreak hlines =>
      refine ⟨c :: content ++ brk ++ before, after, by simp, .line ?_ hbreak hlines, by simp⟩
      exact List.forall_mem_cons.2 ⟨hc, hcontent⟩

/-- An offset behind one piece, and in what follows behind another, lies behind both. -/
private theorem exists_behind_both {i j : Nat} {P : Nat → Prop} :
    (∃ m, k = i + m ∧ ∃ l, m = j + l ∧ P l) ↔ ∃ l, k = i + j + l ∧ P l := by
  constructor
  · rintro ⟨_, rfl, l, rfl, hl⟩
    exact ⟨l, (Nat.add_assoc ..).symm, hl⟩
  · rintro ⟨l, rfl, hl⟩
    exact ⟨_, Nat.add_assoc .., l, rfl, hl⟩

/-- A line end makes an entry of the table, and the entries behind it are those of the rest. -/
private theorem getElem?_entry {brk next : List Char} (offset : Nat) (h : IsBreak brk next)
    (hrest : ∀ n, (lineOffsetsFrom (offset + size brk) next)[n]? = some k ↔
      ∃ j, k = offset + size brk + j ∧ StartsAt next (n + 1) j) :
    ((offset + size brk) :: lineOffsetsFrom (offset + size brk) next)[n]? = some k ↔
      ∃ j, k = offset + j ∧ StartsAt (brk ++ next) (n + 1) j := by
  simp only [startsAt_break h]
  cases n with
  | zero =>
    simp only [List.getElem?_cons_zero, Option.some.injEq, startsAt_zero, exists_eq_right]
    exact eq_comm
  | succ n =>
    rw [List.getElem?_cons_succ, hrest]
    exact exists_behind_both.symm

/-- **The table of lines**: it has the offset of every line behind the first, and nothing else. -/
theorem getElem?_lineOffsetsFrom (offset : Nat) :
    (lineOffsetsFrom offset cs)[n]? = some k ↔ ∃ j, k = offset + j ∧ StartsAt cs (n + 1) j := by
  -- along the scan: it is at the end, at both characters of a line end, at one, or in a line
  fun_induction lineOffsetsFrom offset cs generalizing n with
  | case1 offset => simp [startsAt_nil]
  | case2 offset rest ih => exact getElem?_entry offset (.both rest) fun n => ih
  | case3 offset c rest hnot hend ih =>
    have hbreak : IsBreak [c] rest := by
      rcases Bool.or_eq_true_iff.1 hend with hc | hc
      · obtain rfl := beq_iff_eq.1 hc
        exact .lineFeed rest
      · obtain rfl := beq_iff_eq.1 hc
        refine .carriageReturn ?_
        cases rest with
        | nil => simp
        | cons d rest =>
          rintro hd
          obtain rfl := Option.some.inj hd
          exact hnot rest rfl rfl
    have hsize : size [c] = 1 := by
      rcases Bool.or_eq_true_iff.1 hend with hc | hc <;> obtain rfl := beq_iff_eq.1 hc <;> rfl
    have hentry := getElem?_entry (n := n) (k := k) offset hbreak
    rw [hsize] at hentry
    exact hentry fun n => ih
  | case4 offset c rest hnot hend ih =>
    have hc : c ≠ '\n' ∧ c ≠ '\r' := by simpa using hend
    simp only [ih, startsAt_char hc]
    exact exists_behind_both.symm

theorem getElem?_lineOffsets : (lineOffsets cs)[n]? = some k ↔ StartsAt cs n k := by
  cases n with
  | zero => simp [lineOffsets, startsAt_zero, eq_comm]
  | succ n => simp [lineOffsets, getElem?_lineOffsetsFrom]

/-- A line stops here: the text ends, or a line end follows. -/
def EndsLine (tail : List Char) : Prop := tail = [] ∨ ∃ brk next, IsBreak brk next ∧ tail = brk ++ next

theorem exists_content (cs : List Char) :
    ∃ content tail, cs = content ++ tail ∧ IsContent content ∧ EndsLine tail := by
  induction cs with
  | nil => exact ⟨[], [], rfl, by simp [IsContent], Or.inl rfl⟩
  | cons c rest ih =>
    by_cases hfeed : c = '\n'
    · subst hfeed
      exact ⟨[], _, rfl, by simp [IsContent], Or.inr ⟨_, rest, .lineFeed rest, rfl⟩⟩
    by_cases hreturn : c = '\r'
    · subst hreturn
      refine ⟨[], _, rfl, by simp [IsContent], Or.inr ?_⟩
      -- a line feed behind it belongs to the same line end
      by_cases hnext : rest.head? = some '\n'
      · obtain ⟨next, rfl⟩ := List.head?_eq_some_iff.1 hnext
        exact ⟨_, next, .both next, rfl⟩
      · exact ⟨_, rest, .carriageReturn hnext, rfl⟩
    obtain ⟨content, tail, rfl, hcontent, hends⟩ := ih
    exact ⟨c :: content, tail, rfl, List.forall_mem_cons.2 ⟨⟨hfeed, hreturn⟩, hcontent⟩, hends⟩

theorem startsAt_content (h : IsContent content) :
    StartsAt (content ++ cs) (n + 1) k ↔ ∃ j, k = size content + j ∧ StartsAt cs (n + 1) j := by
  induction content generalizing k with
  | nil => simp
  | cons c rest ih =>
    obtain ⟨hc, hrest⟩ := List.forall_mem_cons.1 h
    simp only [List.cons_append, startsAt_char hc, ih hrest, size_cons]
    exact exists_behind_both

/-- **Lines behind whole lines** are those of what follows. -/
theorem startsAt_lines {after : List Char} (h : Lines n before after) (m : Nat) :
    StartsAt (before ++ after) (n + m) k ↔ ∃ j, k = size before + j ∧ StartsAt after m j := by
  -- on the lines, from the first to the last; each adds its content and its end
  induction h generalizing k with
  | none after => simp
  | @line n content brk before after hcontent hbreak h ih =>
    have hcount : n + 1 + m = n + m + 1 := by omega
    simp only [List.append_assoc, hcount, startsAt_content hcontent, startsAt_break hbreak, ih,
      size_append]
    constructor
    · rintro ⟨_, rfl, _, rfl, j, rfl, hj⟩
      exact ⟨j, by omega, hj⟩
    · rintro ⟨j, rfl, hj⟩
      exact ⟨size brk + (size before + j), by omega, size before + j, rfl, j, rfl, hj⟩

/-! ## Layer C: positions -/

/-- **A line in its text**: what stands before it, its content, and what stands behind that. -/
structure IsLine (cs : List Char) (n : Nat) (before content tail : List Char) : Prop where
  text : cs = before ++ content ++ tail
  lines : Lines n before (content ++ tail)
  content : IsContent content
  ends : EndsLine tail

/-- **The offset of a position.** In a line behind the last one it is the end of the text. Otherwise
it is the greatest offset in the content of the line, its end excluded, to which there are at most
as many UTF-16 units from the start of the line as the column says. -/
inductive IsOffset (cs : List Char) (p : Position) : Nat → Prop
  | behind (h : ∀ k, ¬ StartsAt cs p.line.toNat k) : IsOffset cs p (size cs)
  | inside {before content tail : List Char} {k : Nat}
      (hline : IsLine cs p.line.toNat before content tail)
      (hk : IsGreatest {k | ∃ front, front <+: content ∧ width front ≤ p.character.toNat ∧
        k = size before + size front} k) : IsOffset cs p k

/-- Every line of a text is found, as long as there are any. -/
theorem isLine_or_behind (cs : List Char) (n : Nat) :
    (∃ before content tail, IsLine cs n before content tail) ∨ ∀ k, ¬ StartsAt cs n k := by
  by_cases h : ∃ k, StartsAt cs n k
  · obtain ⟨k, before, after, rfl, hlines, -⟩ := h
    obtain ⟨content, tail, rfl, hcontent, hends⟩ := exists_content after
    exact Or.inl ⟨before, content, tail, by simp, hlines, hcontent, hends⟩
  · exact Or.inr (not_exists.1 h)

namespace IsLine

/-- Where the line is in the table. -/
theorem start_eq (h : IsLine cs n before content tail) :
    (lineOffsets cs)[n]? = some (size before) := by
  refine getElem?_lineOffsets.2 ⟨before, content ++ tail, ?_, h.lines, rfl⟩
  rw [h.text, List.append_assoc]

/-- Where the lines behind it are in the table. -/
theorem later_eq (h : IsLine cs n before content tail) (m : Nat) :
    (lineOffsets cs)[n + (m + 1)]? = some k ↔
      ∃ j, k = size before + size content + j ∧ StartsAt tail (m + 1) j := by
  have htext : cs = before ++ (content ++ tail) := by rw [h.text, List.append_assoc]
  rw [getElem?_lineOffsets, htext, startsAt_lines h.lines]
  simp only [startsAt_content h.content]
  exact exists_behind_both

end IsLine

namespace Draft

/-- There is nothing to step back over at the start. -/
theorem stepBack_self (draft : Draft) (start : Nat) (c : Char) :
    draft.stepBack start start c = start := by
  simp [stepBack]

/-- **Stepping back over a character of one byte**, if it is the one that stands there. -/
theorem stepBack_last (start : Nat) (a b : List Char) (c : Char) (hstart : start ≤ size a)
    (hd : d.utf8Size = 1) :
    (Draft.of (a ++ c :: b)).stepBack start (size a + c.utf8Size) d =
      if c = d then size a else size a + c.utf8Size := by
  have hpos := c.utf8Size_pos
  have hlt : start < size a + c.utf8Size := by omega
  simp only [stepBack, of, hasAt_last hd, hlt, decide_true, Bool.true_and, beq_iff_eq]
  split
  · rename_i hcd
    rw [hcd, hd, Nat.add_sub_cancel]
  · rfl

/-- No line end is found in the content of a line. -/
theorem stepBack_content (h : IsContent content) (hd : d = '\n' ∨ d = '\r') :
    (Draft.of (before ++ content ++ tail)).stepBack (size before) (size before + size content) d =
      size before + size content := by
  rcases List.eq_nil_or_concat content with rfl | ⟨init, c, rfl⟩
  · exact stepBack_self _ _ _
  · have hc := h c (by simp)
    have hne : c ≠ d := by
      rintro rfl
      exact hd.elim hc.1 hc.2
    have hsize : d.utf8Size = 1 := by rcases hd with rfl | rfl <;> rfl
    have hlast := stepBack_last (size before) (before ++ init) tail c (by simp) hsize
    rw [if_neg hne] at hlast
    simpa [Nat.add_assoc] using hlast

end Draft

/-- **The content of a line stops in front of its end**, whichever it is. -/
theorem IsLine.stop_eq (h : IsLine cs n before content tail) :
    (Draft.of cs).stepBack (size before) ((Draft.of cs).stepBack (size before)
      ((lineOffsets cs)[n + 1]?.getD (size cs)) '\n') '\r' = size before + size content := by
  have hnext := fun k => h.later_eq (k := k) 0
  obtain ⟨rfl, -, hcontent, hends⟩ := h
  rcases hends with rfl | ⟨brk, next, hbreak, rfl⟩
  · -- there is no further line
    have hnone : (lineOffsets (before ++ content ++ []))[n + 1]? = none := by
      cases hget : (lineOffsets (before ++ content ++ []))[n + 1]? with
      | none => rfl
      | some k =>
        obtain ⟨j, -, hj⟩ := (hnext k).1 hget
        exact absurd hj startsAt_nil
    have hsize : size (before ++ content ++ []) = size before + size content := by simp
    rw [hnone, Option.getD_none, hsize, Draft.stepBack_content hcontent (Or.inl rfl),
      Draft.stepBack_content hcontent (Or.inr rfl)]
  · have hsome : (lineOffsets (before ++ content ++ (brk ++ next)))[n + 1]? =
        some (size before + size content + size brk) :=
      (hnext _).2 ⟨_, rfl, (startsAt_break hbreak).2 ⟨0, rfl, startsAt_zero.2 rfl⟩⟩
    rw [hsome, Option.getD_some]
    cases hbreak with
    | lineFeed =>
      have hfeed : (Draft.of (before ++ content ++ (['\n'] ++ next))).stepBack (size before)
          (size before + size content + size ['\n']) '\n' = size before + size content := by
        simpa using Draft.stepBack_last (d := '\n') (size before) (before ++ content) next '\n'
          (by simp) rfl
      rw [hfeed, Draft.stepBack_content hcontent (Or.inr rfl)]
    | both =>
      -- first the line feed goes, then the carriage return in front of it
      have hfeed : (Draft.of (before ++ content ++ (['\r', '\n'] ++ next))).stepBack (size before)
          (size before + size content + size ['\r', '\n']) '\n' =
          size before + size content + size ['\r'] := by
        simpa [Nat.add_assoc] using Draft.stepBack_last (d := '\n') (size before)
          (before ++ content ++ ['\r']) next '\n' (by simp) rfl
      rw [hfeed]
      simpa using Draft.stepBack_last (d := '\r') (size before) (before ++ content) ('\n' :: next)
        '\r' (by simp) rfl
    | carriageReturn _ =>
      have hfeed : (Draft.of (before ++ content ++ (['\r'] ++ next))).stepBack (size before)
          (size before + size content + size ['\r']) '\n' =
          size before + size content + size ['\r'] := by
        simpa using Draft.stepBack_last (d := '\n') (size before) (before ++ content) next '\r'
          (by simp) rfl
      rw [hfeed]
      simpa using Draft.stepBack_last (d := '\r') (size before) (before ++ content) next '\r'
        (by simp) rfl

/-- The column of a line: the greatest offset with at most so many UTF-16 units before it. -/
theorem columnOffset_isGreatest (content : List Char) (column : Nat) :
    IsGreatest {k | ∃ front, front <+: content ∧ width front ≤ column ∧ k = size front}
      (columnOffset content column) := by
  -- on the content, each character of which takes its units from the column
  induction content generalizing column with
  | nil =>
    refine ⟨⟨[], List.nil_prefix, Nat.zero_le _, rfl⟩, ?_⟩
    rintro k ⟨front, hfront, -, rfl⟩
    rw [List.prefix_nil.1 hfront]
    exact Nat.le_refl _
  | cons c rest ih =>
    unfold columnOffset
    split
    · -- the first character is too wide already
      rename_i hwide
      refine ⟨⟨[], List.nil_prefix, Nat.zero_le _, rfl⟩, ?_⟩
      rintro k ⟨front, hfront, hwidth, rfl⟩
      cases front with
      | nil => exact Nat.le_refl _
      | cons d front =>
        obtain ⟨rfl, -⟩ := List.cons_prefix_cons.1 hfront
        rw [width_cons] at hwidth
        omega
    · rename_i hroom
      obtain ⟨⟨front, hfront, hwidth, hk⟩, hgreatest⟩ := ih (column - units c)
      constructor
      · refine ⟨c :: front, List.cons_prefix_cons.2 ⟨rfl, hfront⟩, ?_, ?_⟩
        · rw [width_cons]
          omega
        · rw [size_cons, hk]
      · rintro k ⟨front', hfront', hwidth', rfl⟩
        cases front' with
        | nil => exact Nat.zero_le _
        | cons d front' =>
          obtain ⟨rfl, hrest⟩ := List.cons_prefix_cons.1 hfront'
          rw [width_cons] at hwidth'
          rw [size_cons]
          exact Nat.add_le_add_left (hgreatest ⟨front', hrest, by omega, rfl⟩) _

theorem columnOffset_le (content : List Char) (column : Nat) :
    columnOffset content column ≤ size content := by
  obtain ⟨front, hfront, -, hk⟩ := (columnOffset_isGreatest content column).1
  rw [hk]
  exact size_le_of_prefix hfront

theorem columnOffset_mono (content : List Char) {column column' : Nat} (h : column ≤ column') :
    columnOffset content column ≤ columnOffset content column' := by
  obtain ⟨front, hfront, hwidth, hk⟩ := (columnOffset_isGreatest content column).1
  exact (columnOffset_isGreatest content column').2 ⟨front, hfront, hwidth.trans h, hk⟩

/-- **The offset of a position in a line.** -/
theorem IsLine.offset?_eq {p : Position} (h : IsLine cs p.line.toNat before content tail) :
    (Draft.of cs).offset? p = some (size before + columnOffset content p.character.toNat) := by
  have hstart : (Draft.of cs).lines[p.line.toNat]? = some (size before) := h.start_eq
  have hslice := slice?_append before content tail
  rw [← h.text] at hslice
  simp only [Draft.offset?, hstart]
  change (slice? cs (size before) ((Draft.of cs).stepBack (size before)
    ((Draft.of cs).stepBack (size before) ((lineOffsets cs)[p.line.toNat + 1]?.getD (size cs)) '\n')
    '\r')).map _ = _
  rw [h.stop_eq, hslice, Option.map_some]

theorem offset?_behind {p : Position} (h : ∀ k, ¬ StartsAt cs p.line.toNat k) :
    (Draft.of cs).offset? p = some (size cs) := by
  have hstart : (Draft.of cs).lines[p.line.toNat]? = none := by
    rw [Option.eq_none_iff_forall_ne_some]
    intro k hk
    exact h k (getElem?_lineOffsets.1 hk)
  simp only [Draft.offset?, hstart]
  rfl

/-- **The table of lines yields the offset of every position.** -/
theorem isOffset_iff {p : Position} : IsOffset cs p k ↔ (Draft.of cs).offset? p = some k := by
  -- in a line, the greatest offset of the column is the one that is computed
  have hgreatest : ∀ {before content : List Char}, IsGreatest {k | ∃ front, front <+: content ∧
      width front ≤ p.character.toNat ∧ k = size before + size front}
      (size before + columnOffset content p.character.toNat) := by
    intro before content
    obtain ⟨⟨front, hfront, hwidth, hk⟩, hle⟩ :=
      columnOffset_isGreatest content p.character.toNat
    refine ⟨⟨front, hfront, hwidth, by rw [hk]⟩, ?_⟩
    rintro k ⟨front', hfront', hwidth', rfl⟩
    exact Nat.add_le_add_left (hle ⟨front', hfront', hwidth', rfl⟩) _
  constructor
  · intro h
    cases h with
    | behind h => exact offset?_behind h
    | inside hline hk => rw [hline.offset?_eq, hgreatest.unique hk]
  · intro h
    rcases isLine_or_behind cs p.line.toNat with ⟨before, content, tail, hline⟩ | hbehind
    · rw [hline.offset?_eq] at h
      obtain rfl := Option.some.inj h
      exact .inside hline hgreatest
    · rw [offset?_behind hbehind] at h
      obtain rfl := Option.some.inj h
      exact .behind hbehind

/-- The offset of a position in a text. -/
def offset (t : String) (p : Position) : Nat := ((Draft.of t.toList).offset? p).getD 0

/-- **Every position has an offset.** -/
theorem offset?_eq (t : String) (p : Position) :
    (Draft.of t.toList).offset? p = some (offset t p) := by
  have hsome : ∃ k, (Draft.of t.toList).offset? p = some k := by
    rcases isLine_or_behind t.toList p.line.toNat with ⟨before, content, tail, hline⟩ | hbehind
    · exact ⟨_, hline.offset?_eq⟩
    · exact ⟨_, offset?_behind hbehind⟩
  obtain ⟨k, hk⟩ := hsome
  rw [offset, hk, Option.getD_some]

/-- **The text can be cut at the offset of every position.** -/
theorem exists_cut_at_offset (t : String) (p : Position) :
    ∃ a b, t.toList = a ++ b ∧ size a = offset t p := by
  have hoffset := isOffset_iff.2 (offset?_eq t p)
  generalize offset t p = k at hoffset ⊢
  cases hoffset with
  | behind => exact ⟨t.toList, [], by simp, rfl⟩
  | @inside before content tail _ hline hk =>
    obtain ⟨⟨front, ⟨rest, hfront⟩, -, hsize⟩, -⟩ := hk
    refine ⟨before ++ front, rest ++ tail, ?_, ?_⟩
    · rw [hline.text, ← hfront]
      simp
    · rw [size_append, hsize]

theorem offset_le_size (t : String) (p : Position) : offset t p ≤ size t.toList := by
  obtain ⟨a, b, htext, hsize⟩ := exists_cut_at_offset t p
  rw [htext, size_append, hsize]
  exact Nat.le_add_right _ _

/-- The lines before a line are there as well. -/
theorem exists_startsAt {m : Nat} (h : StartsAt cs n k) (hmn : m ≤ n) : ∃ j, StartsAt cs m j := by
  obtain ⟨hn, -⟩ := List.getElem?_eq_some_iff.1 (getElem?_lineOffsets.2 h)
  exact ⟨_, getElem?_lineOffsets.1 (List.getElem?_eq_getElem (Nat.lt_of_le_of_lt hmn hn))⟩

/-- **Offsets follow the order of positions.** -/
theorem offset_mono (t : String) {p q : Position} (h : (compare p q).isLE) :
    offset t p ≤ offset t q := by
  rcases isLine_or_behind t.toList q.line.toNat with ⟨before', content', tail', hline'⟩ | hbehind
  · have hq : offset t q = size before' + columnOffset content' q.character.toNat :=
      Option.some.inj ((offset?_eq t q).symm.trans hline'.offset?_eq)
    rcases Position.isLE_iff.1 h with hlt | ⟨hline, hcolumn⟩
    · -- the line of `p` stops before that of `q` starts
      replace hlt := UInt32.lt_iff_toNat_lt.1 hlt
      have hstarts := getElem?_lineOffsets.1 hline'.start_eq
      obtain ⟨k, before, after, htext, hlines, -⟩ := exists_startsAt hstarts hlt.le
      obtain ⟨content, tail, rfl, hcontent, hends⟩ := exists_content after
      have hpline : IsLine t.toList p.line.toNat before content tail :=
        ⟨by rw [htext, List.append_assoc], hlines, hcontent, hends⟩
      have hp : offset t p = size before + columnOffset content p.character.toNat :=
        Option.some.inj ((offset?_eq t p).symm.trans hpline.offset?_eq)
      obtain ⟨m, hm⟩ := Nat.exists_eq_add_of_lt hlt
      have hlater := hline'.start_eq
      rw [hm, Nat.add_assoc, hpline.later_eq] at hlater
      obtain ⟨j, hj, -⟩ := hlater
      have hle := columnOffset_le content p.character.toNat
      omega
    · rw [← hline] at hline'
      have hp : offset t p = size before' + columnOffset content' p.character.toNat :=
        Option.some.inj ((offset?_eq t p).symm.trans hline'.offset?_eq)
      rw [hp, hq]
      exact Nat.add_le_add_left (columnOffset_mono content' (UInt32.le_iff_toNat_le.1 hcolumn)) _
  · rw [show offset t q = size t.toList from
      Option.some.inj ((offset?_eq t q).symm.trans (offset?_behind hbehind))]
    exact offset_le_size t p

/-! ## Layer D: the first and the last position -/

/-- There are no more lines than bytes, the first one apart. -/
theorem length_lineOffsetsFrom_le (start : Nat) (cs : List Char) :
    (lineOffsetsFrom start cs).length ≤ size cs := by
  fun_induction lineOffsetsFrom start cs with
  | case1 start => exact Nat.le_refl _
  | case2 start rest ih =>
    have hsize : size ('\r' :: '\n' :: rest) = 1 + (1 + size rest) := rfl
    rw [List.length_cons, hsize]
    omega
  | case3 start c rest _ _ ih =>
    have hpos := c.utf8Size_pos
    rw [List.length_cons, size_cons]
    omega
  | case4 start c rest _ _ ih =>
    rw [size_cons]
    omega

/-- A character has no more UTF-16 units than bytes. -/
theorem units_le_utf8Size (c : Char) : units c ≤ c.utf8Size := by
  unfold units
  split
  · exact c.utf8Size_pos
  · rename_i hlarge
    -- a surrogate pair stands for a character of four bytes
    have hval : 0xffff < c.val.toNat := Nat.lt_of_not_le fun hle => hlarge (Nat.lt_succ_of_le hle)
    have hone : ¬ c.val.toNat ≤ 0x7f := by omega
    have htwo : ¬ c.val.toNat ≤ 0x7ff := by omega
    have hthree : ¬ c.val.toNat ≤ 0xffff := by omega
    have hsize : c.utf8Size = 4 := by
      unfold Char.utf8Size
      simp only [UInt32.le_iff_toNat_le]
      exact (if_neg hone).trans ((if_neg htwo).trans (if_neg hthree))
    omega

theorem width_le_size (cs : List Char) : width cs ≤ size cs := by
  induction cs with
  | nil => exact Nat.le_refl _
  | cons c rest ih =>
    have hunits := units_le_utf8Size c
    rw [width_cons, size_cons]
    omega

/-- A column behind the content means the end of it. -/
theorem columnOffset_width (content : List Char) :
    columnOffset content (width content) = size content := by
  refine Nat.le_antisymm (columnOffset_le _ _) ?_
  exact (columnOffset_isGreatest content _).2 ⟨content, List.prefix_refl _, Nat.le_refl _, rfl⟩

/-- **The last line is found at the end of the table.** -/
theorem exists_last_line (cs : List Char) : ∃ before content,
    IsLine cs ((lineOffsets cs).length - 1) before content [] ∧
      (lineOffsets cs).getLast? = some (size before) := by
  have hpos : 0 < (lineOffsets cs).length := Nat.succ_pos _
  have hget := List.getElem?_eq_getElem (l := lineOffsets cs) (Nat.sub_one_lt_of_lt hpos)
  obtain ⟨before, after, htext, hlines, hsize⟩ := getElem?_lineOffsets.1 hget
  obtain ⟨content, tail, rfl, hcontent, hends⟩ := exists_content after
  have hline : IsLine cs ((lineOffsets cs).length - 1) before content tail :=
    ⟨by rw [htext, List.append_assoc], hlines, hcontent, hends⟩
  -- a line end would make another entry
  have htail : tail = [] := by
    refine hends.resolve_right ?_
    rintro ⟨brk, next, hbreak, rfl⟩
    have hnext := (hline.later_eq 0).2
      ⟨_, rfl, (startsAt_break hbreak).2 ⟨0, rfl, startsAt_zero.2 rfl⟩⟩
    obtain ⟨hlt, -⟩ := List.getElem?_eq_some_iff.1 hnext
    omega
  subst htail
  exact ⟨before, content, hline, by rw [List.getLast?_eq_getElem?, hline.start_eq]⟩

/-- **The end position of a text that is not too long is at its end.** -/
theorem exists_endPosition (hsmall : size cs < 2 ^ 32) :
    ∃ p, (Draft.of cs).endPosition? = some p ∧ (Draft.of cs).offset? p = some (size cs) := by
  obtain ⟨before, content, hline, hlast⟩ := exists_last_line cs
  have hcut : cut? cs (size before) = some (before, content) := by
    rw [cut?_eq_some_iff]
    exact ⟨by simpa using hline.text, rfl⟩
  have hsize : size cs = size before + size content := by
    rw [hline.text]
    simp
  -- the numbers of lines and of units fit into positions
  have hlines : (UInt32.ofNat ((lineOffsets cs).length - 1)).toNat =
      (lineOffsets cs).length - 1 := by
    have hle := length_lineOffsetsFrom_le 0 cs
    refine UInt32.toNat_ofNat_of_lt' ?_
    simp only [lineOffsets, List.length_cons]
    exact Nat.lt_of_le_of_lt hle hsmall
  have hwidth : (UInt32.ofNat (width content)).toNat = width content := by
    have hle := width_le_size content
    refine UInt32.toNat_ofNat_of_lt' (Nat.lt_of_le_of_lt hle ?_)
    exact Nat.lt_of_le_of_lt (by omega) hsmall
  refine ⟨⟨UInt32.ofNat ((lineOffsets cs).length - 1), UInt32.ofNat (width content)⟩, ?_, ?_⟩
  · simp only [Draft.endPosition?, Draft.of, hlast, Option.getD_some, hcut, Option.map_some]
  · rw [← hlines] at hline
    rw [hline.offset?_eq, hwidth, columnOffset_width, hsize]

/-- The first position is at the start. -/
theorem offset?_first (cs : List Char) : (Draft.of cs).offset? ⟨0, 0⟩ = some 0 := by
  obtain ⟨content, tail, rfl, hcontent, hends⟩ := exists_content cs
  have hline : IsLine (content ++ tail) (0 : UInt32).toNat [] content tail :=
    ⟨rfl, .none _, hcontent, hends⟩
  rw [hline.offset?_eq]
  cases content with
  | nil => rfl
  | cons c rest =>
    have hunits : 0 < units c := by
      unfold units
      split <;> decide
    simp [columnOffset, hunits]

end Buffer

end CodeAtlas
