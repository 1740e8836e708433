import CodeAtlas.Proofs.Overlay.Basic
import CodeAtlas.Proofs.Overlay.Offset

/-!
# What edits do to a buffer

An edit replaces the text between two positions, or all of it. Every position has an offset at which
the text can be cut, so edits replace exactly the bytes they name, and only a range that runs
backwards is refused. A list of edits goes on with what the edit before has made; if one of them is
refused, none is made.

## Architecture

- **Layer A**: single edits;
- **Layer B**: lists of edits;
- **Layer C**: buffers, and the main result.
-/

namespace CodeAtlas

namespace Buffer

/-! ## Layer A: single edits -/

/-- **What an edit makes of a text**: without a range its own text, otherwise the bytes between two
offsets are replaced. -/
inductive Edited (t : String) (e : BufferEdit) : String → Prop
  | whole (hrange : e.range = none) : Edited t e e.text
  | part {r : Range} {u : String} (hrange : e.range = some r)
      (hforward : offset t r.start ≤ offset t r.stop)
      (hbytes : Bytes.ofText u = (Bytes.ofText t).take (offset t r.start) ++ Bytes.ofText e.text ++
        (Bytes.ofText t).drop (offset t r.stop)) : Edited t e u

theorem Edited.unique {t u u' : String} {e : BufferEdit} (h : Edited t e u) (h' : Edited t e u') :
    u = u' := by
  cases h with
  | whole hrange =>
    cases h' with
    | whole => rfl
    | part hrange' => cases hrange.symm.trans hrange'
  | part hrange _ hbytes =>
    cases h' with
    | whole hrange' => cases hrange.symm.trans hrange'
    | part hrange' _ hbytes' =>
      obtain rfl := Option.some.inj (hrange.symm.trans hrange')
      exact Bytes.ofText_injective (hbytes.trans hbytes'.symm)

/-- **Bytes are replaced between the offsets of two positions.** -/
theorem exists_replace (t text : String) (p q : Position) : ∃ u : String,
    (Draft.of t.toList).replace? (offset t p) (offset t q) text.toList = some (.of u.toList) ∧
      Bytes.ofText u = (Bytes.ofText t).take (offset t p) ++ Bytes.ofText text ++
        (Bytes.ofText t).drop (offset t q) := by
  obtain ⟨a, b, hp, hpsize⟩ := exists_cut_at_offset t p
  obtain ⟨a', b', hq, hqsize⟩ := exists_cut_at_offset t q
  have hcut : cut? t.toList (offset t p) = some (a, b) := cut?_eq_some_iff.2 ⟨hp, hpsize⟩
  have hcut' : cut? t.toList (offset t q) = some (a', b') := cut?_eq_some_iff.2 ⟨hq, hqsize⟩
  -- the bytes of the text, seen from either cut
  have hbytes : Bytes.ofText t =
      Bytes.ofText (String.ofList a) ++ Bytes.ofText (String.ofList b) := by
    rw [← bytes_append, ← hp, String.ofList_toList]
  have hbytes' : Bytes.ofText t =
      Bytes.ofText (String.ofList a') ++ Bytes.ofText (String.ofList b') := by
    rw [← bytes_append, ← hq, String.ofList_toList]
  refine ⟨String.ofList (a ++ text.toList ++ b'), ?_, ?_⟩
  · simp [Draft.replace?, Draft.of, hcut, hcut']
  · rw [bytes_append, bytes_append, String.ofList_toList]
    congr 1
    · rw [hbytes, ← hpsize, ← length_bytes, List.take_left]
    · rw [hbytes', ← hqsize, ← length_bytes, List.drop_left]

/-- An edit of the text between two positions. -/
theorem edit_of_range {t : String} {e : BufferEdit} {r : Range}
    (h : (Draft.of t.toList).rangeOf? e = some r) :
    (Draft.of t.toList).edit e =
      if offset t r.stop < offset t r.start then .error .outOfBounds
      else Draft.ofCut ((Draft.of t.toList).replace? (offset t r.start) (offset t r.stop)
        e.text.toList) := by
  have hinside : ¬ size (Draft.of t.toList).chars < offset t r.stop :=
    Nat.not_lt.2 (offset_le_size t r.stop)
  unfold Draft.edit
  rw [h]
  simp only [Draft.ofCut, bind, Except.bind, offset?_eq, hinside, decide_false, Bool.or_false,
    decide_eq_true_eq]

/-- **An edit is made, or its range runs backwards.** -/
theorem edit_spec (t : String) (e : BufferEdit) (hsmall : t.utf8ByteSize < 2 ^ 32) :
    (∃ u, Edited t e u ∧ (Draft.of t.toList).edit e = .ok (.of u.toList)) ∨
      ∃ r, e.range = some r ∧ offset t r.stop < offset t r.start ∧
        (Draft.of t.toList).edit e = .error .outOfBounds := by
  cases hrange : e.range with
  | none =>
    -- the whole text is replaced, from its first position to its end
    have hsize : size t.toList < 2 ^ 32 := by
      rwa [← utf8ByteSize_ofList, String.ofList_toList]
    obtain ⟨stop, hstop, hend⟩ := exists_endPosition hsize
    have hof : (Draft.of t.toList).rangeOf? e = some ⟨⟨0, 0⟩, stop⟩ := by
      simp [Draft.rangeOf?, hrange, hstop]
    have hfirst : offset t ⟨0, 0⟩ = 0 :=
      Option.some.inj ((offset?_eq t _).symm.trans (offset?_first _))
    have hlast : offset t stop = size t.toList :=
      Option.some.inj ((offset?_eq t _).symm.trans hend)
    obtain ⟨u, hreplace, hbytes⟩ := exists_replace t e.text ⟨0, 0⟩ stop
    have hlength : (Bytes.ofText t).length = size t.toList := by
      rw [← length_bytes, String.ofList_toList]
    rw [hfirst, hlast, ← hlength, List.take_zero, List.drop_length, List.append_nil,
      List.nil_append] at hbytes
    obtain rfl := Bytes.ofText_injective hbytes
    refine Or.inl ⟨_, .whole hrange, ?_⟩
    rw [edit_of_range hof, if_neg (by simp [hfirst]), hreplace]
    rfl
  | some r =>
    have hof : (Draft.of t.toList).rangeOf? e = some r := by simp [Draft.rangeOf?, hrange]
    rw [edit_of_range hof]
    by_cases hbackward : offset t r.stop < offset t r.start
    · exact Or.inr ⟨r, rfl, hbackward, by rw [if_pos hbackward]⟩
    · obtain ⟨u, hreplace, hbytes⟩ := exists_replace t e.text r.start r.stop
      refine Or.inl ⟨u, .part hrange (Nat.not_lt.1 hbackward) hbytes, ?_⟩
      rw [if_neg hbackward, hreplace]
      rfl

/-! ## Layer B: lists of edits -/

/-- **What edits make of a text**, each of the result of the one before. -/
inductive EditedAll : String → List BufferEdit → String → Prop
  | nil (t : String) : EditedAll t [] t
  | cons {t u v : String} {e : BufferEdit} {rest : List BufferEdit} (h : Edited t e u)
      (hrest : EditedAll u rest v) : EditedAll t (e :: rest) v

/-- **Edits that are not made**: one of them runs backwards in what those before it make. -/
inductive Refused : String → List BufferEdit → Prop
  | here {t : String} {e : BufferEdit} {r : Range} (rest : List BufferEdit)
      (hrange : e.range = some r) (hbackward : offset t r.stop < offset t r.start) :
      Refused t (e :: rest)
  | later {t u : String} {e : BufferEdit} {rest : List BufferEdit} (h : Edited t e u)
      (hrest : Refused u rest) : Refused t (e :: rest)

theorem EditedAll.unique {t u u' : String} {edits : List BufferEdit} (h : EditedAll t edits u)
    (h' : EditedAll t edits u') : u = u' := by
  induction h with
  | nil t =>
    cases h'
    rfl
  | cons h _ ih =>
    cases h' with
    | cons h' hrest' =>
      obtain rfl := h.unique h'
      exact ih hrest'

/-- Edits are made or not. -/
theorem EditedAll.not_refused {t u : String} {edits : List BufferEdit} (h : EditedAll t edits u) :
    ¬ Refused t edits := by
  intro hrefused
  induction h with
  | nil t => cases hrefused
  | cons h _ ih =>
    cases hrefused with
    | here _ hrange hbackward =>
      cases h with
      | whole hnone => cases hrange.symm.trans hnone
      | part hsome hforward _ =>
        obtain rfl := Option.some.inj (hrange.symm.trans hsome)
        exact absurd hforward (Nat.not_le.2 hbackward)
    | later h' hrest =>
      -- both went through the same edits up to here, and those have one outcome
      obtain rfl := h.unique h'
      exact ih hrest

/-- **Only a range that starts behind its end** keeps edits from being made. -/
theorem Refused.exists_backward {t : String} {edits : List BufferEdit} (h : Refused t edits) :
    ∃ e ∈ edits, ∃ r, e.range = some r ∧ compare r.start r.stop = .gt := by
  induction h with
  | @here t e r rest hrange hbackward =>
    refine ⟨e, List.mem_cons_self .., r, hrange, ?_⟩
    -- otherwise the offsets would be in order as well
    refine Decidable.by_contra fun hforward => ?_
    have hle : (compare r.start r.stop).isLE := Ordering.isLE_iff_ne_gt.2 hforward
    exact absurd (offset_mono t hle) (Nat.not_le.2 hbackward)
  | later _ _ ih =>
    obtain ⟨e, he, hbackward⟩ := ih
    exact ⟨e, List.mem_cons_of_mem _ he, hbackward⟩

/-- **The texts that edits are applied to** are short enough for the numbers in positions. -/
def Short (t : String) (edits : List BufferEdit) : Prop :=
  ∀ front e u, front ++ [e] <+: edits → EditedAll t front u → u.utf8ByteSize < 2 ^ 32

theorem Short.first {t : String} {e : BufferEdit} {rest : List BufferEdit}
    (h : Short t (e :: rest)) : t.utf8ByteSize < 2 ^ 32 :=
  h [] e t (List.cons_prefix_cons.2 ⟨rfl, List.nil_prefix⟩) (.nil t)

theorem Short.later {t u : String} {e : BufferEdit} {rest : List BufferEdit}
    (h : Short t (e :: rest)) (hu : Edited t e u) : Short u rest := by
  intro front e' v hfront hv
  exact h (e :: front) e' v (List.cons_prefix_cons.2 ⟨rfl, hfront⟩) (.cons hu hv)

/-- **Edits are all made, or one of them is refused.** -/
theorem editAll_spec {t : String} {edits : List BufferEdit} (hshort : Short t edits) :
    (∃ u, EditedAll t edits u ∧ (Draft.of t.toList).editAll edits = .ok (.of u.toList)) ∨
      Refused t edits ∧ (Draft.of t.toList).editAll edits = .error .outOfBounds := by
  induction edits generalizing t with
  | nil => exact Or.inl ⟨t, .nil t, rfl⟩
  | cons e rest ih =>
    unfold Draft.editAll
    rcases edit_spec t e hshort.first with ⟨u, hu, hedit⟩ | ⟨r, hrange, hbackward, hedit⟩
    · -- the other edits see what this one made
      rcases ih (hshort.later hu) with ⟨v, hv, hall⟩ | ⟨hrefused, hall⟩
      · refine Or.inl ⟨v, .cons hu hv, ?_⟩
        rw [hedit]
        exact hall
      · refine Or.inr ⟨.later hu hrefused, ?_⟩
        rw [hedit]
        exact hall
    · refine Or.inr ⟨.here rest hrange hbackward, ?_⟩
      rw [hedit]
      rfl

/-! ## Layer C: buffers -/

section Attempt

variable {b b' : Buffer} {edits : List BufferEdit} (version : Int)

theorem attempt_spec (hshort : Short b.text edits) :
    (∃ u, EditedAll b.text edits u ∧ b.attempt version edits = .ok ⟨u, version⟩) ∨
      Refused b.text edits ∧ b.attempt version edits = .error .outOfBounds := by
  unfold attempt
  rcases editAll_spec hshort with ⟨u, hu, hall⟩ | ⟨hrefused, hall⟩
  · refine Or.inl ⟨u, hu, ?_⟩
    rw [hall]
    simp [Except.map, Draft.of]
  · exact Or.inr ⟨hrefused, by rw [hall]; rfl⟩

/-- **An attempt succeeds** with what the edits make of the text. -/
theorem attempt_eq_ok_iff (hshort : Short b.text edits) :
    b.attempt version edits = .ok b' ↔ ∃ u, EditedAll b.text edits u ∧ b' = ⟨u, version⟩ := by
  rcases attempt_spec version hshort with ⟨u, hu, hattempt⟩ | ⟨hrefused, hattempt⟩
  · rw [hattempt, Except.ok.injEq]
    constructor
    · rintro rfl
      exact ⟨u, hu, rfl⟩
    · rintro ⟨u', hu', rfl⟩
      rw [hu.unique hu']
  · rw [hattempt]
    refine iff_of_false nofun ?_
    rintro ⟨u, hu, -⟩
    exact hu.not_refused hrefused

/-- **An attempt fails** only where edits are refused, and never because a text cannot be cut. -/
theorem attempt_eq_error_iff (hshort : Short b.text edits) (fault : EditFault) :
    b.attempt version edits = .error fault ↔ fault = .outOfBounds ∧ Refused b.text edits := by
  rcases attempt_spec version hshort with ⟨u, hu, hattempt⟩ | ⟨hrefused, hattempt⟩
  · rw [hattempt]
    refine iff_of_false nofun ?_
    rintro ⟨-, hrefused⟩
    exact hu.not_refused hrefused
  · rw [hattempt, Except.error.injEq, and_iff_left hrefused]
    exact eq_comm

end Attempt

/-- Where an overlay has a buffer, there are shards. -/
theorem shards_pos {o : Overlay} {path : Path} {b : Buffer} (h : o.buffer? path = some b) :
    0 < o.shards.length := by
  refine List.length_pos_iff.2 fun hnone => ?_
  simp [Overlay.buffer?, Overlay.shard, hnone, Table.get?, Table.lookup, Table.empty] at h

/-- **The buffer behind a call for edits** is the edited one, or the one that was there. -/
theorem buffer?_perform_applyEdits {o : Overlay} {path : Path} {b : Buffer} (base : FileSource)
    (version : Int) (edits : List BufferEdit) (h : o.buffer? path = some b) :
    (o.perform base (.applyEdits path version edits)).1.buffer? path =
      some ((b.applyEdits version edits).getD b) := by
  simp only [Overlay.perform, Overlay.applyEdits, h]
  cases b.applyEdits version edits with
  | none => exact h
  | some b' =>
    change (o.put path b').buffer? path = _
    rw [Overlay.buffer?_put (shards_pos h), if_pos rfl, Option.getD_some]

/-- **Edits are exact or refused.** As long as the texts they are applied to are not too long for
positions:
- an attempt succeeds with the text in which every edit replaced exactly the bytes between the
  offsets of its positions, and with the new version;
- it fails only where a range runs backwards in the text at hand, whose start is then behind its
  end, and no text is ever cut inside a character;
- in an overlay the buffer becomes the edited one, or stays as it is;
- the offset of a position is the one that its line and its column say, and offsets follow the order
  of positions. -/
theorem edits_exact_or_refused (b : Buffer) (version : Int) (edits : List BufferEdit)
    (hshort : Short b.text edits) :
    (∀ b', b.attempt version edits = .ok b' ↔
      ∃ u, EditedAll b.text edits u ∧ b' = ⟨u, version⟩) ∧
    (∀ fault, b.attempt version edits = .error fault ↔
      fault = .outOfBounds ∧ Refused b.text edits) ∧
    (Refused b.text edits → ∃ e ∈ edits, ∃ r, e.range = some r ∧
      compare r.start r.stop = .gt) ∧
    (∀ (o : Overlay) (base : FileSource) (path : Path), o.buffer? path = some b →
      (o.perform base (.applyEdits path version edits)).1.buffer? path =
        some ((b.applyEdits version edits).getD b)) ∧
    (∀ (t : String) (p : Position) (k : Nat), IsOffset t.toList p k ↔ k = offset t p) ∧
    ∀ (t : String) (p q : Position), (compare p q).isLE → offset t p ≤ offset t q := by
  refine ⟨fun b' => attempt_eq_ok_iff version hshort,
    fun fault => attempt_eq_error_iff version hshort fault, Refused.exists_backward, ?_, ?_, ?_⟩
  · intro o base path h
    exact buffer?_perform_applyEdits base version edits h
  · intro t p k
    rw [isOffset_iff, offset?_eq, Option.some.injEq]
    exact eq_comm
  · intro t p q h
    exact offset_mono t h

/-- Two edits of two lines: the first one starts inside a surrogate pair and ends behind its line,
the second one joins the lines. -/
def joiningEdits : List BufferEdit :=
  [⟨some ⟨⟨0, 2⟩, ⟨0, 9⟩⟩, "x"⟩, ⟨some ⟨⟨0, 9⟩, ⟨1, 0⟩⟩, ""⟩]

/-- The pair goes as a whole, and the line's end stays until the second edit. -/
theorem lines_are_joined :
    (⟨"a😀b\r\ncd", 7⟩ : Buffer).attempt 8 joiningEdits = .ok ⟨"axcd", 8⟩ := by
  have hfirst : Edited "a😀b\r\ncd" ⟨some ⟨⟨0, 2⟩, ⟨0, 9⟩⟩, "x"⟩ "ax\r\ncd" :=
    .part rfl (by decide +kernel) (by decide +kernel)
  have hsecond : Edited "ax\r\ncd" ⟨some ⟨⟨0, 9⟩, ⟨1, 0⟩⟩, ""⟩ "axcd" :=
    .part rfl (by decide +kernel) (by decide +kernel)
  refine ((edits_exact_or_refused ⟨"a😀b\r\ncd", 7⟩ 8 joiningEdits ?_).1 _).2
    ⟨"axcd", .cons hfirst (.cons hsecond (.nil _)), rfl⟩
  -- edits are applied to the text and to what the first one makes of it
  rintro front e u ⟨back, hedits⟩ hu
  match front with
  | [] =>
    cases hu
    decide +kernel
  | [e'] =>
    obtain ⟨rfl, -⟩ := List.cons.inj hedits
    rw [hu.unique (.cons hfirst (.nil _))]
    decide +kernel
  | _ :: _ :: _ => simp [joiningEdits] at hedits

end Buffer

end CodeAtlas
