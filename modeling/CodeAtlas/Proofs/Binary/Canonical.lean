import CodeAtlas.Proofs.Binary.Codec

/-!
# Canonical codecs

A canonical codec reads nothing but what it writes: the bytes that it takes for a value are the
value's own bytes. So no value has two forms. A codec that is faithful besides is exact, and then a
file holds a value if and only if its bytes are those of the value: no file that was cut short, and
none to which bytes were added, is taken for anything.

## Architecture

- **Layer A**: bytes taken off the front of a file;
- **Layer B**: exact codecs, and whole files;
- **Layer C**: numbers and texts;
- **Layer D**: choices, options, lists, pairs.
-/

namespace CodeAtlas

/-! ## Layer A: the front of a file -/

namespace Content

theorem toBytes_next? {c rest : Content} {b : UInt8} (h : c.next? = some (b, rest)) :
    c.toBytes = b :: rest.toBytes := by
  obtain ⟨written, hole⟩ := c
  cases written with
  | cons x xs =>
    simp only [next?, Option.some.injEq, Prod.mk.injEq] at h
    obtain ⟨rfl, rfl⟩ := h
    rfl
  | nil =>
    -- behind what was written, the hole is read byte by byte
    cases hole with
    | zero => cases h
    | succ hole =>
      simp only [next?, Option.some.injEq, Prod.mk.injEq] at h
      obtain ⟨rfl, rfl⟩ := h
      rfl

private theorem takeOnto_spec {n : Nat} {c rest : Content} {taken bs : Bytes}
    (h : takeOnto taken n c = some (bs, rest)) :
    ∃ xs : Bytes, xs.length = n ∧ bs = xs.reverse ++ taken ∧ c.toBytes = xs ++ rest.toBytes := by
  -- the bytes taken so far differ from step to step, so they are any bytes here
  induction n generalizing c taken with
  | zero =>
    simp only [takeOnto, Option.some.injEq, Prod.mk.injEq] at h
    obtain ⟨rfl, rfl⟩ := h
    exact ⟨[], rfl, rfl, rfl⟩
  | succ n ih =>
    rw [takeOnto] at h
    split at h
    · rename_i b tail hnext
      obtain ⟨xs, hlength, rfl, htail⟩ := ih h
      refine ⟨b :: xs, by simp [hlength], by simp, ?_⟩
      rw [toBytes_next? hnext, htail, List.cons_append]
    · cases h

/-- What is taken off the front of a file, and what is left, make up the file. -/
theorem take?_spec {n : Nat} {c rest : Content} {bs : Bytes} (h : c.take? n = some (bs, rest)) :
    bs.length = n ∧ c.toBytes = bs ++ rest.toBytes := by
  unfold take? at h
  split at h
  · cases h
  · obtain ⟨⟨taken, tail⟩, htake, heq⟩ := Option.map_eq_some_iff.1 h
    obtain ⟨rfl, rfl⟩ := Prod.mk.inj heq
    obtain ⟨xs, hlength, hbs, hbytes⟩ := takeOnto_spec htake
    obtain rfl : xs = taken.reverse := by simp [hbs]
    exact ⟨hlength, hbytes⟩

end Content

namespace Bytes

theorem toNat_lt (bs : Bytes) : toNat bs < 256 ^ bs.length := by
  induction bs with
  | nil => exact Nat.one_pos
  | cons b rest ih =>
    have hb := b.toNat_lt
    rw [toNat, List.length_cons, Nat.pow_succ]
    omega

/-- Bytes are written again as they were read. -/
theorem littleEndian_toNat (bs : Bytes) : littleEndian bs.length (toNat bs) = bs := by
  induction bs with
  | nil => rfl
  | cons b rest ih =>
    have hb := b.toNat_lt
    have hlow : (b.toNat + 256 * toNat rest) % 256 = b.toNat := by omega
    have hrest : (b.toNat + 256 * toNat rest) / 256 = toNat rest := by omega
    rw [List.length_cons, toNat, littleEndian, hlow, hrest, ih]
    congr 1
    exact UInt8.ofNat_toNat

theorem ofText_of_text? {bs : Bytes} {s : String} (h : text? bs = some s) : ofText s = bs := by
  unfold text? String.fromUTF8? at h
  split at h
  · obtain rfl := Option.some.inj h
    simp [ofText, String.fromUTF8]
  · cases h

end Bytes

namespace Codec

variable {α β : Type} {c : Codec α} {d : Codec β}

/-! ## Layer B: exact codecs -/

/-- **An exact codec** is faithful, and what it reads is what it would have written. -/
structure Exact (c : Codec α) : Prop extends c.Faithful where
  canonical : ∀ s a rest, c.decode s = some (a, rest) → s.toBytes = c.encode a ++ rest.toBytes

/-- The bytes of a file are those of the value that it holds. -/
theorem Exact.encode_of_decodeAll? (h : c.Exact) {s : Content} {a : α}
    (hread : c.decodeAll? s = some a) : c.encode a = s.toBytes := by
  unfold Codec.decodeAll? at hread
  split at hread
  · rename_i b rest hdecode
    split at hread
    · rename_i hempty
      obtain rfl := Option.some.inj hread
      rw [h.canonical s b rest hdecode, (Content.isEmpty_iff rest).1 hempty, List.append_nil]
    · cases hread
  · cases hread

/-- **No form is the beginning of another one.** -/
theorem Faithful.eq_of_prefix (h : c.Faithful) {a b : α} (hsize : (c.encode b).length < 256 ^ 8)
    (hstart : c.encode a <+: c.encode b) : a = b := by
  obtain ⟨ys, hys⟩ := hstart
  have hle : (c.encode a).length ≤ (c.encode b).length := by
    rw [← hys, List.length_append]
    exact Nat.le_add_right ..
  -- read the longer form twice, once as itself and once as the shorter one and a rest
  obtain ⟨_, hlong, -⟩ := h.decode b ⟨c.encode b, 0⟩ [] hsize (by simp [Content.toBytes])
  obtain ⟨_, hshort, -⟩ := h.decode a ⟨c.encode b, 0⟩ ys (Nat.lt_of_le_of_lt hle hsize)
    (by simp [Content.toBytes, hys])
  rw [hshort] at hlong
  exact (Prod.mk.inj (Option.some.inj hlong)).1

/-- **A form that is cut short is refused.** -/
theorem Exact.decodeAll?_of_prefix (h : c.Exact) {s : Content} {a : α}
    (hsize : (c.encode a).length < 256 ^ 8) (hstart : s.toBytes <+: c.encode a)
    (hne : s.toBytes ≠ c.encode a) : c.decodeAll? s = none := by
  rw [Option.eq_none_iff_forall_ne_some]
  intro b hread
  have hbytes := h.encode_of_decodeAll? hread
  rw [← hbytes] at hstart hne
  exact hne (by rw [h.eq_of_prefix hsize hstart])

/-- **A form to which bytes are added is refused.** -/
theorem Exact.decodeAll?_of_extension (h : c.Exact) {s : Content} {a : α}
    (hsize : s.size < 256 ^ 8) (hstart : c.encode a <+: s.toBytes)
    (hne : s.toBytes ≠ c.encode a) : c.decodeAll? s = none := by
  rw [Option.eq_none_iff_forall_ne_some]
  intro b hread
  have hbytes := h.encode_of_decodeAll? hread
  rw [← Content.length_toBytes, ← hbytes] at hsize
  rw [← hbytes] at hstart hne
  exact hne (by rw [h.eq_of_prefix hsize hstart])

/-- A codec for a type whose values and those of another stand for each other. -/
theorem Exact.via (h : c.Exact) {forth : β → α} {back : α → β} (hback : ∀ b, back (forth b) = b)
    (hforth : ∀ a, forth (back a) = a) : (c.via forth back).Exact where
  toFaithful := h.toFaithful.via hback
  canonical := by
    intro s b rest hread
    obtain ⟨⟨a, tail⟩, hdecode, heq⟩ := Option.map_eq_some_iff.1 hread
    obtain ⟨rfl, rfl⟩ := Prod.mk.inj heq
    change s.toBytes = c.encode (forth (back a)) ++ tail.toBytes
    rw [hforth]
    exact h.canonical s a tail hdecode

/-! ## Layer C: numbers and texts -/

/-- A number that is read fits, and its bytes are those that are read. -/
theorem number_spec {width n : Nat} {s rest : Content}
    (h : (number width).decode s = some (n, rest)) :
    n < 256 ^ width ∧ s.toBytes = Bytes.littleEndian width n ++ rest.toBytes := by
  obtain ⟨⟨bs, tail⟩, htake, heq⟩ := Option.map_eq_some_iff.1 h
  obtain ⟨rfl, rfl⟩ := Prod.mk.inj heq
  obtain ⟨rfl, hbytes⟩ := Content.take?_spec htake
  refine ⟨Bytes.toNat_lt bs, ?_⟩
  rw [Bytes.littleEndian_toNat]
  exact hbytes

/-- A number that stands for a value is exact if every number that fits stands for one. -/
theorem Faithful.exact_number {width : Nat} {forth : β → Nat} {back : Nat → β}
    (h : ((number width).via forth back).Faithful)
    (hforth : ∀ n, n < 256 ^ width → forth (back n) = n) :
    ((number width).via forth back).Exact where
  toFaithful := h
  canonical := by
    intro s b rest hread
    obtain ⟨⟨n, tail⟩, hdecode, heq⟩ := Option.map_eq_some_iff.1 hread
    obtain ⟨rfl, rfl⟩ := Prod.mk.inj heq
    obtain ⟨hn, hbytes⟩ := number_spec hdecode
    change s.toBytes = Bytes.littleEndian width (forth (back n)) ++ tail.toBytes
    rw [hforth n hn]
    exact hbytes

theorem exact_word32 : word32.Exact :=
  faithful_word32.exact_number fun _ hn => UInt32.toNat_ofNat_of_lt' hn

theorem exact_word64 : word64.Exact :=
  faithful_word64.exact_number fun _ hn => UInt64.toNat_ofNat_of_lt' hn

theorem exact_text : text.Exact where
  toFaithful := faithful_text
  canonical := by
    intro s t rest hread
    simp only [text, Option.bind_eq_bind, Option.bind_eq_some_iff, Prod.exists] at hread
    obtain ⟨n, s₁, hnumber, bs, s₂, htake, t', htext, hpure⟩ := hread
    obtain ⟨rfl, rfl⟩ := Prod.mk.inj (Option.some.inj hpure)
    obtain ⟨-, hhead⟩ := number_spec hnumber
    obtain ⟨rfl, hbody⟩ := Content.take?_spec htake
    obtain rfl := Bytes.ofText_of_text? htext
    rw [hhead, hbody]
    simp only [text, List.append_assoc]

/-! ## Layer D: composites -/

/-- A choice is exact if the values that are told apart are all there are, each once. -/
theorem exact_choice [DecidableEq α] {all : List α} (hall : ∀ a, a ∈ all) (hnodup : all.Nodup)
    (hsize : all.length < 256 ^ 4) : (choice all).Exact where
  toFaithful := faithful_choice hall hsize
  canonical := by
    intro s a rest hread
    simp only [choice, Option.bind_eq_bind, Option.bind_eq_some_iff, Prod.exists] at hread
    obtain ⟨n, s₁, hnumber, b, hget, hpure⟩ := hread
    obtain ⟨rfl, rfl⟩ := Prod.mk.inj (Option.some.inj hpure)
    obtain ⟨hlt, rfl⟩ := List.getElem?_eq_some_iff.1 hget
    simp only [choice, hnodup.idxOf_getElem n hlt]
    exact (number_spec hnumber).2

theorem Exact.option (h : c.Exact) : c.option.Exact where
  toFaithful := h.toFaithful.option
  canonical := by
    intro s o rest hread
    simp only [Codec.option] at hread
    split at hread
    -- the first byte tells that there is nothing
    · rename_i tail hnext
      obtain ⟨rfl, rfl⟩ := Prod.mk.inj (Option.some.inj hread)
      exact Content.toBytes_next? hnext
    -- it tells that there is something, and the rest reads that
    · rename_i tail hnext
      obtain ⟨⟨a, tail'⟩, hdecode, heq⟩ := Option.map_eq_some_iff.1 hread
      obtain ⟨rfl, rfl⟩ := Prod.mk.inj heq
      rw [Content.toBytes_next? hnext, h.canonical _ _ _ hdecode]
      rfl
    · cases hread

theorem Exact.pair (hc : c.Exact) (hd : d.Exact) : (c.pair d).Exact where
  toFaithful := hc.toFaithful.pair hd.toFaithful
  canonical := by
    intro s p rest hread
    simp only [Codec.pair, Option.bind_eq_bind, Option.bind_eq_some_iff, Prod.exists] at hread
    obtain ⟨a, s₁, hfirst, b, s₂, hsecond, hpure⟩ := hread
    obtain ⟨rfl, rfl⟩ := Prod.mk.inj (Option.some.inj hpure)
    rw [hc.canonical _ _ _ hfirst, hd.canonical _ _ _ hsecond, ← List.append_assoc]
    rfl

theorem Exact.decodeMany (h : c.Exact) {n : Nat} {s rest : Content} {as : List α}
    (hread : c.decodeMany n s = some (as, rest)) :
    as.length = n ∧ s.toBytes = as.flatMap c.encode ++ rest.toBytes := by
  induction n generalizing s as with
  | zero =>
    obtain ⟨rfl, rfl⟩ := Prod.mk.inj (Option.some.inj hread)
    exact ⟨rfl, rfl⟩
  | succ n ih =>
    simp only [Codec.decodeMany, Option.bind_eq_bind, Option.bind_eq_some_iff,
      Prod.exists] at hread
    obtain ⟨a, s₁, hfirst, as', s₂, hmany, hpure⟩ := hread
    obtain ⟨rfl, rfl⟩ := Prod.mk.inj (Option.some.inj hpure)
    obtain ⟨hlength, htail⟩ := ih hmany
    refine ⟨by rw [List.length_cons, hlength], ?_⟩
    rw [h.canonical _ _ _ hfirst, htail, List.flatMap_cons, List.append_assoc]

theorem Exact.list (h : c.Exact) : c.list.Exact where
  toFaithful := h.toFaithful.list
  canonical := by
    intro s as rest hread
    simp only [Codec.list, Option.bind_eq_bind, Option.bind_eq_some_iff, Prod.exists] at hread
    obtain ⟨n, s₁, hnumber, hmany⟩ := hread
    obtain ⟨-, hhead⟩ := number_spec hnumber
    obtain ⟨rfl, hitems⟩ := h.decodeMany hmany
    rw [hhead, hitems, ← List.append_assoc]
    rfl

-- a number has its lowest byte first, a length eight bytes, a choice four, an option's mark one
example : (pair (choice [false, true]) (pair text.option word32.list)).encode
    (true, some "é", [258]) =
      [1, 0, 0, 0] ++ [1] ++ [2, 0, 0, 0, 0, 0, 0, 0] ++ [0xc3, 0xa9] ++
        [1, 0, 0, 0, 0, 0, 0, 0] ++ [2, 1, 0, 0] := by
  decide +kernel

end Codec

end CodeAtlas
