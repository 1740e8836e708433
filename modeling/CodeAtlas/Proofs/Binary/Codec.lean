import CodeAtlas.Binary.Codec
import CodeAtlas.Proofs.Bytes.Basic
import Mathlib.Data.List.Basic

/-!
# Theory of binary codecs

A faithful codec reads back what it wrote, whatever follows it. The only limit is that of the
length fields: what is written must be shorter than they can say. Composite codecs are faithful if
their parts are.

## Architecture

- **Layer A**: reading bytes off the front of a file;
- **Layer B**: faithful codecs;
- **Layer C**: numbers and texts;
- **Layer D**: choices, options, lists, pairs.
-/

namespace CodeAtlas

/-! ## Layer A: the front of a file -/

namespace Content

@[simp] theorem length_toBytes (c : Content) : c.toBytes.length = c.size := by
  simp [toBytes, size]

theorem isEmpty_iff (c : Content) : c.isEmpty = true ↔ c.toBytes = [] := by
  obtain ⟨written, hole⟩ := c
  simp [isEmpty, toBytes]

/-- The first byte is taken off, whether it was written or lies in a hole. -/
theorem next?_of_toBytes {s : Content} {b : UInt8} {bs : Bytes} (h : s.toBytes = b :: bs) :
    ∃ rest, s.next? = some (b, rest) ∧ rest.toBytes = bs := by
  obtain ⟨written, hole⟩ := s
  cases written with
  | cons x xs =>
    obtain ⟨rfl, hbs⟩ := List.cons.inj h
    exact ⟨⟨xs, hole⟩, rfl, hbs⟩
  | nil =>
    cases hole with
    | zero => cases h
    | succ hole =>
      obtain ⟨rfl, hbs⟩ := List.cons.inj h
      exact ⟨⟨[], hole⟩, rfl, hbs⟩

private theorem takeOnto_of_toBytes {s : Content} (taken : Bytes) {xs bs : Bytes}
    (h : s.toBytes = xs ++ bs) :
    ∃ rest, takeOnto taken xs.length s = some (xs.reverse ++ taken, rest) ∧ rest.toBytes = bs := by
  induction xs generalizing s taken with
  | nil => exact ⟨s, rfl, h⟩
  | cons x xs ih =>
    obtain ⟨tail, hnext, htail⟩ := next?_of_toBytes h
    obtain ⟨rest, htake, hrest⟩ := ih (x :: taken) htail
    refine ⟨rest, ?_, hrest⟩
    rw [List.length_cons, takeOnto, hnext]
    simp only [htake, List.reverse_cons, List.append_assoc, List.singleton_append]

/-- The bytes at the front of a file are taken off. -/
theorem take?_of_toBytes {s : Content} {xs bs : Bytes} (h : s.toBytes = xs ++ bs) :
    ∃ rest, s.take? xs.length = some (xs, rest) ∧ rest.toBytes = bs := by
  obtain ⟨rest, htake, hrest⟩ := takeOnto_of_toBytes [] h
  have hsize : ¬ s.size < xs.length := by
    rw [← length_toBytes, h, List.length_append]
    omega
  refine ⟨rest, ?_, hrest⟩
  simp [take?, hsize, htake]

end Content

namespace Codec

variable {α β : Type} {c : Codec α} {d : Codec β}

/-! ## Layer B: faithful codecs -/

/-- **A faithful codec** writes something for every value, and reads it back from the front of
every file that begins with it, as long as what it wrote is shorter than a length field can say. -/
structure Faithful (c : Codec α) : Prop where
  length_pos : ∀ a, 0 < (c.encode a).length
  decode : ∀ a s bs, (c.encode a).length < 256 ^ 8 → s.toBytes = c.encode a ++ bs →
    ∃ rest, c.decode s = some (a, rest) ∧ rest.toBytes = bs

/-- A file holds a value if its bytes are those of the value, holes or not. -/
theorem Faithful.decodeAll?_of_toBytes (h : c.Faithful) {a : α} {s : Content}
    (hsize : (c.encode a).length < 256 ^ 8) (hbytes : s.toBytes = c.encode a) :
    c.decodeAll? s = some a := by
  obtain ⟨rest, hread, hrest⟩ := h.decode a s [] hsize (by rw [hbytes, List.append_nil])
  simp [Codec.decodeAll?, hread, (Content.isEmpty_iff rest).2 hrest]

/-- What a faithful codec wrote into a file is what the file holds. -/
theorem Faithful.decodeAll? (h : c.Faithful) {a : α} (hsize : (c.encode a).length < 256 ^ 8) :
    c.decodeAll? ⟨c.encode a, 0⟩ = some a :=
  h.decodeAll?_of_toBytes hsize (by simp [Content.toBytes])

/-- A codec for a type whose values stand for those of another. -/
theorem Faithful.via (h : c.Faithful) {forth : β → α} {back : α → β}
    (hback : ∀ b, back (forth b) = b) : (c.via forth back).Faithful where
  length_pos b := h.length_pos (forth b)
  decode b s bs hsize hbytes := by
    obtain ⟨rest, hread, hrest⟩ := h.decode (forth b) s bs hsize hbytes
    exact ⟨rest, by simp only [Codec.via, hread, Option.map_some, hback], hrest⟩

/-! ## Layer C: numbers and texts -/

/-- A number that fits is read back. -/
theorem decode_number {width n : Nat} (hn : n < 256 ^ width) {s : Content} {bs : Bytes}
    (hbytes : s.toBytes = Bytes.littleEndian width n ++ bs) :
    ∃ rest, (number width).decode s = some (n, rest) ∧ rest.toBytes = bs := by
  obtain ⟨rest, htake, hrest⟩ := Content.take?_of_toBytes hbytes
  rw [Bytes.length_littleEndian] at htake
  exact ⟨rest, by simp only [number, htake, Option.map_some, Bytes.toNat_littleEndian hn], hrest⟩

theorem faithful_word32 : word32.Faithful where
  length_pos n := by simp [word32, number, via]
  decode n s bs _ hbytes := by
    obtain ⟨rest, hread, hrest⟩ := decode_number n.toNat_lt hbytes
    exact ⟨rest, by simp [word32, via, hread], hrest⟩

theorem faithful_word64 : word64.Faithful where
  length_pos n := by simp [word64, number, via]
  decode n s bs _ hbytes := by
    obtain ⟨rest, hread, hrest⟩ := decode_number n.toNat_lt hbytes
    exact ⟨rest, by simp [word64, via, hread], hrest⟩

theorem faithful_text : text.Faithful where
  length_pos s := by
    simp only [text, List.length_append, Bytes.length_littleEndian]
    omega
  decode t s bs hsize hbytes := by
    have hlength : (Bytes.ofText t).length < 256 ^ 8 := by
      simp only [text, List.length_append] at hsize
      omega
    simp only [text, List.append_assoc] at hbytes
    obtain ⟨body, hnumber, hbody⟩ := decode_number hlength hbytes
    obtain ⟨rest, htake, hrest⟩ := Content.take?_of_toBytes hbody
    refine ⟨rest, ?_, hrest⟩
    simp only [text, hnumber, htake, Option.bind_eq_bind, Option.bind_some, Bytes.text?_ofText]
    rfl

/-! ## Layer D: composites -/

/-- A choice is read back if it is among the values that are told apart. -/
theorem faithful_choice [DecidableEq α] {all : List α} (hall : ∀ a, a ∈ all)
    (hsize : all.length < 256 ^ 4) : (choice all).Faithful where
  length_pos a := by simp [choice]
  decode a s bs _ hbytes := by
    have hidx : all.idxOf a < all.length := List.idxOf_lt_length_iff.2 (hall a)
    have hget : all[all.idxOf a]? = some a := by
      rw [List.getElem?_eq_getElem hidx, List.getElem_idxOf]
    obtain ⟨rest, hnumber, hrest⟩ := decode_number (Nat.lt_trans hidx hsize) hbytes
    refine ⟨rest, ?_, hrest⟩
    simp only [choice, hnumber, Option.bind_eq_bind, Option.bind_some, hget]
    rfl

theorem Faithful.option (h : c.Faithful) : c.option.Faithful where
  length_pos o := by cases o <;> simp [Codec.option]
  decode o s bs hsize hbytes := by
    cases o with
    | none =>
      obtain ⟨rest, hnext, hrest⟩ := Content.next?_of_toBytes hbytes
      exact ⟨rest, by simp [Codec.option, hnext], hrest⟩
    | some a =>
      simp only [Codec.option, List.length_cons] at hsize
      obtain ⟨body, hnext, hbody⟩ := Content.next?_of_toBytes hbytes
      obtain ⟨rest, hread, hrest⟩ := h.decode a body bs (by omega) hbody
      exact ⟨rest, by simp [Codec.option, hnext, hread], hrest⟩

theorem Faithful.pair (hc : c.Faithful) (hd : d.Faithful) : (c.pair d).Faithful where
  length_pos p := by
    have hpos := hc.length_pos p.1
    simp only [Codec.pair, List.length_append]
    omega
  decode p s bs hsize hbytes := by
    simp only [Codec.pair, List.length_append] at hsize
    simp only [Codec.pair, List.append_assoc] at hbytes
    obtain ⟨body, hfirst, hbody⟩ := hc.decode p.1 s _ (by omega) hbytes
    obtain ⟨rest, hsecond, hrest⟩ := hd.decode p.2 body bs (by omega) hbody
    refine ⟨rest, ?_, hrest⟩
    simp only [Codec.pair, hfirst, hsecond, Option.bind_eq_bind, Option.bind_some]
    rfl

theorem Faithful.decodeMany (h : c.Faithful) (as : List α) {s : Content} {bs : Bytes}
    (hsize : (as.flatMap c.encode).length < 256 ^ 8)
    (hbytes : s.toBytes = as.flatMap c.encode ++ bs) :
    ∃ rest, c.decodeMany as.length s = some (as, rest) ∧ rest.toBytes = bs := by
  induction as generalizing s with
  | nil => exact ⟨s, rfl, hbytes⟩
  | cons a as ih =>
    rw [List.flatMap_cons, List.length_append] at hsize
    rw [List.flatMap_cons, List.append_assoc] at hbytes
    obtain ⟨body, hfirst, hbody⟩ := h.decode a s _ (by omega) hbytes
    obtain ⟨rest, hmany, hrest⟩ := ih (by omega) hbody
    refine ⟨rest, ?_, hrest⟩
    simp only [List.length_cons, Codec.decodeMany, hfirst, hmany, Option.bind_eq_bind,
      Option.bind_some]
    rfl

/-- No list is longer than what is written of it. -/
theorem Faithful.length_le (h : c.Faithful) (as : List α) :
    as.length ≤ (as.flatMap c.encode).length := by
  induction as with
  | nil => exact Nat.le_refl _
  | cons a as ih =>
    have hpos := h.length_pos a
    rw [List.flatMap_cons, List.length_append, List.length_cons]
    omega

theorem Faithful.list (h : c.Faithful) : c.list.Faithful where
  length_pos as := by
    simp only [Codec.list, List.length_append, Bytes.length_littleEndian]
    omega
  decode as s bs hsize hbytes := by
    simp only [Codec.list, List.length_append] at hsize
    simp only [Codec.list, List.append_assoc] at hbytes
    -- no item is empty, so there are no more of them than bytes
    have hlength : as.length < 256 ^ 8 := by
      have hle := h.length_le as
      omega
    obtain ⟨body, hnumber, hbody⟩ := decode_number hlength hbytes
    obtain ⟨rest, hmany, hrest⟩ := h.decodeMany as (by omega) hbody
    refine ⟨rest, ?_, hrest⟩
    simp only [Codec.list, hnumber, Option.bind_eq_bind, Option.bind_some]
    exact hmany

end Codec

end CodeAtlas
