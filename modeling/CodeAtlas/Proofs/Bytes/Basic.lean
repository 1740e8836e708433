import CodeAtlas.Bytes.Basic
import Mathlib.Algebra.Group.Nat.Defs
import Mathlib.Data.Nat.Init
import Mathlib.Logic.Function.Basic

/-!
# Theory of byte strings

Numbers and texts are read back from their bytes, and bytes from their writing in base sixteen.
-/

namespace CodeAtlas

namespace Bytes

@[simp] theorem length_littleEndian (width n : Nat) : (littleEndian width n).length = width := by
  induction width generalizing n with
  | zero => rfl
  | succ width ih => simp [littleEndian, ih]

/-- A number that fits is read back. -/
theorem toNat_littleEndian {width n : Nat} (h : n < 256 ^ width) :
    toNat (littleEndian width n) = n := by
  induction width generalizing n with
  | zero =>
    obtain rfl : n = 0 := by simpa using h
    rfl
  | succ width ih =>
    have hrest : n / 256 < 256 ^ width := by
      refine Nat.div_lt_of_lt_mul ?_
      rwa [Nat.pow_succ, Nat.mul_comm] at h
    have hlow : (n % 256).toUInt8.toNat = n % 256 := by
      simp [Nat.toUInt8]
    rw [littleEndian, toNat, ih hrest, hlow]
    exact Nat.mod_add_div n 256

/-- A text is read back. -/
@[simp] theorem text?_ofText (s : String) : text? (ofText s) = some s := by
  unfold text? ofText
  have harray : (⟨s.toUTF8.data.toList.toArray⟩ : ByteArray) = s.toUTF8 := by simp
  rw [harray, String.fromUTF8?]
  exact dif_pos s.isValidUTF8

theorem ofText_injective : Function.Injective ofText := by
  intro a b h
  have htext := text?_ofText a
  rw [h, text?_ofText] at htext
  exact (Option.some.inj htext).symm

theorem hexValue?_hexDigit : ∀ n < 16, hexValue? (hexDigit n) = some n := by decide

/-- Bytes are read back from their writing in base sixteen. -/
theorem ofHex?_hex (bs : Bytes) : ofHex? (hex bs) = some bs := by
  rw [ofHex?, hex, String.toList_ofList]
  induction bs with
  | nil => rfl
  | cons b rest ih =>
    have hhigh : b.toNat / 16 < 16 := Nat.div_lt_of_lt_mul b.toNat_lt
    have hlow : b.toNat % 16 < 16 := Nat.mod_lt _ (by decide)
    have hbyte : (16 * (b.toNat / 16) + b.toNat % 16).toUInt8 = b := by
      rw [Nat.div_add_mod]
      exact UInt8.ofNat_toNat
    simp only [List.flatMap_cons, List.cons_append, List.nil_append, ofHexDigits?,
      hexValue?_hexDigit _ hhigh, hexValue?_hexDigit _ hlow, ih, Option.bind_eq_bind,
      Option.bind_some, hbyte]
    rfl

theorem hex_injective : Function.Injective hex := by
  intro bs cs h
  have hread := ofHex?_hex bs
  rw [h, ofHex?_hex] at hread
  exact (Option.some.inj hread).symm

end Bytes

end CodeAtlas
