import CodeAtlas.Digest.Sha256
import CodeAtlas.Path.Basic

/-!
# Fingerprints

A fingerprint stands for a sequence of fields. Every field is preceded by its length, so fields
never run together: `ab`, `c` and `a`, `bc` are told apart. The hash is a parameter of everything
that is decided by comparing fingerprints; `Hash.standard` is the one in use.
-/

namespace CodeAtlas

/-- The digest of a byte string, as text. -/
structure Fingerprint where
  text : String
  deriving Repr, DecidableEq, Inhabited

/-- **How byte strings are digested.** -/
structure Hash where
  ofBytes : Bytes → Fingerprint

namespace Hash

/-- The digest in base sixteen (`from_bytes`). -/
def standard : Hash := ⟨fun bs => ⟨(Sha256.digest bs).hex⟩⟩

/-- The fingerprint of a text. -/
def ofText (h : Hash) (s : String) : Fingerprint := h.ofBytes (Bytes.ofText s)

end Hash

namespace Fingerprint

/-- A field as it is hashed: its length in eight bytes, then its bytes. -/
def field (bs : Bytes) : Bytes := Bytes.littleEndian 8 bs.length ++ bs

/-- The bytes that stand for a sequence of fields. -/
def stream (fields : List Bytes) : Bytes := fields.flatMap field

/-- **The fingerprint of a sequence of fields** (`finish`). -/
def ofFields (h : Hash) (fields : List Bytes) : Fingerprint := h.ofBytes (stream fields)

/-- A text as a field. -/
def textField (s : String) : Bytes := Bytes.ofText s

/-- A path as a field, as it is written. -/
def pathField (p : Path) : Bytes := Bytes.ofText p.text

/-- A fingerprint as a field (`fingerprint`). -/
def nested (f : Fingerprint) : Bytes := Bytes.ofText f.text

end Fingerprint

end CodeAtlas
