import CodeAtlas.Digest.Fingerprint
import CodeAtlas.Proofs.Bytes.Basic
import Mathlib.Data.Set.Function

/-!
# Theory of fingerprints

A fingerprint stands for a sequence of fields. Its hash is given the length of every field in eight
bytes before the field itself, so the bytes of a sequence can be cut into fields in one way only,
whatever the fields contain and however many there are. A field that looks like lengths and fields
is still one field.

## Architecture

- **Layer A**: what fields are made from;
- **Layer B**: the bytes of a sequence of fields;
- **Layer C**: fingerprints under construction, and the main result.
-/

namespace CodeAtlas

/-! ## Layer A: fields -/

namespace Fingerprint

theorem textField_injective : Function.Injective textField := Bytes.ofText_injective

theorem pathField_injective : Function.Injective pathField := by
  rintro ⟨p⟩ ⟨q⟩ h
  exact congrArg Path.mk (Bytes.ofText_injective h)

theorem nested_injective : Function.Injective nested := by
  rintro ⟨a⟩ ⟨b⟩ h
  exact congrArg Fingerprint.mk (Bytes.ofText_injective h)

/-! ## Layer B: streams -/

theorem stream_cons (f : Bytes) (fs : List Bytes) : stream (f :: fs) = field f ++ stream fs :=
  List.flatMap_cons

theorem stream_cons_ne_nil (f : Bytes) (fs : List Bytes) : stream (f :: fs) ≠ [] := by
  intro h
  have hlength := congrArg List.length h
  simp only [stream_cons, field, List.length_append, Bytes.length_littleEndian,
    List.length_nil] at hlength
  omega

/-- **A field ends where its length says**: it is told apart from whatever follows it. -/
theorem field_append_inj {f g rest rest' : Bytes} (hf : f.length < 256 ^ 8)
    (hg : g.length < 256 ^ 8) (h : field f ++ rest = field g ++ rest') : f = g ∧ rest = rest' := by
  simp only [field, List.append_assoc] at h
  obtain ⟨hlengths, hbodies⟩ := List.append_inj h (by simp)
  have hsame : f.length = g.length := by
    rw [← Bytes.toNat_littleEndian hf, hlengths, Bytes.toNat_littleEndian hg]
  exact List.append_inj hbodies hsame

/-- **Fields never run together**: fields whose lengths can be written are told by their stream. -/
theorem eq_of_stream_eq {fs gs : List Bytes} (hfs : ∀ f ∈ fs, f.length < 256 ^ 8)
    (hgs : ∀ f ∈ gs, f.length < 256 ^ 8) (h : stream fs = stream gs) : fs = gs := by
  induction fs generalizing gs with
  | nil =>
    cases gs with
    | nil => rfl
    | cons g gs => exact absurd h.symm (stream_cons_ne_nil g gs)
  | cons f fs ih =>
    cases gs with
    | nil => exact absurd h (stream_cons_ne_nil f fs)
    | cons g gs =>
      obtain ⟨hf, hfs'⟩ := List.forall_mem_cons.1 hfs
      obtain ⟨hg, hgs'⟩ := List.forall_mem_cons.1 hgs
      rw [stream_cons, stream_cons] at h
      obtain ⟨rfl, hrest⟩ := field_append_inj hf hg h
      rw [ih hfs' hgs' hrest]

/-- A hash that keeps byte strings apart confuses no fields whose lengths can be written. -/
theorem injOn_ofFields {h : Hash} (hinj : Function.Injective h.ofBytes)
    {fields : Set (List Bytes)} (hsmall : ∀ fs ∈ fields, ∀ f ∈ fs, f.length < 256 ^ 8) :
    Set.InjOn (ofFields h) fields := by
  intro fs hfs gs hgs heq
  exact eq_of_stream_eq (hsmall fs hfs) (hsmall gs hgs) (hinj heq)

end Fingerprint

/-! ## Layer C: fingerprints under construction -/

/-- A digest of bytes, shown in base sixteen. -/
def Hash.inHex (digest : Bytes → Bytes) : Hash := ⟨fun bs => ⟨(digest bs).hex⟩⟩

example : Hash.standard = Hash.inHex Sha256.digest := rfl

/-- **Two byte strings collide under a digest.** -/
def Collide (digest : Bytes → Bytes) (bs cs : Bytes) : Prop := bs ≠ cs ∧ digest bs = digest cs

/-- Digests are shown as different texts if they differ. -/
theorem Hash.ofBytes_inHex_eq_iff (digest : Bytes → Bytes) (bs cs : Bytes) :
    (Hash.inHex digest).ofBytes bs = (Hash.inHex digest).ofBytes cs ↔
      bs = cs ∨ Collide digest bs cs := by
  constructor
  · intro h
    have hdigest : digest bs = digest cs := Bytes.hex_injective (congrArg Fingerprint.text h)
    by_cases heq : bs = cs
    · exact Or.inl heq
    · exact Or.inr ⟨heq, hdigest⟩
  · rintro (rfl | ⟨-, hdigest⟩)
    · rfl
    · simp only [inHex, hdigest]

/-- What a fingerprint can be fed with. -/
inductive FieldInput where
  | bytes (bs : Bytes)
  | text (s : String)
  | path (p : Path)
  | fingerprint (f : Fingerprint)
  deriving Repr, DecidableEq

/-- The field that an input amounts to. -/
def FieldInput.content : FieldInput → Bytes
  | .bytes bs => bs
  | .text s => Fingerprint.textField s
  | .path p => Fingerprint.pathField p
  | .fingerprint f => Fingerprint.nested f

/-- **A fingerprint under construction**: the bytes that its hash was given so far. -/
structure FingerprintBuilder where
  given : Bytes
  deriving Repr, DecidableEq

namespace FingerprintBuilder

/-- The hash was given nothing yet. -/
def new : FingerprintBuilder := ⟨[]⟩

/-- Gives the hash some more bytes. -/
def update (b : FingerprintBuilder) (bs : Bytes) : FingerprintBuilder := ⟨b.given ++ bs⟩

/-- Gives the hash a field: its length in eight bytes, then what it contains. -/
def field (b : FingerprintBuilder) (bs : Bytes) : FingerprintBuilder :=
  (b.update (Bytes.littleEndian 8 bs.length)).update bs

/-- Feeds inputs in order. -/
def feedAll (b : FingerprintBuilder) (is : List FieldInput) : FingerprintBuilder :=
  is.foldl (fun b i => b.field i.content) b

/-- The fingerprint of what the hash was given. -/
def finish (b : FingerprintBuilder) (h : Hash) : Fingerprint := h.ofBytes b.given

theorem given_field (b : FingerprintBuilder) (bs : Bytes) :
    (b.field bs).given = b.given ++ Fingerprint.field bs := by
  simp [field, update, Fingerprint.field]

/-- Feeding adds the stream of the fields to what the hash was given. -/
theorem given_feedAll (b : FingerprintBuilder) (is : List FieldInput) :
    (b.feedAll is).given = b.given ++ Fingerprint.stream (is.map (·.content)) := by
  induction is generalizing b with
  | nil => simp [feedAll, Fingerprint.stream]
  | cons i is ih =>
    have hstep : b.feedAll (i :: is) = (b.field i.content).feedAll is := rfl
    rw [hstep, ih, given_field, List.map_cons, Fingerprint.stream_cons, List.append_assoc]

/-- Field by field, a fingerprint comes out as it does from all fields at once. -/
theorem finish_feedAll (h : Hash) (is : List FieldInput) :
    (new.feedAll is).finish h = Fingerprint.ofFields h (is.map (·.content)) := by
  rw [finish, given_feedAll]
  rfl

end FingerprintBuilder

/-- **Fields never run together.** Let two fingerprints be fed with inputs of any kind and number,
each shorter than 2 ^ 64 bytes. What comes out is the fingerprint of the fields, and
- their hashes are given the same bytes if and only if the fields are the same in the same order;
- whatever the digest, they come out the same if and only if the fields are the same in the same
  order, or the bytes that the hashes were given collide;
- so they come out the same for the same fields only, if the digest has no collisions. -/
theorem fields_never_run_together {is js : List FieldInput}
    (his : ∀ i ∈ is, i.content.length < 2 ^ 64) (hjs : ∀ j ∈ js, j.content.length < 2 ^ 64) :
    let b := FingerprintBuilder.new.feedAll is
    let c := FingerprintBuilder.new.feedAll js
    let fields := is.map (·.content)
    let fields' := js.map (·.content)
    (∀ h, b.finish h = Fingerprint.ofFields h fields) ∧
    (b.given = c.given ↔ fields = fields') ∧
    (∀ digest, b.finish (.inHex digest) = c.finish (.inHex digest) ↔
      fields = fields' ∨ Collide digest b.given c.given) ∧
    ∀ digest, Function.Injective digest →
      (b.finish (.inHex digest) = c.finish (.inHex digest) ↔ fields = fields') := by
  intro b c fields fields'
  -- the hashes are given streams, and streams can be read back
  have hgiven : b.given = c.given ↔ fields = fields' := by
    have hb : b.given = Fingerprint.stream fields := FingerprintBuilder.given_feedAll ..
    have hc : c.given = Fingerprint.stream fields' := FingerprintBuilder.given_feedAll ..
    rw [hb, hc]
    constructor
    · exact Fingerprint.eq_of_stream_eq (List.forall_mem_map.2 his) (List.forall_mem_map.2 hjs)
    · exact congrArg Fingerprint.stream
  have hfinish : ∀ digest, b.finish (.inHex digest) = c.finish (.inHex digest) ↔
      fields = fields' ∨ Collide digest b.given c.given := by
    intro digest
    rw [← hgiven]
    exact Hash.ofBytes_inHex_eq_iff digest b.given c.given
  refine ⟨fun h => FingerprintBuilder.finish_feedAll h is, hgiven, hfinish, ?_⟩
  intro digest hinj
  rw [hfinish]
  constructor
  · rintro (hsame | ⟨hne, hdigest⟩)
    · exact hsame
    · -- a collision is two texts with one digest
      exact absurd (hinj hdigest) hne
  · exact Or.inl

/-- A field that spells out what a hash is given for two fields is told apart from the two. -/
theorem imitation_is_told_apart :
    let pair : List FieldInput := [.text "ab", .path ⟨"c"⟩]
    let imitation : List FieldInput := [.bytes (Bytes.ofText "ab" ++ Fingerprint.field [99])]
    (∀ i ∈ pair, i.content.length < 2 ^ 64) ∧ (∀ i ∈ imitation, i.content.length < 2 ^ 64) ∧
      Function.Injective (id : Bytes → Bytes) ∧
      (FingerprintBuilder.new.feedAll pair).given ≠
        (FingerprintBuilder.new.feedAll imitation).given ∧
      (FingerprintBuilder.new.feedAll pair).finish (.inHex id) ≠
        (FingerprintBuilder.new.feedAll imitation).finish (.inHex id) := by
  intro pair imitation
  have hpair : ∀ i ∈ pair, i.content.length < 2 ^ 64 := by decide
  have himitation : ∀ i ∈ imitation, i.content.length < 2 ^ 64 := by decide
  have hfields : pair.map (·.content) ≠ imitation.map (·.content) := by decide
  obtain ⟨-, hgiven, -, hfinish⟩ := fields_never_run_together hpair himitation
  refine ⟨hpair, himitation, Function.injective_id, ?_, ?_⟩
  · rwa [Ne, hgiven]
  · rwa [Ne, hfinish id Function.injective_id]

end CodeAtlas
