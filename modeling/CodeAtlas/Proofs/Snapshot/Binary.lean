import CodeAtlas.Cache.Store
import CodeAtlas.Proofs.Binary.Canonical

/-!
# The binary forms of snapshots

The binary forms of all records of a snapshot are exact, and so is that of a stored snapshot: it is
read back from its form, it has no other one, and a form that was cut short or to which bytes were
added is refused.
-/

namespace CodeAtlas

open Codec

theorem Path.exact_codec : Path.codec.Exact := exact_text.via (fun _ => rfl) fun _ => rfl

theorem UnitKind.exact_codec : UnitKind.codec.Exact :=
  exact_choice (fun k => by cases k <;> decide) (by decide) (by decide)

theorem UnitId.exact_codec : UnitId.codec.Exact :=
  (exact_text.pair (exact_text.pair UnitKind.exact_codec)).via (fun _ => rfl) fun _ => rfl

theorem Position.exact_codec : Position.codec.Exact :=
  (exact_word32.pair exact_word32).via (fun _ => rfl) fun _ => rfl

theorem Range.exact_codec : Range.codec.Exact :=
  (Position.exact_codec.pair Position.exact_codec).via (fun _ => rfl) fun _ => rfl

theorem Severity.exact_codec : Severity.codec.Exact :=
  exact_choice (fun s => by cases s <;> decide) (by decide) (by decide)

theorem Diagnostic.exact_codec : Diagnostic.codec.Exact :=
  (Path.exact_codec.pair (Range.exact_codec.pair (Severity.exact_codec.pair
    (exact_text.pair (exact_text.option.pair exact_text.option))))).via (fun _ => rfl) fun _ => rfl

theorem LocalId.exact_codec : LocalId.codec.Exact :=
  (exact_word32.pair exact_word32).via (fun _ => rfl) fun _ => rfl

theorem RawSpan.exact_codec : RawSpan.codec.Exact :=
  (Path.exact_codec.pair (exact_word32.pair (exact_word32.pair (exact_word32.pair
    (exact_word32.pair (exact_word32.pair exact_word32)))))).via (fun _ => rfl) fun _ => rfl

theorem DefKind.exact_codec : DefKind.codec.Exact :=
  exact_choice (fun k => by cases k <;> decide) (by decide) (by decide)

theorem RawDef.exact_codec : RawDef.codec.Exact :=
  (DefKind.exact_codec.pair (LocalId.exact_codec.pair (RawSpan.exact_codec.pair
    (exact_text.pair (exact_text.pair (exact_text.option.pair (exact_text.pair
      (LocalId.exact_codec.option.pair (LocalId.exact_codec.list.pair
        LocalId.exact_codec.option))))))))).via (fun _ => rfl) fun _ => rfl

theorem RefKind.exact_codec : RefKind.codec.Exact :=
  exact_choice (fun k => by cases k <;> decide) (by decide) (by decide)

theorem RawRef.exact_codec : RawRef.codec.Exact :=
  (RefKind.exact_codec.pair (RawSpan.exact_codec.pair LocalId.exact_codec)).via
    (fun _ => rfl) fun _ => rfl

theorem ImplKind.exact_codec : ImplKind.codec.Exact :=
  exact_choice (fun k => by cases k <;> decide) (by decide) (by decide)

theorem RawImpl.exact_codec : RawImpl.codec.Exact :=
  (exact_word32.pair (ImplKind.exact_codec.pair RawSpan.exact_codec)).via (fun _ => rfl) fun _ => rfl

theorem RawRelation.exact_codec : RawRelation.codec.Exact :=
  (exact_word32.pair (LocalId.exact_codec.pair LocalId.exact_codec.option)).via
    (fun _ => rfl) fun _ => rfl

theorem ImportKind.exact_codec : ImportKind.codec.Exact :=
  exact_choice (fun k => by cases k <;> decide) (by decide) (by decide)

theorem RawImport.exact_codec : RawImport.codec.Exact :=
  (ImportKind.exact_codec.pair (RawSpan.exact_codec.pair (exact_text.pair
    LocalId.exact_codec.option))).via (fun _ => rfl) fun _ => rfl

theorem ExternUnit.exact_codec : ExternUnit.codec.Exact :=
  (exact_word32.pair UnitId.exact_codec).via (fun _ => rfl) fun _ => rfl

theorem Snapshot.exact_codec : Snapshot.codec.Exact :=
  (exact_text.pair (Path.exact_codec.pair (ExternUnit.exact_codec.list.pair
    (RawDef.exact_codec.list.pair (RawRef.exact_codec.list.pair
      (RawImpl.exact_codec.list.pair (RawRelation.exact_codec.list.pair
        (RawImport.exact_codec.list.pair (Diagnostic.exact_codec.list.pair
          Path.exact_codec.list))))))))).via (fun _ => rfl) fun _ => rfl

namespace StoredSnapshot

theorem exact_fingerprintCodec : fingerprintCodec.Exact := exact_text.via (fun _ => rfl) fun _ => rfl

theorem exact_codec : codec.Exact :=
  (exact_word32.pair (exact_text.pair (exact_text.pair (exact_fingerprintCodec.pair
    (exact_word64.pair Snapshot.exact_codec))))).via (fun _ => rfl) fun _ => rfl

/-- **The form of a stored snapshot is its own and nothing else's.** It is read back, whatever its
fields are; what is read is written again byte by byte; and nothing is read from a form that was cut
short or to which bytes were added. -/
theorem stored_form_is_exact :
    (∀ e, (codec.encode e).length ≤ SnapshotStore.sizeLimit →
      codec.decodeAll? ⟨codec.encode e, 0⟩ = some e) ∧
    (∀ e c, codec.decodeAll? c = some e → codec.encode e = c.toBytes) ∧
    (∀ e c, (codec.encode e).length < 256 ^ 8 → c.toBytes <+: codec.encode e →
      c.toBytes ≠ codec.encode e → codec.decodeAll? c = none) ∧
    (∀ e c, c.size < 256 ^ 8 → codec.encode e <+: c.toBytes →
      c.toBytes ≠ codec.encode e → codec.decodeAll? c = none) := by
  refine ⟨?back, ?again, ?short, ?long⟩
  case back =>
    intro e hsize
    apply exact_codec.decodeAll?
    -- the limit is far below what a length field can say
    exact Nat.lt_of_le_of_lt hsize (by decide)
  case again => exact fun e c hread => exact_codec.encode_of_decodeAll? hread
  case short => exact fun e c hsize hstart hne => exact_codec.decodeAll?_of_prefix hsize hstart hne
  case long => exact fun e c hsize hstart hne => exact_codec.decodeAll?_of_extension hsize hstart hne

/-- A stored snapshot with a definition, a relation and a diagnostic. -/
def sample : StoredSnapshot :=
  let span : RawSpan := ⟨⟨"lib.rs"⟩, 3, 7, 1, 1, 4, 8⟩
  let def_ : RawDef := ⟨.struct, ⟨0, 1⟩, span, "Café", "::Café", some "struct Café", "", none,
    [⟨0, 2⟩, LocalId.absent], some ⟨1, 0⟩⟩
  .new "app/app/lib" ⟨"00"⟩ 7 { Snapshot.empty with
    crateName := "app"
    externs := [⟨1, ⟨"core", "core", .buildScript⟩⟩]
    defs := [def_]
    relations := [⟨0, ⟨0, 1⟩, none⟩]
    diagnostics := [⟨⟨"lib.rs"⟩, ⟨⟨0, 1⟩, ⟨0, 2⟩⟩, .hint, "unused", some "E1", none⟩] }

/-- The sample is read back, is all that its form stands for, and is not read from a form that
lacks its last byte, that has a byte too many, or behind which the file has a hole. -/
theorem sample_form_is_exact :
    codec.decodeAll? ⟨codec.encode sample, 0⟩ = some sample ∧
      codec.encode sample = (⟨codec.encode sample, 0⟩ : Content).toBytes ∧
      codec.decodeAll? ⟨(codec.encode sample).dropLast, 0⟩ = none ∧
      codec.decodeAll? ⟨codec.encode sample ++ [1], 0⟩ = none ∧
      codec.decodeAll? ⟨codec.encode sample, 1⟩ = none := by
  have hlength : (codec.encode sample).length = 383 := by decide +kernel
  obtain ⟨hback, hagain, hshort, hlong⟩ := stored_form_is_exact
  have hread := hback sample (by rw [hlength]; decide)
  refine ⟨hread, hagain sample _ hread, ?_, ?_, ?_⟩
  -- one byte less is a proper beginning of the form
  · apply hshort sample
    · rw [hlength]
      decide
    · simpa [Content.toBytes] using List.dropLast_prefix _
    · intro heq
      have := congrArg List.length heq
      simp [Content.toBytes, hlength] at this
  · apply hlong sample
    · simp [Content.size, hlength]
    · simp [Content.toBytes]
    · simp [Content.toBytes]
  · apply hlong sample
    · simp [Content.size, hlength]
    · simp [Content.toBytes]
    · simp [Content.toBytes]

end StoredSnapshot

end CodeAtlas
