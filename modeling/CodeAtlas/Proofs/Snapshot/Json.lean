import CodeAtlas.Proofs.Json.Format
import Mathlib

/-!
# Snapshots round-trip through their text

Every record of a snapshot has a format: its members, each with the name under which it is written,
and with the fallback that it has where it may be left out. What is written in that format is the
JSON of the record, and every form of it is read as the record.

## Architecture

- **Layer A**: texts and names of kinds;
- **Layer B**: identities, positions and diagnostics;
- **Layer C**: the records of a snapshot;
- **Layer D**: whole snapshots as text.
-/

namespace CodeAtlas

open JsonFormat

/-! ## Layer A: texts and names of kinds -/

/-- Texts. -/
def textFormat : JsonFormat String := .text "a string"

/-- Texts that may be missing. -/
def textFormat? : JsonFormat (Option String) := textFormat.option nofun

/-- Paths are written as texts. -/
def Path.format : JsonFormat Path :=
  (JsonFormat.text "path string").via Path.text Path.mk fun _ => rfl

/-- Kinds of units are written as their names. -/
def UnitKind.format : JsonFormat UnitKind :=
  .choice UnitKind.choices UnitKind.name fun k => by cases k <;> rfl

/-- Severities are written as their names. -/
def Severity.format : JsonFormat Severity :=
  .choice Severity.choices Severity.name fun v => by cases v <;> rfl

/-- Kinds of definitions are written as their names. -/
def DefKind.format : JsonFormat DefKind :=
  .choice DefKind.names DefKind.name fun k => by cases k <;> rfl

/-- Kinds of references are written as their names. -/
def RefKind.format : JsonFormat RefKind :=
  .choice RefKind.names RefKind.name fun k => by cases k <;> rfl

/-- Kinds of implementation blocks are written as their names. -/
def ImplKind.format : JsonFormat ImplKind :=
  .choice ImplKind.names ImplKind.name fun k => by cases k <;> rfl

/-- Kinds of imports are written as their names. -/
def ImportKind.format : JsonFormat ImportKind :=
  .choice ImportKind.names ImportKind.name fun k => by cases k <;> rfl

/-! ## Layer B: identities, positions and diagnostics -/

namespace UnitId

/-- The members of a unit. -/
def members : List (Member UnitId) :=
  [textFormat.member "package" package, textFormat.member "target" target,
   UnitKind.format.member "kind" kind]

theorem build_eq (u : UnitId) (given : Json.Fields)
    (h : ∀ m ∈ members, Found given u m) : shape.build given = .ok u := by
  simp only [members, List.forall_mem_cons] at h
  obtain ⟨hpackage, htarget, hkind, -⟩ := h
  refine (required_bind hpackage _).trans ?_
  refine (required_bind htarget _).trans ?_
  exact required_bind hkind _

/-- How units are written and read. -/
def format : JsonFormat UnitId := .record shape members rfl rfl (by decide) build_eq

end UnitId

namespace Position

/-- The members of a position. -/
def members : List (Member Position) :=
  [word.member "line" line, word.member "character" character]

theorem build_eq (p : Position) (given : Json.Fields)
    (h : ∀ m ∈ members, Found given p m) : shape.build given = .ok p := by
  simp only [members, List.forall_mem_cons] at h
  obtain ⟨hline, hcharacter, -⟩ := h
  refine (required_bind hline _).trans ?_
  exact required_bind hcharacter _

/-- How positions are written and read. -/
def format : JsonFormat Position := .record shape members rfl rfl (by decide) build_eq

end Position

namespace Range

/-- The members of a range. -/
def members : List (Member Range) :=
  [Position.format.member "start" start, Position.format.member "end" stop]

theorem build_eq (r : Range) (given : Json.Fields)
    (h : ∀ m ∈ members, Found given r m) : shape.build given = .ok r := by
  simp only [members, List.forall_mem_cons] at h
  obtain ⟨hstart, hstop, -⟩ := h
  refine (required_bind hstart _).trans ?_
  exact required_bind hstop _

/-- How ranges are written and read. -/
def format : JsonFormat Range := .record shape members rfl rfl (by decide) build_eq

end Range

namespace Diagnostic

/-- The members of a diagnostic. -/
def members : List (Member Diagnostic) :=
  [Path.format.member "file" file, Range.format.member "range" range,
   Severity.format.member "severity" severity, textFormat.member "message" message,
   textFormat?.memberOr "code" none code, textFormat?.memberOr "source" none source]

theorem build_eq (d : Diagnostic) (given : Json.Fields)
    (h : ∀ m ∈ members, Found given d m) : shape.build given = .ok d := by
  simp only [members, List.forall_mem_cons] at h
  obtain ⟨hfile, hrange, hseverity, hmessage, hcode, hsource, -⟩ := h
  refine (required_bind hfile _).trans ?_
  refine (required_bind hrange _).trans ?_
  refine (required_bind hseverity _).trans ?_
  refine (required_bind hmessage _).trans ?_
  refine (defaulted_bind hcode _).trans ?_
  exact defaulted_bind hsource _

/-- How diagnostics are written and read. -/
def format : JsonFormat Diagnostic := .record shape members rfl rfl (by decide) build_eq

end Diagnostic

/-! ## Layer C: the records of a snapshot -/

namespace LocalId

/-- The members of an identifier. -/
def members : List (Member LocalId) :=
  [word.member "unit" unit, word.member "index" index]

theorem build_eq (i : LocalId) (given : Json.Fields)
    (h : ∀ m ∈ members, Found given i m) : shape.build given = .ok i := by
  simp only [members, List.forall_mem_cons] at h
  obtain ⟨hunit, hindex, -⟩ := h
  refine (required_bind hunit _).trans ?_
  exact required_bind hindex _

/-- How identifiers are written and read. -/
def format : JsonFormat LocalId := .record shape members rfl rfl (by decide) build_eq

/-- Identifiers that may be missing. -/
def format? : JsonFormat (Option LocalId) := format.option fun _ => not_objectForm_null

end LocalId

namespace RawSpan

/-- The members of a place. -/
def members : List (Member RawSpan) :=
  [Path.format.member "file_name" fileName, word.member "byte_start" byteStart,
   word.member "byte_end" byteEnd, word.member "line_start" lineStart,
   word.member "line_end" lineEnd, word.member "column_start" columnStart,
   word.member "column_end" columnEnd]

theorem build_eq (s : RawSpan) (given : Json.Fields)
    (h : ∀ m ∈ members, Found given s m) : shape.build given = .ok s := by
  simp only [members, List.forall_mem_cons] at h
  obtain ⟨hfileName, hbyteStart, hbyteEnd, hlineStart, hlineEnd, hcolumnStart, hcolumnEnd, -⟩ := h
  refine (required_bind hfileName _).trans ?_
  refine (required_bind hbyteStart _).trans ?_
  refine (required_bind hbyteEnd _).trans ?_
  refine (required_bind hlineStart _).trans ?_
  refine (required_bind hlineEnd _).trans ?_
  refine (required_bind hcolumnStart _).trans ?_
  exact required_bind hcolumnEnd _

/-- How places are written and read. -/
def format : JsonFormat RawSpan := .record shape members rfl rfl (by decide) build_eq

end RawSpan

namespace RawDef

/-- The members of a definition. -/
def members : List (Member RawDef) :=
  [DefKind.format.member "kind" kind, LocalId.format.member "id" id,
   RawSpan.format.member "span" span, textFormat.member "name" name,
   textFormat.member "qualname" qualname, textFormat?.memberOr "signature" none signature,
   textFormat.memberOr "docs" "" docs, LocalId.format?.memberOr "parent" none parent,
   LocalId.format.list.memberOr "children" [] children,
   LocalId.format?.memberOr "decl_id" none declId]

theorem build_eq (d : RawDef) (given : Json.Fields)
    (h : ∀ m ∈ members, Found given d m) : shape.build given = .ok d := by
  simp only [members, List.forall_mem_cons] at h
  obtain ⟨hkind, hid, hspan, hname, hqualname, hsignature, hdocs, hparent, hchildren, hdeclId,
    -⟩ := h
  refine (required_bind hkind _).trans ?_
  refine (required_bind hid _).trans ?_
  refine (required_bind hspan _).trans ?_
  refine (required_bind hname _).trans ?_
  refine (required_bind hqualname _).trans ?_
  refine (defaulted_bind hsignature _).trans ?_
  refine (defaulted_bind hdocs _).trans ?_
  refine (defaulted_bind hparent _).trans ?_
  refine (defaulted_bind hchildren _).trans ?_
  exact defaulted_bind hdeclId _

/-- How definitions are written and read. -/
def format : JsonFormat RawDef := .record shape members rfl rfl (by decide) build_eq

end RawDef

namespace RawRef

/-- The members of a reference. -/
def members : List (Member RawRef) :=
  [RefKind.format.member "kind" kind, RawSpan.format.member "span" span,
   LocalId.format.member "target" target]

theorem build_eq (r : RawRef) (given : Json.Fields)
    (h : ∀ m ∈ members, Found given r m) : shape.build given = .ok r := by
  simp only [members, List.forall_mem_cons] at h
  obtain ⟨hkind, hspan, htarget, -⟩ := h
  refine (required_bind hkind _).trans ?_
  refine (required_bind hspan _).trans ?_
  exact required_bind htarget _

/-- How references are written and read. -/
def format : JsonFormat RawRef := .record shape members rfl rfl (by decide) build_eq

end RawRef

namespace RawImpl

/-- The members of an implementation block. -/
def members : List (Member RawImpl) :=
  [word.member "id" id, ImplKind.format.member "kind" kind, RawSpan.format.member "span" span]

theorem build_eq (i : RawImpl) (given : Json.Fields)
    (h : ∀ m ∈ members, Found given i m) : shape.build given = .ok i := by
  simp only [members, List.forall_mem_cons] at h
  obtain ⟨hid, hkind, hspan, -⟩ := h
  refine (required_bind hid _).trans ?_
  refine (required_bind hkind _).trans ?_
  exact required_bind hspan _

/-- How implementation blocks are written and read. -/
def format : JsonFormat RawImpl := .record shape members rfl rfl (by decide) build_eq

end RawImpl

namespace RawRelation

/-- The members of a relation. -/
def members : List (Member RawRelation) :=
  [word.member "impl_id" implId, LocalId.format.member "self_ty" selfType,
   LocalId.format?.memberOr "trait_id" none traitId]

theorem build_eq (r : RawRelation) (given : Json.Fields)
    (h : ∀ m ∈ members, Found given r m) : shape.build given = .ok r := by
  simp only [members, List.forall_mem_cons] at h
  obtain ⟨himplId, hselfType, htraitId, -⟩ := h
  refine (required_bind himplId _).trans ?_
  refine (required_bind hselfType _).trans ?_
  exact defaulted_bind htraitId _

/-- How relations are written and read. -/
def format : JsonFormat RawRelation := .record shape members rfl rfl (by decide) build_eq

end RawRelation

namespace RawImport

/-- The members of an import. -/
def members : List (Member RawImport) :=
  [ImportKind.format.member "kind" kind, RawSpan.format.member "span" span,
   textFormat.member "name" name, LocalId.format?.memberOr "target" none target]

theorem build_eq (i : RawImport) (given : Json.Fields)
    (h : ∀ m ∈ members, Found given i m) : shape.build given = .ok i := by
  simp only [members, List.forall_mem_cons] at h
  obtain ⟨hkind, hspan, hname, htarget, -⟩ := h
  refine (required_bind hkind _).trans ?_
  refine (required_bind hspan _).trans ?_
  refine (required_bind hname _).trans ?_
  exact defaulted_bind htarget _

/-- How imports are written and read. -/
def format : JsonFormat RawImport := .record shape members rfl rfl (by decide) build_eq

end RawImport

namespace ExternUnit

/-- The members of an extern unit. -/
def members : List (Member ExternUnit) :=
  [word.member "num" num, UnitId.format.member "unit" unit]

theorem build_eq (e : ExternUnit) (given : Json.Fields)
    (h : ∀ m ∈ members, Found given e m) : shape.build given = .ok e := by
  simp only [members, List.forall_mem_cons] at h
  obtain ⟨hnum, hunit, -⟩ := h
  refine (required_bind hnum _).trans ?_
  exact required_bind hunit _

/-- How extern units are written and read. -/
def format : JsonFormat ExternUnit := .record shape members rfl rfl (by decide) build_eq

end ExternUnit

/-! ## Layer D: whole snapshots -/

namespace Snapshot

/-- The members of a snapshot. -/
def members : List (Member Snapshot) :=
  [textFormat.memberOr "crate_name" "" crateName, Path.format.memberOr "directory" ⟨""⟩ directory,
   ExternUnit.format.list.memberOr "prelude" [] externs, RawDef.format.list.memberOr "defs" [] defs,
   RawRef.format.list.memberOr "refs" [] refs, RawImpl.format.list.memberOr "impls" [] impls,
   RawRelation.format.list.memberOr "relations" [] relations,
   RawImport.format.list.memberOr "imports" [] imports,
   Diagnostic.format.list.memberOr "diagnostics" [] diagnostics,
   Path.format.list.memberOr "read_files" [] readFiles]

theorem build_eq (s : Snapshot) (given : Json.Fields)
    (h : ∀ m ∈ members, Found given s m) : shape.build given = .ok s := by
  simp only [members, List.forall_mem_cons] at h
  obtain ⟨hcrateName, hdirectory, hexterns, hdefs, hrefs, himpls, hrelations, himports,
    hdiagnostics, hreadFiles, -⟩ := h
  refine (defaulted_bind hcrateName _).trans ?_
  refine (defaulted_bind hdirectory _).trans ?_
  refine (defaulted_bind hexterns _).trans ?_
  refine (defaulted_bind hdefs _).trans ?_
  refine (defaulted_bind hrefs _).trans ?_
  refine (defaulted_bind himpls _).trans ?_
  refine (defaulted_bind hrelations _).trans ?_
  refine (defaulted_bind himports _).trans ?_
  refine (defaulted_bind hdiagnostics _).trans ?_
  exact defaulted_bind hreadFiles _

/-- How snapshots are written and read. -/
def format : JsonFormat Snapshot := .record shape members rfl rfl (by decide) build_eq

/-- **The forms of a snapshot**: the values that stand for it. The object of a snapshot and that of
every record in it lists its members in any order, leaves out any of those that have their
fallbacks, and has any members besides that no field is named after. -/
def Form : Snapshot → Json → Prop := format.Form

theorem ofJson_of_form {s : Snapshot} {v : Json} (h : Form s v) : ofJson v = .ok s := by
  have hread : shape.decode v = .ok s := format.read_of_form h
  rw [ofJson, hread]

theorem ofText_of_form {s : Snapshot} {v : Json} {text : String} (h : Form s v)
    (htext : Json.read? text = some v) : ofText text = .ok s := by
  rw [ofText, htext]
  exact ofJson_of_form h

/-- **Snapshots round-trip through their texts**, and so does every other text of one: the JSON of a
snapshot is one of its forms, and a text whose value is a form of a snapshot is read as the
snapshot, above all the text that is written of such a form. -/
theorem every_form_is_read :
    (∀ s : Snapshot, ofText s.toText = .ok s) ∧ (∀ s : Snapshot, Form s s.toJson) ∧
      (∀ s v text, Form s v → Json.read? text = some v → ofText text = .ok s) ∧
      ∀ s v, Form s v → v.isPlain = true → ofText v.write = .ok s := by
  have hform : ∀ s : Snapshot, Form s s.toJson := format.form_write
  have hplain : ∀ s : Snapshot, s.toJson.isPlain = true := format.plain_write
  refine ⟨fun s => ?_, hform, fun s v text => ofText_of_form, fun s v h hv => ?_⟩
  · exact ofText_of_form (hform s) (Json.read?_write (hplain s))
  · exact ofText_of_form h (Json.read?_write hv)

/-- A snapshot of one relation. -/
def oneRelation : Snapshot := { empty with relations := [⟨1, ⟨0, 3⟩, none⟩] }

/-- A form of it in another order, with members that no field is named after and without those that
may be left out. -/
def oneRelationForm : Json :=
  .obj
    [(some "note", .arr [.text "A"]),
     (some "relations",
      .arr
        [.obj
          [(some "self_ty",
            .obj [(some "index", .nat 3), (some "name", .null), (some "unit", .nat 0)]),
           (some "impl_id", .nat 1)]])]

theorem form_oneRelation : Form oneRelation oneRelationForm := by
  have hself : LocalId.format.Form ⟨0, 3⟩
      (.obj [(some "index", .nat 3), (some "name", .null), (some "unit", .nat 0)]) :=
    ⟨[("unit", .nat 0), ("index", .nat 3)], [("name", .null)], _, rfl, .give rfl (.give rfl .nil),
      by decide, ((List.Perm.swap ..).trans ((List.Perm.swap ..).cons _)).symm⟩
  have hrelation : RawRelation.format.Form ⟨1, ⟨0, 3⟩, none⟩ (.obj [(some "self_ty",
      .obj [(some "index", .nat 3), (some "name", .null), (some "unit", .nat 0)]),
      (some "impl_id", .nat 1)]) :=
    ⟨[("impl_id", .nat 1), ("self_ty", _)], [], _, rfl, .give rfl (.give hself (.lack rfl .nil)),
      by simp, .swap ..⟩
  have hnone : Given oneRelation (members.drop 7) [] := .lack rfl (.lack rfl (.lack rfl .nil))
  have hgiven : Given oneRelation members [("relations", .arr [_])] :=
    .lack rfl (.lack rfl (.lack rfl (.lack rfl (.lack rfl (.lack rfl
      (.give ⟨_, rfl, .cons hrelation .nil⟩ hnone))))))
  exact ⟨_, [("note", .arr [.text "A"])], _, rfl, hgiven, by decide, .swap ..⟩

/-- A text of that form, with gaps and an escape. -/
def oneRelationText : String :=
  "\x7b \"note\": [\"\\u0041\"], \"relations\": [\x7b\"self_ty\": \x7b\"index\": 3, " ++
    "\"name\": null, \"unit\": 0\x7d, \"impl_id\": 1\x7d]\x7d"

theorem oneRelationText_read :
    Form oneRelation oneRelationForm ∧ Json.read? oneRelationText = some oneRelationForm ∧
      oneRelationForm.isPlain = true ∧ ofText oneRelationText = .ok oneRelation ∧
      ofText oneRelationForm.write = .ok oneRelation := by
  have hform := form_oneRelation
  have htext : Json.read? oneRelationText = some oneRelationForm := by cbv
  have hplain : oneRelationForm.isPlain = true := rfl
  obtain ⟨-, -, hread, hwritten⟩ := every_form_is_read
  exact ⟨hform, htext, hplain, hread _ _ _ hform htext, hwritten _ _ hform hplain⟩

end Snapshot

end CodeAtlas
