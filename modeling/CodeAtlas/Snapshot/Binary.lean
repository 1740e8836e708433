import CodeAtlas.Binary.Codec
import CodeAtlas.Snapshot.Record

/-!
# Snapshots in binary form

Every record is the sequence of its fields in the order in which they are declared.
-/

namespace CodeAtlas

open Codec

/-- Paths are written as texts. -/
def Path.codec : Codec Path := Codec.text.via Path.text Path.mk

/-- The binary form of a kind of unit. -/
def UnitKind.codec : Codec UnitKind := choice UnitKind.all

/-- The binary form of a unit's identity. -/
def UnitId.codec : Codec UnitId :=
  (pair text (pair text UnitKind.codec)).via (fun u => (u.package, u.target, u.kind))
    (fun (p, t, k) => ⟨p, t, k⟩)

/-- The binary form of a position. -/
def Position.codec : Codec Position :=
  (pair word32 word32).via (fun p => (p.line, p.character)) (fun (l, c) => ⟨l, c⟩)

/-- The binary form of a range. -/
def Range.codec : Codec Range :=
  (pair Position.codec Position.codec).via (fun r => (r.start, r.stop)) (fun (s, t) => ⟨s, t⟩)

/-- The binary form of a severity. -/
def Severity.codec : Codec Severity := choice Severity.all

/-- The binary form of a diagnostic. -/
def Diagnostic.codec : Codec Diagnostic :=
  (pair Path.codec (pair Range.codec (pair Severity.codec
    (pair text (pair (option text) (option text)))))).via
    (fun d => (d.file, d.range, d.severity, d.message, d.code, d.source))
    (fun (f, r, s, m, c, o) => ⟨f, r, s, m, c, o⟩)

/-- The binary form of an identifier. -/
def LocalId.codec : Codec LocalId :=
  (pair word32 word32).via (fun i => (i.unit, i.index)) (fun (u, i) => ⟨u, i⟩)

/-- The binary form of a place in a source file. -/
def RawSpan.codec : Codec RawSpan :=
  (pair Path.codec (pair word32 (pair word32 (pair word32 (pair word32
    (pair word32 word32)))))).via
    (fun s => (s.fileName, s.byteStart, s.byteEnd, s.lineStart, s.lineEnd, s.columnStart,
      s.columnEnd))
    (fun (f, bs, be, ls, le, cs, ce) => ⟨f, bs, be, ls, le, cs, ce⟩)

/-- The binary form of what a definition defines. -/
def DefKind.codec : Codec DefKind := choice (DefKind.names.map (·.2))

/-- The binary form of a definition. -/
def RawDef.codec : Codec RawDef :=
  (pair DefKind.codec (pair LocalId.codec (pair RawSpan.codec (pair text (pair text
    (pair (option text) (pair text (pair (option LocalId.codec) (pair (list LocalId.codec)
      (option LocalId.codec)))))))))).via
    (fun d => (d.kind, d.id, d.span, d.name, d.qualname, d.signature, d.docs, d.parent, d.children,
      d.declId))
    (fun (k, i, s, n, q, g, o, p, c, d) => ⟨k, i, s, n, q, g, o, p, c, d⟩)

/-- The binary form of what a reference refers to. -/
def RefKind.codec : Codec RefKind := choice (RefKind.names.map (·.2))

/-- The binary form of a reference. -/
def RawRef.codec : Codec RawRef :=
  (pair RefKind.codec (pair RawSpan.codec LocalId.codec)).via
    (fun r => (r.kind, r.span, r.target)) (fun (k, s, t) => ⟨k, s, t⟩)

/-- The binary form of a kind of implementation block. -/
def ImplKind.codec : Codec ImplKind := choice (ImplKind.names.map (·.2))

/-- The binary form of an implementation block. -/
def RawImpl.codec : Codec RawImpl :=
  (pair word32 (pair ImplKind.codec RawSpan.codec)).via
    (fun i => (i.id, i.kind, i.span)) (fun (i, k, s) => ⟨i, k, s⟩)

/-- The binary form of a relation. -/
def RawRelation.codec : Codec RawRelation :=
  (pair word32 (pair LocalId.codec (option LocalId.codec))).via
    (fun r => (r.implId, r.selfType, r.traitId)) (fun (i, s, t) => ⟨i, s, t⟩)

/-- The binary form of a kind of import. -/
def ImportKind.codec : Codec ImportKind := choice (ImportKind.names.map (·.2))

/-- The binary form of an import. -/
def RawImport.codec : Codec RawImport :=
  (pair ImportKind.codec (pair RawSpan.codec (pair text (option LocalId.codec)))).via
    (fun i => (i.kind, i.span, i.name, i.target)) (fun (k, s, n, t) => ⟨k, s, n, t⟩)

/-- The binary form of an extern unit. -/
def ExternUnit.codec : Codec ExternUnit :=
  (pair word32 UnitId.codec).via (fun e => (e.num, e.unit)) (fun (n, u) => ⟨n, u⟩)

/-- **The binary form of a snapshot.** -/
def Snapshot.codec : Codec Snapshot :=
  (pair text (pair Path.codec (pair (list ExternUnit.codec) (pair (list RawDef.codec)
    (pair (list RawRef.codec) (pair (list RawImpl.codec) (pair (list RawRelation.codec)
      (pair (list RawImport.codec) (pair (list Diagnostic.codec) (list Path.codec)))))))))).via
    (fun s => (s.crateName, s.directory, s.externs, s.defs, s.refs, s.impls, s.relations, s.imports,
      s.diagnostics, s.readFiles))
    (fun (n, d, e, fs, rs, is, ls, ms, ds, ps) => ⟨n, d, e, fs, rs, is, ls, ms, ds, ps⟩)

end CodeAtlas
