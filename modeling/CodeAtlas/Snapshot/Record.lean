import CodeAtlas.Diagnostic
import CodeAtlas.Unit

/-!
# Analysis snapshots

What a toolchain reports about one unit. Identifiers mean something only inside one snapshot: unit
number 0 is the analyzed unit itself, every other number stands for an entry of the list of extern
units. Lines and columns count from one, the way compilers report them.
-/

namespace CodeAtlas

/-- An identifier of a snapshot (`RawId`). -/
structure LocalId where
  unit : UInt32
  index : UInt32
  deriving Repr, DecidableEq, Inhabited

namespace LocalId

/-- The value of a half that stands for "no identifier". -/
def noneMark : UInt32 := 4294967295

/-- The identifier of nothing. -/
def absent : LocalId := ⟨noneMark, noneMark⟩

/-- Whether an identifier stands for nothing (`is_none`). -/
def isNone (i : LocalId) : Bool := i.unit == noneMark || i.index == noneMark

end LocalId

/-- A place in a source file as compilers report it. -/
structure RawSpan where
  fileName : Path
  byteStart : UInt32
  byteEnd : UInt32
  lineStart : UInt32
  lineEnd : UInt32
  columnStart : UInt32
  columnEnd : UInt32
  deriving Repr, DecidableEq, Inhabited

namespace RawSpan

/-- Whether the place was made up for a macro expansion (`is_synthetic`). -/
def isSynthetic (s : RawSpan) : Bool := s.fileName.text.toList.getLast? == some '>'

end RawSpan

/-- What a definition defines. -/
inductive DefKind where
  | module
  | struct
  | enum
  | union
  | variant
  | trait
  | function
  | method
  | macroRule
  | type
  | const
  | static
  | field
  | local
  deriving Repr, DecidableEq, Inhabited

namespace DefKind

/-- All kinds with their written names, in order. -/
def names : List (String × DefKind) :=
  [("mod", .module), ("struct", .struct), ("enum", .enum), ("union", .union),
   ("variant", .variant), ("trait", .trait), ("function", .function), ("method", .method),
   ("macro", .macroRule), ("type", .type), ("const", .const), ("static", .static),
   ("field", .field), ("local", .local)]

/-- The position of a kind in the order. -/
def rank : DefKind → Nat
  | .module => 0
  | .struct => 1
  | .enum => 2
  | .union => 3
  | .variant => 4
  | .trait => 5
  | .function => 6
  | .method => 7
  | .macroRule => 8
  | .type => 9
  | .const => 10
  | .static => 11
  | .field => 12
  | .local => 13

instance : Ord DefKind := ⟨compareOn rank⟩

/-- The written name of a kind. -/
def name : DefKind → String
  | .module => "mod"
  | .struct => "struct"
  | .enum => "enum"
  | .union => "union"
  | .variant => "variant"
  | .trait => "trait"
  | .function => "function"
  | .method => "method"
  | .macroRule => "macro"
  | .type => "type"
  | .const => "const"
  | .static => "static"
  | .field => "field"
  | .local => "local"

end DefKind

/-- A definition. -/
structure RawDef where
  kind : DefKind
  id : LocalId
  span : RawSpan
  name : String
  /-- The path below the root of the unit. -/
  qualname : String
  signature : Option String
  docs : String
  parent : Option LocalId
  children : List LocalId
  /-- For the implementation of a declared item, the declaration. -/
  declId : Option LocalId
  deriving Repr, DecidableEq, Inhabited

/-- What a reference refers to. -/
inductive RefKind where
  | function
  | module
  | type
  | variable
  deriving Repr, DecidableEq, Inhabited

namespace RefKind

/-- All kinds with their written names, in order. -/
def names : List (String × RefKind) :=
  [("function", .function), ("mod", .module), ("type", .type), ("variable", .variable)]

/-- The written name of a kind. -/
def name : RefKind → String
  | .function => "function"
  | .module => "mod"
  | .type => "type"
  | .variable => "variable"

end RefKind

/-- A reference. -/
structure RawRef where
  kind : RefKind
  span : RawSpan
  target : LocalId
  deriving Repr, DecidableEq, Inhabited

/-- How an implementation block applies. -/
inductive ImplKind where
  | inherent
  | direct
  | indirect
  | blanket
  deriving Repr, DecidableEq, Inhabited

namespace ImplKind

/-- All kinds with their written names, in order. -/
def names : List (String × ImplKind) :=
  [("inherent", .inherent), ("direct", .direct), ("indirect", .indirect), ("blanket", .blanket)]

/-- The written name of a kind. -/
def name : ImplKind → String
  | .inherent => "inherent"
  | .direct => "direct"
  | .indirect => "indirect"
  | .blanket => "blanket"

end ImplKind

/-- An implementation block; relations point at its number. -/
structure RawImpl where
  id : UInt32
  kind : ImplKind
  span : RawSpan
  deriving Repr, DecidableEq, Inhabited

/-- The type `selfType` implements `traitId`, or has an inherent block without one. -/
structure RawRelation where
  implId : UInt32
  selfType : LocalId
  traitId : Option LocalId
  deriving Repr, DecidableEq, Inhabited

/-- How a name is imported. -/
inductive ImportKind where
  | externUnit
  | use
  | globUse
  deriving Repr, DecidableEq, Inhabited

namespace ImportKind

/-- All kinds with their written names, in order. -/
def names : List (String × ImportKind) :=
  [("extern_crate", .externUnit), ("use", .use), ("glob_use", .globUse)]

/-- The written name of a kind. -/
def name : ImportKind → String
  | .externUnit => "extern_crate"
  | .use => "use"
  | .globUse => "glob_use"

end ImportKind

/-- An import. -/
structure RawImport where
  kind : ImportKind
  span : RawSpan
  name : String
  target : Option LocalId
  deriving Repr, DecidableEq, Inhabited

/-- The unit that a unit number of the snapshot stands for. -/
structure ExternUnit where
  num : UInt32
  unit : UnitId
  deriving Repr, DecidableEq, Inhabited

/-- **The analysis of one unit** (`RawAnalysisSnapshot`). -/
structure Snapshot where
  /-- Put in front of every qualified name. -/
  crateName : String
  /-- Base of relative file names. -/
  directory : Path
  externs : List ExternUnit
  defs : List RawDef
  refs : List RawRef
  impls : List RawImpl
  relations : List RawRelation
  imports : List RawImport
  diagnostics : List Diagnostic
  /-- Every file that was read for this snapshot. -/
  readFiles : List Path
  deriving Repr, DecidableEq

namespace Snapshot

/-- The snapshot of a unit in which nothing was found. -/
def empty : Snapshot := ⟨"", ⟨""⟩, [], [], [], [], [], [], [], []⟩

instance : Inhabited Snapshot := ⟨empty⟩

/-- Whether the snapshot is partial because the unit has errors (`has_errors`). -/
def hasErrors (s : Snapshot) : Bool := s.diagnostics.any Diagnostic.isError

end Snapshot

end CodeAtlas
