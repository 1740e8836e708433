import CodeAtlas.Log.Field
import CodeAtlas.Text.Cut

/-!
# Log filters

A filter is a list of directives between commas: a level for everything, or for what a target, a
span or a field selects. Directives are kept most specific first: longer targets before shorter
ones, and what has no target last. A later directive replaces an earlier one that selects the same.

## Architecture

- **Layer A**: reading one directive;
- **Layer B**: filters and how they are shown.
-/

namespace CodeAtlas

/-! ## Layer A: directives -/

/-- What is wrong with a filter. -/
inductive FilterFault where
  | badDirective
  | badLevel
  | badField (fault : PatternFault)
  /-- Blanks in front of a directive move its parts, and one of them would end in a character. -/
  | badCut (fault : CutFault)
  deriving Repr, DecidableEq, Inhabited

/-- The wording of a fault. -/
def FilterFault.message : FilterFault → String
  | .badDirective => "invalid filter directive"
  | .badLevel => "error parsing level filter: expected one of \"off\", \"error\", \"warn\", "
      ++ "\"info\", \"debug\", \"trace\", or a number 0-5"
  | .badField .malformed => "invalid field filter: error building NFA"
  | .badField .wordBounds => "invalid field filter: unsupported regex feature for DFAs"
  | .badCut fault => fault.message

/-- Whether a fault ends everything, rather than that the filter is left out. -/
def FilterFault.isFatal : FilterFault → Bool
  | .badCut _ => true
  | _ => false

/-- **A level for what a target, a span and fields select.** -/
structure Directive where
  target : Option String
  span : Option String
  fields : List FieldMatch
  level : LogLevel
  deriving Repr, DecidableEq, Inhabited

namespace Directive

/-- Where the reading of a directive stands; the numbers count bytes from the start. -/
inductive Stage where
  | start
  | levelOrTarget (from_ : Nat)
  | span (from_ : Nat)
  | field (from_ : Nat)
  | fields
  | target
  | level (from_ : Nat)
  deriving Repr, DecidableEq, Inhabited

/-- Whether a directive may start with a character. -/
def mayStart (c : Char) : Bool :=
  c == '-' || c == ':' || c == '_' || isLetter c || isNumber c

/-- The opening and closing brace. -/
def braces : Char × Char := (Char.ofNat 0x7B, Char.ofNat 0x7D)

/-- The part of a directive between two positions. -/
def cut (whole : List Char) (start stop : Nat) : Except FilterFault (List Char) :=
  match bytesBetween whole start stop with
  | .ok cs => .ok cs
  | .error fault => .error (.badCut fault)

/-- One character. Positions are those in the trimmed text, the text that is cut out is not. -/
def next (whole : List Char) (d : Directive) (s : Stage) (i : Nat) (c : Char) :
    Except FilterFault (Directive × Stage) :=
  match s with
  | .start =>
    if c == '[' then .ok (d, .span (i + 1))
    else if mayStart c then .ok (d, .levelOrTarget i)
    else .error .badDirective
  | .levelOrTarget start =>
    if c == '=' || c == '[' then do
      let d := { d with target := some (String.ofList (← cut whole start i)) }
      pure (d, if c == '=' then .level (i + 1) else .span (i + 1))
    else .ok (d, s)
  | .span start =>
    if c == ']' then do
      pure ({ d with span := some (String.ofList (← cut whole start i)) }, .target)
    else if c == braces.1 then do
      let piece ← cut whole start i
      let span := if piece.isEmpty then none else some (String.ofList piece)
      pure ({ d with span := span }, .field (i + 1))
    else .ok (d, s)
  | .field start =>
    if c == braces.2 then do
      let piece ← cut whole start i
      if piece.isEmpty then throw .badDirective
      match FieldMatch.ofChars piece with
      | .ok m => pure ({ d with fields := d.fields ++ [m] }, .fields)
      | .error fault => throw (.badField fault)
    else .ok (d, s)
  | .fields => if c == ']' then .ok (d, .target) else .error .badDirective
  | .target => if c == '=' then .ok (d, .level (i + 1)) else .error .badDirective
  | .level _ => .ok (d, s)

/-- All characters from a position on. -/
def scan (whole : List Char) : Directive → Stage → Nat → List Char →
    Except FilterFault (Directive × Stage)
  | d, s, _, [] => .ok (d, s)
  | d, s, i, c :: rest => do
    let (d, s) ← next whole d s i c
    scan whole d s (i + c.utf8Size) rest

/-- What the end of the text makes of a directive. -/
def finish (whole : List Char) (d : Directive) : Stage → Except FilterFault Directive
  | .levelOrTarget start => do
    let t := String.ofList (← cut whole start (bytesOf whole))
    match LogLevel.ofText? t with
    | some l => pure { d with level := l, target := none }
    | none => pure { d with level := .trace, target := some t }
  | .level start => do
    let t := String.ofList (← cut whole start (bytesOf whole))
    if t.isEmpty then pure { d with level := .trace }
    else
      match LogLevel.ofText? t with
      | some l => pure { d with level := l }
      | none => throw .badLevel
  | .target => .ok d
  | _ => .error .badDirective

/-- **Reads one directive.** -/
def read (cs trimmed : List Char) : Except FilterFault Directive := do
  let (d, s) ← scan cs ⟨none, none, [], .trace⟩ .start 0 trimmed
  finish cs d s

/-- Whether a directive selects by span or fields. -/
def isDynamic (d : Directive) : Bool := d.span.isSome || !d.fields.isEmpty

/-- The part of a directive that does not depend on spans or the values of fields. -/
def static? (d : Directive) : Option Directive :=
  if d.span.isNone && d.fields.all (fun f => f.value.isNone) then some d else none

/-- The more specific of two directives comes first; directives that select the same are equal. -/
instance : Ord Directive where
  compare a b :=
    let size (d : Directive) : Option Nat := d.target.map String.utf8ByteSize
    (compare (size b) (size a)).then <|
    (compare b.span.isSome a.span.isSome).then <|
    (compare b.fields.length a.fields.length).then <|
    (compare b.target a.target).then <|
    (compare b.span a.span).then (compare b.fields a.fields)

/-- How a directive is shown. -/
def shown (d : Directive) : String :=
  let fields := if d.fields.isEmpty then ""
    else braces.1.toString ++ ",".intercalate (d.fields.map FieldMatch.shown) ++ braces.2.toString
  let selected := if d.isDynamic then "[" ++ d.span.getD "" ++ fields ++ "]" else ""
  let place := d.target.getD "" ++ selected
  if d.target.isNone && selected.isEmpty then d.level.name else place ++ "=" ++ d.level.name

end Directive

/-! ## Layer B: filters -/

/-- **A log filter**: directives without and with conditions on spans or fields. -/
structure LogFilter where
  statics : List Directive
  dynamics : List Directive
  deriving Repr, DecidableEq, Inhabited

namespace LogFilter

/-- Puts a directive in its place, instead of one that selects the same. -/
def insert (ds : List Directive) (d : Directive) : List Directive :=
  match ds with
  | [] => [d]
  | e :: rest =>
    match compare d e with
    | .lt => d :: e :: rest
    | .eq => d :: rest
    | .gt => e :: insert rest d

/-- The filter of a single level. -/
def ofLevel (l : LogLevel) : LogFilter := ⟨[⟨none, none, [], l⟩], []⟩

/-- The filter of directives in the order in which they are written. -/
def ofDirectives (ds : List Directive) : LogFilter :=
  let (dynamic, plain) := ds.partition Directive.isDynamic
  let statics := (plain ++ dynamic).filterMap Directive.static?
  ⟨statics.foldl insert [], dynamic.foldl insert []⟩

/-- How a filter is shown. -/
def shown (f : LogFilter) : String :=
  ",".intercalate ((f.statics ++ f.dynamics).map Directive.shown)

end LogFilter

end CodeAtlas
