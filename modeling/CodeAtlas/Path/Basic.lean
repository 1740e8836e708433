/-!
# Paths

A path is kept as it was written and compared by its components: repeated separators, a trailing
separator and interior `.` parts do not count, a leading `.` does. Paths are ordered component by
component, so `a/b` comes before `a.rs`.

## Architecture

- **Layer A**: components and the order they induce;
- **Layer B**: taking apart (`parent?`, `fileName?`, `startsWith`);
- **Layer C**: putting together (`join`);
- **Layer D**: lexical normalization (`normalize`), for which the disk is never consulted.
-/

namespace CodeAtlas

/-- A path as it was written. -/
structure Path where
  text : String
  deriving Repr, DecidableEq, Inhabited

/-- One step of a path. -/
inductive Part where
  | root
  | current
  | parent
  | name (segment : String)
  deriving Repr, DecidableEq, Inhabited

namespace Part

/-- The root comes first, then `.`, then `..`, then names in their own order. -/
instance : Ord Part where
  compare
    | .root, .root => .eq
    | .root, _ => .lt
    | .current, .root => .gt
    | .current, .current => .eq
    | .current, _ => .lt
    | .parent, .root => .gt
    | .parent, .current => .gt
    | .parent, .parent => .eq
    | .parent, .name _ => .lt
    | .name a, .name b => compare a b
    | .name _, _ => .gt

/-- A part as it is written inside a path. -/
def text : Part → String
  | .root => "/"
  | .current => "."
  | .parent => ".."
  | .name s => s

/-- The part a segment between separators stands for; empty segments and `.` stand for none. -/
def ofSegment? (s : List Char) : Option Part :=
  if s.isEmpty || s == ['.'] then none
  else if s == ['.', '.'] then some .parent
  else some (.name (String.ofList s))

end Part

namespace Path

/-! ## Layer A: components -/

/-- Whether a path starts at the root. -/
def isAbsolute (p : Path) : Bool := p.text.toList.head? == some '/'

/-- The segments between separators, as written. -/
def segments (p : Path) : List (List Char) := p.text.toList.splitOn '/'

/-- The components of a path. -/
def parts (p : Path) : List Part :=
  let body := p.segments.filterMap Part.ofSegment?
  if p.isAbsolute then .root :: body
  else if p.segments.head? == some ['.'] then .current :: body
  else body

/-- Paths are ordered by their components. -/
instance : Ord Path := ⟨compareOn parts⟩

/-- Whether two spellings have the same components. -/
def same (p q : Path) : Bool := p.parts == q.parts

/-! ## Layer B: taking apart -/

/-- The components without the trailing one, written out again. -/
def render : List Part → String
  | [] => ""
  | .root :: rest => "/" ++ "/".intercalate (rest.map Part.text)
  | rest => "/".intercalate (rest.map Part.text)

/-- The name at the end of a path; paths that end in `..` or at the root have none. -/
def fileName? (p : Path) : Option String :=
  match p.parts.getLast? with
  | some (.name s) => some s
  | _ => none

/-- Everything before the last segment that counts, as written, without trailing separators. -/
def parent? (p : Path) : Option Path :=
  match p.parts with
  | [] => none
  | [.root] => none
  | [_] => some ⟨""⟩
  | [.root, _] => some ⟨"/"⟩
  | _ => some ⟨String.ofList (dropLastPart p.text.toList.reverse).reverse⟩
where
  /-- Cuts the trailing separators and `.` segments of a reversed text. -/
  trimEnd : List Char → List Char
    | '/' :: rest => trimEnd rest
    -- the separator stays for the next step, which shows that the `.` was a segment
    | '.' :: '/' :: rest => trimEnd ('/' :: rest)
    | cs => cs
  /-- Cuts the last counting segment of a reversed text, and what separates it. -/
  dropLastPart (cs : List Char) : List Char :=
    trimEnd ((trimEnd cs).dropWhile (· != '/'))

/-- Whether the components of `base` begin those of `p`. -/
def startsWith (p base : Path) : Bool := base.parts.isPrefixOf p.parts

/-! ## Layer C: putting together -/

/-- `q` seen from `p`: an absolute `q` stands for itself. -/
def join (p q : Path) : Path :=
  if q.isAbsolute then q
  else if p.text.isEmpty then q
  -- no second separator
  else if p.text.toList.getLast? == some '/' then ⟨p.text ++ q.text⟩
  else ⟨p.text ++ "/" ++ q.text⟩

/-- `p` followed by one more segment. -/
def child (p : Path) (segment : String) : Path := p.join ⟨segment⟩

/-! ## Layer D: lexical normalization

`.` parts are dropped and `..` parts take back the name before them where there is one. At the root
there is nothing to take back, so `..` is dropped there; at the start of a relative path it stays. -/

/-- One component on top of a reversed stack of names and leading `..` parts. -/
def reduce (absolute : Bool) (stack : List Part) : Part → List Part
  | .root => stack
  | .current => stack
  | .parent =>
    match stack with
    | .name _ :: rest => rest
    -- nothing to take back: either at the root, or behind leading `..` parts
    | _ => if absolute then stack else .parent :: stack
  | .name s => .name s :: stack

/-- The parts of a normalized path behind its root. -/
def normalParts (p : Path) : List Part :=
  (p.parts.foldl (reduce p.isAbsolute) []).reverse

/-- **The canonical spelling of a path** (`normalize_local_path`). -/
def normalize (p : Path) : Path :=
  ⟨render (if p.isAbsolute then .root :: p.normalParts else p.normalParts)⟩

end Path

end CodeAtlas
