import CodeAtlas.Shell.Regex.Reader
import CodeAtlas.Shell.Tools.Listing

/-!
# Looking for files

`find` walks through folders and decides by an expression what is done with each entry. Here the
expression is read, and all of it is decided that changes nothing.

## Architecture

- **Layer A**: expressions;
- **Layer B**: primaries;
- **Layer C**: reading expressions;
- **Layer D**: entries and tests.
-/

namespace CodeAtlas

namespace Shell

/-! ## Layer A: expressions -/

/-- How a number is compared with another one. -/
structure Bound where
  order : Ordering
  value : Nat
  deriving Repr, DecidableEq, Inhabited

/-- Whether a number keeps to a bound. -/
def Bound.admits (b : Bound) (n : Nat) : Bool := compare n b.value == b.order

/-- A question about an entry that changes nothing. -/
inductive FindTest where
  | name (pattern : Glob) (caseless : Bool)
  | path (pattern : Glob) (caseless : Bool)
  | target (pattern : Glob)
  | regex (r : Regex)
  /-- The kind of the entry is one of some letters. With `other`, links are followed if the walk
  does not follow them. -/
  | kind (letters : List Char) (other : Bool)
  | empty
  | size (bound : Bound) (unit : Nat)
  | links (bound : Bound)
  /-- How many spans of time ago the entry was changed. -/
  | age (bound : Bound)
  /-- All or some of the permissions, or exactly them. -/
  | mode (sign : Option Char) (bits : Nat)
  | mayRun
  | same (file : String)
  | constant (value : Bool)

/-- Something that is done with an entry. -/
inductive FindAction where
  | print (ending : UInt8)
  | format (text : String)
  | delete
  | prune
  | quit
  /-- A command for each entry, in its folder if `inside`. -/
  | run (command : List String) (inside : Bool)
  /-- A command for many entries at once; its number tells it from others. -/
  | runAll (command : List String) (number : Nat)
  /-- The path is written to a file. -/
  | store (file : String)

/-- **An expression.** -/
inductive FindExpr where
  | test (t : FindTest)
  | action (a : FindAction)
  | not (e : FindExpr)
  | and (a b : FindExpr)
  | or (a b : FindExpr)
  /-- Both, of which the second counts. -/
  | sequence (a b : FindExpr)

instance : Inhabited FindExpr := ⟨.test (.constant true)⟩

/-- How the walk goes. -/
structure FindMode where
  least : Nat := 0
  most : Option Nat := none
  /-- Whether what is in a folder comes before the folder. -/
  contentsFirst : Bool := false
  follow : Bool := false
  /-- Whether links that are named are followed. -/
  followNamed : Bool := false
  deriving Repr, DecidableEq, Inhabited

/-- What the arguments ask for. -/
structure FindPlan where
  paths : List String
  mode : FindMode
  expr : FindExpr

/-! ## Layer B: primaries -/

/-- The state of a reader. -/
structure FindReading where
  mode : FindMode := {}
  /-- Whether something is done besides testing. -/
  acts : Bool := false
  commands : Nat := 0
  /-- Files that arguments name and that have to be there. -/
  needed : List String := []

/-- What a primary is read as, and what is left. -/
abbrev FindRead := Except String (FindExpr × List String × FindReading)

/-- The pattern that a text is, in which a backslash takes the meaning of a sign away. -/
def globText : List Char → Glob
  | '\\' :: c :: rest => Glob.ofText (String.singleton c) false ++ globText rest
  | c :: rest => Glob.ofText (String.singleton c) true ++ globText rest
  | [] => []

/-- The bound that a number with a sign in front is. -/
def bound? (cs : List Char) : Option Bound :=
  let (order, digits) := match cs with
    | '+' :: rest => (.gt, rest)
    | '-' :: rest => (.lt, rest)
    | _ => (.eq, cs)
  (decimal? (String.ofList digits)).map fun n => ⟨order, n⟩

/-- A size with the letter of its unit. -/
def sizeTest? (arg : String) : Except String FindTest :=
  let cs := arg.toList
  let last := cs.getLastD 'b'
  let unit := match last with
    | 'c' => some 1
    | 'w' => some 2
    | 'b' => some 512
    | 'k' => some 1024
    | 'M' => some (1024 * 1024)
    | 'G' => some (1024 * 1024 * 1024)
    | _ => if last.isDigit then some 512 else none
  match unit, bound? (if last.isDigit then cs else cs.dropLast) with
  | none, _ => .error ("invalid -size type \x60" ++ String.singleton last ++ "'")
  | some u, some b => .ok (.size b u)
  | some _, none => .error ("Invalid argument \x60" ++ arg ++ "' to -size")

/-- Letters of kinds, between commas. -/
def kindTest? (name arg : String) (other : Bool) : Except String FindTest :=
  let items := arg.splitOn ","
  match items.find? fun i => i.length != 1 with
  | some i =>
    .error (if i.isEmpty && arg.isEmpty then
        "Arguments to " ++ name ++ " should contain at least one letter"
      else if i.isEmpty then
        "Last file type in list argument to " ++ name ++ " is missing, i.e., list is ending on: ','"
      else "Must separate multiple arguments to " ++ name ++ " using: ','")
  | none =>
    let letters := items.flatMap String.toList
    match letters.find? fun c => !("bcdpflsD".toList.contains c) with
    | some c => .error ("Unknown argument to " ++ name ++ ": " ++ String.singleton c)
    | none => .ok (.kind letters other)

/-- Permissions with a sign in front. -/
def modeTest? (arg : String) : Except String FindTest :=
  let (sign, mode) := match arg.toList with
    | '-' :: rest => (some '-', rest)
    | '/' :: rest => (some '/', rest)
    | cs => (none, cs)
  match Mode.read? (String.ofList mode) with
  | some m => .ok (.mode sign (m.apply 0 false 0))
  | none => .error ("invalid mode '" ++ arg ++ "'")

/-- A command up to its end. -/
def commandArgs (name : String) (args : List String) :
    Except String (List String × Bool × List String) :=
  let missing : Except String (List String × Bool × List String) :=
    .error ("missing argument to \x60" ++ name ++ "'")
  let ends := args.zipIdx.find? fun x =>
    x.1 == ";" || (x.1 == "+" && 0 < x.2 && args[x.2 - 1]? == some "\x7b\x7d")
  match ends with
  | none => missing
  | some (mark, n) =>
    let command := args.take n
    if n == 0 then .error ("invalid argument \x60" ++ mark ++ "' to \x60" ++ name ++ "'")
    else if mark == "+" && 1 < (command.filter (· == "\x7b\x7d")).length then
      .error ("Only one instance of \x7b\x7d is supported with " ++ name ++ " ... +")
    else .ok (command, mark == "+", args.drop (n + 1))

/-- A primary with one argument. -/
def primaryOf? (name arg : String) (s : FindReading) :
    Option (Except String (FindExpr × FindReading)) :=
  let test (t : FindTest) : Option (Except String (FindExpr × FindReading)) :=
    some (.ok (.test t, s))
  let tested (t : Except String FindTest) : Option (Except String (FindExpr × FindReading)) :=
    some (t.map fun t => (.test t, s))
  let wrong : Except String (FindExpr × FindReading) :=
    .error ("invalid argument \x60" ++ arg ++ "' to \x60" ++ name ++ "'")
  let bounded (f : Bound → FindTest) : Option (Except String (FindExpr × FindReading)) :=
    match bound? arg.toList with
    | some b => test (f b)
    | none => some wrong
  let deep (f : Nat → FindMode) : Option (Except String (FindExpr × FindReading)) :=
    match decimal? arg with
    | some n => some (.ok (.test (.constant true), { s with mode := f n }))
    | none => some (.error ("Expected a positive decimal integer argument to " ++ name
        ++ ", but got '" ++ arg ++ "'"))
  let there (t : FindTest) : Option (Except String (FindExpr × FindReading)) :=
    some (.ok (.test t, { s with needed := s.needed ++ [arg] }))
  let acting (a : FindAction) : Option (Except String (FindExpr × FindReading)) :=
    some (.ok (.action a, { s with acts := true }))
  let owned (kind : String) : Option (Except String (FindExpr × FindReading)) :=
    if arg == "root" || arg == "0" then test (.constant true)
    else if (decimal? arg).isSome then test (.constant false)
    else some (.error ("'" ++ arg ++ "' is not the name of " ++ kind))
  let glob := globText arg.toList
  match name with
  | "-name" => test (.name glob false)
  | "-iname" => test (.name (globText arg.toLower.toList) true)
  | "-path" => test (.path glob false)
  | "-wholename" => test (.path glob false)
  | "-ipath" => test (.path (globText arg.toLower.toList) true)
  | "-lname" => test (.target glob)
  | "-regex" =>
    match Regex.read { extended := false } (Bytes.ofText arg) with
    | .ok (r, _) => test (.regex r)
    | .error fault => some (.error ("Failed to compile regular expression '" ++ arg ++ "': "
        ++ fault.message))
  | "-type" => tested (kindTest? name arg false)
  | "-xtype" => tested (kindTest? name arg true)
  | "-size" => tested (sizeTest? arg)
  | "-perm" => tested (modeTest? arg)
  | "-links" => bounded .links
  | "-mtime" => bounded .age
  | "-atime" => bounded .age
  | "-ctime" => bounded .age
  | "-mmin" => bounded .age
  | "-amin" => bounded .age
  | "-cmin" => bounded .age
  | "-inum" => bounded fun _ => .constant false
  | "-newer" => there (.constant false)
  | "-anewer" => there (.constant false)
  | "-cnewer" => there (.constant false)
  | "-samefile" => there (.same arg)
  | "-user" => owned "a known user"
  | "-group" => owned "an existing group"
  | "-uid" => bounded fun b => .constant (b.admits 0)
  | "-gid" => bounded fun b => .constant (b.admits 0)
  | "-maxdepth" => deep fun n => { s.mode with most := some n }
  | "-mindepth" => deep fun n => { s.mode with least := n }
  | "-regextype" => test (.constant true)
  | "-printf" => acting (.format arg)
  | "-fprint" => acting (.store arg)
  | _ => none

/-- The names of primaries with one argument. -/
def argumentPrimaries : List String :=
  ["-name", "-iname", "-path", "-wholename", "-ipath", "-lname", "-regex", "-type", "-xtype",
   "-size", "-perm", "-links", "-mtime", "-atime", "-ctime", "-mmin", "-amin", "-cmin", "-inum",
   "-newer", "-anewer", "-cnewer", "-samefile", "-user", "-group", "-uid", "-gid", "-maxdepth",
   "-mindepth", "-regextype", "-printf", "-fprint"]

/-- A primary without arguments. -/
def barePrimary? (name : String) (s : FindReading) : Option (FindExpr × FindReading) :=
  let action (a : FindAction) (acts : Bool) : Option (FindExpr × FindReading) :=
    some (.action a, { s with acts := s.acts || acts })
  let option (m : FindMode) : Option (FindExpr × FindReading) :=
    some (.test (.constant true), { s with mode := m })
  let test (t : FindTest) : Option (FindExpr × FindReading) := some (.test t, s)
  match name with
  | "-print" => action (.print 10) true
  | "-print0" => action (.print 0) true
  | "-delete" =>
    some (.action .delete, { s with acts := true, mode := { s.mode with contentsFirst := true } })
  | "-prune" => action .prune false
  | "-quit" => action .quit true
  | "-empty" => test .empty
  | "-executable" => test .mayRun
  | "-readable" => test (.constant true)
  | "-writable" => test (.constant true)
  | "-true" => test (.constant true)
  | "-false" => test (.constant false)
  | "-nouser" => test (.constant false)
  | "-nogroup" => test (.constant false)
  | "-depth" => option { s.mode with contentsFirst := true }
  | "-d" => option { s.mode with contentsFirst := true }
  | "-follow" => option { s.mode with follow := true }
  | "-xdev" => option s.mode
  | "-mount" => option s.mode
  | "-noleaf" => option s.mode
  | "-daystart" => option s.mode
  | "-warn" => option s.mode
  | "-nowarn" => option s.mode
  | _ => none

/-- Reads a primary. -/
def readPrimary (name : String) (rest : List String) (s : FindReading) : FindRead :=
  if ["-exec", "-execdir"].contains name then do
    let (command, many, left) ← commandArgs name rest
    let s' := { s with acts := true, commands := s.commands + 1 }
    pure (.action (if many then .runAll command.dropLast s.commands
      else .run command (name == "-execdir")), left, s')
  else
    match barePrimary? name s with
    | some (e, s) => .ok (e, rest, s)
    | none =>
      if !argumentPrimaries.contains name then
        .error (if name.startsWith "-" then "unknown predicate \x60" ++ name ++ "'"
          else "paths must precede expression: \x60" ++ name ++ "'")
      else
        match rest with
        | [] => .error ("missing argument to \x60" ++ name ++ "'")
        | arg :: left =>
          match primaryOf? name arg s with
          | some (.ok (e, s)) => .ok (e, left, s)
          | some (.error why) => .error why
          | none => .error ("unknown predicate \x60" ++ name ++ "'")

/-! ## Layer C: reading -/

/-- The operators between expressions. -/
def findOperators : List String := ["-a", "-and", "-o", "-or", ","]

mutual

/-- Reads expressions of which the last counts. -/
def readSequence : Nat → List String → FindReading → FindRead
  | 0, _, _ => .error "expression too deep"
  | fuel + 1, args, s => do
    let (a, args, s) ← readChoice fuel args s
    match args with
    | "," :: rest =>
      if rest.isEmpty then throw "expected an expression after ','"
      let (b, rest, s) ← readSequence fuel rest s
      pure (.sequence a b, rest, s)
    | _ => pure (a, args, s)

/-- Reads expressions of which one has to hold. -/
def readChoice : Nat → List String → FindReading → FindRead
  | 0, _, _ => .error "expression too deep"
  | fuel + 1, args, s => do
    let (a, args, s) ← readAll fuel args s
    match args with
    | op :: rest =>
      if op == "-o" || op == "-or" then
        if rest.isEmpty then throw ("expected an expression after '" ++ op ++ "'")
        let (b, rest, s) ← readChoice fuel rest s
        pure (.or a b, rest, s)
      else pure (a, args, s)
    | [] => pure (a, args, s)

/-- Reads expressions that have to hold together. -/
def readAll : Nat → List String → FindReading → FindRead
  | 0, _, _ => .error "expression too deep"
  | fuel + 1, args, s => do
    let (a, args, s) ← readOne fuel args s
    match args with
    | [] => pure (a, args, s)
    | op :: rest =>
      if op == "-a" || op == "-and" then
        if rest.isEmpty then throw ("expected an expression after '" ++ op ++ "'")
        let (b, rest, s) ← readAll fuel rest s
        pure (.and a b, rest, s)
      else if findOperators.contains op || op == ")" then pure (a, args, s)
      else
        let (b, rest, s) ← readAll fuel args s
        pure (.and a b, rest, s)

/-- Reads one expression. -/
def readOne : Nat → List String → FindReading → FindRead
  | 0, _, _ => .error "expression too deep"
  | fuel + 1, args, s => do
    match args with
    | [] => throw "invalid expression"
    | op :: rest =>
      if op == "!" || op == "-not" then
        if rest.isEmpty then throw ("expected an expression after '" ++ op ++ "'")
        let (e, rest, s) ← readOne fuel rest s
        pure (.not e, rest, s)
      else if op == "(" then
        match rest with
        | [] => throw ("invalid expression; expected to find a ')' but didn't see one. "
            ++ "Perhaps you need an extra predicate after '('")
        | ")" :: _ => throw "invalid expression; empty parentheses are not allowed."
        | _ =>
          let (e, rest, s) ← readSequence fuel rest s
          match rest with
          | ")" :: rest => pure (e, rest, s)
          | _ => throw ("invalid expression; I was expecting to find a ')' somewhere "
              ++ "but did not see one.")
      else if op == ")" then throw "invalid expression; you have too many ')'"
      else if findOperators.contains op then
        throw ("invalid expression; you have used a binary operator '" ++ op
          ++ "' with nothing before it.")
      else readPrimary op rest s

end

/-- Takes the options off that stand before the paths. -/
def findOptions : List String → FindMode → FindMode × List String
  | a :: rest, m =>
    match a with
    | "-L" => findOptions rest { m with follow := true }
    | "-H" => findOptions rest { m with followNamed := true }
    | "-P" => findOptions rest { m with follow := false, followNamed := false }
    | "--" => (m, rest)
    | _ => if a.startsWith "-O" then findOptions rest m else (m, a :: rest)
  | [], m => (m, [])

/-- **Reads the arguments.** -/
def FindPlan.read (v : FileView) (args : List String) : Except String FindPlan := do
  let (mode, args) := findOptions args {}
  let paths := args.takeWhile fun a =>
    !((a.startsWith "-" && a != "-") || a == "(" || a == "!" || a == ",")
  let rest := args.drop paths.length
  let paths := if paths.isEmpty then ["."] else paths
  let print : FindExpr := .action (.print 10)
  if rest.isEmpty then pure ⟨paths, mode, print⟩
  else
    let (e, left, s) ← readSequence (4 * rest.length + 8) rest { mode := mode }
    match left with
    | ")" :: _ => throw "you have too many ')'"
    | op :: _ => throw ("paths must precede expression: \x60" ++ op ++ "'")
    | [] => pure ()
    match s.needed.find? fun f => !v.has f with
    | some f => throw ("'" ++ f ++ "': No such file or directory")
    | none => pure ⟨paths, s.mode, if s.acts then e else .and e print⟩

/-! ## Layer D: entries -/

/-- An entry that was found. -/
structure FoundEntry where
  /-- The path as it is shown. -/
  path : String
  /-- The path that the walk began with. -/
  root : String
  level : Nat
  place : Place
  entry : Entry

namespace FoundEntry

/-- The last name of the path. -/
def name (f : FoundEntry) : String := lastName f.path

/-- The letter of the kind of an entry. -/
def letterOf : Entry → Char
  | .file _ => 'f'
  | .link _ => 'l'
  | .folder => 'd'

/-- The number of bytes. -/
def size (f : FoundEntry) : Nat := entrySize f.entry

/-- The permissions. -/
def mode (f : FoundEntry) (v : FileView) : Nat := v.facts.modeOf f.place f.entry

/-- The number of names that lead to the entry. -/
def linkCount (f : FoundEntry) (v : FileView) : Nat := v.linkCount f.place

/-- The part of the path before its last name. -/
def folder (f : FoundEntry) : String :=
  if f.path.toList.contains '/' then
    String.ofList ((f.path.toList.reverse.dropWhile (· != '/')).drop 1).reverse
  else "."

/-- The path below the one that the walk began with. -/
def below (f : FoundEntry) : String :=
  if f.level == 0 then ""
  else
    let rest := f.path.toList.drop f.root.length
    String.ofList (rest.dropWhile (· == '/'))

/-- A fact about an entry, by the letter of a directive. -/
def fact? (f : FoundEntry) (v : FileView) : Char → Option String
  | 'p' => some f.path
  | 'f' => some f.name
  | 'h' => some f.folder
  | 'P' => some f.below
  | 'H' => some f.root
  | 's' => some (toString f.size)
  | 'd' => some (toString f.level)
  | 'y' => some (String.singleton (letterOf f.entry))
  | 'm' => some (Directive.digitsIn 8 (f.mode v))
  | 'n' => some (toString (f.linkCount v))
  | 'u' => some "root"
  | 'g' => some "root"
  | 'U' => some "0"
  | 'G' => some "0"
  | 'l' => match f.entry with
    | .link target => some target.text
    | _ => some ""
  | 'M' => some (String.singleton (kindLetter f.entry) ++ modeLetters (f.mode v))
  | 'k' => some (toString (entryBlocks f.entry))
  | 'b' => some (toString (2 * entryBlocks f.entry))
  | '%' => some "%"
  | _ => none

/-- Fills facts into a format, and tells what is wrong with it. -/
def filled (f : FoundEntry) (v : FileView) : Nat → List Char → Bytes × List String
  | 0, _ => ([], [])
  | _ + 1, [] => ([], [])
  | fuel + 1, '%' :: rest =>
    let (d, left, _) := readDirective rest []
    let letter := left.headD '%'
    let (bs, faults) := filled f v fuel (left.drop 1)
    match f.fact? v letter with
    | some text => (d.text (Bytes.ofText text) ++ bs, faults)
    | none =>
      let shown := "%" ++ String.singleton letter
      (Bytes.ofText shown ++ bs,
        ("warning: unrecognized format directive \x60" ++ shown ++ "'") :: faults)
  | fuel + 1, '\\' :: c :: rest =>
    if c == 'c' then ([], [])
    else
      let (b, left) := escape (c :: rest)
      let (bs, faults) := filled f v fuel left
      if b == [92] && c != '\\' then
        (b ++ bs, ("warning: unrecognized escape \x60\\" ++ String.singleton c ++ "'") :: faults)
      else (b ++ bs, faults)
  | fuel + 1, c :: rest =>
    let (bs, faults) := filled f v fuel rest
    (Bytes.ofText (String.singleton c) ++ bs, faults)

end FoundEntry

/-- Whether a test holds for an entry. -/
def FindTest.holds (v : FileView) (follow : Bool) (f : FoundEntry) : FindTest → Bool
  | name pattern caseless =>
    pattern.fits (Bytes.ofText (if caseless then f.name.toLower else f.name))
  | path pattern caseless =>
    pattern.fits (Bytes.ofText (if caseless then f.path.toLower else f.path))
  | target pattern => match f.entry with
    | .link t => pattern.fits (Bytes.ofText t.text)
    | _ => false
  | regex r =>
    let t := (Bytes.ofText f.path).toArray
    (r.ends t 0).contains t.size
  | kind letters other =>
    let entry := if other && !follow then
        ((v.disk.target? (Disk.pathOf f.place)).bind (·.entry)).getD f.entry
      else f.entry
    letters.contains (FoundEntry.letterOf entry)
  | empty => match f.entry with
    | .file content => content.size == 0
    | .folder => (v.namesAt f.place).isEmpty
    | .link _ => false
  | size bound unit => bound.admits ((f.size + unit - 1) / unit)
  | links bound => bound.admits (f.linkCount v)
  | age bound => bound.admits 0
  | mode sign bits =>
    let own := f.mode v
    match sign with
    | none => own == bits
    | some '-' => own &&& bits == bits
    | some _ => bits == 0 || own &&& bits != 0
  | mayRun => match f.entry with
    | .folder => true
    | .file _ => v.isMarked f.place
    | .link _ => v.mayRun (Disk.pathOf f.place).text
  | same file =>
    (v.disk.target? (v.path file)).any fun s => (v.facts.groupOf s.place).contains f.place
  | constant value => value

end Shell

end CodeAtlas
