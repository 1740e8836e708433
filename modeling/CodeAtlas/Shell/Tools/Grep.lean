import CodeAtlas.Shell.Regex.Reader
import CodeAtlas.Shell.Tools.Files

/-!
# Searching for lines

Lines that match a regular expression are printed, counted or only told of.

## Architecture

- **Layer A**: what is searched for;
- **Layer B**: what is printed of one file;
- **Layer C**: the tool.
-/

namespace CodeAtlas

namespace Shell

/-! ## Layer A: patterns -/

/-- Whether an expression is a class without its outer brackets. -/
def isBareClass (pattern : Bytes) : Bool :=
  let cs := pattern.map fun b => Char.ofNat b.toNat
  match cs with
  | '[' :: ':' :: rest =>
    let name := rest.takeWhile Char.isAlpha
    rest.drop name.length == [':', ']'] && !name.isEmpty
  | _ => false

/-- Reads one expression. -/
def readPattern (fixed : Bool) (d : Dialect) (pattern : Bytes) : Except String Regex :=
  if fixed then .ok (.literal d pattern)
  else if isBareClass pattern then
    .error "character class syntax is [[:space:]], not [:space:]"
  else
    match Regex.read d pattern with
    | .ok r => .ok r.1
    | .error .unmatchedBracket => .error "Invalid regular expression"
    | .error fault => .error fault.message

/-- The expression that matches where one of several does. -/
def anyRegex : List Regex → Regex
  | [] => .one fun _ => false
  | [r] => r
  | r :: rest => .either r (anyRegex rest)

/-- An expression that matches whole words or whole lines only, if that is asked for. -/
def wholeRegex (g : Given) (r : Regex) : Regex :=
  if g.has 'x' then .both (.anchor .start) (.both r (.anchor .finish))
  else if g.has 'w' then .both (.anchor .outsideBefore) (.both r (.anchor .outsideAfter))
  else r

/-- All parts of a line that match, without empty ones. -/
def matchesIn (r : Regex) (t : Array UInt8) : Nat → Nat → List (Nat × Nat)
  | 0, _ => []
  | fuel + 1, i =>
    match r.search t i with
    | none => []
    | some (a, b, _) =>
      if b == a then matchesIn r t fuel (a + 1) else (a, b) :: matchesIn r t fuel b

/-! ## Layer B: one file -/

/-- What is wanted from each file. -/
structure LineSearch where
  given : Given
  wanted : Regex
  /-- How many lines are looked for. -/
  most : Option Nat
  before : Nat
  after : Nat
  /-- Whether lines bear the name of their file. -/
  named : Bool

namespace LineSearch

/-- What stands before a line. -/
def front (s : LineSearch) (name : String) (number offset : Nat) (mark : String) : Bytes :=
  Bytes.ofText ((if s.named then name ++ mark else "")
    ++ (if s.given.has 'n' then toString number ++ mark else "")
    ++ if s.given.has 'b' then toString offset ++ mark else "")

/-- Whether a line is selected. -/
def selects (s : LineSearch) (l : Bytes) : Bool :=
  (s.wanted.search l.toArray 0).isSome != s.given.has 'v'

/-- The parts of a line that match, each on a line of its own. -/
def parts (s : LineSearch) (name : String) (number offset : Nat) (l : Bytes) : Bytes :=
  let t := l.toArray
  (matchesIn s.wanted t (t.size + 1) 0).flatMap fun (a, b) =>
    s.front name number (offset + a) ":" ++ (l.take b).drop a ++ [10]

/-- Lines with their numbers and offsets. -/
def numbered : Nat → Nat → List Bytes → List (Nat × Nat × Bytes)
  | _, _, [] => []
  | n, offset, l :: rest => (n, offset, l) :: numbered (n + 1) (offset + l.length + 1) rest

/-- The lines of a file that are printed. -/
def printed (s : LineSearch) (name : String) (lines : List (Nat × Nat × Bytes))
    (selected : List Nat) : Bytes :=
  let shown (n : Nat) : Bool := selected.any fun k => k ≤ n + s.before && n ≤ k + s.after
  let context := 0 < s.before || 0 < s.after
  let (bs, _) := lines.foldl (fun (acc : Bytes × Nat) (n, offset, l) =>
    if !shown n then acc
    else
      let gap := if context && acc.2 != 0 && acc.2 + 1 < n then Bytes.ofText "--\n" else []
      let isSelected := selected.contains n
      let body := if s.given.has 'o' then
          if isSelected && !s.given.has 'v' then s.parts name n offset l else []
        else s.front name n offset (if isSelected then ":" else "-") ++ l ++ [10]
      (acc.1 ++ gap ++ body, n)) ([], 0)
  bs

/-- Searches one file. The result is what is printed, and whether lines were selected. -/
def inFile (s : LineSearch) (shown name : String) (bs : Bytes) : Bytes × Bool :=
  let lines := numbered 1 0 (bareLines bs)
  let all := (lines.filter fun l => s.selects l.2.2).map (·.1)
  let selected := match s.most with
    | some m => all.take m
    | none => all
  let found := !selected.isEmpty
  let listed (wanted : Bool) : Bytes := if wanted then Bytes.ofText (name ++ "\n") else []
  let out := if s.given.has 'q' then []
    else if s.given.has 'l' then listed found
    else if s.given.has 'L' then listed !found
    else if s.given.has 'c' then
      Bytes.ofText ((if s.named then name ++ ":" else "") ++ toString selected.length ++ "\n")
    else if bs.contains 0 && !s.given.has 'a' && !s.given.has 'o' then
      if found then Bytes.ofText (shown ++ ": " ++ name ++ ": binary file matches\n") else []
    else
      let last := match s.most, selected.getLast? with
        | some m, some k => if all.length > m then k + s.after else lines.length
        | _, _ => lines.length
      s.printed name (lines.filter (·.1 ≤ last)) selected
  (out, found)

end LineSearch

/-! ## Layer C: the tool -/

/-- The files at and below a path, with their shown names. -/
def filesBelow (v : FileView) : Nat → String → List String
  | 0, shown => [shown]
  | fuel + 1, shown =>
    match v.disk.target? (v.path shown) with
    | some ⟨place, some .folder⟩ =>
      (v.namesAt place).flatMap fun n =>
        filesBelow v fuel (if shown.endsWith "/" then shown ++ n else shown ++ "/" ++ n)
    | _ => [shown]

/-- The arguments with a count of lines around a match written as an option of its own. -/
def withContextCount (args : List String) : List String :=
  args.map fun a =>
    let cs := a.toList.drop 1
    if a.startsWith "-" && !cs.isEmpty && cs.all Char.isDigit then "-C" ++ String.ofList cs else a

/-- The options of the tool. -/
def grepOptions : OptionTable :=
  { plain := "EFGPviycnqolLwxhHsrRabIzTU", valued := "efmABC2345"
    long := [("extended-regexp", 'E'), ("fixed-strings", 'F'), ("basic-regexp", 'G'),
      ("invert-match", 'v'), ("ignore-case", 'i'), ("count", 'c'), ("line-number", 'n'),
      ("quiet", 'q'), ("silent", 'q'), ("only-matching", 'o'), ("files-with-matches", 'l'),
      ("files-without-match", 'L'), ("word-regexp", 'w'), ("line-regexp", 'x'),
      ("no-filename", 'h'), ("with-filename", 'H'), ("no-messages", 's'), ("recursive", 'r'),
      ("text", 'a'), ("regexp", 'e'), ("file", 'f'), ("max-count", 'm'), ("after-context", 'A'),
      ("before-context", 'B'), ("context", 'C'), ("include", '2'), ("exclude", '3'),
      ("color", '4'), ("colour", '5')] }

/-- The message of the tool when it was called in a wrong way. -/
def grepUsage (c : ToolCall) (why : String) : ToolResult :=
  .failing 2 ((if why.isEmpty then "" else c.shown ++ ": " ++ why ++ "\n")
    ++ "Usage: " ++ c.name ++ " [OPTION]... PATTERNS [FILE]...\nTry '" ++ c.name
    ++ " --help' for more information.")

/-- Searches the files of a call. -/
def LineSearch.run (s : LineSearch) (c : ToolCall) (files : List String) : ToolResult :=
  let found (r : ToolResult × Bool) : Bool := r.2
  let (r, any) := (c.contents files).foldl (fun (acc : ToolResult × Bool) file =>
    if s.given.has 'q' && found acc then acc
    else
      let name := if file.1 == "-" then "(standard input)" else file.1
      match file.2 with
      | .ok content =>
        let (bs, hit) := s.inFile c.shown name content.toBytes
        (acc.1.andThen (.bytes bs), acc.2 || hit)
      | .error fault =>
        let told : ToolResult := if s.given.has 's' then { status := 2 }
          else .failing 2 (c.shown ++ ": " ++ name ++ ": " ++ reason fault)
        (acc.1.andThen told, acc.2)) ({}, false)
  let failed := r.status != 0 && !(s.given.has 'q' && any)
  { r with
    status := if failed then 2 else if any then 0 else 1
    left := if files.contains "-" then some [] else none }

/-- Searches for lines with options and patterns that were read. -/
def grepWith (c : ToolCall) (g : Given) (wanted : Regex) (operands : List String) : ToolResult :=
  let deep := g.has 'r' || g.has 'R'
  let count (letters : List Char) : Option String :=
    (g.lastOf? letters).bind g.value?
  let contexts := [count ['A', 'C'], count ['B', 'C']].filterMap id
  match contexts.find? fun t => (decimal? t).isNone, (g.value? 'm').map decimal? with
  | some bad, _ => .failing 2 (c.shown ++ ": " ++ bad ++ ": invalid context length argument")
  | none, some none => .failing 2 (c.shown ++ ": invalid max count")
  | none, most =>
    let included (f : String) : Bool :=
      let fits (p : String) : Bool := (Glob.ofText p true).fits (Bytes.ofText (lastName f))
      ((g.values '2').isEmpty || (g.values '2').any fits) && !(g.values '3').any fits
    let files := if !deep then orInput operands
      else if operands.isEmpty then
        ((filesBelow c.files c.files.depth ".").map fun f => String.ofList (f.toList.drop 2))
          |>.filter included
      else (operands.flatMap (filesBelow c.files c.files.depth)).filter included
    let named := match g.lastOf? ['h', 'H'] with
      | some ch => ch == 'H'
      | none => 1 < operands.length || (deep && operands.all c.files.isFolder)
    let s : LineSearch :=
      { given := g, wanted := wanted, most := most.bind id
        after := ((count ['A', 'C']).bind decimal?).getD 0
        before := ((count ['B', 'C']).bind decimal?).getD 0
        named := named }
    s.run c files

/-- **Prints the lines of files that match.** -/
def grepTool (c : ToolCall) : ToolResult :=
  match grepOptions.read (withContextCount c.args) {} with
  | .error why => grepUsage c why
  | .ok g =>
    let given := (g.values 'e').map Bytes.ofText
    let inFiles := (g.values 'f').map fun file => (file, c.content file)
    match inFiles.findSome? fun f => match f.2 with
        | .error fault => some (c.shown ++ ": " ++ f.1 ++ ": " ++ reason fault)
        | .ok _ => none with
    | some why => .failing 2 why
    | none =>
      let fromFiles := inFiles.flatMap fun f => match f.2 with
        | .ok content => bareLines content.toBytes
        | .error _ => []
      let explicit := g.has 'e' || g.has 'f'
      match g.operands, explicit with
      | [], false => grepUsage c ""
      | operands, _ =>
        let texts := if explicit then given else [Bytes.ofText (operands.headD "")]
        let patterns := (texts.flatMap fun t => t.splitOn 10) ++ fromFiles
        let kind := (g.lastOf? ['E', 'F', 'G', 'P']).getD
          (if c.name == "egrep" then 'E' else if c.name == "fgrep" then 'F' else 'G')
        let d : Dialect := ⟨kind == 'E' || kind == 'P', g.has 'i' || g.has 'y'⟩
        match patterns.mapM (readPattern (kind == 'F') d) with
        | .error why => .failing 2 (c.shown ++ ": " ++ why)
        | .ok rs =>
          let warned : ToolResult := if kind == 'E' && patterns.any fun p => p.head? == some 42
            then { writes := [(2, Bytes.ofText (c.shown
              ++ ": warning: * at start of expression\n"))] } else {}
          let wanted := wholeRegex g (anyRegex rs)
          warned.andThen (grepWith c g wanted (if explicit then operands else operands.drop 1))

end Shell

end CodeAtlas
