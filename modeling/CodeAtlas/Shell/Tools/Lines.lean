import CodeAtlas.Ordered.Sorting
import CodeAtlas.Shell.Format
import CodeAtlas.Shell.Tools.Basic

/-!
# Tools for lines

Tools that print the lines of files: all of them or some, numbered, cut, counted, or put in another
order.

## Architecture

- **Layer A**: whole files (`cat`, `tac`, `rev`, `nl`, `fold`, `tee`);
- **Layer B**: beginnings and ends (`head`, `tail`);
- **Layer C**: counts (`wc`);
- **Layer D**: parts of lines (`cut`, `paste`);
- **Layer E**: neighbours (`uniq`).
-/

namespace CodeAtlas

namespace Shell

/-- A text filled up on the left. -/
def padLeft (width : Nat) (s : String) : String :=
  String.ofList (List.replicate (width - s.length) ' ') ++ s

/-- The bytes of a text of ASCII characters. -/
def ascii (s : String) : Bytes := Bytes.ofText s

/-! ## Layer A: whole files -/

/-- A byte that is no printable character, made visible. -/
def visibleByte (b : UInt8) : Bytes :=
  let low (n : Nat) : Bytes :=
    if n < 32 then [94, (n + 64).toUInt8] else if n == 127 then [94, 63] else [n.toUInt8]
  if b.toNat < 128 then low b.toNat else [77, 45] ++ low (b.toNat - 128)

/-- How `cat` shows lines. -/
structure LineStyle where
  number : Bool
  numberFull : Bool
  squeeze : Bool
  showEnds : Bool
  showTabs : Bool
  showOthers : Bool

/-- The style that options ask for. -/
def LineStyle.ofOptions (g : Given) : LineStyle where
  number := g.has 'n' && !g.has 'b'
  numberFull := g.has 'b'
  squeeze := g.has 's'
  showEnds := g.has 'E' || g.has 'A' || g.has 'e'
  showTabs := g.has 'T' || g.has 'A' || g.has 't'
  showOthers := g.has 'v' || g.has 'A' || g.has 'e' || g.has 't'

/-- Shows lines in a style; `n` lines have been numbered so far, and `blank` tells whether the line
before was empty. -/
def LineStyle.render (s : LineStyle) : Nat → Bool → List Bytes → Bytes
  | _, _, [] => []
  | n, blank, l :: rest =>
    let isEmpty := l == [10]
    if s.squeeze && blank && isEmpty then s.render n true rest
    else
      let numbered := s.number || (s.numberFull && !isEmpty)
      let front := if numbered then ascii (padLeft 6 (toString (n + 1)) ++ "\t") else []
      let shown := (bareLine l).flatMap fun b =>
        if b == 9 then (if s.showTabs then [94, 73] else [9])
        else if s.showOthers then visibleByte b else [b]
      let back := if l.getLast? == some 10 then (if s.showEnds then [36, 10] else [10]) else []
      front ++ shown ++ back ++ s.render (if numbered then n + 1 else n) isEmpty rest

/-- Prints files one after another. -/
def catTool (c : ToolCall) : ToolResult :=
  let table : OptionTable :=
    { plain := "nbsETvAetu"
      long := [("number", 'n'), ("number-nonblank", 'b'), ("squeeze-blank", 's'),
        ("show-ends", 'E'), ("show-tabs", 'T'), ("show-nonprinting", 'v'), ("show-all", 'A')] }
  withOptions c 1 table fun g =>
    let styled := g.options.any (·.1 != 'u')
    let r := overFiles c g.operands 1 (plainRefusal c) fun _ content =>
      if content.hole == boundless then
        { ToolResult.bytes (List.replicate burst 0) with endless := true }
      else .bytes content.toBytes
    if styled then r.withOutput ((LineStyle.ofOptions g).render 0 false (linesOf r.output)) else r

/-- Prints lines in reverse order. -/
def tacTool (c : ToolCall) : ToolResult :=
  withOptions c 1 {} fun g =>
    (overFiles c g.operands 1
      (fun file fault =>
        if fault == .isDirectory then c.shown ++ ": " ++ file ++ ": read error: " ++ reason fault
        else c.shown ++ ": failed to open '" ++ file ++ "' for reading: " ++ reason fault)
      fun _ content => .bytes (linesOf content.toBytes).reverse.flatten).buffered

/-- Prints each line backwards. -/
def revTool (c : ToolCall) : ToolResult :=
  (overFiles c c.args 1
    (fun file fault => c.shown ++ ": cannot open " ++ file ++ ": " ++ reason fault)
    fun _ content => .bytes ((linesOf content.toBytes).flatMap fun l =>
      (bareLine l).reverse ++ l.drop (bareLine l).length)).buffered

/-- Numbers lines. -/
def nlTool (c : ToolCall) : ToolResult :=
  let table : OptionTable := { valued := "bhfvinwsl", plain := "p" }
  withOptions c 1 table fun g =>
    let all := g.value? 'b' == some "a"
    let none := g.value? 'b' == some "n"
    let width := ((g.value? 'w').bind decimal?).getD 6
    let first := ((g.value? 'v').bind decimal?).getD 1
    let step := ((g.value? 'i').bind decimal?).getD 1
    let gap := (g.value? 's').getD "\t"
    let shown (n : Nat) : String :=
      let s := toString n
      match g.value? 'n' with
      | some "ln" => s ++ String.ofList (List.replicate (width - s.length) ' ')
      | some "rz" => String.ofList (List.replicate (width - s.length) '0') ++ s
      | _ => padLeft width s
    let r := allBytes c g.operands 1 (plainRefusal c)
    let (bs, _) := (bareLines r.output).foldl (fun (acc : Bytes × Nat) l =>
      if !none && (all || !l.isEmpty) then
        (acc.1 ++ ascii (shown acc.2 ++ gap) ++ l ++ [10], acc.2 + step)
      else (acc.1 ++ List.replicate (width + gap.length) 32 ++ l ++ [10], acc.2)) ([], first)
    r.withOutput bs

/-- Cuts a line into parts of at most so many bytes, behind blanks if that is asked for. -/
def foldLine (width : Nat) (atBlanks : Bool) : Nat → Bytes → List Bytes
  | 0, l => [l]
  | fuel + 1, l =>
    if l.length ≤ width then [l]
    else
      let part := l.take width
      let words := (part.reverse.dropWhile (· != 32)).reverse
      let part := if atBlanks && !words.isEmpty then words else part
      part :: foldLine width atBlanks fuel (l.drop part.length)

/-- Breaks long lines. -/
def foldTool (c : ToolCall) : ToolResult :=
  let table : OptionTable :=
    { plain := "sb", valued := "w", long := [("width", 'w'), ("spaces", 's'), ("bytes", 'b')] }
  let args := c.args.map fun a =>
    if a.startsWith "-" && (decimal? (String.ofList (a.toList.drop 1))).isSome
      then "-w" ++ String.ofList (a.toList.drop 1) else a
  withOptions { c with args := args } 1 table fun g =>
    let width := max 1 (((g.value? 'w').bind decimal?).getD 80)
    let r := allBytes c g.operands 1 (plainRefusal c)
    r.withOutput ((linesOf r.output).flatMap fun l =>
      let bare := bareLine l
      ([(10 : UInt8)].intercalate (foldLine width (g.has 's') bare.length bare))
        ++ l.drop bare.length)

/-- Prints the input, and writes it to files. -/
def teeTool (c : ToolCall) : ToolResult :=
  let table : OptionTable := { plain := "aip", long := [("append", 'a')] }
  withOptions c 1 table fun g =>
    let start : ToolResult := { ToolResult.bytes c.input with left := some [] }
    g.operands.foldl (fun r file =>
      let d := r.disk.getD c.files.disk
      let path := c.files.path file
      let before := if g.has 'a' then
        match d.read path with
        | .ok content => content.toBytes
        | .error _ => []
        else []
      if path.text == "/dev/null" then r
      else if path.text == "/dev/stderr" then r.andThen { writes := [(2, c.input)] }
      else
        match d.write path ⟨before ++ c.input, 0⟩ with
        | .ok d => { r with disk := some d }
        | .error fault => r.andThen (.failing 1 (plainRefusal c file fault))) start

/-! ## Layer B: beginnings and ends -/

/-- How much of a file is asked for. -/
structure Portion where
  /-- Whether bytes are counted, not lines. -/
  bytes : Bool
  count : Nat
  /-- Whether the count is measured from the other end. -/
  inverse : Bool

/-- The portion that options ask for; `mark` is the sign of a count from the other end. -/
def Portion.ofOptions? (g : Given) (mark : Char) : Except String Portion :=
  let kind := (g.lastOf? ['c', 'n']).getD 'n'
  let text := (g.value? kind).getD "10"
  let (inverse, digits) := match text.toList with
    | '-' :: rest => (mark == '-', rest)
    | '+' :: rest => (mark == '+', rest)
    | cs => (false, cs)
  match sized? (String.ofList digits) with
  | some n => .ok ⟨kind == 'c', n, inverse⟩
  | none =>
    .error ("invalid number of " ++ (if kind == 'c' then "bytes" else "lines") ++ ": '"
      ++ text ++ "'")

/-- The options of tools that print portions. -/
def portionTable : OptionTable :=
  { plain := "qvzf", valued := "nc"
    long := [("lines", 'n'), ("bytes", 'c'), ("quiet", 'q'), ("silent", 'q'), ("verbose", 'v')] }

/-- A count that stands behind a hyphen alone is a number of lines. -/
def withOldCount (args : List String) : List String :=
  match args with
  | a :: rest =>
    match a.toList with
    | '-' :: d :: ds => if d.isDigit then "-n" :: String.ofList (d :: ds) :: rest else args
    | _ => args
  | [] => []

/-- Prints portions of files, each under a title if there are several. -/
def portionTool (c : ToolCall) (mark : Char) (f : Portion → Content → Bytes) : ToolResult :=
  withOptions { c with args := withOldCount c.args } 1 portionTable fun g =>
    match Portion.ofOptions? g mark with
    | .error why => .failing 1 (c.shown ++ ": " ++ why)
    | .ok p =>
      let titled := (1 < g.operands.length && !g.has 'q') || g.has 'v'
      let files := orInput g.operands
      let one (i : Nat) (file : String) (found : Except IoFault Content) : ToolResult :=
        let shown := if file == "-" then "standard input" else file
        let title := (if i == 0 then "" else "\n") ++ "==> " ++ shown ++ " <==\n"
        let title := if titled then ToolResult.printing title else {}
        match found with
        | .ok content => title.andThen (.bytes (f p content))
        | .error fault =>
          (if fault == .isDirectory then title else {}).andThen
            (.failing 1 (quotedRefusal c file fault))
      let r := ToolResult.inTurn ((c.contents files).zipIdx.map fun x => one x.2 x.1.1 x.1.2)
      { r.buffered with left := if readsInput g.operands then some [] else none }

/-- The beginning of a file. -/
def Portion.beginning (p : Portion) (content : Content) : Bytes :=
  if p.bytes then
    if p.inverse then content.written.take (content.written.length - p.count)
    else content.written.take p.count
      ++ List.replicate (min content.hole (p.count - content.written.length)) 0
  else
    let ls := linesOf content.written
    (ls.take (if p.inverse then ls.length - p.count else p.count)).flatten

/-- The end of a file. -/
def Portion.ending (p : Portion) (content : Content) : Bytes :=
  let last {α : Type} (xs : List α) : List α :=
    if p.inverse then xs.drop (p.count - 1) else xs.drop (xs.length - p.count)
  if p.bytes then last content.written else (last (linesOf content.written)).flatten

/-- Prints the beginnings of files. What is left of an input that is a file can still be read. -/
def headTool (c : ToolCall) : ToolResult :=
  let r := portionTool c '-' Portion.beginning
  if c.seekable && r.left.isSome && r.status == 0 then
    { r with left := some (c.input.drop r.output.length) }
  else r

/-- Prints the ends of files. -/
def tailTool (c : ToolCall) : ToolResult := portionTool c '+' Portion.ending

/-! ## Layer C: counts -/

/-- The number of words. -/
def wordCount (bs : Bytes) : Nat :=
  let blank (b : UInt8) : Bool := b == 32 || (9 ≤ b && b ≤ 13)
  (bs.foldl (fun (acc : Nat × Bool) b =>
    if blank b then (acc.1, false) else if acc.2 then acc else (acc.1 + 1, true)) (0, false)).1

/-- The width of a line on a screen, on which tabs reach to every eighth column. -/
def lineWidth (l : Bytes) : Nat :=
  l.foldl (fun n b =>
    if b == 9 then n / 8 * 8 + 8 else if b.toNat < 32 || 126 < b.toNat then n else n + 1) 0

/-- Counts lines, words and bytes. -/
def wcTool (c : ToolCall) : ToolResult :=
  let table : OptionTable :=
    { plain := "lwcmL"
      long := [("lines", 'l'), ("words", 'w'), ("bytes", 'c'), ("chars", 'm'),
        ("max-line-length", 'L')] }
  withOptions c 1 table fun g =>
    let wanted := if g.options.isEmpty then ['l', 'w', 'c']
      else ['l', 'w', 'm', 'c', 'L'].filter g.has
    let counts (bs : Bytes) : List Nat := wanted.map fun k =>
      match k with
      | 'l' => bs.count 10
      | 'w' => wordCount bs
      | 'L' => ((bareLines bs).map lineWidth).foldl max 0
      | _ => bs.length
    let files := orInput g.operands
    let size (file : String) : Option Nat :=
      if file == "-" then (if c.seekable then some c.input.length else none)
      else if (c.content file).isOk then c.files.size? file else some 0
    let total := files.foldl (fun n f => n + (size f).getD 0) 0
    let least := if files.any fun f => (size f).isNone then 7 else 1
    let width := if files.length == 1 && wanted.length == 1 then 1
      else max least (toString total).length
    let line (ns : List Nat) (name : String) : ToolResult :=
      .printing (" ".intercalate (ns.map fun n => padLeft width (toString n))
        ++ (if name.isEmpty then "" else " " ++ name) ++ "\n")
    let one (file : String) (found : Except IoFault Content) : ToolResult × List Nat :=
      match found with
      | .ok content =>
        let ns := counts content.toBytes
        (line ns (if g.operands.isEmpty then "" else file), ns)
      | .error fault =>
        let refused := ToolResult.failing 1 (plainRefusal c file fault)
        if fault == .isDirectory then
          (refused.andThen (line (wanted.map fun _ => 0) file), wanted.map fun _ => 0)
        else (refused, wanted.map fun _ => 0)
    let results := (c.contents files).map fun x => one x.1 x.2
    let sums := (wanted.zipIdx.map fun x =>
      let column := results.map fun r => r.2.getD x.2 0
      if x.1 == 'L' then column.foldl max 0 else column.foldl (· + ·) 0)
    let r := ToolResult.inTurn (results.map (·.1))
    let r := if 1 < files.length then r.andThen (line sums "total") else r
    { r with left := if readsInput g.operands then some [] else none }

/-! ## Layer D: parts of lines -/

/-- The ranges of positions that a list names, from one on; `none` is the end. -/
def ranges? (s : String) : Option (List (Nat × Option Nat)) :=
  (s.toList.splitOn ',').mapM fun item =>
    match item.splitOn '-' with
    | [a] => (decimal? (String.ofList a)).map fun n => (n, some n)
    | [a, b] =>
      if a.isEmpty && b.isEmpty then none
      else
        let first := if a.isEmpty then some 1 else decimal? (String.ofList a)
        match first, b.isEmpty, decimal? (String.ofList b) with
        | some m, true, _ => some (m, none)
        | some m, false, some n => some (m, some n)
        | _, _, _ => none
    | _ => none

/-- Whether a position is in one of some ranges. -/
def inRanges (rs : List (Nat × Option Nat)) (n : Nat) : Bool :=
  rs.any fun r => r.1 ≤ n && r.2.all (n ≤ ·)

/-- Prints parts of lines. -/
def cutTool (c : ToolCall) : ToolResult :=
  let table : OptionTable :=
    { plain := "snC", valued := "bcfdO"
      long := [("bytes", 'b'), ("characters", 'c'), ("fields", 'f'), ("delimiter", 'd'),
        ("only-delimited", 's'), ("complement", 'C'), ("output-delimiter", 'O')] }
  withOptions c 1 table fun g =>
    match g.lastOf? ['b', 'c', 'f'] with
    | none => usage c 1 "you must specify a list of bytes, characters, or fields"
    | some kind =>
      let text := (g.value? kind).getD ""
      let what := if kind == 'f' then "field" else "byte/character"
      match ranges? text with
      | none => usage c 1 (if kind == 'f' then "invalid field value '" ++ text ++ "'"
          else "invalid byte/character position '" ++ text ++ "'")
      | some rs =>
        let delimiter := Bytes.ofText ((g.value? 'd').getD "\t")
        if rs.any fun r => r.1 == 0 || r.2 == some 0 then
          usage c 1 (if kind == 'f' then "fields are numbered from 1"
            else "byte/character positions are numbered from 1")
        else if rs.any fun r => r.2.any (· < r.1) then usage c 1 "invalid decreasing range"
        else if delimiter.length != 1 then usage c 1 "the delimiter must be a single character"
        else if kind != 'f' && g.has 'd' then
          usage c 1 "an input delimiter may be specified only when operating on fields"
        else
          let wanted (n : Nat) : Bool := inRanges rs n != g.has 'C'
          let joint := ((g.value? 'O').map Bytes.ofText).getD
            (if what == "field" then delimiter else [])
          let pick (l : Bytes) : Option Bytes :=
            if kind == 'f' then
              let fs := l.splitOn (delimiter.headD 9)
              if fs.length == 1 then (if g.has 's' then none else some l)
              else some (joint.intercalate
                ((fs.zipIdx.filter fun x => wanted (x.2 + 1)).map (·.1)))
            else some ((l.zipIdx.filter fun x => wanted (x.2 + 1)).map (·.1))
          (overFiles c g.operands 1 (plainRefusal c) fun _ content =>
            .bytes (endedLines ((bareLines content.toBytes).filterMap pick))).buffered

/-- The separators of `paste`, with their escapes. -/
def pasteSeparators : List Char → List Bytes
  | [] => []
  | '\\' :: 'n' :: rest => [10] :: pasteSeparators rest
  | '\\' :: 't' :: rest => [9] :: pasteSeparators rest
  | '\\' :: '0' :: rest => [] :: pasteSeparators rest
  | '\\' :: '\\' :: rest => [92] :: pasteSeparators rest
  | c :: rest => Bytes.ofText (String.singleton c) :: pasteSeparators rest

/-- Texts with separators between them, which are used in turn. -/
def joinInTurn (separators : List Bytes) (parts : List Bytes) : Bytes :=
  parts.zipIdx.flatMap fun x =>
    if x.2 == 0 then x.1
    else separators.getD ((x.2 - 1) % max 1 separators.length) [] ++ x.1

/-- Gives the lines of an input to several readers in turn. -/
def shareLines (readers : Nat) (ls : List Bytes) : List (List Bytes) :=
  (List.range readers).map fun i => (ls.zipIdx.filter fun x => x.2 % readers == i).map (·.1)

/-- Prints the lines of files side by side, or of each file in one line. -/
def pasteTool (c : ToolCall) : ToolResult :=
  let table : OptionTable :=
    { plain := "s", valued := "d", long := [("delimiters", 'd'), ("serial", 's')] }
  withOptions c 1 table fun g =>
    let separators := pasteSeparators ((g.value? 'd').getD "\t").toList
    let files := orInput g.operands
    match files.find? fun f => !(c.content f).isOk with
    | some f =>
      match c.content f with
      | .error fault => .failing 1 (plainRefusal c f fault)
      | .ok _ => {}
    | none =>
      let readers := files.count "-"
      let shares := shareLines readers (bareLines c.input)
      let (columns, _) := files.foldl (fun (acc : List (List Bytes) × Nat) f =>
        if f == "-" && !g.has 's' then (acc.1 ++ [shares.getD acc.2 []], acc.2 + 1)
        else
          match c.content f with
          | .ok content => (acc.1 ++ [bareLines content.toBytes], acc.2)
          | .error _ => acc) (([], 0) : List (List Bytes) × Nat)
      let rows := if g.has 's' then columns
        else (List.range ((columns.map List.length).foldl max 0)).map fun i =>
          columns.map fun col => col.getD i []
      { ToolResult.bytes (endedLines (rows.map (joinInTurn separators))) with
        left := if files.contains "-" then some [] else none }

/-! ## Layer E: neighbours -/

/-- What is compared of a line: what is left behind fields and bytes that do not count. -/
def uniqKey (g : Given) (l : Bytes) : Bytes :=
  let blank (b : UInt8) : Bool := b == 32 || b == 9
  let number (k : Char) : Nat := ((g.value? k).bind decimal?).getD 0
  let skipped := (number 'f').repeat
    (fun l => (l.dropWhile blank).dropWhile fun b => !blank b) l
  let cut := skipped.drop (number 's')
  let cut := if g.has 'w' then cut.take (number 'w') else cut
  if g.has 'i' then cut.map fun b => if 65 ≤ b && b ≤ 90 then b + 32 else b else cut

/-- Lines with the number of neighbours that are equal to each. -/
def runsOf (key : Bytes → Bytes) : List Bytes → List (Bytes × Nat)
  | [] => []
  | l :: rest =>
    match runsOf key rest with
    | (m, n) :: runs => if key l == key m then (l, n + 1) :: runs else (l, 1) :: (m, n) :: runs
    | [] => [(l, 1)]

/-- The lines that have equal neighbours. -/
def repeatedLines : List (Bytes × Nat) → List Bytes → List (Bytes × Nat)
  | [], _ => []
  | (_, n) :: runs, ls =>
    (if 1 < n then (ls.take n).map (·, 1) else []) ++ repeatedLines runs (ls.drop n)

/-- Prints one of several neighbours that are equal. -/
def uniqTool (c : ToolCall) : ToolResult :=
  let table : OptionTable :=
    { plain := "cduiD", valued := "fsw"
      long := [("count", 'c'), ("repeated", 'd'), ("unique", 'u'), ("ignore-case", 'i'),
        ("skip-fields", 'f'), ("skip-chars", 's'), ("check-chars", 'w')] }
  withOptions c 1 table fun g =>
    let r := allBytes c (g.operands.take 1) 1 (plainRefusal c)
    let lines := bareLines r.output
    let runs := runsOf (uniqKey g) lines
    let kept := runs.filter fun x => (!g.has 'd' || 1 < x.2) && (!g.has 'u' || x.2 == 1)
    let kept := if g.has 'D' then repeatedLines runs lines else kept
    let line (x : Bytes × Nat) : Bytes :=
      (if g.has 'c' then ascii (padLeft 7 (toString x.2) ++ " ") else []) ++ x.1
    let out := endedLines (kept.map line)
    match g.operands.drop 1 with
    | [] => r.withOutput out
    | [file] =>
      match c.files.disk.write (c.files.path file) ⟨out, 0⟩ with
      | .ok d => { (r.withOutput []) with disk := some d }
      | .error fault => .failing 1 (plainRefusal c file fault)
    | _ :: extra :: _ => usage c 1 ("extra operand '" ++ extra ++ "'")

end Shell

end CodeAtlas
