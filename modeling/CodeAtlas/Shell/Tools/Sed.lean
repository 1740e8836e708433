import CodeAtlas.Shell.Tools.Files
import CodeAtlas.Shell.Tools.Sed.Script

/-!
# Editing lines

The commands of a script are carried out for one line after another. What they leave is printed
behind the last command.

## Architecture

- **Layer A**: lines that are still to come, and the state of a run;
- **Layer B**: output;
- **Layer C**: replacing;
- **Layer D**: which lines a command is meant for;
- **Layer E**: commands and cycles;
- **Layer F**: the tool.
-/

namespace CodeAtlas

namespace Shell

/-! ## Layer A: state -/

/-- A line of a file. -/
structure InputLine where
  text : Bytes
  /-- Whether it has an end. -/
  ended : Bool
  file : String
  deriving Repr, DecidableEq, Inhabited

/-- The lines of a file. -/
def inputLines (file : String) (separator : UInt8) (bs : Bytes) : List InputLine :=
  let parts := bs.splitOn separator
  let last := parts.getLastD []
  (parts.dropLast.map fun l => ⟨l, true, file⟩)
    ++ if last.isEmpty then [] else [⟨last, false, file⟩]

/-- Whether a range of lines has begun. -/
inductive RangeState where
  | outside
  /-- Inside, up to a line if it is known. -/
  | inside (last : Option Nat)
  deriving Repr, DecidableEq, Inhabited

/-- What is written behind a line. -/
inductive Trailer where
  | text (bs : Bytes)
  | file (name : String)
  deriving Repr, DecidableEq, Inhabited

/-- How a run goes on. -/
inductive EditFlow where
  /-- With the next command. -/
  | next
  /-- With a command. -/
  | goto (i : Nat)
  /-- With the next line; what is left of this one may be printed. -/
  | nextLine (print : Bool)
  /-- With what is left of this line. -/
  | again
  | stop (print : Bool)
  deriving Repr, DecidableEq, Inhabited

/-- **The state of a run.** -/
structure EditState where
  line : InputLine := default
  /-- The line that was put aside. -/
  held : InputLine := ⟨[], true, ""⟩
  rest : List InputLine := []
  number : Nat := 0
  replaced : Bool := false
  /-- The expression that was used last. -/
  used : Option Regex := none
  ranges : List RangeState := []
  trailers : List Trailer := []
  out : Bytes := []
  /-- Whether the end of a line is still missing in the output. -/
  owesEnd : Bool := false
  /-- What was written to files. -/
  files : List (String × Bytes) := []
  /-- What is left of files that are read line by line. -/
  opened : List (String × Bytes) := []
  /-- What was written to errors. -/
  errors : Bytes := []
  status : Nat := 0

instance : Inhabited EditState := ⟨{}⟩

/-- How a script is carried out. -/
structure EditMode where
  commands : Array EditCommand
  quiet : Bool
  separator : UInt8
  /-- The content of a file. -/
  content : String → Option Bytes

/-- Carrying out a script. -/
abbrev Editing := StateM EditState

/-! ## Layer B: output -/

/-- Writes bytes, behind the end of a line that is missing. -/
def emit (m : EditMode) (bs : Bytes) : Editing Unit :=
  modify fun s => { s with
    out := s.out ++ (if s.owesEnd then [m.separator] else []) ++ bs, owesEnd := false }

/-- Writes a text as a line. The last line of the input may have no end. -/
def emitLine (m : EditMode) (bs : Bytes) : Editing Unit := do
  emit m bs
  if (← get).line.ended then modify fun s => { s with out := s.out ++ [m.separator] }
  else modify fun s => { s with owesEnd := true }

/-- Writes to a file. -/
def emitTo (m : EditMode) (file : String) (bs : Bytes) : Editing Unit := do
  if file == "/dev/stdout" then emit m (bs ++ [m.separator])
  else if file == "/dev/stderr" then
    modify fun s => { s with errors := s.errors ++ bs ++ [m.separator] }
  else modify fun s => { s with files := s.files ++ [(file, bs ++ [m.separator])] }

/-- Writes what stands behind a line. -/
def emitTrailers (m : EditMode) : Editing Unit := do
  let ts := (← get).trailers
  modify fun s => { s with trailers := [] }
  ts.forM fun t =>
    match t with
    | .text bs => emit m bs
    | .file name =>
      match m.content name with
      | some bs => if bs.isEmpty then pure () else emit m bs
      | none => pure ()

/-- A byte as it is shown. -/
def shownByte (b : UInt8) : List Char :=
  match b with
  | 92 => ['\\', '\\']
  | 7 => ['\\', 'a']
  | 8 => ['\\', 'b']
  | 12 => ['\\', 'f']
  | 10 => ['\\', 'n']
  | 13 => ['\\', 'r']
  | 9 => ['\\', 't']
  | 11 => ['\\', 'v']
  | _ =>
    if 32 ≤ b && b < 127 then [Char.ofNat b.toNat]
    else
      let ds := Nat.toDigits 8 b.toNat
      '\\' :: (List.replicate (3 - ds.length) '0' ++ ds)

/-- Breaks shown bytes into lines. -/
def wrapShown (width : Nat) : Nat → List (List Char) → List Char
  | _, [] => []
  | column, c :: rest =>
    if 1 < width && width - 1 < column + c.length then
      '\\' :: '\n' :: c ++ wrapShown width c.length rest
    else c ++ wrapShown width (column + c.length) rest

/-! ## Layer C: replacing -/

/-- Letters in upper case. -/
def upperBytes (bs : Bytes) : Bytes := bs.map fun b => if 97 ≤ b && b ≤ 122 then b - 32 else b

/-- Letters in lower case. -/
def lowerBytes (bs : Bytes) : Bytes := bs.map fun b => if 65 ≤ b && b ≤ 90 then b + 32 else b

/-- How the letters that come next are changed: all, and the first. -/
structure CaseState where
  all : CaseChange := .none
  first : CaseChange := .none

/-- Changes letters. -/
def CaseState.apply (c : CaseState) (bs : Bytes) : Bytes × CaseState :=
  let changed := match c.all with
    | .upper => upperBytes bs
    | .lower => lowerBytes bs
    | _ => bs
  match changed, c.first with
  | [], _ => ([], c)
  | b :: rest, .upperNext => (upperBytes [b] ++ rest, { c with first := .none })
  | b :: rest, .lowerNext => (lowerBytes [b] ++ rest, { c with first := .none })
  | bs, _ => (bs, c)

/-- The bytes of a replacement. -/
def replacementBytes (t : Array UInt8) (start finish : Nat) (taken : Regex.Taken) :
    CaseState → List ReplacementPart → Bytes
  | _, [] => []
  | _, .change .none :: rest => replacementBytes t start finish taken {} rest
  | c, .change .upperNext :: rest =>
    replacementBytes t start finish taken { c with first := .upperNext } rest
  | c, .change .lowerNext :: rest =>
    replacementBytes t start finish taken { c with first := .lowerNext } rest
  | c, .change all :: rest =>
    replacementBytes t start finish taken { c with all := all } rest
  | c, .text bs :: rest =>
    let (bs, c) := c.apply bs
    bs ++ replacementBytes t start finish taken c rest
  | c, .group n :: rest =>
    let (a, b) := if n == 0 then (start, finish) else (Regex.taken? taken n).getD (0, 0)
    let (bs, c) := c.apply (t.extract a b).toList
    bs ++ replacementBytes t start finish taken c rest

/-- Replaces matches from a place on. `n` is the number of the next match, `behind` the end of the
last one, at which no empty match counts. -/
def replaceFrom (s : Substitution) (r : Regex) (t : Array UInt8) :
    Nat → Nat → Nat → Option Nat → Bytes × Bool
  | 0, i, _, _ => ((t.extract i t.size).toList, false)
  | fuel + 1, i, n, behind =>
    match (if i ≤ t.size then r.search t i else none) with
    | none => ((t.extract i t.size).toList, false)
    | some (a, b, taken) =>
      let before := (t.extract i a).toList
      let step := (t.extract a (a + 1)).toList
      if a == b && behind == some a then
        let (rest, done) := if a < t.size then replaceFrom s r t fuel (a + 1) n none
          else ([], false)
        (before ++ step ++ rest, done)
      else if n < s.first then
        let (rest, done) := if a == b then
            if a < t.size then replaceFrom s r t fuel (a + 1) (n + 1) none else ([], false)
          else replaceFrom s r t fuel b (n + 1) (some b)
        (before ++ (if a == b then step else (t.extract a b).toList) ++ rest, done)
      else
        let new := replacementBytes t a b taken {} s.replacement
        if !s.all then (before ++ new ++ (t.extract b t.size).toList, true)
        else
          let (rest, _) := if a == b then
              if a < t.size then replaceFrom s r t fuel (a + 1) (n + 1) none else ([], false)
            else replaceFrom s r t fuel b (n + 1) (some b)
          (before ++ new ++ (if a == b then step else []) ++ rest, true)

/-- The expression that is meant. -/
def meant (r : Option Regex) : Editing (Option Regex) := do
  match r with
  | some r =>
    modify fun s => { s with used := some r }
    pure (some r)
  | none => pure (← get).used

/-- Carries out a replacement. -/
def substitute (m : EditMode) (s : Substitution) : Editing Unit := do
  match ← meant s.wanted with
  | none => pure ()
  | some r =>
    let t := (← get).line.text.toArray
    let (bs, done) := replaceFrom s r t (2 * t.size + 4) 0 1 none
    if done then
      modify fun st => { st with line := { st.line with text := bs }, replaced := true }
      if s.print then emitLine m bs
      match s.file with
      | some file => emitTo m file bs
      | none => pure ()

/-! ## Layer D: addresses -/

/-- Whether the present line is the last. -/
def atLast : Editing Bool := do pure (← get).rest.isEmpty

/-- Whether an expression matches the present line. -/
def matchesLine (r : Option Regex) : Editing Bool := do
  match ← meant r with
  | some r => pure (r.search (← get).line.text.toArray 0).isSome
  | none => pure false

/-- Whether an address is the present line. -/
def isAt (a : LineAddress) : Editing Bool := do
  let n := (← get).number
  match a with
  | .number k => pure (n == k)
  | .last => atLast
  | .every first step => pure (first ≤ n && (n - first) % step == 0)
  | .fits r => matchesLine r

/-- The state of the range of a command. -/
def rangeAt (i : Nat) : Editing RangeState := do pure ((← get).ranges.getD i .outside)

/-- Sets the state of the range of a command. -/
def setRange (i : Nat) (r : RangeState) : Editing Unit :=
  modify fun s => { s with ranges := s.ranges.set i r }

/-- Begins a range at the present line, unless it has only this line. -/
def beginRange (i : Nat) (e : RangeEnd) : Editing Unit := do
  let n := (← get).number
  let last := match e with
    | .number k => some k
    | .further k => some (n + k)
    | .multiple k => some (if k == 0 then n else (n + k - 1) / k * k)
    | _ => none
  match last with
  | some k => if n < k then setRange i (.inside (some k))
  | none =>
    match e with
    | .last => if !(← atLast) then setRange i (.inside none)
    | _ => setRange i (.inside none)

/-- Whether a command is meant for the present line. -/
def applies (i : Nat) (c : EditCommand) : Editing Bool := do
  let within : Editing Bool := do
    match c.start, c.finish with
    | none, _ => pure true
    | some a, none => isAt a
    | some a, some e =>
      match ← rangeAt i with
      | .inside (some k) =>
        let n := (← get).number
        if k ≤ n then setRange i .outside
        pure (n ≤ k)
      | .inside none =>
        let isEnd ← match e with
          | .fits r => matchesLine r
          | _ => atLast
        if isEnd then setRange i .outside
        pure true
      | .outside =>
        if ← isAt a then
          beginRange i e
          pure true
        else pure false
  pure ((← within) != c.negated)

/-! ## Layer E: commands -/

/-- Goes to the next line of the input. -/
def advance : Editing Bool := do
  let s ← get
  match s.rest with
  | [] => pure false
  | l :: rest =>
    set { s with line := l, rest := rest, number := s.number + 1 }
    pure true

/-- Changes the present line. -/
def setLine (bs : Bytes) : Editing Unit :=
  modify fun s => { s with line := { s.line with text := bs } }

/-- Carries out a command of one letter. -/
def plainEdit (m : EditMode) (letter : Char) : Editing EditFlow := do
  let s ← get
  let text := s.line.text
  match letter with
  | '=' =>
    emit m (Bytes.ofText (toString s.number ++ "\n"))
    pure .next
  | 'd' => pure (.nextLine false)
  | 'D' =>
    if text.contains 10 then
      setLine ((text.dropWhile (· != 10)).drop 1)
      pure .again
    else pure (.nextLine false)
  | 'F' =>
    emit m (Bytes.ofText (s.line.file ++ "\n"))
    pure .next
  | 'g' =>
    set { s with line := s.held }
    pure .next
  | 'G' =>
    set { s with line := { s.held with text := text ++ [m.separator] ++ s.held.text } }
    pure .next
  | 'h' =>
    set { s with held := s.line }
    pure .next
  | 'H' =>
    set { s with held := { s.line with text := s.held.text ++ [m.separator] ++ text } }
    pure .next
  | 'x' =>
    set { s with held := s.line, line := s.held }
    pure .next
  | 'n' =>
    if s.rest.isEmpty then pure (.stop true)
    else
      if !m.quiet then emitLine m text
      emitTrailers m
      let _ ← advance
      pure .next
  | 'N' =>
    if s.rest.isEmpty then pure (.stop true)
    else
      emitTrailers m
      let _ ← advance
      setLine (text ++ [m.separator] ++ (← get).line.text)
      pure .next
  | 'p' =>
    emitLine m text
    pure .next
  | 'P' =>
    emit m (text.takeWhile (· != 10) ++ [m.separator])
    pure .next
  | _ =>
    setLine []
    pure .next

/-- Carries out a command. -/
def edit (m : EditMode) (i : Nat) (c : EditCommand) : Editing EditFlow := do
  match c.action with
  | .block _ => pure .next
  | .blockEnd => pure .next
  | .label _ => pure .next
  | .append text =>
    modify fun s => { s with trailers := s.trailers ++ [.text text] }
    pure .next
  | .insert text =>
    emit m text
    pure .next
  | .change text =>
    if c.negated || (← rangeAt i) == .outside then emit m text
    pure (.nextLine false)
  | .jump kind label =>
    let replaced := (← get).replaced
    let goes := match kind with
      | .always => true
      | .replaced => replaced
      | .notReplaced => !replaced
    if kind != .always then modify fun s => { s with replaced := false }
    if !goes then pure .next
    else
      match m.commands.findIdx? fun d =>
          match d.action with
          | .label name => name == label && !label.isEmpty
          | _ => false with
      | some j => pure (.goto j)
      | none => pure (.nextLine true)
  | .plain letter => plainEdit m letter
  | .quit print status =>
    modify fun s => { s with status := status }
    pure (.stop print)
  | .list width =>
    let shown := (← get).line.text.map shownByte
    emit m (bytesOf (wrapShown (width.getD 70) 0 shown ++ ['$', '\n']))
    pure .next
  | .readFile file =>
    modify fun s => { s with trailers := s.trailers ++ [.file file] }
    pure .next
  | .readLine file =>
    let s ← get
    let content := (s.opened.lookup file <|> m.content file).getD []
    let line := content.take ((content.takeWhile (· != 10)).length + 1)
    if !line.isEmpty then
      set { s with
        opened := (file, content.drop line.length) :: s.opened
        trailers := s.trailers ++ [Trailer.text line] }
    pure .next
  | .writeFile file firstLine =>
    let text := (← get).line.text
    emitTo m file (if firstLine then text.takeWhile (· != 10) else text)
    pure .next
  | .substitute s =>
    substitute m s
    pure .next
  | .exchange pairs =>
    setLine ((← get).line.text.map fun b => (pairs.lookup b).getD b)
    pure .next

/-- Carries out commands from a number on. -/
def editFrom (m : EditMode) : Nat → Nat → Editing EditFlow
  | 0, _ => pure (.nextLine true)
  | fuel + 1, i => do
    match m.commands[i]? with
    | none => pure (.nextLine true)
    | some c =>
      if ← applies i c then
        match ← edit m i c with
        | .next => editFrom m fuel (i + 1)
        | .goto j => editFrom m fuel j
        | flow => pure flow
      else
        match c.action with
        | .block behind => editFrom m fuel behind
        | _ => editFrom m fuel (i + 1)

/-- How many commands are carried out for one line. -/
def mostEdits : Nat := 100000

/-- Carries out a script for the lines that are left; `again` tells that the present line is not
done. -/
def editLines (m : EditMode) : Nat → Bool → Editing Unit
  | 0, _ => pure ()
  | fuel + 1, again => do
    let going ← if again then pure true else advance
    if going then
      if !again then modify fun s => { s with replaced := false }
      let flow ← editFrom m mostEdits 0
      let printed := match flow with
        | .nextLine print => print
        | .stop print => print
        | _ => false
      if printed && !m.quiet then emitLine m (← get).line.text
      emitTrailers m
      match flow with
      | .stop _ => pure ()
      | .again => editLines m fuel true
      | _ => editLines m fuel false

/-- Carries out a script for lines. -/
def EditMode.run (m : EditMode) (s : EditState) (lines : List InputLine) : EditState :=
  let ranges := m.commands.toList.map fun c =>
    if c.fromZero then RangeState.inside none else .outside
  ((editLines m (1000 * lines.length + 1000) false).run
    { s with rest := lines, ranges := ranges, number := 0 }).2

/-! ## Layer F: the tool -/

/-- The files that a script writes to. -/
def writtenFiles (commands : List EditCommand) : List String :=
  (commands.filterMap fun c =>
    match c.action with
    | .writeFile file _ => some file
    | .substitute s => s.file
    | _ => none).filter fun f => f != "/dev/stdout" && f != "/dev/stderr"

/-- Puts what was written into files. -/
def storeFiles (c : ToolCall) (files : List String) (written : List (String × Bytes)) :
    ToolResult :=
  oneByOne c files fun c file =>
    let bs := (written.filter (·.1 == file)).flatMap (·.2)
    match c.files.disk.write (c.files.path file) ⟨bs, 0⟩ with
    | .ok d => { disk := some d }
    | .error fault =>
      .failing 4 (c.shown ++ ": couldn't open file " ++ file ++ ": " ++ reason fault)

/-- Edits files where they are. -/
def editInPlace (c : ToolCall) (m : EditMode) (ending : String) (files : List String) :
    ToolResult :=
  oneByOne c files fun c file =>
    let path := c.files.path file
    match c.content file with
    | .error fault =>
      if fault == .isDirectory then
        .failing 4 (c.shown ++ ": couldn't edit " ++ file ++ ": not a regular file")
      else .failing 2 (c.shown ++ ": can't read " ++ file ++ ": " ++ reason fault)
    | .ok content =>
      let s := m.run {} (inputLines file m.separator content.toBytes)
      let kept := if ending.isEmpty then c.files.disk
        else
          match c.files.disk.write ((c.files.path (file ++ ending))) content with
          | .ok d => d
          | .error _ => c.files.disk
      match kept.write path ⟨s.out, 0⟩ with
      | .ok d => { disk := some d, status := s.status }
      | .error fault => .failing 4 (c.shown ++ ": couldn't edit " ++ file ++ ": " ++ reason fault)

/-- The arguments with the ending of kept files written as a long option. -/
def withPlaceOption (args : List String) : List String :=
  args.map fun a =>
    if a.startsWith "-i" then "--in-place=" ++ String.ofList (a.toList.drop 2)
    else if a == "-ni" || a == "-Ei" || a == "-ri" then
      "--in-place=" ++ ""
    else if a == "--in-place" then "--in-place=" else a

/-- The letters that stand before the letter for editing in place. -/
def beforePlaceOption (args : List String) : List String :=
  args.filterMap fun a =>
    if a == "-ni" then some "-n" else if a == "-Ei" || a == "-ri" then some "-E" else none

/-- **Edits the lines of files.** -/
def sedTool (c : ToolCall) : ToolResult :=
  let table : OptionTable :=
    { plain := "nErsuz", valued := "efIl"
      long := [("quiet", 'n'), ("silent", 'n'), ("expression", 'e'), ("file", 'f'),
        ("regexp-extended", 'E'), ("in-place", 'I'), ("separate", 's'), ("unbuffered", 'u'),
        ("null-data", 'z'), ("line-length", 'l')] }
  let args := beforePlaceOption c.args ++ withPlaceOption c.args
  match table.read args {} with
  | .error why => .failing 1 (c.shown ++ ": " ++ why)
  | .ok g =>
    let parts : List (Except String String) := g.options.filterMap fun o =>
      if o.1 == 'e' then some (.ok o.2)
      else if o.1 == 'f' then
        some (match c.content o.2 with
          | .ok content =>
            let text := Bytes.lossyText content.toBytes
            .ok (if text.endsWith "\n" then String.ofList (text.toList.dropLast) else text)
          | .error fault => .error (c.shown ++ ": couldn't open file " ++ o.2 ++ ": "
              ++ reason fault))
      else none
    let explicit := g.has 'e' || g.has 'f'
    let operands := if explicit then g.operands else g.operands.drop 1
    let parts := if explicit then parts else g.operands.take 1 |>.map .ok
    match parts, parts.mapM id with
    | [], _ => .failing 1 ("Usage: " ++ c.shown
        ++ " [OPTION]... \x7bscript-only-if-no-other-script\x7d [input-file]...")
    | _, .error why => .failing 4 why
    | _, .ok texts =>
      let text := "\n".intercalate texts
      match readEdits (g.has 'E' || g.has 'r') text with
      | .error fault =>
        .failing 1 (c.shown ++ ": -e expression #1, char " ++ toString fault.read ++ ": "
          ++ fault.why)
      | .ok commands =>
        match lostLabel? commands with
        | some name =>
          .failing 4 (c.shown ++ ": can't find label for jump to \x60" ++ name ++ "'")
        | none =>
          let content (file : String) : Option Bytes :=
            match c.content file with
            | .ok content => some content.toBytes
            | .error _ => none
          let m : EditMode :=
            { commands := commands.toArray
              quiet := g.has 'n' || text == "#n" || text.startsWith "#n\n"
              separator := if g.has 'z' then 0 else 10, content := content }
          match g.value? 'I' with
          | some ending => editInPlace c m ending operands
          | none =>
            let read := c.contents (orInput operands)
            let faults := ToolResult.inTurn (read.filterMap fun f =>
              match f.2 with
              | .ok _ => none
              | .error fault =>
                let what := if fault == .isDirectory then "read error on " else "can't read "
                some (.failing 2 (c.shown ++ ": " ++ what ++ f.1 ++ ": " ++ reason fault)))
            let groups := read.filterMap fun f =>
              match f.2 with
              | .ok content => some (inputLines f.1 m.separator content.toBytes)
              | .error _ => none
            let s := if g.has 's' then groups.foldl (fun s ls => m.run s ls) {}
              else m.run {} groups.flatten
            let written := writtenFiles commands
            let r := faults.andThen
              { writes := [(1, s.out), (2, s.errors)], status := s.status }
            let r := r.andThen (storeFiles c written s.files)
            { r with left := if readsInput operands then some [] else none }

end Shell

end CodeAtlas
