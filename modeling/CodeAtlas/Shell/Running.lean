import CodeAtlas.Shell.Builtins
import CodeAtlas.Shell.Expansion
import CodeAtlas.Shell.Reader

/-!
# Parts of a run

What a run consists of, apart from the commands that contain each other: tools, waiting, the
arguments of interpreters, loops, lines of commands, and reading a script while it runs.

## Architecture

- **Layer A**: time;
- **Layer B**: tools;
- **Layer C**: the arguments of programs that start others;
- **Layer D**: lists, loops and pipes;
- **Layer E**: scripts.
-/

namespace CodeAtlas

namespace Shell

/-! ## Layer A: time -/

/-- How long a command of the shell takes, in microseconds. -/
def builtinTime : Nat := 50

/-- How long the start of a program takes, in microseconds. -/
def programTime : Nat := 500

/-- Goes on for ever, until a signal comes. -/
def goOnForEver : Run Flow := do
  match ← spend boundless with
  | some s => pure (.killed s)
  | none => pure .exited

/-- Writes for ever: until the reader of a pipe has ended, or a signal comes. -/
def writeForEver : Run Flow := do
  match (← get).self.streams.get? 1 with
  | some (.sink (.pipe n)) => if 2 < n then pure (.killed 13) else goOnForEver
  | _ => goOnForEver

/-- A time in seconds, minutes, hours or days, in microseconds. -/
def duration? (text : String) : Option Nat := do
  let cs := text.toList
  if text == "inf" || text == "infinity" then some boundless
  else
    let (body, factor) := match cs.getLast? with
      | some 's' => (cs.dropLast, 1)
      | some 'm' => (cs.dropLast, 60)
      | some 'h' => (cs.dropLast, 3600)
      | some 'd' => (cs.dropLast, 86400)
      | _ => (cs, 1)
    let whole := body.takeWhile Char.isDigit
    let rest := body.drop whole.length
    let fraction := if rest.head? == some '.' then (rest.drop 1).takeWhile Char.isDigit else []
    let used := whole.length + (if rest.head? == some '.' then fraction.length + 1 else 0)
    if used != body.length || (whole.isEmpty && fraction.isEmpty) then none
    else
      let parts := valueIn 10 ((fraction ++ List.replicate 6 '0').take 6)
      some ((valueIn 10 whole * 1000000 + parts) * factor)

/-! ## Layer B: tools -/

/-- The fault of an input that is closed. -/
def closedInput : IoFault := ⟨.other, "Bad file descriptor (os error 9)"⟩

/-- Takes what a tool leaves behind. -/
def finishTool (r : ToolResult) : Run Flow := do
  changeWorld fun w => { w with facts := r.facts.getD w.facts }
  match r.disk with
  | some d => changeDisk fun _ => d
  | none => pure ()
  match r.left with
  | some bs => leaveInput bs
  | none => pure ()
  r.writes.forM fun w => writeStream w.1 w.2
  setStatus r.status
  if r.endless then writeForEver else pure .exited

/-- The second in which all runs begin. -/
def firstSecond : Nat := 1700000000

/-- Runs a tool in the process. -/
def useTool (env : Environment) (name shown : String) (args : List String) : Run Flow := do
  let m ← get
  let input := m.self.input?
  let call : ToolCall :=
    { name := name, shown := shown, args := args, env := env, files := m.view
      input := ← pendingInput
      clock := firstSecond + m.self.now / 1000000
      seekable := input.any m.world.files.contains
      inputFault := if input.isNone then some closedInput
        else if input == some folderSource then some .isDirectory else none }
  finishTool call.run

/-- Ends a tool that was called in a wrong way. -/
def misuse (shown why : String) (status : Nat) : Run Flow :=
  finishTool (.failing status ((if why.isEmpty then "" else shown ++ ": " ++ why ++ "\n") ++ "Try '"
    ++ shown ++ " --help' for more information."))

/-- Waits as long as arguments say. -/
def pauseFor (shown : String) (args : List String) : Run Flow := do
  let bad := args.find? fun a => (duration? a).isNone
  match args, bad with
  | [], _ => misuse shown "missing operand" 1
  | _, some a =>
    match a.toList with
    | '-' :: c :: _ => misuse shown ("invalid option -- '" ++ String.singleton c ++ "'") 1
    | _ => misuse shown ("invalid time interval '" ++ a ++ "'") 1
  | _, none =>
    match ← spend ((args.filterMap duration?).foldl (· + ·) 0) with
    | some s => pure (.killed s)
    | none =>
      setStatus 0
      pure .exited

/-- Prints where programs are. -/
def locateAll (env : Environment) (names : List String) : Run Flow := do
  let m ← get
  let found := names.filterMap fun n =>
    match m.world.find env m.self.cwd n with
    | .ok (path, _) => some path.text
    | .error _ => none
  let ok := found.length == names.length && !names.isEmpty
  finishTool { ToolResult.printing (asLines found) with status := if ok then 0 else 1 }

/-! ## Layer C: arguments of programs that start others -/

/-- What the arguments of an interpreter ask for: a text or a file, with the name and the arguments
of the script. -/
structure Session where
  text : Option String := none
  file : Option String := none
  name : String
  args : List String := []

/-- Reads the arguments of an interpreter, and sets its options. -/
def readSession (shown : String) : Nat → Bool → Bool → List String → Trying Session
  | 0, _, _, _ => pure { name := shown }
  | fuel + 1, command, input, args => do
    let operands (rest : List String) : Trying Session :=
      match command, input, rest with
      | true, _, [] => refuse "-c requires an argument"
      | true, _, text :: rest =>
        pure { text := some text, name := rest.headD shown, args := rest.drop 1 }
      | false, true, rest => pure { name := shown, args := rest }
      | false, false, [] => pure { name := shown }
      | false, false, file :: rest => pure { file := some file, name := file, args := rest }
    match args with
    | [] => operands []
    | a :: rest =>
      match a.toList with
      | ['-'] => operands rest
      | ['-', '-'] => operands rest
      | '-' :: cs =>
        let left ← setLetters true (cs.filter fun c => c != 'c' && c != 'l') rest
        readSession shown fuel (command || cs.contains 'c') (input || cs.contains 's') left
      | '+' :: cs => readSession shown fuel command input (← setLetters false cs rest)
      | _ => operands args

/-- Sets variables of an environment as arguments say. The result is what is left of them. -/
def readSettings : Nat → Environment → List String → Environment × List String
  | 0, env, args => (env, args)
  | _ + 1, env, [] => (env, [])
  | fuel + 1, env, a :: rest =>
    let (name, value) := settingOf a
    match a, rest, value with
    | "-i", _, _ => readSettings fuel Table.empty rest
    | "-", _, _ => readSettings fuel Table.empty rest
    | "-u", n :: rest, _ => readSettings fuel (env.erase n) rest
    | "--", _, _ => readSettings fuel env rest
    | _, _, some v => readSettings fuel (env.insert name v) rest
    | _, _, none => (env, a :: rest)

/-- The limit of a run and what is run. -/
structure Limit where
  signal : Nat := 15
  time : Nat := 0
  /-- Whether the result is that of the command, even if it was stopped. -/
  keepsStatus : Bool := false
  /-- Whether it is told that the command is stopped. -/
  verbose : Bool := false
  command : List String := []

/-- Reads a limit from arguments; there is a message if they are wrong. -/
def readLimit (args : List String) : Except String Limit := do
  let table : OptionTable :=
    { plain := "+%v", valued := "sk", anywhere := false
      long := [("foreground", '+'), ("preserve-status", '%'), ("verbose", 'v'), ("signal", 's'),
        ("kill-after", 'k')] }
  let g ← table.read args {}
  let name := (g.value? 's').getD "TERM"
  let bare := if name.startsWith "SIG" then String.ofList (name.toList.drop 3) else name
  match signalOf? bare, g.operands with
  | none, _ => throw ("'" ++ name ++ "': invalid signal")
  | some s, time :: command :: rest =>
    match duration? time with
    | some t =>
      pure { signal := s, time := t, keepsStatus := g.has '%', verbose := g.has 'v'
             command := command :: rest }
    | none => throw ("invalid time interval '" ++ time ++ "'")
  | some _, _ => throw ""

/-- How arguments are taken from the input. -/
structure ArgSource where
  /-- How many are given to one command. -/
  most : Option Nat := none
  /-- The text that is replaced by a line. -/
  placeholder : Option String := none
  /-- The byte that ends an argument, if blanks and quotes mean nothing. -/
  ending : Option UInt8 := none
  /-- Whether nothing is run without arguments. -/
  needsArgs : Bool := false
  trace : Bool := false
  command : List String := []

/-- Reads how arguments are taken from the input. -/
def readArgSource : Nat → ArgSource → List String → ArgSource
  | 0, s, args => { s with command := args }
  | fuel + 1, s, args =>
    match args with
    | "-n" :: n :: rest => readArgSource fuel { s with most := decimal? n } rest
    | "-I" :: t :: rest => readArgSource fuel { s with placeholder := some t } rest
    | "-L" :: n :: rest => readArgSource fuel { s with most := decimal? n } rest
    | "-d" :: t :: rest =>
      let bs := (unescape (t.length + 1) t.toList).1
      readArgSource fuel { s with ending := bs.head? } rest
    | "-P" :: _ :: rest => readArgSource fuel s rest
    | "-0" :: rest => readArgSource fuel { s with ending := some 0 } rest
    | "-r" :: rest => readArgSource fuel { s with needsArgs := true } rest
    | "-t" :: rest => readArgSource fuel { s with trace := true } rest
    | "--" :: rest => { s with command := rest }
    | a :: rest =>
      match a.toList with
      | '-' :: 'n' :: cs =>
        readArgSource fuel { s with most := decimal? (String.ofList cs) } rest
      | '-' :: 'I' :: cs =>
        readArgSource fuel { s with placeholder := some (String.ofList cs) } rest
      | '-' :: 'd' :: cs =>
        readArgSource fuel { s with ending := (unescape (cs.length + 1) cs).1.head? } rest
      | '-' :: 'P' :: _ => readArgSource fuel s rest
      | _ => { s with command := a :: rest }
    | [] => s

/-- Words between blanks; quotes and backslashes keep blanks. `word` is the present one. -/
def quotedWords : Nat → Option UInt8 → Option Bytes → Bytes → List Bytes
  | 0, _, word, _ => word.toList.map List.reverse
  | _ + 1, _, word, [] => word.toList.map List.reverse
  | fuel + 1, some q, word, b :: rest =>
    if b == q then quotedWords fuel none (some (word.getD [])) rest
    else quotedWords fuel (some q) (some (b :: word.getD [])) rest
  | fuel + 1, none, word, b :: rest =>
    if b == 32 || b == 9 || b == 10 then
      word.toList.map List.reverse ++ quotedWords fuel none none rest
    else if b == 34 || b == 39 then quotedWords fuel (some b) (some (word.getD [])) rest
    else if b == 92 then
      match rest with
      | c :: more => quotedWords fuel none (some (c :: word.getD [])) more
      | [] => word.toList.map List.reverse
    else quotedWords fuel none (some (b :: word.getD [])) rest

/-- Lists of at most so many items. -/
def batches {α : Type} (size : Nat) : Nat → List α → List (List α)
  | 0, _ => []
  | _ + 1, [] => []
  | fuel + 1, xs => xs.take size :: batches size fuel (xs.drop size)

/-- The commands that are run for the input. -/
def ArgSource.commands (s : ArgSource) (input : Bytes) : List (List String) :=
  let command := if s.command.isEmpty then ["echo"] else s.command
  let text (bs : Bytes) : String := Bytes.lossyText bs
  let words := match s.ending with
    | some b =>
      let parts := input.splitOn b
      (if parts.getLast? == some [] then parts.dropLast else parts).map text
    | none => (quotedWords (input.length + 1) none none input).map text
  match s.placeholder with
  | some mark =>
    let lines := if s.ending.isSome then words
      else (bareLines input).map fun l => text (l.dropWhile fun b => b == 32 || b == 9)
    (lines.filter fun l => !l.isEmpty).map fun l => command.map fun a => a.replace mark l
  | none =>
    match s.most with
    | some n => (batches (max n 1) (words.length + 1) words).map (command ++ ·)
    | none => if words.isEmpty && s.needsArgs then [] else [command ++ words]

/-! ## Layer D: lists, loops, pipes -/

/-- One level of a loop is left. -/
def Flow.leaveLoop : Flow → Flow
  | .broke n => if 1 < n then .broke (n - 1) else .next
  | .continued n => if 1 < n then .continued (n - 1) else .next
  | f => f

/-- Whether a loop goes round again. -/
def Flow.goesRound : Flow → Bool
  | .next => true
  | .continued n => n ≤ 1
  | _ => false

/-- Runs a body whose result is asked for. -/
def askedFor (body : Run Flow) : Run Flow := do
  let before := (← get).self.tested
  change fun p => { p with tested := true }
  let flow ← body
  change fun p => { p with tested := before }
  pure flow

/-- What may be refused; there is no result then. -/
def attempt {α : Type} (body : Trying α) : Run (Option α) := do
  match ← body.run with
  | .ok a => pure (some a)
  | .error () => pure none

/-- What may be refused; a refusal ends the script. -/
def orExit (body : Trying Flow) : Run Flow := do
  pure ((← attempt body).getD .exited)

/-- Carries out commands one after another. -/
def inOrder (run : Bool → Command → Run Flow) (last : Bool) : List Command → Run Flow
  | [] => pure .next
  | [c] => run last c
  | c :: rest => do
    match ← run false c with
    | .next => inOrder run last rest
    | flow => pure flow

/-- Carries out commands of which each reads what the one before prints. All begin at once. -/
def inLine (run : Command → Run Flow) : List Command → Run (List (Option Nat))
  | [] => pure []
  | [c] => do pure [← inChild (run c)]
  | c :: rest => do
    let began := (← get).self
    let (killer, bs) ← collected (inChild (run c))
    let ended := (← get).self.now
    let source ← openSource bs
    change fun p => { p with now := began.now, streams := p.streams.insert 0 (.source source) }
    -- the next one begins at the same time, and the line ends with its last command
    let killers ← inLine run rest
    change fun p => { p with now := max p.now ended, streams := began.streams }
    pure (killer :: killers)

/-- How often a loop goes round before it counts as endless. -/
def mostRounds : Nat := 1000000

/-- How often a loop that writes to a pipe goes round before it counts as endless. -/
def mostPipedRounds : Nat := 20000

/-- Goes round while a round does not end the loop. Each round is given the result of the one
before. -/
def goRound (round : Nat → Run (Option Flow)) : Nat → Nat → Run Flow
  | 0, _ => writeForEver
  | n + 1, status => do
    match ← round status with
    | none => goRound round n (← get).self.status
    | some flow => pure flow

/-- Runs a body inside of one more loop. -/
def inLoop (body : Run Flow) : Run Flow := do
  change fun p => { p with loops := p.loops + 1 }
  let flow ← body
  change fun p => { p with loops := p.loops - 1 }
  pure flow

/-- Repeats a body while its condition has the wanted result. -/
def repeatWhile (wanted : Bool) (condition body : Run Flow) : Run Flow := do
  let piped : Bool := match (← get).self.streams.get? 1 with
    | some (.sink (.pipe n)) => 2 < n
    | _ => false
  let ended (flow : Flow) : Option Flow := if flow.goesRound then none else some flow.leaveLoop
  let round (status : Nat) : Run (Option Flow) := do
    match ← askedFor condition with
    | .next =>
      if ((← get).self.status == 0) != wanted then
        -- the status of the condition is no result: the loop has that of its last round
        setStatus status
        pure (some .next)
      else do pure (ended (← body))
    | flow => pure (ended flow)
  inLoop (goRound round (if piped then mostPipedRounds else mostRounds) 0)

/-- Carries out a body for each of some values of a variable. -/
def forEach (name : String) (body : Run Flow) : List String → Trying Flow
  | [] => pure .next
  | value :: rest => do
    assign name value
    let flow ← (body : Run Flow)
    if flow.goesRound then forEach name body rest else pure flow.leaveLoop

/-! ## Layer E: scripts -/

/-- Reads a script and carries out one command after another. -/
def runSource (run : Bool → Command → Run Flow) (last : Bool) : Nat → Source → Run Flow
  | 0, _ => pure .next
  | n + 1, s => do
    match readCommand { s with aliases := (← get).self.aliases.entries } with
    | .error fault =>
      change fun p => { p with line := fault.line }
      warn ("Syntax error: " ++ fault.message)
      setStatus 2
      pure .exited
    | .ok (none, _) => pure .next
    | .ok (some c, s) =>
      if (← get).self.has 'n' then runSource run last n s
      else
        match ← run (last && s.rest.isEmpty) c with
        | .next => runSource run last n s
        | flow => pure flow

/-- Carries out the text of a script. -/
def runScript (run : Bool → Command → Run Flow) (last : Bool) (text : String) : Run Flow := do
  let p := (← get).self
  let flow ← runSource run (last && !text.endsWith "\n") (text.length + 1) { rest := text.toList }
  change fun q => { q with line := p.line }
  pure flow

/-- The variables that an interpreter begins with. -/
def firstVariables (env : Environment) (cwd : Path) : Table String Variable :=
  let inherited := (env.entries.filter fun e => isName e.1).map fun e =>
    (e.1, (⟨some e.2, true, false⟩ : Variable))
  let own : List (String × Variable) :=
    [("IFS", ⟨some " \t\n", false, false⟩), ("OPTIND", ⟨some "1", false, false⟩),
     ("PS1", ⟨some "# ", false, false⟩), ("PS2", ⟨some "> ", false, false⟩),
     ("PS4", ⟨some "+ ", false, false⟩), ("PWD", ⟨some cwd.text, true, false⟩)]
  own.foldl (fun t e => if e.1.startsWith "PS" && t.contains e.1 then t else t.insert e.1 e.2)
    (Table.ofList inherited)

end Shell

end CodeAtlas
