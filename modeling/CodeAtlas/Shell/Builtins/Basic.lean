import CodeAtlas.Shell.Condition
import CodeAtlas.Shell.Format
import CodeAtlas.Shell.Program
import CodeAtlas.Shell.Variables

/-!
# Commands of the shell that print and read

How the arguments of commands of the shell are taken apart, and those commands that print, decide
and read.

## Architecture

- **Layer A**: arguments;
- **Layer B**: printing and deciding;
- **Layer C**: reading lines.
-/

namespace CodeAtlas

namespace Shell

/-- What a command of the shell does with its arguments. -/
abbrev Builtin := List String → Trying Flow

/-- A command behind which a script goes on. -/
def plainly (body : List String → Trying Unit) : Builtin := fun args => do
  body args
  pure .next

/-! ## Layer A: arguments -/

/-- Options and what is left behind them. -/
abbrev OptionsAndRest := List (Char × String) × List String

/-- Takes letters off one argument. A letter with a value takes what is left, or the next
argument. -/
def takeLetters (plain valued : List Char) (next : Option String) :
    List Char → List (Char × String) → Trying (List (Char × String) × Bool)
  | [], found => pure (found, false)
  | c :: rest, found => do
    if plain.contains c then takeLetters plain valued next rest (found ++ [(c, "")])
    else if valued.contains c then
      if !rest.isEmpty then pure (found ++ [(c, String.ofList rest)], false)
      else
        match next with
        | some v => pure (found ++ [(c, v)], true)
        | none => refuse ("No arg for -" ++ String.singleton c ++ " option")
    else refuse ("Illegal option -" ++ String.singleton c)

/-- Takes options off the front of arguments. -/
def takeOptions (plain valued : String) :
    Nat → List String → List (Char × String) → Trying OptionsAndRest
  | 0, args, found => pure (found, args)
  | _ + 1, [], found => pure (found, [])
  | fuel + 1, a :: rest, found => do
    if a == "--" then pure (found, rest)
    else if !a.startsWith "-" || a == "-" then pure (found, a :: rest)
    else
      let (found, taken) ← takeLetters plain.toList valued.toList rest.head? (a.toList.drop 1) found
      takeOptions plain valued fuel (if taken then rest.drop 1 else rest) found

/-- Takes options off the front of arguments. -/
def optionsOf (plain valued : String) (args : List String) : Trying OptionsAndRest :=
  takeOptions plain valued (args.length + 1) args []

/-- The largest number that a count can be. -/
def largestCount : Nat := 0x7fffffff

/-- The number that an argument is. -/
def numberArg (arg : String) : Trying Nat :=
  match (decimal? arg).filter (· ≤ largestCount) with
  | some n => pure n
  | none => refuse ("Illegal number: " ++ arg)

/-- A text between quotes, from which the shell would read it again. -/
def quotedText (s : String) : String :=
  "'" ++ s.replace "'" "'\"'\"'" ++ "'"

/-! ## Layer B: printing and deciding -/

/-- Prints words with their escapes. -/
def echoBuiltin (args : List String) : Trying Unit := do
  let (bare, words) := match args with
    | "-n" :: rest => (true, rest)
    | _ => (false, args)
  let text := " ".intercalate words
  let (bs, stopped) := unescape (text.length + 1) text.toList
  writeOut (if bare || stopped then bs else bs ++ [10])
  setStatus 0

/-- Fills in a format and prints it. -/
def printfBuiltin (args : List String) : Trying Unit := do
  let (_, args) ← optionsOf "" "" args
  match args with
  | [] => refuse "usage: printf format [arg ...]"
  | format :: args =>
    let p := formatted format args
    p.faults.forM fun f => warn f.message
    match p.fatal with
    | some why =>
      warn why
      writeOut p.bytes
      setStatus 2
      throw ()
    | none =>
      writeOut p.bytes
      setStatus (if p.faults.isEmpty then 0 else 1)

/-- The files as the process sees them. -/
def Machine.view (m : Machine) : FileView :=
  { disk := m.world.disk, facts := m.world.facts, cwd := m.self.cwd, mask := m.self.mask
    programs := systemTools }

/-- Ends with the truth of a condition. -/
def testBuiltin (condition : List String) : Trying Unit := do
  match holds (← get).view (condition.length + 1) condition with
  | .ok b => setStatus (if b then 0 else 1)
  | .error fault => refuse fault.message

/-- Ends with the truth of a condition between brackets. -/
def bracketBuiltin (args : List String) : Trying Unit := do
  if args.getLast? == some "]" then testBuiltin args.dropLast
  else refuse "missing ]"

/-! ## Layer C: reading lines -/

/-- A byte of a line, and whether a backslash stood before it. -/
abbrev LineByte := UInt8 × Bool

/-- Takes a line off the input. A backslash keeps the next byte as it is, or joins lines. The result
is the line, what is left, and whether the line has an end. -/
def lineOf (raw : Bool) : Nat → Bytes → List LineByte → List LineByte × Bytes × Bool
  | 0, bs, line => (line.reverse, bs, false)
  | _ + 1, [], line => (line.reverse, [], false)
  | fuel + 1, b :: rest, line =>
    if b == 10 then (line.reverse, rest, true)
    else if b == 0 then lineOf raw fuel rest line
    else if b == 92 && !raw then
      match rest with
      | 10 :: more => lineOf raw fuel more line
      | c :: more => lineOf raw fuel more ((c, true) :: line)
      | [] => (line.reverse, [], false)
    else lineOf raw fuel rest ((b, false) :: line)

/-- The text of a line. -/
def lineText (l : List LineByte) : String := Bytes.lossyText (l.map (·.1))

/-- Cuts the first field off a line. -/
def firstField (d : Dividers) (l : List LineByte) : List LineByte × List LineByte :=
  let divides (b : LineByte) : Bool := !b.2 && d.bytes.contains b.1
  let isBlank (b : LineByte) : Bool := !b.2 && d.isBlank b.1
  let field := l.takeWhile fun b => !divides b
  let behind := (l.drop field.length).dropWhile isBlank
  let isMark := behind.head?.any fun b => !b.2 && d.isMark b.1
  let rest := if isMark then (behind.drop 1).dropWhile isBlank else behind
  (field, rest)

/-- Gives the fields of a line to variables; the last one takes what is left. -/
def shareOut (d : Dividers) : List String → List LineByte → Trying Unit
  | [], _ => pure ()
  | [name], l => do
    let isBlank (b : LineByte) : Bool := !b.2 && d.isBlank b.1
    let (field, rest) := firstField d l
    let bare := (l.reverse.dropWhile isBlank).reverse
    assign name (lineText (if rest.isEmpty then field else bare))
  | name :: names, l => do
    let (field, rest) := firstField d l
    assign name (lineText field)
    shareOut d names rest

/-- Reads a line into variables. -/
def readBuiltin (args : List String) : Trying Unit := do
  let (options, names) ← optionsOf "r" "p" args
  if names.isEmpty then refuse "arg count"
  else
    match names.find? fun n => !isName n with
    | some bad => refuse (bad ++ ": bad variable name")
    | none =>
      let input ← pendingInput
      let raw := options.any (·.1 == 'r')
      let (line, left, ended) := lineOf raw (input.length + 1) input []
      leaveInput left
      let d := (← get).self.dividers
      let isBlank (b : LineByte) : Bool := !b.2 && d.isBlank b.1
      shareOut d names (line.dropWhile isBlank)
      setStatus (if ended then 0 else 1)

end Shell

end CodeAtlas
