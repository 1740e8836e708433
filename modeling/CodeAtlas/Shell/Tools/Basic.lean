import CodeAtlas.Bytes.Basic
import CodeAtlas.Command.Basic
import CodeAtlas.Shell.Arithmetic
import CodeAtlas.Shell.Streams
import CodeAtlas.Shell.View

/-!
# Tools

Small programs that read files and their input, print, and end with a result. They neither wait nor
start others.

## Architecture

- **Layer A**: calls and results;
- **Layer B**: options;
- **Layer C**: files and lines.
-/

namespace CodeAtlas

namespace Shell

/-! ## Layer A: calls and results -/

/-- What a tool is given. -/
structure ToolCall where
  name : String
  /-- The name under which it was started. -/
  shown : String
  args : List String
  env : Environment
  files : FileView
  input : Bytes
  /-- Whether the input is a file, in which a tool can go back. -/
  seekable : Bool := false
  /-- Why the input cannot be read. -/
  inputFault : Option IoFault := none
  /-- The time, in seconds. -/
  clock : Nat := 0

/-- What a tool leaves behind. -/
structure ToolResult where
  /-- What it wrote to which stream, in order. -/
  writes : List (Nat × Bytes) := []
  status : Nat := 0
  /-- The disk, if the tool changed it. -/
  disk : Option Disk := none
  /-- What is known of the files, if the tool changed that. -/
  facts : Option FileFacts := none
  /-- What is left of the input, if the tool read some. -/
  left : Option Bytes := none
  /-- Whether the tool would print for ever. -/
  endless : Bool := false

namespace ToolResult

/-- One result behind another. The result number is that of the first that failed. -/
def andThen (a b : ToolResult) : ToolResult :=
  { writes := a.writes ++ b.writes
    status := if a.status == 0 then b.status else a.status
    disk := b.disk <|> a.disk
    facts := b.facts <|> a.facts
    left := b.left <|> a.left
    endless := a.endless || b.endless }

/-- Results one behind another. -/
def inTurn (rs : List ToolResult) : ToolResult := rs.foldl andThen {}

/-- Bytes that are printed. -/
def bytes (bs : Bytes) : ToolResult := { writes := [(1, bs)] }

/-- A text that is printed. -/
def printing (s : String) : ToolResult := bytes (Bytes.ofText s)

/-- A message that is printed because a tool fails. -/
def failing (status : Nat) (message : String) : ToolResult :=
  { writes := [(2, Bytes.ofText (message ++ "\n"))], status := status }

/-- All that was printed. -/
def output (r : ToolResult) : Bytes := (r.writes.filter (·.1 == 1)).flatMap (·.2)

/-- The result with another output. -/
def withOutput (r : ToolResult) (bs : Bytes) : ToolResult :=
  { r with writes := r.writes.filter (·.1 != 1) ++ [(1, bs)] }

/-- The result of a tool that prints at its end. -/
def buffered (r : ToolResult) : ToolResult := r.withOutput r.output

end ToolResult

/-! ## Layer B: options -/

/-- Which options a tool has. -/
structure OptionTable where
  /-- The letters of options without a value. -/
  plain : String := ""
  /-- The letters of options with a value. -/
  valued : String := ""
  /-- The long names of options, by letter. -/
  long : List (String × Char) := []
  /-- Whether options may stand behind operands. -/
  anywhere : Bool := true

/-- The options and operands among arguments. -/
structure Given where
  /-- The options in order, each with its value. -/
  options : List (Char × String) := []
  operands : List String := []
  deriving Repr, DecidableEq, Inhabited

namespace Given

/-- Whether an option was given. -/
def has (g : Given) (c : Char) : Bool := g.options.any (·.1 == c)

/-- The last value of an option. -/
def value? (g : Given) (c : Char) : Option String :=
  (g.options.reverse.find? (·.1 == c)).map (·.2)

/-- All values of an option. -/
def values (g : Given) (c : Char) : List String :=
  (g.options.filter (·.1 == c)).map (·.2)

/-- The last of some options that was given. -/
def lastOf? (g : Given) (cs : List Char) : Option Char :=
  (g.options.reverse.find? fun o => cs.contains o.1).map (·.1)

/-- Adds an option. -/
def option (g : Given) (c : Char) (value : String) : Given :=
  { g with options := g.options ++ [(c, value)] }

end Given

namespace OptionTable

/-- Reads letters behind a hyphen. A letter with a value takes what is left, or the next argument.
The result also tells whether the next argument was taken. -/
def cluster (t : OptionTable) (next : Option String) :
    List Char → Given → Except String (Given × Bool)
  | [], g => .ok (g, false)
  | c :: rest, g =>
    if t.plain.toList.contains c then t.cluster next rest (g.option c "")
    else if t.valued.toList.contains c then
      if !rest.isEmpty then .ok (g.option c (String.ofList rest), false)
      else
        match next with
        | some v => .ok (g.option c v, true)
        | none => .error ("option requires an argument -- '" ++ String.singleton c ++ "'")
    else .error ("invalid option -- '" ++ String.singleton c ++ "'")

/-- Reads a long option. -/
def longOption (t : OptionTable) (next : Option String) (arg : String) (g : Given) :
    Except String (Given × Bool) :=
  let body := arg.toList.drop 2
  let name := String.ofList (body.takeWhile (· != '='))
  let behind := String.ofList (body.drop (name.length + 1))
  let value := if body.contains '=' then some behind else none
  match t.long.lookup name with
  | none => .error ("unrecognized option '--" ++ name ++ "'")
  | some c =>
    if t.valued.toList.contains c then
      match value, next with
      | some v, _ => .ok (g.option c v, false)
      | none, some v => .ok (g.option c v, true)
      | none, none => .error ("option '--" ++ name ++ "' requires an argument")
    else if value.isSome then .error ("option '--" ++ name ++ "' doesn't allow an argument")
    else .ok (g.option c "", false)

/-- **Takes arguments apart.** -/
def read (t : OptionTable) : List String → Given → Except String Given
  | [], g => .ok g
  | "--" :: rest, g => .ok { g with operands := g.operands ++ rest }
  | a :: rest, g => do
    let operand := { g with operands := g.operands ++ [a] }
    if !a.startsWith "-" || a == "-" then
      if t.anywhere then t.read rest operand
      else pure { g with operands := g.operands ++ a :: rest }
    else
      let (g, taken) ← if a.startsWith "--" then t.longOption rest.head? a g
        else t.cluster rest.head? (a.toList.drop 1) g
      if taken then
        match rest with
        | [] => pure g
        | _ :: rest => t.read rest g
      else t.read rest g

end OptionTable

/-- The message of a tool that was called in a wrong way. -/
def usage (c : ToolCall) (status : Nat) (why : String) : ToolResult :=
  .failing status (c.shown ++ ": " ++ why ++ "\nTry '" ++ c.shown
    ++ " --help' for more information.")

/-- Runs a tool with the options it was given. -/
def withOptions (c : ToolCall) (status : Nat) (t : OptionTable) (f : Given → ToolResult) :
    ToolResult :=
  match t.read c.args {} with
  | .ok g => f g
  | .error why => usage c status why

/-- The message of a tool that needs more arguments. -/
def missingOperand (c : ToolCall) : ToolResult := usage c 1 "missing operand"

/-! ## Layer C: files and lines -/

/-- How much a tool prints before nobody reads on. -/
def burst : Nat := 0x40000

/-- What a file holds. Some names stand for no file of the disk. -/
def ToolCall.contentAt (c : ToolCall) (arg : String) : Except IoFault Content :=
  match (c.files.path arg).text with
  | "/dev/null" => .ok ⟨[], 0⟩
  | "/dev/stdin" => .ok ⟨c.input, 0⟩
  | "/dev/zero" => .ok ⟨[], boundless⟩
  | _ =>
    if arg.isEmpty then .error .noEntry
    else if c.files.isFolder arg then .error .isDirectory
    else c.files.disk.read (c.files.path arg)

/-- What an operand names: a file, or the input. -/
def ToolCall.content (c : ToolCall) (arg : String) : Except IoFault Content :=
  if arg == "-" then
    match c.inputFault with
    | some fault => .error fault
    | none => .ok ⟨c.input, 0⟩
  else c.contentAt arg

/-- Whether operands name the input. -/
def readsInput (operands : List String) : Bool := operands.isEmpty || operands.contains "-"

/-- The operands, or the input if there are none. -/
def orInput (operands : List String) : List String :=
  if operands.isEmpty then ["-"] else operands

/-- What operands name, one behind another. Only the first that names the input finds it there. -/
def ToolCall.contents (c : ToolCall) (operands : List String) :
    List (String × Except IoFault Content) :=
  let first := operands.idxOf "-"
  operands.zipIdx.map fun x =>
    (x.1, if x.1 == "-" && x.2 != first && c.inputFault.isNone then .ok ⟨[], 0⟩
      else c.content x.1)

/-- Does something with the content of each file that is named, or with the input if there is none.
`refusal` is the message about a file that cannot be read. -/
def overFiles (c : ToolCall) (operands : List String) (status : Nat)
    (refusal : String → IoFault → String) (f : String → Content → ToolResult) : ToolResult :=
  let r := ToolResult.inTurn ((c.contents (orInput operands)).map fun x =>
    match x.2 with
    | .ok content => f x.1 content
    | .error fault => .failing status (refusal x.1 fault))
  { r with left := if readsInput operands then r.left <|> some [] else r.left }

/-- A message that names a file and a reason. -/
def plainRefusal (c : ToolCall) (file : String) (fault : IoFault) : String :=
  c.shown ++ ": " ++ file ++ ": " ++ reason fault

/-- A message that a file cannot be opened. -/
def quotedRefusal (c : ToolCall) (file : String) (fault : IoFault) : String :=
  if fault == .isDirectory then c.shown ++ ": error reading '" ++ file ++ "': " ++ reason fault
  else c.shown ++ ": cannot open '" ++ file ++ "' for reading: " ++ reason fault

/-- Lines with their ends. -/
def linesOf (bs : Bytes) : List Bytes :=
  bs.foldr (fun b ls =>
    match ls with
    | l :: rest => if b == 10 then [b] :: l :: rest else (b :: l) :: rest
    | [] => [[b]]) []

/-- A line without its end. -/
def bareLine (l : Bytes) : Bytes := if l.getLast? == some 10 then l.dropLast else l

/-- Lines without their ends. -/
def bareLines (bs : Bytes) : List Bytes := (linesOf bs).map bareLine

/-- Lines, each with an end. -/
def endedLines (ls : List Bytes) : Bytes := ls.flatMap (· ++ [10])

/-- All lines of the files that are named, read as one. -/
def allBytes (c : ToolCall) (operands : List String) (status : Nat)
    (refusal : String → IoFault → String) : ToolResult :=
  overFiles c operands status refusal fun _ content => .bytes content.toBytes

/-- A number in decimal digits. -/
def decimal? (s : String) : Option Nat :=
  let cs := s.toList
  if cs.isEmpty || !cs.all Char.isDigit then none else some (valueIn 10 cs)

/-- A size in decimal digits with a unit behind them. -/
def sized? (s : String) : Option Nat :=
  let digits := s.toList.takeWhile Char.isDigit
  let factor := match String.ofList (s.toList.drop digits.length) with
    | "" => some 1
    | "b" => some 512
    | "kB" => some 1000
    | "k" => some 1024
    | "K" => some 1024
    | "KiB" => some 1024
    | "MB" => some 1000000
    | "M" => some (1024 * 1024)
    | "MiB" => some (1024 * 1024)
    | _ => none
  if digits.isEmpty then none else factor.map (· * valueIn 10 digits)

end Shell

end CodeAtlas
