import CodeAtlas.Shell.Awk.Assoc
import CodeAtlas.Shell.Awk.Program
import CodeAtlas.Shell.Awk.Record
import CodeAtlas.Shell.Running

/-!
# The state of a program over records

Variables, the record with its fields, and the files and commands that are open. What is printed is
kept back until a command is started, a file is closed or the program ends.

## Architecture

- **Layer A**: the state;
- **Layer B**: variables and arrays;
- **Layer C**: the record and its fields;
- **Layer D**: output;
- **Layer E**: input.
-/

namespace CodeAtlas

namespace Shell

namespace Awk

/-! ## Layer A: state -/

/-- What a variable is bound to. -/
inductive Binding where
  | unset
  | value (v : Value)
  /-- An array, by its number. -/
  | array (number : Nat)
  /-- What is not set and may become the array with a number. -/
  | undecided (number : Nat)
  deriving Inhabited

/-- A file or a command that is printed to. -/
structure Writer where
  outlet : Outlet
  name : Bytes
  /-- What has not been handed over, the last first. -/
  pending : List Bytes := []

/-- A file or a command that is read from. -/
structure Source where
  isCommand : Bool
  name : Bytes
  left : Bytes
  /-- The result of the command. -/
  status : Nat := 0

/-- **The state of a program.** -/
structure State where
  shared : Std.HashMap String Binding := {}
  /-- The parameters of the function that runs. -/
  frame : Array Binding := #[]
  /-- How many values are kept for functions that run. -/
  depth : Nat := 0
  arrays : Std.HashMap Nat Assoc := {}
  /-- A number that no array has. -/
  fresh : Nat := 0
  record : Bytes := []
  /-- What divided fields when the record was read. -/
  divider : Bytes := [32]
  /-- The fields, once they were asked for. -/
  fields : Option (Array Value) := none
  /-- Whether the record is to be put together from its fields. -/
  isStale : Bool := false
  /-- What is left of the present file. -/
  input : Option Bytes := none
  /-- The number of the next argument. -/
  argument : Nat := 1
  /-- Whether a file was opened as input. -/
  hasInput : Bool := false
  /-- The rules between whose records the present one stands. -/
  active : List Nat := []
  sources : List Source := []
  /-- What is printed to, last used first. -/
  writers : List Writer := []
  /-- What was printed and not handed over, the last first. -/
  pending : List Bytes := []
  seed : Value := .number 0
  status : Nat := 0

/-- Why statements are not carried out to their end. -/
inductive Departure where
  | finished
  | nextRecord
  | nextFile
  | gaveBack (v : Value)
  /-- The program fails with a message. -/
  | failed (message : String)
  /-- The program would go on for ever. -/
  | endless

/-- What a program does. -/
abbrev Doing := ExceptT Departure (StateT State Run)

/-- What a program is given: its rules, its name in messages, and how a command is run under a name.
The result of a command tells which signal ended it. -/
structure Given where
  program : Program
  shown : String
  run : String → Bytes → Run (Option Nat)

/-- The name of the shell that runs commands which are read from or printed to. -/
def pipedShell : String := "/bin/sh"

/-- Changes the state. -/
def alter (f : State → State) : Doing Unit := modify f

/-- Does something outside of the program. -/
def outside {α : Type} (body : Run α) : Doing α := liftM (m := Run) body

/-! ## Layer B: variables -/

/-- The number of an array, which is made if it is not there. -/
def freshArray : Doing Nat := do
  let n := (← get).fresh
  alter fun s => { s with fresh := n + 1 }
  pure n

/-- What a variable is bound to. -/
def binding (n : Name) : Doing Binding := do
  let s ← get
  match n with
  | .shared text => pure (s.shared.getD text .unset)
  | .parameter i => pure (s.frame.getD i .unset)

/-- Binds a variable. -/
def bindTo (n : Name) (b : Binding) : Doing Unit :=
  alter fun s =>
    match n with
    | .shared text => { s with shared := s.shared.insert text b }
    | .parameter i => { s with frame := s.frame.setIfInBounds i b }

/-- The number of the array that a variable is. A variable that is not set becomes one. -/
def arrayOf (n : Name) : Doing Nat := do
  match ← binding n with
  | .array k => pure k
  | .undecided k =>
    bindTo n (.array k)
    pure k
  | _ =>
    let k ← freshArray
    bindTo n (.array k)
    pure k

/-- The array with a number. -/
def arrayAt (k : Nat) : Doing Assoc := do pure ((← get).arrays.getD k {})

/-- Changes the array with a number. -/
def changeArray (k : Nat) (f : Assoc → Assoc) : Doing Unit :=
  alter fun s => { s with arrays := s.arrays.insert k (f (s.arrays.getD k {})) }

/-- The plain value of a variable of the whole program. -/
def plainValue (text : String) : Doing Value := do
  match ← binding (.shared text) with
  | .value v => pure v
  | _ => pure .missing

/-- The format of numbers inside of texts. -/
def innerFormat : Doing Bytes := do pure ((← plainValue "CONVFMT").toText [])

/-- A value as text. -/
def textOf (v : Value) : Doing Bytes := do pure (v.toText (← innerFormat))

/-- The text of a variable of the whole program. -/
def settingText (text : String) : Doing Bytes := do textOf (← plainValue text)

/-- Binds a variable of the whole program to a value. -/
def setShared (text : String) (v : Value) : Doing Unit := bindTo (.shared text) (.value v)

/-- The end of the program with a message that tells where it was. -/
def failHere {α : Type} (message : String) : Doing α := do
  let shown (v : Value) : String := Bytes.lossyText (v.toText [])
  let file ← plainValue "FILENAME"
  let inFile ← plainValue "FNR"
  let all ← plainValue "NR"
  throw (.failed ("run time error: " ++ message ++ "\n\tFILENAME=\"" ++ shown file ++ "\" FNR="
    ++ shown inFile ++ " NR=" ++ shown all))

/-- A regular expression that a text is while the program runs. -/
def regexFor (source : Bytes) : Doing Regex := do
  match regexOf source with
  | .ok r => pure r
  | .error why =>
    failHere ("regular expression compile failed (" ++ why ++ ")\n" ++ Bytes.lossyText source)

/-- The divider that a text is while the program runs. -/
def dividerFor (source : Bytes) : Doing Divider := do
  match dividerOf source with
  | .ok d => pure d
  | .error why =>
    failHere ("regular expression compile failed (" ++ why ++ ")\n" ++ Bytes.lossyText source)

/-! ## Layer C: the record -/

/-- The fields of the record. -/
def fieldsNow : Doing (Array Value) := do
  let s ← get
  match s.fields with
  | some fs => pure fs
  | none =>
    let d ← dividerFor s.divider
    let fs := ((d.parts s.record).map Value.ofInput).toArray
    alter fun s => { s with fields := some fs }
    pure fs

/-- The text of the record. -/
def recordNow : Doing Bytes := do
  let s ← get
  if !s.isStale then pure s.record
  else
    let between ← settingText "OFS"
    let parts ← (← fieldsNow).toList.mapM textOf
    let bs := between.intercalate parts
    alter fun s => { s with record := bs, isStale := false }
    pure bs

/-- Makes a text the record. -/
def setRecord (bs : Bytes) : Doing Unit := do
  let divider ← settingText "FS"
  alter fun s => { s with record := bs, divider := divider, fields := none, isStale := false }

/-- The most fields that a record has. -/
def mostFields : Nat := 100000

/-- Gives the record so many fields. -/
def setFieldCount (n : Nat) : Doing Unit := do
  let fs ← fieldsNow
  let fs := fs.take n ++ Array.replicate (n - fs.size) (Value.text [])
  alter fun s => { s with fields := some fs, isStale := true }

/-- The field with a number; the record itself has the number zero. -/
def fieldAt (f : Float) : Doing Value := do
  let i := truncated f
  if i < 0 then failHere ("negative field index $" ++ toString i)
  else if i == 0 then do pure (.ofInput (← recordNow))
  else do pure ((← fieldsNow).getD (i.toNat - 1) (.text []))

/-- Sets the field with a number. -/
def setField (f : Float) (v : Value) : Doing Unit := do
  let i := truncated f
  if i < 0 then failHere ("negative field index $" ++ toString i)
  else if i == 0 then setRecord (← textOf v)
  else if mostFields < i.toNat then failHere "maximum number of fields exceeded"
  else
    let n := i.toNat
    if (← fieldsNow).size < n then setFieldCount n
    let fs ← fieldsNow
    alter fun s => { s with fields := some (fs.set! (n - 1) v), isStale := true }

/-- The value of a variable. -/
def valueOf (n : Name) : Doing Value := do
  if n == .shared "NF" then do pure (.ofNat (← fieldsNow).size)
  else
    match ← binding n with
    | .value v => pure v
    | _ => pure .missing

/-- Sets a variable. -/
def setValue (n : Name) (v : Value) : Doing Unit := do
  if n == .shared "NF" then setFieldCount (min mostFields (toCount v.toFloat))
  else bindTo n (.value v)

/-! ## Layer D: output -/

/-- Hands over what was printed. -/
def flushOut : Doing Unit := do
  let parts := (← get).pending
  alter fun s => { s with pending := [] }
  outside (writeOut parts.reverse.flatten)

/-- Hands over what was printed to a file. -/
def flushWriter (w : Writer) : Doing Writer := do
  if w.outlet == .command then pure w
  else
    let cwd := (← outside get).self.cwd
    outside (writeTo (.file (cwd.join ⟨Bytes.lossyText w.name⟩)) w.pending.reverse.flatten)
    pure { w with pending := [] }

/-- Hands over all that was printed. -/
def flushAll : Doing Unit := do
  flushOut
  let ws ← (← get).writers.mapM flushWriter
  alter fun s => { s with writers := ws }

/-- The result of a command that was ended by a signal or not. -/
def resultOf (killer : Option Nat) : Doing Nat := do
  match killer with
  | some s => pure (256 + s)
  | none => do pure (← outside get).self.status

/-- Runs a command whose input is given. -/
def feed (g : Given) (command input : Bytes) : Run (Option Nat) := do
  let before := (← get).self.streams
  let source ← openSource input
  change fun p => { p with streams := p.streams.insert 0 (.source source) }
  let killer ← g.run pipedShell command
  change fun p => { p with streams := before }
  pure killer

/-- Ends printing to a file or a command. -/
def closeWriter (g : Given) (w : Writer) : Doing Nat := do
  if w.outlet == .command then do resultOf (← outside (feed g w.name w.pending.reverse.flatten))
  else
    let _ ← flushWriter w
    pure 0

/-- The names that stand for streams of the process. -/
def streamNamed? (name : Bytes) : Option Nat :=
  match Bytes.lossyText name with
  | "/dev/stdout" => some 1
  | "-" => some 1
  | "/dev/stderr" => some 2
  | _ => none

/-- Opens a file or a command for printing. -/
def openWriter (outlet : Outlet) (name : Bytes) : Doing Writer := do
  if outlet == .command then
    flushAll
    pure ⟨outlet, name, []⟩
  else
    let m ← outside get
    let file := Bytes.lossyText name
    let path := m.self.cwd.join ⟨file⟩
    if (systemChannel? m.self path).isSome then pure ⟨outlet, name, []⟩
    else
      let before := match m.world.disk.read path with
        | .ok c => if outlet == .append then c else ⟨[], 0⟩
        | .error _ => ⟨[], 0⟩
      match m.world.disk.write path before with
      | .ok d =>
        outside (changeDisk fun _ => d)
        pure ⟨outlet, name, []⟩
      | .error fault =>
        throw (.failed ("cannot open \"" ++ file ++ "\" for output (" ++ reason fault ++ ")"))

/-- Prints to a file or a command, which are opened once. -/
def printTo (outlet : Outlet) (name bs : Bytes) : Doing Unit := do
  match if outlet == .command then none else streamNamed? name with
  | some 1 => alter fun s => { s with pending := bs :: s.pending }
  | some n => outside (writeStream n bs)
  | none =>
    let isIt (w : Writer) : Bool := w.name == name && (w.outlet == .command) == (outlet == .command)
    let w ← match (← get).writers.find? isIt with
      | some w => pure w
      | none => openWriter outlet name
    if name != Bytes.ofText "/dev/null" then
      alter fun s => { s with
        writers := { w with pending := bs :: w.pending } :: s.writers.filter (!isIt ·) }

/-- Ends reading and printing under a name. There is no result if nothing was open. -/
def closeNamed (g : Given) (name : Bytes) : Doing (Option Nat) := do
  let s ← get
  let read := s.sources.find? (·.name == name)
  let written := s.writers.filter (·.name == name)
  alter fun s => { s with
    sources := s.sources.filter (·.name != name)
    writers := s.writers.filter (·.name != name) }
  if !written.isEmpty then flushOut
  let results ← written.mapM (closeWriter g)
  pure (results.head? <|> read.map (·.status))

/-- Ends all printing, last used first, and hands over what is left. -/
def closeAll (g : Given) : Doing Unit := do
  let ws := (← get).writers
  alter fun s => { s with writers := [] }
  ws.forM fun w => do
    let _ ← closeWriter g w
  flushOut

/-! ## Layer E: input -/

/-- All that is left of the input of the process. -/
def wholeInput : Run Bytes := do
  let bs ← pendingInput
  leaveInput []
  pure bs

/-- What a file holds. -/
def fileBytes (name : Bytes) : Run (Except IoFault Bytes) := do
  let file := Bytes.lossyText name
  let v := (← get).view
  let path := v.path file
  match path.text with
  | "/dev/null" => pure (.ok [])
  | "/dev/stdin" => do pure (.ok (← wholeInput))
  | _ =>
    if file == "-" then do pure (.ok (← wholeInput))
    else if v.isFolder file then pure (.error .isDirectory)
    else pure ((v.disk.read path).map fun c => c.toBytes)

/-- Whether an argument sets a variable; its name and its text are given then. -/
def settingIn? (arg : String) : Option (String × String) :=
  let cs := arg.toList
  let name := cs.takeWhile isNameChar
  if (cs.head?.any isNameStart) && (cs.drop name.length).head? == some '=' then
    some (String.ofList name, String.ofList (cs.drop (name.length + 1)))
  else none

/-- Counts a record. -/
def countRecord : Doing Unit := do
  setShared "NR" (.number ((← plainValue "NR").toFloat + 1))
  setShared "FNR" (.number ((← plainValue "FNR").toFloat + 1))

/-- Begins to read a file. -/
def beginFile (name : Bytes) (content : Bytes) : Doing Unit := do
  alter fun s => { s with input := some content, hasInput := true }
  setShared "FILENAME" (.text name)
  setShared "FNR" (.number 0)

/-- The next record of a text by the present separator. -/
def recordIn (bs : Bytes) : Doing (Option (Bytes × Bytes)) := do
  let separator ← settingText "RS"
  match nextOf separator bs with
  | .ok r => pure r
  | .error why =>
    failHere ("regular expression compile failed (" ++ why ++ ")\n" ++ Bytes.lossyText separator)

/-- The next record of the files that the arguments name. -/
def nextInput (escaped : String → Bytes) : Nat → Doing (Option Bytes)
  | 0 => pure none
  | fuel + 1 => do
    let s ← get
    match s.input with
    | some bs =>
      match ← recordIn bs with
      | some (r, left) =>
        alter fun s => { s with input := some left }
        countRecord
        pure (some r)
      | none =>
        alter fun s => { s with input := none }
        nextInput escaped fuel
    | none =>
      let count := toCount (← plainValue "ARGC").toFloat
      if count ≤ s.argument then
        if s.hasInput then pure none
        else
          beginFile [45] (← outside wholeInput)
          nextInput escaped fuel
      else
        alter fun s => { s with argument := s.argument + 1 }
        let args ← arrayAt (← arrayOf (.shared "ARGV"))
        let key := Key.number s.argument
        let arg ← textOf (args.get key)
        if !args.contains key || arg.isEmpty then nextInput escaped fuel
        else
          match settingIn? (Bytes.lossyText arg) with
          | some (name, text) =>
            setValue (.shared name) (.ofInput (escaped text))
            nextInput escaped fuel
          | none =>
            match ← outside (fileBytes arg) with
            | .ok bs =>
              beginFile arg bs
              nextInput escaped fuel
            | .error fault =>
              throw (.failed (if fault == .isDirectory then "read error (Is a directory)"
                else "cannot open \"" ++ Bytes.lossyText arg ++ "\" (" ++ reason fault ++ ")"))

/-- The next record of a file or a command, which are opened once. There is no answer if that is not
possible. -/
def nextFromSource (g : Given) (isCommand : Bool) (name : Bytes) :
    Doing (Option (Option Bytes)) := do
  let isIt (x : Source) : Bool := x.isCommand == isCommand && x.name == name
  let opened : Option Source ← match (← get).sources.find? isIt with
    | some x => pure (some x)
    | none =>
      if isCommand then do
        flushAll
        let (killer, bs) ← outside (collected (g.run pipedShell name))
        let status ← resultOf killer
        pure (some ⟨true, name, bs, status⟩)
      else do
        match ← outside (fileBytes name) with
        | .ok bs => pure (some ⟨false, name, bs, 0⟩)
        | .error _ => pure none
  match opened with
  | none => pure none
  | some x =>
    let next ← recordIn x.left
    let left := (next.map (·.2)).getD []
    alter fun s => { s with sources := { x with left } :: s.sources.filter (!isIt ·) }
    pure (some (next.map (·.1)))

end Awk

end Shell

end CodeAtlas
