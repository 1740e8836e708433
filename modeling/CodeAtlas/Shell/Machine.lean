import CodeAtlas.Bytes.Basic
import CodeAtlas.Disk.Basic
import CodeAtlas.Shell.Permission
import CodeAtlas.Shell.Script

/-!
# Processes

Processes share a disk and pipes. Every process has a clock of its own, which starts at that of its
parent; a parent that waits goes on at the time its child ended. What is written bears the time of
writing, so the order of two writers is found when a pipe is emptied.

## Architecture

- **Layer A**: streams, the shared world, one process;
- **Layer B**: writing and reading;
- **Layer C**: signals and time;
- **Layer D**: children.
-/

namespace CodeAtlas

namespace Shell

/-! ## Layer A: worlds and processes -/

/-- Bytes that were written at a time, in microseconds. -/
structure Chunk where
  time : Nat
  /-- The background job that wrote them; zero stands for none. -/
  job : Nat
  bytes : Bytes
  deriving Repr, DecidableEq, Inhabited

/-- Where a stream of output leads. -/
inductive Sink where
  | pipe (number : Nat)
  | file (path : Path)
  | nothing
  deriving Repr, DecidableEq, Inhabited

/-- What a stream of a process is connected to. -/
inductive Channel where
  /-- A source of bytes, by its number. -/
  | source (number : Nat)
  | sink (s : Sink)
  deriving Repr, DecidableEq, Inhabited

/-- The number of a source that is a folder, which cannot be read. -/
def folderSource : Nat := 1

/-- The streams of a process that are open, by number. -/
abbrev Streams := Table Nat Channel

/-- The streams a process begins with: input, output and errors. -/
def Streams.standard : Streams :=
  Table.ofList [(0, .source 0), (1, .sink (.pipe 1)), (2, .sink (.pipe 2))]

/-- What processes share. -/
structure World where
  disk : Disk
  facts : FileFacts := {}
  /-- What is left to read of each source. -/
  sources : Table Nat Bytes := Table.empty
  /-- The sources that are files, in which one can go back. -/
  files : List Nat := []
  /-- What was written to each pipe, the last first. -/
  pipes : Table Nat (List Chunk) := Table.empty
  /-- Signals that were sent to processes. -/
  sent : List (Nat × Nat) := []
  /-- A number that nothing has yet. -/
  fresh : Nat := 1000
  deriving Repr, Inhabited

/-- A background job. -/
structure Job where
  pid : Nat
  /-- When it ends. -/
  ends : Nat
  status : Nat
  /-- The signal that ends it. -/
  killer : Option Nat := none
  deriving Repr, DecidableEq, Inhabited

/-- A variable of a script. -/
structure Variable where
  value : Option String
  /-- Whether programs see it. -/
  exported : Bool := false
  /-- Whether it may not be changed. -/
  fixed : Bool := false
  deriving Repr, DecidableEq, Inhabited

/-- **A process that runs a script.** -/
structure Process where
  pid : Nat
  /-- The process that `$$` names. -/
  shell : Nat
  cwd : Path
  vars : Table String Variable := Table.empty
  /-- What variables were outside of each function that is running, innermost first. -/
  frames : List (List (String × Option Variable)) := []
  functions : Table String Command := Table.empty
  /-- How many functions are running. -/
  depth : Nat := 0
  /-- The texts that stand for words where a command begins. -/
  aliases : Table String String := Table.empty
  name : String := "sh"
  args : List String := []
  /-- How far `getopts` has read inside of an argument; zero stands for none. -/
  letter : Nat := 0
  /-- The names of programs that were found, and where. -/
  tracked : Table String String := Table.empty
  /-- The letters of the options that are set. -/
  options : List Char := []
  status : Nat := 0
  /-- The result of the last commands whose output was asked for. -/
  outputStatus : Nat := 0
  /-- The line of the present command. -/
  line : Nat := 1
  /-- The command of the shell that runs, which messages name. -/
  present : Option String := none
  streams : Streams := .standard
  /-- What is done on a signal; an empty text ignores it. Zero is the end of the script. -/
  traps : Table Nat String := Table.empty
  /-- Signals whose text is still to be run. -/
  due : List Nat := []
  now : Nat := 0
  /-- When which signal arrives at all processes. -/
  alarms : List (Nat × Nat) := []
  jobs : List Job := []
  /-- The number of the last job. -/
  lastJob : Option Nat := none
  /-- Whether it is the first process, whose end is watched. -/
  isFirst : Bool := true
  /-- The job this process belongs to. -/
  job : Nat := 0
  /-- The result before the text of a signal was begun. -/
  interrupted : Option Nat := none
  /-- Whether the result of the present command is asked for. -/
  tested : Bool := false
  /-- How many loops are running. -/
  loops : Nat := 0
  /-- The permissions that new files do not get. -/
  mask : Nat := 18
  deriving Inhabited

/-- Whether an option is set. -/
def Process.has (p : Process) (option : Char) : Bool := p.options.contains option

/-- A process in its world. -/
structure Machine where
  world : World
  self : Process
  deriving Inhabited

/-- What a command does to a machine. -/
abbrev Run := StateM Machine

/-- How a script goes on after a command. -/
inductive Flow where
  | next
  | broke (levels : Nat)
  | continued (levels : Nat)
  /-- A function, or a script that was read in, ends. -/
  | returned
  | exited
  | killed (signal : Nat)
  deriving Repr, DecidableEq, Inhabited

/-- Changes the process. -/
def change (f : Process → Process) : Run Unit := modify fun m => { m with self := f m.self }

/-- Changes the world. -/
def changeWorld (f : World → World) : Run Unit := modify fun m => { m with world := f m.world }

/-- Changes the disk. -/
def changeDisk (f : Disk → Disk) : Run Unit := modify fun m =>
  let w := m.world
  let d := w.facts.shared w.disk (f w.disk)
  { m with world := { w with disk := d, facts := w.facts.after m.self.mask w.disk d } }

/-- Sets the result of the last command. -/
def setStatus (n : Nat) : Run Unit := change fun p => { p with status := n % 256 }

/-- A number that nothing has yet. -/
def freshNumber : Run Nat := do
  let n := (← get).world.fresh
  changeWorld fun w => { w with fresh := n + 1 }
  pure n

/-! ## Layer B: writing and reading -/

/-- Writes bytes to a sink. -/
def writeTo (sink : Sink) (bs : Bytes) : Run Unit := do
  let p := (← get).self
  if bs.isEmpty then pure ()
  else
    match sink with
    | .nothing => pure ()
    | .file path => changeDisk fun d => d.append path bs
    | .pipe n => changeWorld fun w =>
        { w with pipes := w.pipes.insert n (⟨p.now, p.job, bs⟩ :: w.pipes.getD n []) }

/-- Writes to a stream of the process, if it is open for writing. -/
def writeStream (number : Nat) (bs : Bytes) : Run Unit := do
  match (← get).self.streams.get? number with
  | some (.sink s) => writeTo s bs
  | _ => pure ()

/-- Writes to the output of the process. -/
def writeOut (bs : Bytes) : Run Unit := writeStream 1 bs

/-- Writes to the errors of the process. -/
def writeErr (bs : Bytes) : Run Unit := writeStream 2 bs

/-- Writes a line to the output of the process. -/
def sayLine (line : String) : Run Unit := writeOut (Bytes.ofText (line ++ "\n"))

/-- Writes a line to the errors of the process. -/
def complain (line : String) : Run Unit := writeErr (Bytes.ofText (line ++ "\n"))

/-- All that was written to a pipe, in the order of time. -/
def World.piped (w : World) (n : Nat) : Bytes :=
  ((w.pipes.getD n []).reverse.mergeSort fun a b => a.time ≤ b.time).flatMap (·.bytes)

/-- Makes a source of bytes. -/
def openSource (bs : Bytes) : Run Nat := do
  let n ← freshNumber
  changeWorld fun w => { w with sources := w.sources.insert n bs }
  pure n

/-- The source that the process reads from. -/
def Process.input? (p : Process) : Option Nat :=
  match p.streams.get? 0 with
  | some (.source n) => some n
  | _ => none

/-- What is left to read. -/
def pendingInput : Run Bytes := do
  let m ← get
  pure ((m.self.input?.map fun n => m.world.sources.getD n []).getD [])

/-- Leaves only some bytes to read. -/
def leaveInput (bs : Bytes) : Run Unit := do
  match (← get).self.input? with
  | some n => changeWorld fun w => { w with sources := w.sources.insert n bs }
  | none => pure ()

/-! ## Layer C: signals and time -/

/-- The signal that nothing can stop. -/
def killSignal : Nat := 9

/-- Signals that do nothing unless they are asked for. -/
def idleSignals : List Nat := [17, 18, 23, 28]

namespace Process

/-- Whether a signal does nothing to a process and the programs it starts. -/
def ignores (p : Process) (s : Nat) : Bool :=
  s != killSignal && (idleSignals.contains s || p.traps.get? s == some "")

/-- The first signal up to a time that ends a program. -/
def strike? (p : Process) (latest : Nat) : Option (Nat × Nat) :=
  p.alarms.find? fun a => a.1 ≤ latest && !p.ignores a.2

/-- Takes a signal: it is ignored, kept for its text, or ends the process. -/
def take (p : Process) (s : Nat) : Process × Option Nat :=
  if p.ignores s then (p, none)
  else if s != killSignal && p.traps.contains s then ({ p with due := p.due ++ [s] }, none)
  else (p, some s)

/-- Takes signals up to one that ends the process. -/
def takeAll (p : Process) : List Nat → Process × Option Nat
  | [] => (p, none)
  | s :: rest =>
    match p.take s with
    | (p, some s) => (p, some s)
    | (p, none) => p.takeAll rest

end Process

/-- When which signal arrives at the children of a process. If the first process ends when it is
asked to, nobody is forced to. -/
def Process.childAlarms (p : Process) : List (Nat × Nat) :=
  let ends := p.alarms.any fun a => a.2 != killSignal && !p.ignores a.2 && !p.traps.contains a.2
  if p.isFirst && ends then p.alarms.filter (·.2 != killSignal) else p.alarms

/-- Lets time pass for a program. The result is the signal that ends it. -/
def spend (micros : Nat) : Run (Option Nat) := do
  let p := (← get).self
  match p.strike? (p.now + micros) with
  | some (t, s) =>
    change fun p => { p with now := max p.now t }
    pure (some s)
  | none =>
    change fun p => { p with now := p.now + micros }
    pure none

/-- The signals that have arrived by now are taken. The result is the one that ends the process. -/
def settle : Run (Option Nat) := do
  let m ← get
  let p := m.self
  let arrived := (p.alarms.filter (·.1 ≤ p.now)).map (·.2)
  let sent := (m.world.sent.filter (·.1 == p.pid)).map (·.2)
  let waiting := { p with alarms := p.alarms.filter fun a => p.now < a.1 }
  let (q, struck) := waiting.takeAll (arrived ++ sent)
  set { m with world := { m.world with sent := m.world.sent.filter (·.1 != p.pid) }, self := q }
  pure struck

/-- What the end of a program by a signal is called. -/
def signalTexts : List String :=
  ["Hangup", "Interrupt", "Quit", "Illegal instruction", "Trace/breakpoint trap", "Aborted",
   "Bus error", "Floating point exception", "Killed", "User defined signal 1",
   "Segmentation fault", "User defined signal 2", "Broken pipe", "Alarm clock", "Terminated"]

/-- Signals whose arrival at a child is not told. -/
def quietSignals : List Nat := [2, 13]

/-- Tells that a child was ended by a signal. -/
def mourn (signal : Nat) : Run Unit :=
  if quietSignals.contains signal then pure ()
  else complain (signalTexts.getD (signal - 1) ("Unknown signal " ++ toString signal))

/-- The names of the signals from 1 on. -/
def signalWords : List String :=
  ["HUP", "INT", "QUIT", "ILL", "TRAP", "ABRT", "BUS", "FPE", "KILL", "USR1", "SEGV", "USR2",
   "PIPE", "ALRM", "TERM", "STKFLT", "CHLD", "CONT", "STOP", "TSTP", "TTIN", "TTOU", "URG", "XCPU",
   "XFSZ", "VTALRM", "PROF", "WINCH", "IO", "PWR", "SYS"]

/-- The signal that a word names: a number or a name. -/
def signalOf? (word : String) : Option Nat :=
  if !word.isEmpty && word.toList.all Char.isDigit then word.toNat?.filter (· ≤ 64)
  else if word.toUpper == "EXIT" then some 0
  else (signalWords.findIdx? (· == word.toUpper)).map (· + 1)

/-- Whether a signal that has arrived ends a process. -/
def Process.isStruck (p : Process) : Bool :=
  p.alarms.any fun a =>
    a.1 ≤ p.now && !p.ignores a.2 && (a.2 == killSignal || !p.traps.contains a.2)

/-- Tells which children were ended by signals, unless the process itself ends. -/
def mournAll (killers : List (Option Nat)) : Run Unit := do
  if !(← get).self.isStruck then
    killers.forM fun k =>
      match k with
      | some s => mourn s
      | none => pure ()

/-! ## Layer D: children -/

/-- Runs a body in a child with a number. The child ignores what its parent ignores and has no other
traps. The parent goes on when the child has ended, with its result. What is given is the signal
that ended the child. -/
def inChildAs (pid : Nat) (body : Run Flow) : Run (Option Nat) := do
  let parent := (← get).self
  change fun p => { p with
    pid := pid, isFirst := false, alarms := p.childAlarms, jobs := [], due := []
    traps := p.traps.filter fun _ text => text.isEmpty }
  let flow ← body
  let child := (← get).self
  let killer := match flow with
    | .killed s => some s
    | _ => none
  let status := match killer with
    | some s => 128 + s
    | none => child.status
  change fun _ => { parent with now := max parent.now child.now, status := status }
  pure killer

/-- Runs a body in a child. -/
def inChild (body : Run Flow) : Run (Option Nat) := do inChildAs (← freshNumber) body

/-- Runs a body whose output is collected. -/
def collected {α : Type} (body : Run α) : Run (α × Bytes) := do
  let n ← freshNumber
  let before := (← get).self.streams
  change fun p => { p with streams := p.streams.insert 1 (.sink (.pipe n)) }
  let result ← body
  change fun p => { p with streams := before }
  pure (result, (← get).world.piped n)

end Shell

end CodeAtlas
