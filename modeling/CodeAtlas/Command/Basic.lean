import CodeAtlas.Disk.File
import CodeAtlas.Ordered.Table
import CodeAtlas.Path.Basic

/-!
# Commands

A full invocation of a program, the line that shows it to people, and what it leaves behind. A
process ends with a status word: an exit code, or the signal that ended it. A command leaves that
word and what it wrote.

A command runs on a system of processes, which is a parameter: what programs there are and what
they do is no concern of the runner. It runs in its folder with an empty input. Both of its streams
are collected up to a limit. A command that takes too long, or is cancelled, is asked to end and,
after a period of grace, made to end, together with all it has started.

## Architecture

- **Layer A**: invocations;
- **Layer B**: how processes end;
- **Layer C**: the outcome of a command;
- **Layer D**: the limits of a run;
- **Layer E**: systems of processes, and running a command on one.
-/

namespace CodeAtlas

/-! ## Layer A: invocations -/

/-- The variables that are set, by name. -/
abbrev Environment := Table String String

/-- **An invocation of a program.** -/
structure CommandSpec where
  /-- The directory in which the program runs. -/
  cwd : Path
  program : Path
  args : List String
  /-- Variables that are set besides the inherited ones. -/
  env : Table String String
  deriving Repr, DecidableEq

namespace CommandSpec

instance : Inhabited CommandSpec := ⟨⟨⟨""⟩, ⟨""⟩, [], Table.empty⟩⟩

/-- An argument in a displayed line: only one with a space or a tab stands between quotes. -/
def shownArg (arg : String) : String :=
  if arg.toList.any fun c => c == ' ' || c == '\t' then
    "\"" ++ arg.replace "\"" "\\\"" ++ "\""
  else arg

/-- The line that shows a command. -/
def display (c : CommandSpec) : String :=
  " ".intercalate (c.program.text :: c.args.map shownArg)

end CommandSpec

/-! ## Layer B: status -/

/-- **The word that says how a process ended.** The low seven bits hold a signal or are zero, the
next bit tells of a memory dump, and the next eight hold the exit code. -/
structure ExitStatus where
  raw : Int
  deriving Repr, DecidableEq, Inhabited

namespace ExitStatus

/-- The status of a process that exits with a code; the word has 32 bits. -/
def exited (code : Int) : ExitStatus := ⟨(code * 256).bmod 0x100000000⟩

/-- The status of a process that a signal ends. -/
def signalled (signal : Int) : ExitStatus := ⟨signal⟩

/-- The low seven bits. -/
def low (s : ExitStatus) : Int := s.raw % 128

/-- The eight bits that hold an exit code or the signal that stopped a process. -/
def high (s : ExitStatus) : Int := s.raw / 256 % 256

/-- Whether the process did all it was asked to. -/
def success (s : ExitStatus) : Bool := s.raw == 0

/-- The exit code of a process that ended on its own. -/
def code? (s : ExitStatus) : Option Int := if s.low == 0 then some s.high else none

/-- The signal that ended the process. -/
def signal? (s : ExitStatus) : Option Int :=
  if 0 < s.low && s.low < 127 then some s.low else none

/-- The names of the signals from 1 on. -/
def signalNames : List String :=
  ["SIGHUP", "SIGINT", "SIGQUIT", "SIGILL", "SIGTRAP", "SIGABRT", "SIGBUS", "SIGFPE", "SIGKILL",
   "SIGUSR1", "SIGSEGV", "SIGUSR2", "SIGPIPE", "SIGALRM", "SIGTERM", "SIGSTKFLT", "SIGCHLD",
   "SIGCONT", "SIGSTOP", "SIGTSTP", "SIGTTIN", "SIGTTOU", "SIGURG", "SIGXCPU", "SIGXFSZ",
   "SIGVTALRM", "SIGPROF", "SIGWINCH", "SIGIO", "SIGPWR", "SIGSYS"]

/-- A signal with its name, if it has one. -/
def shownSignal (n : Int) : String :=
  match signalNames[n.toNat - 1]? with
  | some name => if 0 < n then toString n ++ " (" ++ name ++ ")" else toString n
  | none => toString n

/-- How a word that fits no form is shown: as 32 bits in base sixteen. -/
def hexWord (n : Int) : String := "0x" ++ String.ofList (Nat.toDigits 16 (n % 0x100000000).toNat)

/-- How a status is shown. -/
def shown (s : ExitStatus) : String :=
  match s.code?, s.signal? with
  | some code, _ => "exit status: " ++ toString code
  | none, some signal =>
    "signal: " ++ shownSignal signal ++ (if s.raw % 256 < 128 then "" else " (core dumped)")
  | none, none =>
    if s.raw % 256 == 127 then
      "stopped (not terminated) by signal: " ++ shownSignal s.high
    else if s.raw == 0xffff then "continued (WIFCONTINUED)"
    else "unrecognised wait status: " ++ toString s.raw ++ " " ++ hexWord s.raw

end ExitStatus

/-! ## Layer C: outcome -/

/-- **The outcome of a command that was run.** -/
structure CommandOutput where
  status : ExitStatus
  stdout : String
  stderr : String
  /-- Whether a stream had more bytes than were kept. -/
  truncated : Bool := false
  timedOut : Bool := false
  cancelled : Bool := false
  deriving Repr, DecidableEq, Inhabited

namespace CommandOutput

/-- Both streams, on lines of their own. -/
def combined (o : CommandOutput) : String :=
  if o.stderr.isEmpty then o.stdout
  else if o.stdout.isEmpty || o.stdout.toList.getLast? == some '\n' then o.stdout ++ o.stderr
  else o.stdout ++ "\n" ++ o.stderr

end CommandOutput

/-! ## Layer D: limits -/

/-- **The limits of a run** (`RunOptions`). Times are in milliseconds. -/
structure RunLimits where
  timeout : Option Nat := none
  /-- The most bytes that are kept of each stream. -/
  maxBytes : Nat := 16 * 1024 * 1024
  /-- Whether the command was cancelled before it began. -/
  cancelled : Bool := false
  /-- The time between the request to end and the forced end. -/
  grace : Nat := 250
  deriving Repr, DecidableEq, Inhabited

namespace RunLimits

/-- How often it is checked, during the grace, whether a command has ended. -/
def gracePoll : Nat := 25

/-- When a command that goes on is asked to end. -/
def term? (l : RunLimits) : Option Nat := if l.cancelled then some 0 else l.timeout

/-- How long the grace lasts: up to the check at or behind its end. -/
def graceLength (l : RunLimits) : Nat := (l.grace + gracePoll - 1) / gracePoll * gracePoll

/-- The signals that a command meets (`terminate_process_group`), with their times in
microseconds. -/
def alarms (l : RunLimits) : List (Nat × Nat) :=
  match l.term? with
  | some t => [(t * 1000, 15), ((t + l.graceLength) * 1000, 9)]
  | none => []

end RunLimits

/-! ## Layer E: running -/

/-- A process that came to its end. -/
structure EndedProcess where
  status : ExitStatus
  /-- When it ended, in microseconds from its start. -/
  ended : Nat
  stdout : Bytes
  stderr : Bytes
  deriving Repr, DecidableEq, Inhabited

/-- **A system of processes.** It refuses to start a program, or the program runs to its end, which
is no later than the signals that it meets allow. -/
structure ProcessSystem where
  /-- Runs the program of this name for a command. The signals come with their times in
  microseconds. -/
  start : CommandSpec → (program : String) → (alarms : List (Nat × Nat)) →
    Except IoFault EndedProcess

namespace CommandSpec

/-- The program that is started (`absolutize`): one with several components is found from the folder
of the command, a bare name is looked for. -/
def programText (c : CommandSpec) : String :=
  if 1 < c.program.parts.length then (c.cwd.join c.program).text else c.program.text

/-- Whether a part of the command holds a character that would end it too early. -/
def holdsNull (c : CommandSpec) : Bool :=
  let parts := c.cwd.text :: c.program.text :: c.args
    ++ c.env.entries.flatMap fun e => [e.1, e.2]
  parts.any fun s => s.toList.contains '\x00'

/-- The fault of a command with a null character. -/
def nullFault : IoFault := ⟨.other, "nul byte found in provided data"⟩

/-- The fault of a command that cannot be started. -/
def spawnFault (c : CommandSpec) (cause : IoFault) : IoFault :=
  ⟨cause.kind, "failed to spawn \x60" ++ c.display ++ "\x60: " ++ cause.message⟩

end CommandSpec

/-- A stream up to a limit (`read_bounded`), and whether there was more. -/
def bounded (limit : Nat) (bs : Bytes) : String × Bool :=
  (Bytes.lossyText (bs.take limit), limit < bs.length)

namespace ProcessSystem

/-- Starts the process of a command, which no null character may cut off. -/
def spawn (s : ProcessSystem) (c : CommandSpec) (l : RunLimits) : Except IoFault EndedProcess :=
  if c.holdsNull then .error CommandSpec.nullFault else s.start c c.programText l.alarms

/-- Whether a process was asked to end, as it still ran when it was time to. -/
def isLate (l : RunLimits) (p : EndedProcess) : Bool :=
  match l.term? with
  | some t => t * 1000 ≤ p.ended
  | none => false

/-- **Runs a command** (`run`). -/
def run (s : ProcessSystem) (c : CommandSpec) (l : RunLimits) : Except IoFault CommandOutput :=
  match s.spawn c l with
  | .error cause => .error (c.spawnFault cause)
  | .ok p =>
    let (stdout, moreOut) := bounded l.maxBytes p.stdout
    let (stderr, moreErr) := bounded l.maxBytes p.stderr
    let late := isLate l p
    .ok
      { status := p.status
        stdout := stdout
        stderr := stderr
        truncated := moreOut || moreErr
        timedOut := late && !l.cancelled
        cancelled := late && l.cancelled }

end ProcessSystem

end CodeAtlas
