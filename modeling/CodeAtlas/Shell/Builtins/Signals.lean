import CodeAtlas.Shell.Builtins.Basic

/-!
# Commands of the shell about signals and jobs

What is done on a signal, sending signals, and waiting for what runs in the background.

## Architecture

- **Layer A**: what is done on signals;
- **Layer B**: sending signals;
- **Layer C**: waiting.
-/

namespace CodeAtlas

namespace Shell

/-! ## Layer A: traps -/

/-- The name of a signal; a few have none. -/
def signalName (n : Nat) : String :=
  if n == 0 then "EXIT"
  else if n == 16 then "16"
  else if n == 34 then "RTMIN"
  else if n == 64 then "RTMAX"
  else if 34 < n && n < 50 then "RTMIN+" ++ toString (n - 34)
  else if 50 ≤ n && n < 64 then "RTMAX-" ++ toString (64 - n)
  else signalWords.getD (n - 1) (toString n)

/-- Whether an argument is the number of a signal. -/
def isSignalNumber (s : String) : Bool := (decimal? s).any (· < 65)

/-- Sets what is done on one signal after another. -/
def trapAll (action : Option String) : List String → Trying Unit
  | [] => pure ()
  | name :: rest => do
    match signalOf? name with
    | none =>
      complain ("trap: " ++ name ++ ": bad trap")
      setStatus 1
    | some s =>
      change fun p => { p with
        traps := match action.filter (· != "-") with
          | some text => p.traps.insert s text
          | none => p.traps.erase s }
      trapAll action rest

/-- Shows or sets what is done on signals. -/
def trapBuiltin (args : List String) : Trying Unit := do
  let (_, args) ← optionsOf "" "" args
  setStatus 0
  match args with
  | [] => (← get).self.traps.entries.forM fun e =>
      sayLine ("trap -- " ++ quotedText e.2 ++ " " ++ signalName e.1)
  | [name] => trapAll none [name]
  | text :: names =>
    if isSignalNumber text then trapAll none (text :: names) else trapAll (some text) names

/-! ## Layer B: sending -/

/-- Ends a job now. What it would have written later is never written. -/
def endJob (pid signal : Nat) : Run Unit := do
  let now := (← get).self.now
  let kept (cs : List Chunk) : List Chunk := cs.filter fun c => c.job != pid || c.time < now
  changeWorld fun w => { w with pipes := w.pipes.mapValues fun _ cs => kept cs }
  change fun p => { p with jobs := p.jobs.map fun j =>
    if j.pid == pid && now < j.ends then
      { j with ends := now, status := 128 + signal, killer := some signal }
    else j }

/-- The number of a job that is named by its place in the list. -/
def jobNumber? (p : Process) (arg : String) : Option Nat :=
  match arg.toList with
  | '%' :: cs =>
    let text := String.ofList cs
    if text == "%" || text == "+" || text.isEmpty then p.jobs.getLast?.map (·.pid)
    else (decimal? text).bind fun n => (p.jobs[n - 1]?).map (·.pid)
  | _ => none

/-- Sends a signal to a process. -/
def sendTo (s : Nat) (target : String) : Trying Unit := do
  let p := (← get).self
  let n : Int ← match target.toList with
    | '%' :: _ =>
      match jobNumber? p target with
      | some n => pure (Int.ofNat n)
      | none => refuse ("No such job: " ++ target)
    | '-' :: cs => do pure (-Int.ofNat (← numberArg (String.ofList cs)))
    | _ => do pure (Int.ofNat (← numberArg target))
  if n == p.pid || n == p.shell then
    changeWorld fun w => { w with sent := w.sent ++ if s == 0 then [] else [(n.toNat, s)] }
  else if n == 0 || n == -p.shell then
    changeWorld fun w => { w with
      sent := w.sent ++ if s == 0 then [] else [(p.pid, s), (p.shell, s)] }
  else if p.jobs.any fun j => n == j.pid && p.now < j.ends then
    if s == 0 then pure () else endJob n.toNat s
  else
    warn "No such process\n"
    setStatus 1

/-- The message about wrong arguments. -/
def killUsage : String :=
  "Usage: kill [-s sigspec | -signum | -sigspec] [pid | job]... or\nkill -l [exitstatus]"

/-- Prints the names of signals. -/
def listSignals : List String → Trying Unit
  | [] => do
    sayLine "0"
    (List.range 64).forM fun i => sayLine (signalName (i + 1))
    setStatus 0
  | a :: _ => do
    let n ← numberArg a
    let n := if 128 < n then n - 128 else n
    if 0 < n && n < 65 then
      sayLine (signalName n)
      setStatus 0
    else refuse ("invalid signal number or exit status: " ++ a)

/-- Sends a signal to processes, or lists signals. -/
def killBuiltin (args : List String) : Trying Unit := do
  let named := match args with
    | a :: rest =>
      match a.toList with
      | '-' :: cs =>
        ((signalOf? (String.ofList cs)).filter fun s => s != 0 || cs == ['0']).map (·, rest)
      | _ => none
    | [] => none
  let (signal, targets) ← match named with
    | some (s, rest) => pure (some s, rest)
    | none => do
      let (options, rest) ← optionsOf "l" "s" args
      match options with
      | [] => pure (some 15, rest)
      | _ =>
        if options.any (·.1 == 'l') then pure (none, rest)
        else
          let name := (options.getLast?.map (·.2)).getD ""
          match signalOf? name with
          | some s => pure (some s, rest)
          | none => refuse ("invalid signal number or name: " ++ name)
  match signal with
  | none => listSignals targets
  | some s =>
    if targets.isEmpty then refuse killUsage
    else
      setStatus 0
      targets.forM (sendTo s)

/-! ## Layer C: waiting -/

/-- The background jobs that arguments name. -/
def namedJobs : List String → Trying (List (Option Job))
  | [] => pure []
  | a :: rest => do
    let p := (← get).self
    let job ← match a.toList with
      | '%' :: _ =>
        match jobNumber? p a with
        | some n => pure (p.jobs.find? (·.pid == n))
        | none => refuse ("No such job: " ++ a)
      | _ => do
        let n ← numberArg a
        pure (p.jobs.find? (·.pid == n))
    pure (job :: (← namedJobs rest))

/-- Waits for jobs. A signal that is not ignored ends the waiting. -/
def waitBuiltin (args : List String) : Trying Unit := do
  let (_, args) ← optionsOf "" "" args
  let named ← namedJobs args
  let p := (← get).self
  let awaited := if args.isEmpty then p.jobs else named.filterMap id
  let ends := awaited.foldl (fun t j => max t j.ends) p.now
  match p.strike? ends with
  | some (t, s) =>
    change fun p => { p with now := max p.now t }
    setStatus (128 + s)
  | none =>
    change fun p => { p with now := ends }
    awaited.forM fun j =>
      match j.killer with
      | some s => mourn s
      | none => pure ()
    let last := match named.getLast? with
      | some (some j) => j.status
      | some none => 127
      | none => 0
    setStatus last

/-- Shows background jobs; nothing is known of them while they run. -/
def jobsBuiltin (_ : List String) : Trying Unit := setStatus 0

end Shell

end CodeAtlas
