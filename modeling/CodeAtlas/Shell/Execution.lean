import CodeAtlas.Shell.Awk.Command
import CodeAtlas.Shell.Finding

/-!
# Running scripts

Words are expanded, commands carried out, programs started. Commands contain words and words contain
commands, so all of this is one recursion, whose first argument bounds its depth.

## Architecture

- **Layer A**: limits and the choice of a command;
- **Layer B**: words, commands, scripts and programs, in one recursion;
- **Layer C**: whole runs.
-/

namespace CodeAtlas

namespace Shell

/-! ## Layer A: limits -/

/-- How many functions may be running at once. -/
def mostFunctions : Nat := 1000

/-- The end of a run that is nested too deeply. -/
def tooDeeplyNested : Run Flow := pure (.killed 11)

/-- Whether some signal has a text of its own. -/
def Process.hasHandlers (p : Process) : Bool := p.traps.values.any fun t => !t.isEmpty

/-- Whether a failure of a command ends the script. -/
def isFatal (name : Option String) : Bool := name.any specialNames.contains

/-- The commands whose arguments may be assignments, which are not divided. -/
def assigners : List String := ["export", "readonly", "local", "alias"]

/-- Whether a word is written like an assignment. -/
def looksAssigned (w : Word) : Bool :=
  match w with
  | .text s false :: _ =>
    s.toList.contains '=' && isName (String.ofList (s.toList.takeWhile (· != '=')))
  | _ => false

/-- Replaces the sign for a home folder behind the sign of an assignment. -/
def atHomeBehindSign (p : Process) (w : Word) : Word :=
  match w with
  | .text s false :: rest =>
    let name := s.toList.takeWhile (· != '=')
    let value := String.ofList (s.toList.drop (name.length + 1))
    .text (String.ofList name ++ "=") false :: atHomes p (.text value false :: rest)
  | _ => w

/-- Takes the first words off a command that runs another one. The result tells also whether what a
name stands for is asked for. -/
def behindCommand : List String → Option Char × List String
  | [] => (none, [])
  | a :: rest =>
    match a with
    | "--" => (none, rest)
    | "-p" => behindCommand rest
    | "-v" => (some 'v', rest)
    | "-V" => (some 'V', rest)
    | "-pv" => (some 'v', rest)
    | _ => (none, a :: rest)

/-- How a tool that starts others names a program that cannot be started. -/
def shownStart (starter name : String) : String :=
  if starter == "xargs" then name
  else if ["env", "nice", "find"].contains starter then "'" ++ name ++ "'"
  else "failed to run command '" ++ name ++ "'"

/-- Prints a command before it is carried out, if that is asked for. -/
def traceCommand (streams : Streams) (settings fields : List String) : Run Unit := do
  let p := (← get).self
  if p.has 'x' then
    let line := (p.valueOf? "PS4").getD "" ++ " ".intercalate (settings ++ fields) ++ "\n"
    match streams.get? 2 with
    | some (.sink s) => writeTo s (Bytes.ofText line)
    | _ => pure ()

/-! ## Layer B: words, commands, scripts, programs -/

mutual

/-- What a piece of a word stands for. -/
def expand : Nat → Piece → Trying (List Expanded)
  | 0, _ => throw ()
  | _ + 1, .text s quoted => pure [if quoted then .quoted s else .literal s]
  | fuel + 1, .parameter name use quoted => do
    let p := (← get).self
    let value := p.parameter? name
    let other (w : Word) : Trying (List Expanded) := do
      let es ← (atHome p w).flatMapM (expand fuel)
      pure (if quoted then es else es.map Expanded.asResult)
    let text (w : Word) : Trying String := do
      pure (undivided p.dividers (← (atHome p w).flatMapM (expand fuel)))
    match use with
    | .plain => do pure [inWord p name quoted (← needed name value)]
    | .length => do
      pure [valued quoted (toString (Bytes.ofText (← needed name value)).length)]
    | .orElse orEmpty w =>
      if isMissing orEmpty value then other w else pure [inWord p name quoted (value.getD "")]
    | .orSet orEmpty w =>
      if isMissing orEmpty value then do
        let s ← text w
        checkName name
        assign name s
        pure [valued quoted s]
      else pure [inWord p name quoted (value.getD "")]
    | .orFail orEmpty w =>
      if isMissing orEmpty value then do
        refuse (name ++ ": " ++ missingMessage orEmpty (← text w))
      else pure [inWord p name quoted (value.getD "")]
    | .andThen orEmpty w => if isMissing orEmpty value then pure [] else other w
    | .cut atEnd longest w => do
      let v ← needed name value
      let pattern := patternOf p.dividers (← (atHome p w).flatMapM (expand fuel))
      pure [valued quoted (Bytes.lossyText (pattern.cut atEnd longest (Bytes.ofText v)))]
  | fuel + 1, .arithmetic expression quoted => do
    let es ← expression.flatMapM (expand fuel)
    pure [valued quoted (← calculate (undivided (← get).self.dividers es))]
  | fuel + 1, .output script quoted => do
    let before := (← get).self
    let body : Run Flow := do
      change fun p => { p with tested := false }
      concluded fuel (execute fuel true script)
    let (killer, bs) ← (collected (inChild body) : Run (Option Nat × Bytes))
    mournAll [killer]
    -- the status is set aside, for a command that turns out to have no words
    change fun p => { p with outputStatus := p.status, status := before.status }
    let kept := (bs.filter (· != 0)).reverse.dropWhile (· == 10)
    pure [valued quoted (Bytes.lossyText kept.reverse)]
  | _ + 1, .unreadable => refuse "Bad substitution"

/-- The text of a word that is not divided. -/
def wordText : Nat → Word → Trying String
  | 0, _ => throw ()
  | fuel + 1, w => do
    let p := (← get).self
    let es ← (atHome p w).flatMapM (expand fuel)
    pure (undivided p.dividers es)

/-- The value of an assignment. -/
def assignedText : Nat → Word → Trying String
  | 0, _ => throw ()
  | fuel + 1, w => do
    let p := (← get).self
    let es ← (atHomes p w).flatMapM (expand fuel)
    pure (undivided p.dividers es)

/-- The fields of words. -/
def wordFields : Nat → List Word → Trying (List String)
  | 0, _ => throw ()
  | fuel + 1, ws => ws.flatMapM fun w => do
    let p := (← get).self
    let es ← (atHome p w).flatMapM (expand fuel)
    pure (namesOf (← get) (Fields.ofWord p.dividers es))

/-- The fields of a command. The arguments of some commands are not divided if they are
assignments. -/
def commandFields : Nat → List Word → Trying (List String)
  | 0, _ => throw ()
  | fuel + 1, ws => do
    match ws with
    | [] => pure []
    | w :: rest =>
      let first ← wordFields fuel [w]
      if first.head?.any assigners.contains then
        let others ← rest.flatMapM fun w => do
          if looksAssigned w then
            let p := (← get).self
            let es ← (atHomeBehindSign p w).flatMapM (expand fuel)
            pure [undivided p.dividers es]
          else wordFields fuel [w]
        pure (first ++ others)
      else do pure (first ++ (← wordFields fuel rest))

/-- The redirections of a command, with the names that their words stand for. -/
def redirectNames : Nat → List Redirect → Trying (List (Redirect × String))
  | 0, _ => throw ()
  | fuel + 1, rs => rs.mapM fun r => do
    match r with
    | .lead _ .here _ => pure (r, "")
    | .lead _ _ target => do pure (r, ← wordText fuel target)

/-- Leads streams one after another. A text behind a line is expanded when its turn comes, so a
failure in it is a failure of the redirection. -/
def leadStreams : Nat → List (Redirect × String) → Trying Unit
  | 0, _ => throw ()
  | fuel + 1, targets => targets.forM fun (r, name) => do
    match r with
    | .lead stream .here text =>
      let es ← text.flatMapM (expand fuel)
      leadStream stream .here (undivided (← get).self.dividers es)
    | .lead stream direction _ => leadStream stream direction name

/-- Runs the texts of signals that have arrived. -/
def runDue : Nat → Run Flow
  | 0 => pure .next
  | fuel + 1 => do
    let p := (← get).self
    match p.due with
    | [] => pure .next
    | s :: rest =>
      -- the text sees the status from before the signal, and leaves it as it was
      change fun q => { q with due := rest, interrupted := some p.status }
      let flow ← runScript (execute fuel) false (p.traps.getD s "")
      change fun q => { q with interrupted := p.interrupted }
      match flow with
      | .next =>
        setStatus p.status
        runDue fuel
      | _ => pure flow

/-- What happens after a command: signals are taken, the end of a child is told, and a failure may
end the script. -/
def afterwards : Nat → Bool → Option Nat → Flow → Run Flow
  | 0, _, _, flow => pure flow
  | fuel + 1, last, killer, flow => do
    match ← settle with
    | some s => pure (.killed s)
    | none =>
      let p := (← get).self
      match killer with
      | some s =>
        if last && !p.hasHandlers then return .killed s
        mourn s
      | none => pure ()
      match ← runDue fuel with
      | .next =>
        let q := (← get).self
        if flow == .next && q.has 'e' && !q.tested && q.status != 0 then pure .exited
        else pure flow
      | other => pure other

/-- Runs a body to its end, with what is to be done at the end of the script. -/
def concluded : Nat → Run Flow → Run Flow
  | 0, body => body
  | fuel + 1, body => do
    match ← body with
    | .killed s => pure (.killed s)
    | _ =>
      let p := (← get).self
      match p.traps.get? 0 with
      | none => pure .exited
      | some text =>
        change fun q => { q with
          traps := q.traps.erase 0, interrupted := some p.status, loops := 0 }
        match ← runScript (execute fuel) false text with
        | .killed s => pure (.killed s)
        | .next =>
          setStatus p.status
          pure .exited
        | _ => pure .exited

/-- Runs an interpreter in the process. -/
def interpret : Nat → Environment → String → List String → Run Flow
  | 0, _, _, _ => tooDeeplyNested
  | fuel + 1, env, shown, args => do
    change fun p => { p with
      shell := p.pid, vars := firstVariables env p.cwd, frames := [], functions := Table.empty
      aliases := Table.empty, tracked := Table.empty, depth := 0, options := [], letter := 0
      status := 0, due := [], jobs := [], lastJob := none, loops := 0, present := none
      traps := p.traps.filter fun _ text => text.isEmpty
      interrupted := none, tested := false, name := shown, args := [], line := 0 }
    concluded fuel (orExit do
      let session ← readSession shown (args.length + 1) false false args
      let m ← get
      let named : Run Unit := change fun p => { p with
        name := session.name, args := session.args, line := 1 }
      match session.text, session.file with
      | some text, _ =>
        named
        runScript (execute fuel) false text
      | none, some file =>
        match m.world.disk.read (m.self.cwd.join ⟨file⟩) with
        | .ok content =>
          named
          runScript (execute fuel) false (Bytes.lossyText content.toBytes)
        | .error fault =>
          refuse ("cannot open " ++ file ++ ": "
            ++ if leadsNowhere fault then "No such file" else reason fault)
      | none, none =>
        named
        let input ← pendingInput
        leaveInput []
        runScript (execute fuel) false (Bytes.lossyText input))

/-- Finds a program for a tool that starts others, and runs it. -/
def startNamed : Nat → Environment → String → List String → Run Flow
  | 0, _, _, _ => tooDeeplyNested
  | fuel + 1, env, starter, command => do
    match command with
    | [] => pure .exited
    | name :: args =>
      let m ← get
      match (m.world.program env m.self.cwd name).bind fun p =>
          m.world.resolve mostInterpreters p name args with
      | .ok (tool, shown, args) => start fuel env tool shown args
      | .error fault =>
        finishTool (.failing (if fault == .denied then 126 else 127)
          (starter ++ ": " ++ shownStart starter name ++ ": " ++ reason fault))

/-- Carries out a program over records, whose commands are scripts. -/
def records : Nat → Environment → String → List String → Run Flow
  | 0, _, _, _ => tooDeeplyNested
  | fuel + 1, env, shown, args =>
    let name := (shown.splitOn "/").getLastD shown
    Awk.command name env (fun shell text =>
      inChild (start fuel env "sh" shell ["-c", Bytes.lossyText text])) args

/-- Runs a tool with its arguments in the process. -/
def start : Nat → Environment → String → String → List String → Run Flow
  | 0, _, _, _, _ => tooDeeplyNested
  | fuel + 1, env, tool, shown, args => do
    match ← spend programTime with
    | some s => pure (.killed s)
    | none =>
      if interpreters.contains tool then interpret fuel env shown args
      else
        match tool with
        | "sleep" => pauseFor shown args
        | "which" => locateAll env args
        | "env" =>
          let (env, command) := readSettings (args.length + 1) env args
          if command.isEmpty then useTool env "printenv" shown []
          else startNamed fuel env shown command
        | "nohup" => startNamed fuel env shown args
        | "setsid" => startNamed fuel env shown args
        | "nice" =>
          let command := match args with
            | "-n" :: _ :: rest => rest
            | _ => args
          if command.isEmpty then finishTool (.printing "0\n")
          else startNamed fuel env shown command
        | "timeout" =>
          match readLimit args with
          | .error why => misuse shown why 125
          | .ok limit =>
            let now := (← get).self.now
            let stop := (now + limit.time, limit.signal)
            let killer ← inChild (do
              if 0 < limit.time then
                change fun p => { p with
                  alarms := (p.alarms ++ [stop]).mergeSort fun a b => a.1 ≤ b.1 }
              startNamed fuel env shown limit.command)
            let late : Bool := killer == some limit.signal && stop.1 ≤ (← get).self.now
            if late && limit.verbose then
              complain (shown ++ ": sending signal " ++ signalWords.getD (limit.signal - 1) ""
                ++ " to command '" ++ limit.command.headD "" ++ "'")
            match killer with
            | some s =>
              if late && s != killSignal then
                setStatus (if limit.keepsStatus then 128 + s else 124)
                pure .exited
              else pure (.killed s)
            | none => pure .exited
        | "find" =>
          match FindPlan.read (← get).view args with
          | .error why => finishTool (.failing 1 (shown ++ ": " ++ why))
          | .ok plan =>
            plan.run shown fun folder command => do
              let killer ← inChild (do
                change fun p => { p with cwd := folder.getD p.cwd }
                startNamed fuel env shown command)
              pure (killer.isNone && (← get).self.status == 0)
        | "awk" => records fuel env shown args
        | "mawk" => records fuel env shown args
        | "nawk" => records fuel env shown args
        | "xargs" =>
          let source := readArgSource (args.length + 1) {} args
          let input ← pendingInput
          leaveInput []
          let empty ← openSource []
          change fun p => { p with streams := p.streams.insert 0 (.source empty) }
          let statuses ← (source.commands input).mapM fun command => do
            if source.trace then complain (" ".intercalate command)
            let killer ← inChild (startNamed fuel env shown command)
            let status := (← get).self.status
            pure (if killer.isSome then 125 else status)
          let worst := if statuses.any (· == 127) then 127
            else if statuses.any (· == 126) then 126
            else if statuses.any (· == 255) then 124
            else if statuses.any (· != 0) then 123 else 0
          setStatus worst
          pure .exited
        | _ => useTool env tool shown args

/-- Finds a program and runs it in a child, or in place of the process. The result is the signal
that ended the child. -/
def launch : Nat → Bool → List String → Trying (Option Nat × Flow)
  | 0, _, _ => throw ()
  | _ + 1, _, [] => pure (none, .next)
  | fuel + 1, inPlace, name :: args => do
    let m ← get
    let env := m.self.environment
    let found := m.world.find env m.self.cwd name
    match found.bind fun p => m.world.resolve mostInterpreters p.2 name args with
    | .error fault =>
      let refused := fault.kind == .permissionDenied
      warn (name ++ if refused then ": Permission denied" else ": not found")
      setStatus (if refused then 126 else 127)
      pure (none, if inPlace then .exited else .next)
    | .ok (tool, shown, args) =>
      if inPlace then
        change fun p => { p with traps := p.traps.filter fun _ text => text.isEmpty }
        pure (none, ← (start fuel env tool shown args : Run Flow))
      else
        match found with
        | .ok (path, _) =>
          if !name.toList.contains '/' then
            change fun p => { p with tracked := p.tracked.insert name path.text }
        | .error _ => pure ()
        pure (← (inChild (start fuel env tool shown args) : Run (Option Nat)), .next)

/-- Calls a function. -/
def callFunction : Nat → Command → List String → Trying Flow
  | 0, _, _ => throw ()
  | fuel + 1, body, args => do
    let before := (← get).self
    if mostFunctions ≤ before.depth then
      refuse ("Maximum function recursion depth (" ++ toString mostFunctions ++ ") reached")
    else
      openFrame
      change fun p => { p with args := args, letter := 0, loops := 0, depth := p.depth + 1 }
      let flow ← (execute fuel false body : Run Flow)
      closeFrame
      change fun p => { p with
        args := before.args, letter := before.letter, loops := before.loops
        depth := before.depth }
      pure (if flow == .returned then .next else flow)

/-- Reads in a script and runs it in the process. -/
def readIn : Nat → List String → Trying Flow
  | 0, _ => throw ()
  | _ + 1, [] => do
    setStatus 0
    pure .next
  | fuel + 1, file :: _ => do
    let m ← get
    let found := if file.toList.contains '/' then some (m.self.cwd.join ⟨file⟩)
      else (((m.self.valueOf? "PATH").getD standardFolders).splitOn ":").findSome? fun folder =>
        let path := (m.self.cwd.join ⟨folder⟩).child file
        if m.world.disk.isFile path then some path else none
    match found with
    | none => refuse (file ++ ": not found")
    | some path =>
      match m.world.disk.read path with
      | .error fault =>
        refuse ("cannot open " ++ file ++ ": "
          ++ if leadsNowhere fault then "No such file" else reason fault)
      | .ok content =>
        let shown := if file.toList.contains '/' then file else path.text
        change fun p => { p with present := some shown }
        setStatus 0
        let flow ← (runScript (execute fuel) false (Bytes.lossyText content.toBytes) : Run Flow)
        pure (if flow == .returned then .next else flow)

/-- Carries out the words of a command. Functions may be passed over. -/
def carryOut : Nat → Bool → List String → Trying (Option Nat × Flow)
  | 0, _, _ => throw ()
  | _ + 1, _, [] => do
    setStatus (← get).self.outputStatus
    pure (none, .next)
  | fuel + 1, passOver, name :: args => do
    change fun p => { p with now := p.now + builtinTime }
    let p := (← get).self
    let within (body : Trying (Option Nat × Flow)) : Trying (Option Nat × Flow) := do
      change fun q => { q with present := some name }
      let result ← attempt body
      change fun q => { q with present := p.present }
      match result with
      | some r => pure r
      | none => if isFatal name && !passOver then throw () else pure (none, .next)
    match (if passOver || specialNames.contains name then none else p.functions.get? name) with
    | some body => do pure (none, ← callFunction fuel body args)
    | none =>
      match name, builtin? name with
      | _, some body => within (do pure (none, ← body args))
      | "command", none =>
        match behindCommand args with
        | (some letter, names) => within (do
            nameBuiltin (letter == 'V') names
            pure (none, .next))
        | (none, []) => do
          setStatus 0
          pure (none, .next)
        | (none, rest) => carryOut fuel true rest
      | "eval", none => within (do
          setStatus 0
          pure (none, ← (runScript (execute fuel) false (" ".intercalate args) : Run Flow)))
      | ".", none => within (do pure (none, ← readIn fuel args))
      | "exec", none =>
        if args.isEmpty then do
          setStatus 0
          pure (none, .next)
        else within (launch fuel true args)
      | _, none => launch fuel false (name :: args)

/-- Carries out a command without structure. -/
def simply : Nat → Bool → List (String × Word) → List Word → List Redirect → Trying Flow
  | 0, _, _, _, _ => throw ()
  | fuel + 1, last, assigned, words, redirects => do
    change fun p => { p with outputStatus := 0 }
    let fields ← commandFields fuel words
    let targets ← redirectNames fuel redirects
    let before := (← get).self.streams
    let restore : Run Unit := change fun p => { p with streams := before }
    match ← attempt (leadStreams fuel targets) with
    | none =>
      restore
      if isFatal fields.head? then throw ()
      else (afterwards fuel last none .next : Run Flow)
    | some () =>
      let isBare := fields.isEmpty
      let stays := isBare || isFatal fields.head?
      if !stays then openFrame
      let settings ← assigned.mapM fun a => do
        let v ← assignedText fuel a.2
        if !stays then
          keepOuter a.1
          assignExported a.1 v
        else assign a.1 v
        pure (a.1 ++ "=" ++ v)
      traceCommand before settings fields
      if isBare then change fun p => { p with now := p.now + builtinTime }
      let (killer, flow) ← carryOut fuel false fields
      if !stays then closeFrame
      if fields != ["exec"] && fields != ["command", "exec"] then restore
      match flow with
      | .killed s => pure (.killed s)
      | _ => (afterwards fuel last killer flow : Run Flow)

/-- Runs a body with redirections. -/
def redirected : Nat → Nat → List Redirect → Run Flow → Trying Flow
  | 0, _, _, _ => throw ()
  | fuel + 1, line, redirects, body => do
    if redirects.isEmpty then (body : Run Flow)
    else
      change fun p => { p with line := line }
      let targets ← redirectNames fuel redirects
      let before := (← get).self.streams
      let led ← attempt (leadStreams fuel targets)
      let flow ← match led with
        | some () => (body : Run Flow)
        | none => (afterwards fuel false none .next : Run Flow)
      change fun p => { p with streams := before }
      pure flow

/-- Carries out a command. The last command of a script may take the place of the process. -/
def execute : Nat → Bool → Command → Run Flow
  | 0, _, _ => tooDeeplyNested
  | fuel + 1, last, .simple line assigned words redirects => do
    if (← get).self.has 'n' then return .next
    change fun p => { p with line := line }
    orExit (simply fuel last assigned words redirects)
  | fuel + 1, _, .pipe parts => do
    mournAll (← inLine (fun c => concluded fuel (execute fuel true c)) parts)
    afterwards fuel false none .next
  | fuel + 1, _, .negated body => do
    match ← askedFor (execute fuel false body) with
    | .next =>
      setStatus (if (← get).self.status == 0 then 1 else 0)
      pure .next
    | flow => pure flow
  | fuel + 1, last, .both first second => do
    match ← askedFor (execute fuel false first) with
    | .next => if (← get).self.status == 0 then execute fuel last second else pure .next
    | flow => pure flow
  | fuel + 1, last, .either first second => do
    match ← askedFor (execute fuel false first) with
    | .next => if (← get).self.status == 0 then pure .next else execute fuel last second
    | flow => pure flow
  | fuel + 1, last, .sequence parts => inOrder (execute fuel) last parts
  | fuel + 1, _, .background body => do
    let parent := (← get).self
    let pid ← freshNumber
    let source ← openSource []
    change fun p => { p with
      job := pid, alarms := [], tested := false
      streams := p.streams.insert 0 (.source source) }
    let killer ← inChildAs pid (concluded fuel (execute fuel true body))
    let child := (← get).self
    let job : Job := ⟨pid, child.now, child.status, killer⟩
    change fun _ => { parent with jobs := parent.jobs ++ [job], lastJob := some pid }
    setStatus 0
    pure .next
  | fuel + 1, last, .branch condition body otherwise => do
    match ← askedFor (execute fuel false condition) with
    | .next =>
      if (← get).self.status == 0 then execute fuel last body
      else
        setStatus 0
        execute fuel last otherwise
    | flow => pure flow
  | fuel + 1, _, .loop wanted condition body =>
    repeatWhile wanted (execute fuel false condition) (execute fuel false body)
  | fuel + 1, _, .each line name words body => do
    change fun p => { p with line := line }
    orExit do
      let values ← wordFields fuel words
      setStatus 0
      (inLoop (orExit (forEach name (execute fuel false body) values)) : Run Flow)
  | fuel + 1, last, .choice line subject cases => do
    change fun p => { p with line := line }
    orExit do
      let text ← wordText fuel subject
      let chosen ← cases.findM? fun c =>
        c.1.anyM fun w => do
          let p := (← get).self
          let pattern := patternOf p.dividers (← (atHome p w).flatMapM (expand fuel))
          pure (pattern.fits (Bytes.ofText text))
      match chosen with
      | some (_, .sequence []) =>
        setStatus 0
        pure .next
      | some (_, body) => (execute fuel last body : Run Flow)
      | none =>
        setStatus 0
        pure .next
  | fuel + 1, _, .group line body redirects =>
    orExit (redirected fuel line redirects (execute fuel false body))
  | fuel + 1, last, .subshell line body redirects =>
    orExit (redirected fuel line redirects do
      let killer ← inChild (concluded fuel (execute fuel true body))
      afterwards fuel last killer .next)
  | _ + 1, _, .define name body => do
    change fun p => { p with functions := p.functions.insert name body, status := 0 }
    pure .next

end

/-! ## Layer C: whole runs -/

/-- How deep the parts of a run may be nested. -/
def runDepth : Nat := 20000

/-- **Runs a tool with its arguments as the first process of a world.** -/
def World.perform (w : World) (self : Process) (env : Environment) (tool shown : String)
    (args : List String) : Flow × Machine :=
  (start runDepth env tool shown args).run ⟨w, self⟩

end Shell

end CodeAtlas
