import CodeAtlas.Shell.Builtins.Basic
import CodeAtlas.Shell.Source

/-!
# Commands of the shell about names

Variables, arguments, options, the folder of the process, and what a name stands for.

## Architecture

- **Layer A**: variables;
- **Layer B**: options and arguments;
- **Layer C**: folders and limits;
- **Layer D**: what names stand for.
-/

namespace CodeAtlas

namespace Shell

/-! ## Layer A: variables -/

/-- A name and the value behind it, if there is one. -/
def settingOf (arg : String) : String × Option String :=
  let name := arg.toList.takeWhile (· != '=')
  if arg.toList.contains '=' then
    (String.ofList name, some (String.ofList (arg.toList.drop (name.length + 1))))
  else (arg, none)

/-- Refuses what is no name. -/
def checkName (name : String) : Trying Unit :=
  if isName name then pure () else refuse (name ++ ": bad variable name")

/-- A variable as it would be set again. -/
def shownVariable (command name : String) (v : Variable) : String :=
  command ++ (if command.isEmpty then "" else " ") ++ name
    ++ match v.value with
      | some s => "=" ++ quotedText s
      | none => ""

/-- Changes variables, which may be set by the way, or shows those that are changed like this. -/
def markVariables (command : String) (isMarked : Variable → Bool)
    (mark : Variable → Variable) (args : List String) : Trying Unit := do
  let (options, names) ← optionsOf "p" "" args
  if names.isEmpty || !options.isEmpty then
    ((← get).self.vars.entries.filter fun e => isMarked e.2).forM fun e =>
      sayLine (shownVariable command e.1 e.2)
  else
    names.forM fun arg => do
      let (name, value) := settingOf arg
      checkName name
      match value with
      | some v => assign name v
      | none => pure ()
      let before := ((← get).self.vars.get? name).getD ⟨none, false, false⟩
      change fun p => { p with vars := p.vars.insert name (mark before) }
  setStatus 0

/-- Lets programs see variables. -/
def exportBuiltin : List String → Trying Unit :=
  markVariables "export" (·.exported) fun v => { v with exported := true }

/-- Fixes variables. -/
def readonlyBuiltin : List String → Trying Unit :=
  markVariables "readonly" (·.fixed) fun v => { v with fixed := true }

/-- Makes variables of the function that is running. -/
def localBuiltin (args : List String) : Trying Unit := do
  if (← get).self.frames.isEmpty then refuse "not in a function"
  else
    args.forM fun arg => do
      let (name, value) := settingOf arg
      checkName name
      keepOuter name
      match value with
      | some v => assign name v
      | none => pure ()
    setStatus 0

/-- Removes variables or functions. -/
def unsetBuiltin (args : List String) : Trying Unit := do
  let (options, names) ← optionsOf "vf" "" args
  let functions := (options.getLast?.map (·.1)) == some 'f'
  names.forM fun name => do
    if functions then change fun p => { p with functions := p.functions.erase name }
    else
      checkName name
      unassign name
  setStatus 0

/-! ## Layer B: options and arguments -/

/-- The options by name, with their letters. -/
def optionNames : List (String × Char) :=
  [("errexit", 'e'), ("noglob", 'f'), ("ignoreeof", 'I'), ("interactive", 'i'), ("monitor", 'm'),
   ("noexec", 'n'), ("stdin", 's'), ("xtrace", 'x'), ("verbose", 'v'), ("vi", 'V'), ("emacs", 'E'),
   ("noclobber", 'C'), ("allexport", 'a'), ("notify", 'b'), ("nounset", 'u'), ("nolog", 'L'),
   ("debug", 'D')]

/-- Sets an option or takes it back. -/
def setOption (letter : Char) (on : Bool) : Run Unit :=
  change fun p =>
    let others := p.options.filter (· != letter)
    { p with options := if on then letter :: others else others }

/-- Prints which options are set. -/
def showOptions (on : Bool) : Run Unit := do
  let p := (← get).self
  if on then
    sayLine "Current option settings"
    optionNames.forM fun o =>
      sayLine (o.1 ++ String.ofList (List.replicate (16 - o.1.length) ' ')
        ++ if p.has o.2 then "on" else "off")
  else optionNames.forM fun o => sayLine ((if p.has o.2 then "set -o " else "set +o ") ++ o.1)

/-- Sets the option with a name. -/
def setNamedOption (name : Option String) (on : Bool) : Trying Unit := do
  match name with
  | none => showOptions on
  | some s =>
    match optionNames.lookup s with
    | some letter => setOption letter on
    | none => refuse ("Illegal option -o " ++ s)

/-- Sets the options that letters name. The result is what is left of the arguments. -/
def setLetters (on : Bool) : List Char → List String → Trying (List String)
  | [], rest => pure rest
  | 'o' :: cs, rest => do
    setNamedOption rest.head? on
    setLetters on cs (rest.drop 1)
  | c :: cs, rest => do
    if optionLetters.contains c then setOption c on
    else refuse ("Illegal option -" ++ String.singleton c)
    setLetters on cs rest

/-- Sets options. The result is what is left, if it replaces the arguments. -/
def setOptions : Nat → List String → Trying (Option (List String))
  | 0, _ => pure none
  | _ + 1, [] => pure none
  | fuel + 1, a :: rest => do
    match a.toList with
    | ['-'] =>
      setOption 'x' false
      setOption 'v' false
      pure (if rest.isEmpty then none else some rest)
    | ['-', '-'] => pure (some rest)
    | '-' :: cs => setOptions fuel (← setLetters true cs rest)
    | '+' :: cs => setOptions fuel (← setLetters false cs rest)
    | _ => pure (some (a :: rest))

/-- Shows variables, or sets options and arguments. -/
def setBuiltin (args : List String) : Trying Unit := do
  if args.isEmpty then
    ((← get).self.vars.entries.filter fun e => e.2.value.isSome).forM fun e =>
      sayLine (shownVariable "" e.1 e.2)
  else
    match ← setOptions (args.length + 1) args with
    | some rest => change fun p => { p with args := rest, letter := 0 }
    | none => pure ()
  setStatus 0

/-- Drops arguments from the front. -/
def shiftBuiltin (args : List String) : Trying Unit := do
  let n ← match args with
    | [] => pure 1
    | a :: _ => numberArg a
  if (← get).self.args.length < n then refuse "can't shift that many"
  else
    change fun p => { p with args := p.args.drop n, letter := 0 }
    setStatus 0

/-- What the next option among arguments is. -/
structure NextOption where
  /-- The letter that is found; there is none behind the last option. -/
  letter : Option Char
  value : Option String := none
  /-- The number of the next argument, from one on. -/
  index : Nat
  /-- How far the last argument has been read; zero stands for none. -/
  within : Nat := 0
  message : Option String := none

/-- Finds the next option among arguments. -/
def nextOption (letters : List Char) (args : List String) (index within : Nat) : NextOption :=
  let quiet := letters.head? == some ':'
  let word := (args.getD (index - 2) "").toList
  let inside := 1 < index && 0 < within && within < word.length
  let here := args[index - 1]?
  let isOption := here.any fun a => a.startsWith "-" && a != "-"
  if !inside && here == some "--" then { letter := none, index := index + 1 }
  else if !inside && !isOption then { letter := none, index := index }
  else
    let word := if inside then word else (here.getD "").toList
    let index := if inside then index else index + 1
    let at_ := if inside then within else 1
    let c := word.getD at_ '?'
    let more := if at_ + 1 < word.length then at_ + 1 else 0
    let known := c != ':' && letters.contains c
    let valued := ((letters.dropWhile (· != c)).drop 1).head? == some ':'
    if !known then
      { letter := some '?', index := index, within := more
        value := if quiet then some (String.singleton c) else none
        message := if quiet then none else some ("Illegal option -" ++ String.singleton c) }
    else if !valued then { letter := some c, index := index, within := more, value := some "" }
    else if 0 < more then
      { letter := some c, index := index, value := some (String.ofList (word.drop more)) }
    else
      match args[index - 1]? with
      | some v => { letter := some c, index := index + 1, value := some v }
      | none =>
        { letter := some (if quiet then ':' else '?'), index := index
          value := if quiet then some (String.singleton c) else none
          message := if quiet then none
            else some ("No arg for -" ++ String.singleton c ++ " option") }

/-- Takes the next option off arguments. -/
def getoptsBuiltin : List String → Trying Unit
  | letters :: name :: args => do
    let p := (← get).self
    let args := if args.isEmpty then p.args else args
    let index := ((p.valueOf? "OPTIND").bind decimal?).getD 1
    let found := nextOption letters.toList args (max index 1) p.letter
    match found.message with
    | some m => complain m
    | none => pure ()
    match found.letter, found.value with
    | none, _ => pure ()
    | _, some v => assign "OPTARG" v
    | _, none => unassign "OPTARG"
    assign "OPTIND" (toString found.index)
    change fun p => { p with letter := found.within }
    checkName name
    assign name (String.singleton (found.letter.getD '?'))
    setStatus (if found.letter.isNone then 1 else 0)
  | _ => refuse "Usage: getopts optstring var [arg]"

/-! ## Layer C: folders and limits -/

/-- Goes to a folder. The result tells whether that was possible. -/
def enterFolder (physical : Bool) (target : String) : Trying Bool := do
  let m ← get
  let joined := m.self.cwd.join ⟨target⟩
  let path := if physical then joined else joined.normalize
  let canonical := m.world.disk.canonicalize path
  if m.world.disk.isFolder path || systemPlaces.any (·.same path) then
    let shown := match physical, canonical with
      | true, .ok p => p
      | _, _ => path
    assignExported "OLDPWD" m.self.cwd.text
    change fun q => { q with cwd := shown }
    assignExported "PWD" shown.text
    pure true
  else pure false

/-- Whether a path is looked for in other folders too. -/
def isSearched (target : String) : Bool :=
  match target.toList with
  | '/' :: _ => false
  | ['.'] => false
  | ['.', '.'] => false
  | '.' :: '/' :: _ => false
  | '.' :: '.' :: '/' :: _ => false
  | _ => true

/-- Goes to a folder. -/
def cdBuiltin (args : List String) : Trying Unit := do
  let (options, rest) ← optionsOf "LP" "" args
  let p := (← get).self
  let physical := options.getLast?.map (·.1) == some 'P'
  let back := rest.head? == some "-"
  let target := (match rest.head? with
    | none => p.valueOf? "HOME"
    | some "-" => p.valueOf? "OLDPWD"
    | some t => some t).getD ""
  let target := if target.isEmpty then "." else target
  let bases := if isSearched target then ((p.valueOf? "CDPATH").map fun s => s.splitOn ":").getD []
    else []
  let files := (← get).view
  let found := bases.find? fun b =>
    files.isFolder (if b.isEmpty then target else b ++ "/" ++ target)
  let (path, tell) := match found with
    | some b => if b.isEmpty then (target, false) else (b ++ "/" ++ target, true)
    | none => (target, false)
  if ← enterFolder physical path then
    if back || tell then sayLine (← get).self.cwd.text
    setStatus 0
  else refuse ("can't cd to " ++ target)

/-- Prints the folder. -/
def pwdBuiltin (args : List String) : Trying Unit := do
  let (options, _) ← optionsOf "LP" "" args
  let m ← get
  let physical := match m.world.disk.canonicalize m.self.cwd with
    | .ok p => p
    | .error _ => m.self.cwd
  sayLine (if options.getLast?.map (·.1) == some 'P' then physical else m.self.cwd).text
  setStatus 0

/-- The letters of three bits. -/
def permissionLetters (bits : Nat) : String :=
  (if bits &&& 4 != 0 then "r" else "") ++ (if bits &&& 2 != 0 then "w" else "")
    ++ if bits &&& 1 != 0 then "x" else ""

/-- Shows or sets the permissions that new files do not get. -/
def umaskBuiltin (args : List String) : Trying Unit := do
  let (options, rest) ← optionsOf "S" "" args
  let mask := (← get).self.mask
  match rest with
  | [] =>
    if options.isEmpty then
      let ds := Nat.toDigits 8 mask
      sayLine (String.ofList (List.replicate (4 - ds.length) '0' ++ ds))
    else
      let granted (shift : Nat) : String := permissionLetters (7 - mask / Nat.pow 8 shift % 8)
      sayLine ("u=" ++ granted 2 ++ ",g=" ++ granted 1 ++ ",o=" ++ granted 0)
  | mode :: _ =>
    if (mode.toList.head?).any Char.isDigit then
      if mode.toList.all isOctal then
        change fun p => { p with mask := valueIn 8 mode.toList % 512 }
      else refuse ("Illegal number: " ++ mode)
    else
      match Mode.read? mode with
      | some m => change fun p => { p with mask := 511 - m.apply 0 true (511 - p.mask) % 512 }
      | none => refuse ("Illegal mode: " ++ mode)
  setStatus 0

/-- Shows limits. None is set. -/
def ulimitBuiltin (args : List String) : Trying Unit := do
  let (_, rest) ← optionsOf "HSatfdscmlpnvwr" "" args
  if rest.isEmpty then sayLine "unlimited"
  setStatus 0

/-! ## Layer D: what names stand for -/

/-- The commands of the shell whose failure ends a script. -/
def specialNames : List String :=
  [".", ":", "break", "continue", "eval", "exec", "exit", "export", "local", "readonly", "return",
   "set", "shift", "times", "trap", "unset"]

/-- The other commands of the shell. -/
def otherNames : List String :=
  ["[", "alias", "bg", "cd", "chdir", "command", "echo", "false", "fg", "getopts", "hash", "jobs",
   "kill", "printf", "pwd", "read", "test", "true", "type", "ulimit", "umask", "unalias", "wait"]

/-- Shows or sets the texts that stand for words. -/
def aliasBuiltin (args : List String) : Trying Unit := do
  let shown (e : String × String) : String := e.1 ++ "=" ++ quotedText e.2
  setStatus 0
  if args.isEmpty then (← get).self.aliases.entries.forM fun e => sayLine (shown e)
  else
    args.forM fun a => do
      match settingOf a with
      | (name, some text) => change fun p => { p with aliases := p.aliases.insert name text }
      | (name, none) =>
        match (← get).self.aliases.get? name with
        | some text => sayLine (shown (name, text))
        | none =>
          complain ("alias: " ++ name ++ " not found")
          setStatus 1

/-- Removes texts that stand for words. -/
def unaliasBuiltin (args : List String) : Trying Unit := do
  let (options, names) ← optionsOf "a" "" args
  setStatus 0
  if !options.isEmpty then change fun p => { p with aliases := Table.empty }
  else
    names.forM fun name => do
      if (← get).self.aliases.contains name then
        change fun p => { p with aliases := p.aliases.erase name }
      else
        complain ("unalias: " ++ name ++ " not found")
        setStatus 1

/-- What a name stands for: in words, or so that it could be used. -/
def describe (verbose : Bool) (name : String) : Run (Option String) := do
  let m ← get
  let p := m.self
  let told (words short : String) : Option String :=
    some (if verbose then name ++ words else short)
  if keywords.contains name then pure (told " is a shell keyword" name)
  else
    match p.aliases.get? name with
    | some text =>
      pure (told (" is an alias for " ++ text) ("alias " ++ name ++ "=" ++ quotedText text))
    | none =>
      if specialNames.contains name then pure (told " is a special shell builtin" name)
      else if p.functions.contains name then pure (told " is a shell function" name)
      else if otherNames.contains name then pure (told " is a shell builtin" name)
      else if name.toList.contains '/' then
        pure (if m.view.has name || (World.tool? ⟨name⟩).isSome then told (" is " ++ name) name
          else none)
      else
        match p.tracked.get? name, m.world.find p.environment p.cwd name with
        | some path, _ => pure (told (" is a tracked alias for " ++ path) path)
        | none, .ok (path, _) =>
          change fun p => { p with tracked := p.tracked.insert name path.text }
          pure (told (" is " ++ path.text) path.text)
        | none, .error _ => pure none

/-- Tells what names stand for. -/
def typeBuiltin (args : List String) : Trying Unit := do
  setStatus 0
  args.forM fun name => do
    match ← describe true name with
    | some s => sayLine s
    | none =>
      sayLine (name ++ ": not found")
      setStatus 127

/-- Tells what one name stands for, in words or not. -/
def nameBuiltin (verbose : Bool) (names : List String) : Trying Unit := do
  match names with
  | [] => setStatus 0
  | name :: _ =>
    match ← describe verbose name with
    | some s =>
      sayLine s
      setStatus 0
    | none =>
      if verbose then sayLine (name ++ ": not found")
      setStatus 127

/-- Shows or forgets where programs were found. -/
def hashBuiltin (args : List String) : Trying Unit := do
  let (options, names) ← optionsOf "r" "" args
  setStatus 0
  if !options.isEmpty then change fun p => { p with tracked := Table.empty }
  else if names.isEmpty then (← get).self.tracked.values.forM fun s => sayLine s
  else
    names.forM fun name => do
      let m ← get
      match m.world.find m.self.environment m.self.cwd name with
      | .ok (path, _) => change fun p => { p with tracked := p.tracked.insert name path.text }
      | .error _ =>
        if !(specialNames ++ otherNames).contains name then
          warn (name ++ ": not found")
          setStatus 1

end Shell

end CodeAtlas
