import CodeAtlas.Shell.Tools

/-!
# Programs

A program is a tool of the system or a file that may be run. Files are scripts; their first line may
name the program that interprets them.
-/

namespace CodeAtlas

namespace Shell

/-- **A program that was found.** -/
inductive Program where
  | tool (name : String)
  /-- A file with the text of a script. -/
  | script (path : Path) (text : String)
  deriving Repr, DecidableEq, Inhabited

/-- A program under a path that leads to it. -/
def Program.at_ (p : Program) (path : Path) : Program :=
  match p with
  | tool name => .tool name
  | script _ text => .script path text

/-- The names under which scripts are interpreted. -/
def interpreters : List String := ["sh", "dash", "bash"]

/-- The names of tools that wait or start others. -/
def drivers : List String :=
  ["sleep", "env", "xargs", "find", "awk", "mawk", "nawk", "timeout", "nohup", "nice", "setsid",
   "which"]

/-- The names of all tools of the system. -/
def systemTools : List String := toolNames ++ interpreters ++ drivers

/-- Where programs are looked for unless another list is set. -/
def standardFolders : String := "/usr/local/sbin:/usr/local/bin:/usr/sbin:/usr/bin:/sbin:/bin"

namespace World

/-- The tool of the system at a path, if there is one. -/
def tool? (p : Path) : Option Program := do
  let p := p.normalize
  let name ← p.fileName?
  let folder ← p.parent?
  if systemFolders.any (·.same folder) && systemTools.contains name then some (.tool name) else none

/-- The program at a path. A file that is not marked may not be run, nor may a folder. -/
def programAt (w : World) (p : Path) : Except IoFault Program := do
  match tool? p with
  | some t => if (Disk.steps p).getLast? == some "." then throw .notDirectory else pure t
  | none =>
    if systemPlaces.any (·.same p.normalize) then throw .denied
    let spot ← w.disk.locate true p
    match spot.entry with
    | none => throw .noEntry
    | some (.file content) =>
      if w.facts.modeOf spot.place (.file content) &&& 73 != 0 then
        pure (.script p (Bytes.lossyText content.toBytes))
      else throw .denied
    | some _ => throw .denied

/-- Looks for a program in one folder after another. A program that may not be run is remembered
while others are looked for. -/
def search (w : World) (name : String) (cwd : Path) : Option IoFault → List String →
    Except IoFault (Path × Program)
  | refused, [] => .error (refused.getD .noEntry)
  | refused, folder :: rest =>
    let shown : Path := if folder.isEmpty then ⟨name⟩ else (⟨folder⟩ : Path).child name
    match w.programAt (cwd.join shown) with
    | .ok p => .ok (shown, p.at_ shown)
    | .error fault =>
      w.search name cwd (if fault.kind == .permissionDenied then some fault else refused) rest

/-- **The program with a name**, and where it is. Names with a separator are paths; the others are
looked for in the folders that `PATH` lists. -/
def find (w : World) (env : Environment) (cwd : Path) (name : String) :
    Except IoFault (Path × Program) :=
  if name.isEmpty then .error .noEntry
  else if name.toList.contains '/' then
    (w.programAt (cwd.join ⟨name⟩)).map fun p => (⟨name⟩, p.at_ ⟨name⟩)
  else w.search name cwd none (((env.get? "PATH").getD standardFolders).splitOn ":")

/-- The program with a name. -/
def program (w : World) (env : Environment) (cwd : Path) (name : String) :
    Except IoFault Program := (w.find env cwd name).map (·.2)

end World

/-- The program and the argument in the first line of a script, if it names one. -/
def interpreterLine? (text : String) : Option (String × List String) :=
  match text.toList with
  | '#' :: '!' :: rest =>
    let blank (c : Char) : Bool := c == ' ' || c == '\t'
    let line := (rest.takeWhile (· != '\n')).dropWhile blank
    let name := line.takeWhile fun c => !blank c
    let arg := (((line.drop name.length).dropWhile blank).reverse.dropWhile blank).reverse
    some (String.ofList name, if arg.isEmpty then [] else [String.ofList arg])
  | _ => none

/-- What is run for a program: interpreters are looked up until a tool is reached. The result is the
tool with its name and arguments. -/
def World.resolve (w : World) : Nat → Program → String → List String →
    Except IoFault (String × String × List String)
  | 0, _, _, _ => .error .linkLoop
  | _ + 1, .tool name, shown, args => .ok (name, shown, args)
  | fuel + 1, .script path text, _, args =>
    match interpreterLine? text with
    | none => .ok ("sh", "sh", path.text :: args)
    | some (name, arg) =>
      match w.programAt ⟨name⟩ with
      | .ok p => w.resolve fuel p name (arg ++ path.text :: args)
      | .error fault => .error fault

/-- How many interpreters are looked up for one program. -/
def mostInterpreters : Nat := 5

end Shell

end CodeAtlas
