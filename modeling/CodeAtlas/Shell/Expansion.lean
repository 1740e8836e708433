import CodeAtlas.Shell.Arithmetic
import CodeAtlas.Shell.Variables

/-!
# What words stand for

The steps of the expansion of words that need no further commands to be run.

## Architecture

- **Layer A**: the home folder;
- **Layer B**: values of parameters;
- **Layer C**: numbers;
- **Layer D**: fields and names of files.
-/

namespace CodeAtlas

namespace Shell

/-! ## Layer A: the home folder -/

/-- The folder that a sign for a home folder stands for, by what is written behind the sign. -/
def homeOf (p : Process) (user : String) : Option String :=
  if user.isEmpty then p.valueOf? "HOME" else if user == "root" then some "/root" else none

/-- Replaces the sign for a home folder at the start of a word. -/
def atHome (p : Process) (w : Word) : Word :=
  match w with
  | .text s false :: rest =>
    match s.toList with
    | '~' :: cs =>
      let user := cs.takeWhile (· != '/')
      if user.length == cs.length && !rest.isEmpty then w
      else
        match homeOf p (String.ofList user) with
        | some home =>
          .text home true :: .text (String.ofList (cs.drop user.length)) false :: rest
        | none => w
    | _ => w
  | _ => w

/-- Replaces the signs for home folders at the start of a value and behind colons. -/
def atHomes (p : Process) (w : Word) : Word :=
  match w with
  | .text s false :: rest =>
    let parts := s.splitOn ":"
    let isLast (i : Nat) : Bool := i + 1 == parts.length
    let replaced := (parts.zipIdx).flatMap fun (part, i) =>
      let colon : Word := if i == 0 then [] else [.text ":" false]
      colon ++ if isLast i then atHome p (.text part false :: rest) else atHome p [.text part false]
    replaced
  | _ => atHome p w

/-! ## Layer B: values -/

/-- A value in a word. -/
def valued (quoted : Bool) (s : String) : Expanded := if quoted then .quoted s else .result s

/-- All arguments in a word. -/
def allArgs (p : Process) (name : String) (quoted : Bool) : Expanded :=
  if quoted && name == "*" then .quoted (p.dividers.joint.intercalate p.args)
  else .each p.args quoted

/-- Whether a name stands for all arguments. -/
def isAllArgs (name : String) : Bool := name == "@" || name == "*"

/-- The value of a parameter in a word. -/
def inWord (p : Process) (name : String) (quoted : Bool) (value : String) : Expanded :=
  if isAllArgs name then allArgs p name quoted else valued quoted value

/-- Refuses a parameter without a value if that is asked for. -/
def needed (name : String) (value : Option String) : Trying String := do
  match value with
  | some v => pure v
  | none =>
    if (← get).self.has 'u' && !isAllArgs name then refuse (name ++ ": parameter not set")
    else pure ""

/-- Whether a value is missing; an empty one may count as such. -/
def isMissing (orEmpty : Bool) (value : Option String) : Bool :=
  match value with
  | none => true
  | some v => orEmpty && v.isEmpty

/-- The message about a parameter without a value. -/
def missingMessage (orEmpty : Bool) (message : String) : String :=
  if !message.isEmpty then message
  else if orEmpty then "parameter not set or null" else "parameter not set"

/-! ## Layer C: numbers -/

/-- The value of an expression over numbers. Variables may be set by the way. -/
def calculate (text : String) : Trying String := do
  let p := (← get).self
  match arithmetic (fun name => (p.parameter? name).getD "") text with
  | .ok (n, updates) =>
    updates.forM fun u => assign u.1 (toString u.2)
    pure (toString n)
  | .error (.wrong why) => refuse ("arithmetic expression: " ++ why ++ ": \"" ++ text ++ "\"")
  | .error (.noNumber t) => refuse ("Illegal number: " ++ t)

/-! ## Layer D: fields -/

/-- The texts of the fields of a word; fields that are patterns become the names of files that fit,
if there are some. -/
def namesOf (m : Machine) (fields : List Glob) : List String :=
  fields.flatMap fun g =>
    let text := Bytes.lossyText g.toBytes
    if m.self.has 'f' || !g.isActive then [text]
    else
      let found := pathsFor m.world.disk m.self.cwd g
      if found.isEmpty then [text] else found

end Shell

end CodeAtlas
