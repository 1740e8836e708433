import CodeAtlas.Command.Basic
import CodeAtlas.Shell.Fields
import CodeAtlas.Shell.Machine

/-!
# Variables and messages

What parameters stand for, how variables are set, and what a script says when something is refused.

## Architecture

- **Layer A**: messages;
- **Layer B**: parameters;
- **Layer C**: changes.
-/

namespace CodeAtlas

namespace Shell

/-! ## Layer A: messages -/

/-- What may be refused. What was refused has been told, and the result has been set. -/
abbrev Trying := ExceptT Unit Run

/-- Prints a message about the present command. -/
def warn (message : String) : Run Unit := do
  let p := (← get).self
  let present := (p.present.map (· ++ ": ")).getD ""
  complain (p.name ++ ": " ++ toString p.line ++ ": " ++ present ++ message)

/-- Refuses something with a message. -/
def refuse {α : Type} (message : String) : Trying α := do
  warn message
  setStatus 2
  throw ()

/-! ## Layer B: parameters -/

/-- The letters of options in the order in which they are shown. -/
def optionLetters : List Char := "ubaCEVvxsnmiIfe".toList

namespace Process

/-- The value of a variable, if it has one. -/
def valueOf? (p : Process) (name : String) : Option String := (p.vars.get? name).bind (·.value)

/-- The bytes at which texts are divided. -/
def dividers (p : Process) : Dividers :=
  match p.valueOf? "IFS" with
  | some s => ⟨Bytes.ofText s⟩
  | none => .standard

/-- **The value of a parameter**, if it has one. -/
def parameter? (p : Process) (name : String) : Option String :=
  match name with
  | "?" => some (toString p.status)
  | "$" => some (toString p.shell)
  | "!" => p.lastJob.map toString
  | "#" => some (toString p.args.length)
  | "@" => if p.args.isEmpty then none else some (p.dividers.joint.intercalate p.args)
  | "*" => if p.args.isEmpty then none else some (p.dividers.joint.intercalate p.args)
  | "-" => some (String.ofList (optionLetters.filter p.has))
  | "0" => some p.name
  | _ =>
    if name.toList.all Char.isDigit then name.toNat?.bind fun n => p.args[n - 1]?
    else p.valueOf? name

/-- The variables that programs see. -/
def environment (p : Process) : Environment :=
  Table.ofList (p.vars.entries.filterMap fun e =>
    if e.2.exported then e.2.value.map fun v => (e.1, v) else none)

end Process

/-! ## Layer C: changes -/

/-- Puts a variable in its place. -/
def setVariable (name : String) (v : Variable) : Run Unit :=
  change fun p => { p with
    vars := p.vars.insert name v
    letter := if name == "OPTIND" then 0 else p.letter }

/-- **Sets a variable**, unless it is fixed. -/
def assign (name value : String) : Trying Unit := do
  let p := (← get).self
  let before := (p.vars.get? name).getD ⟨none, false, false⟩
  if before.fixed then refuse (name ++ ": is read only")
  else setVariable name { before with
    value := some value, exported := before.exported || p.has 'a' }

/-- Sets a variable that programs see. -/
def assignExported (name value : String) : Trying Unit := do
  assign name value
  change fun p => { p with
    vars := p.vars.alter name fun v => v.map fun v => { v with exported := true } }

/-- Removes a variable, unless it is fixed. -/
def unassign (name : String) : Trying Unit := do
  match (← get).self.vars.get? name with
  | some v =>
    if v.fixed then refuse (name ++ ": is read only")
    else change fun p => { p with vars := p.vars.erase name }
  | none => pure ()

/-- Keeps what a variable is outside of the function that is running. -/
def keepOuter (name : String) : Run Unit :=
  change fun p =>
    match p.frames with
    | [] => p
    | frame :: rest => { p with frames := ((name, p.vars.get? name) :: frame) :: rest }

/-- Opens a frame of variables. -/
def openFrame : Run Unit := change fun p => { p with frames := [] :: p.frames }

/-- Closes the innermost frame: its variables become again what they were. -/
def closeFrame : Run Unit :=
  change fun p =>
    match p.frames with
    | [] => p
    | frame :: rest =>
      let vars := frame.foldl (fun t e => t.alter e.1 fun _ => e.2) p.vars
      { p with vars := vars, frames := rest }

end Shell

end CodeAtlas
