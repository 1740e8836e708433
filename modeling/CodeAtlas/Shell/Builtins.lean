import CodeAtlas.Shell.Builtins.Names
import CodeAtlas.Shell.Builtins.Signals

/-!
# Commands of the shell itself

Commands that a script carries out without starting a program, except those that run further
commands.
-/

namespace CodeAtlas

namespace Shell

/-- Ends the script. -/
def exitBuiltin (args : List String) : Trying Flow := do
  let p := (← get).self
  match args with
  | [] => setStatus (p.interrupted.getD p.status)
  | a :: _ => setStatus (← numberArg a)
  pure .exited

/-- Ends a function. -/
def returnBuiltin (args : List String) : Trying Flow := do
  match args with
  | [] => pure ()
  | a :: _ => setStatus (← numberArg a)
  pure .returned

/-- Leaves loops, or goes on with their next round. -/
def loopBuiltin (flow : Nat → Flow) (args : List String) : Trying Flow := do
  let n ← match args with
    | [] => pure 1
    | a :: _ => do
      let n ← numberArg a
      if n == 0 then refuse ("Illegal number: " ++ a) else pure n
  setStatus 0
  let loops := (← get).self.loops
  pure (if loops == 0 then .next else flow (min n loops))

/-- **The commands of the shell by name.** -/
def builtins : List (String × Builtin) :=
  [(":", plainly fun _ => setStatus 0), ("true", plainly fun _ => setStatus 0),
   ("false", plainly fun _ => setStatus 1), ("echo", plainly echoBuiltin),
   ("printf", plainly printfBuiltin), ("test", plainly testBuiltin), ("[", plainly bracketBuiltin),
   ("pwd", plainly pwdBuiltin), ("cd", plainly cdBuiltin), ("chdir", plainly cdBuiltin),
   ("export", plainly exportBuiltin), ("readonly", plainly readonlyBuiltin),
   ("local", plainly localBuiltin), ("unset", plainly unsetBuiltin), ("set", plainly setBuiltin),
   ("shift", plainly shiftBuiltin), ("getopts", plainly getoptsBuiltin),
   ("read", plainly readBuiltin), ("trap", plainly trapBuiltin), ("kill", plainly killBuiltin),
   ("wait", plainly waitBuiltin), ("jobs", plainly jobsBuiltin), ("umask", plainly umaskBuiltin),
   ("ulimit", plainly ulimitBuiltin), ("alias", plainly aliasBuiltin),
   ("unalias", plainly unaliasBuiltin), ("type", plainly typeBuiltin),
   ("hash", plainly hashBuiltin),
   ("times", plainly fun _ => do
      sayLine "0m0.000000s 0m0.000000s\n0m0.000000s 0m0.000000s"
      setStatus 0),
   ("exit", exitBuiltin), ("return", returnBuiltin), ("break", loopBuiltin .broke),
   ("continue", loopBuiltin .continued)]

/-- The command of the shell with a name. -/
def builtin? (name : String) : Option Builtin := builtins.lookup name

end Shell

end CodeAtlas
