import CodeAtlas.Command.Basic
import CodeAtlas.Shell.Awk.Reader
import CodeAtlas.Shell.Awk.Running

/-!
# The command for programs over records

What the arguments of `awk` ask for, and how it is carried out.
-/

namespace CodeAtlas

namespace Shell

namespace Awk

/-- What the arguments ask for. -/
structure Invocation where
  /-- The files with the program. -/
  files : List String := []
  /-- The program itself, if there are no files. -/
  text : Option String := none
  /-- Variables that are set before the program begins. -/
  settings : List (String × Bytes) := []
  operands : List String := []

/-- The options with a value. -/
def valuedOptions : List Char := ['f', 'F', 'v', 'W']

namespace Invocation

/-- Takes an option with its value. -/
def option (i : Invocation) (letter : Char) (value : String) : Except String Invocation :=
  match letter with
  | 'f' => .ok { i with files := i.files ++ [value] }
  | 'F' => .ok { i with settings := i.settings ++ [("FS", escaped value.toList)] }
  | 'v' =>
    match settingIn? value with
    | some (name, text) => .ok { i with settings := i.settings ++ [(name, escaped text.toList)] }
    | none => .error ("improper assignment: -v " ++ value)
  | _ => .ok i

/-- Takes the operands. The first one is the program if there are no files with it. -/
def withOperands (i : Invocation) (operands : List String) : Invocation :=
  if i.files.isEmpty then { i with text := operands.head?, operands := operands.drop 1 }
  else { i with operands := operands }

/-- Reads arguments, or tells what is wrong with them. -/
def read : Nat → Invocation → List String → Except String Invocation
  | 0, i, args => .ok (i.withOperands args)
  | _ + 1, i, [] => .ok (i.withOperands [])
  | fuel + 1, i, arg :: rest =>
    if arg == "--" then .ok (i.withOperands rest)
    else
      match arg.toList with
      | '-' :: c :: value =>
        if !valuedOptions.contains c then .error ("not an option: " ++ arg)
        else if !value.isEmpty then do read fuel (← i.option c (String.ofList value)) rest
        else
          match rest with
          | [] => .error ("option -" ++ String.singleton c ++ " lacks argument")
          | value :: rest => do read fuel (← i.option c value) rest
      | _ => .ok (i.withOperands (arg :: rest))

end Invocation

/-- How the command is used. -/
def usageLines : List String :=
  ["Usage: mawk [Options] [Program] [file ...]", "", "Program:",
   "    The -f option value is the name of a file containing program text.",
   "    If no -f option is given, a \"--\" ends option processing; the following",
   "    parameters are the program text.", "", "Options:",
   "    -f program-file  Program  text is read from file instead of from the",
   "                     command-line.  Multiple -f options are accepted.",
   "    -F value         sets the field separator, FS, to value.",
   "    -v var=value     assigns value to program variable var.",
   "    --               unambiguous end of options.", "",
   "    Implementation-specific options are prefixed with \"-W\".  They can be",
   "    abbreviated:", "", "    -W version       show version information and exit.",
   "    -W compat        pre-POSIX 2001.",
   "    -W dump          show assembler-like listing of program and exit.",
   "    -W help          show this message and exit.",
   "    -W interactive   set unbuffered output, line-buffered input.",
   "    -W exec file     use file as program as well as last option.",
   "    -W posix         stricter POSIX checking.",
   "    -W random=number set initial random seed.",
   "    -W sprintf=number adjust size of sprintf buffer.",
   "    -W usage         show this message and exit."]

/-- The text of the program, from its files if there are some. -/
def programText (i : Invocation) : Run (Except String (Option String)) := do
  if i.files.isEmpty then pure (.ok i.text)
  else
    let contents ← i.files.mapM fun file => do
      match ← fileBytes (Bytes.ofText file) with
      | .ok bs => pure (Except.ok (Bytes.lossyText bs))
      | .error fault =>
        pure (.error ("cannot open \"" ++ file ++ "\" (" ++ reason fault ++ ")"))
    pure ((contents.mapM id).map fun texts => some ("\n".intercalate texts))

/-- **Carries out the command.** -/
def command (shown : String) (env : Environment) (run : String → Bytes → Run (Option Nat))
    (args : List String) : Run Flow := do
  let failing (why : String) : Run Flow := finishTool (.failing 2 (shown ++ ": " ++ why))
  match Invocation.read (args.length + 1) {} args with
  | .error why => failing why
  | .ok i =>
    match ← programText i with
    | .error why => failing why
    | .ok none =>
      finishTool { writes := [(2, Bytes.ofText (asLines usageLines))] }
    | .ok (some text) =>
      match Program.read text with
      | .error faults =>
        let lines := faults.map fun f => shown ++ ": " ++ f.shown i.files.head?
        finishTool (.failing 2 ("\n".intercalate lines))
      | .ok program =>
        let g : Given := ⟨program, shown, run⟩
        g.start (firstState env.entries (shown :: i.operands) i.settings)

end Awk

end Shell

end CodeAtlas
