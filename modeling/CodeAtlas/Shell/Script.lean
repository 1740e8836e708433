/-!
# Shell scripts

The commands of a shell script, after its text has been taken apart. What words mean is decided
when a command runs.
-/

namespace CodeAtlas

namespace Shell

/-- Which way a redirection leads a stream. -/
inductive Direction where
  /-- To a file, whose contents are dropped. -/
  | write
  /-- To a file, whose contents are dropped even if that is guarded against. -/
  | overwrite
  /-- To the end of a file. -/
  | append
  /-- From a file. -/
  | read
  /-- From and to a file. -/
  | readWrite
  /-- To where another stream of output leads. -/
  | copyOut
  /-- From where another stream of input comes. -/
  | copyIn
  /-- From a text in the script. -/
  | here
  deriving Repr, DecidableEq, Inhabited

mutual

/-- A part of a word. Quoted parts are neither divided nor matched against names of files. -/
inductive Piece where
  | text (s : String) (quoted : Bool)
  /-- The value of a parameter, and what is done with it. -/
  | parameter (name : String) (use : Use) (quoted : Bool)
  /-- The value of an expression over numbers. -/
  | arithmetic (expression : List Piece) (quoted : Bool)
  /-- What other commands print. -/
  | output (script : Command) (quoted : Bool)
  /-- A parameter that is not written properly. -/
  | unreadable

/-- What is done with the value of a parameter. Some uses treat an empty value like none. -/
inductive Use where
  | plain
  /-- Its length. -/
  | length
  /-- Another text stands in for a value that is missing. -/
  | orElse (orEmpty : Bool) (other : List Piece)
  /-- A value that is missing is set. -/
  | orSet (orEmpty : Bool) (other : List Piece)
  /-- A value that is missing ends the script. -/
  | orFail (orEmpty : Bool) (message : List Piece)
  /-- Another text replaces a value that is there. -/
  | andThen (orEmpty : Bool) (other : List Piece)
  /-- What fits a pattern is cut off at one end. -/
  | cut (atEnd longest : Bool) (pattern : List Piece)

/-- A redirection of a stream. -/
inductive Redirect where
  | lead (stream : Nat) (direction : Direction) (target : List Piece)

/-- **A command of a script.** Those that print messages of their own know their line. -/
inductive Command where
  /-- Assignments, words and redirections. -/
  | simple (line : Nat) (assigned : List (String × List Piece)) (words : List (List Piece))
      (redirects : List Redirect)
  /-- Each command reads what the one before prints. -/
  | pipe (parts : List Command)
  | negated (body : Command)
  | both (first second : Command)
  | either (first second : Command)
  | sequence (parts : List Command)
  | background (body : Command)
  | branch (condition body otherwise : Command)
  /-- Repeats a body while its condition has the wanted result. -/
  | loop (wanted : Bool) (condition body : Command)
  /-- Repeats a body for each of some words. -/
  | each (line : Nat) (name : String) (words : List (List Piece)) (body : Command)
  /-- The first case with a pattern that fits a word. -/
  | choice (line : Nat) (subject : List Piece) (cases : List (List (List Piece) × Command))
  | group (line : Nat) (body : Command) (redirects : List Redirect)
  | subshell (line : Nat) (body : Command) (redirects : List Redirect)
  /-- Gives a name to a command. -/
  | define (name : String) (body : Command)

end

instance : Inhabited Piece := ⟨.unreadable⟩

instance : Inhabited Command := ⟨.sequence []⟩

/-- A word of a command. -/
abbrev Word := List Piece

/-- The text of a word without quotes and expansions. -/
def plain? : Word → Option String
  | [] => some ""
  | [.text s false] => some s
  | _ => none

/-- Adds a character to a word. -/
def Word.push (w : Word) (c : Char) (quoted : Bool) : Word :=
  match w.getLast? with
  | some (.text s q) =>
    if q == quoted then w.dropLast ++ [.text (s.push c) q]
    else w ++ [.text (String.singleton c) quoted]
  | _ => w ++ [.text (String.singleton c) quoted]

/-- Whether a word asks for what other commands print. -/
def asksOutput (w : Word) : Bool :=
  w.any fun p =>
    match p with
    | .output _ _ => true
    | _ => false

/-- Whether a character may begin a name. -/
def isNameStart (c : Char) : Bool := c.isAlpha || c == '_'

/-- Whether a character may stand in a name. -/
def isNameChar (c : Char) : Bool := c.isAlphanum || c == '_'

/-- Whether a text is a name of a variable or a function. -/
def isName (s : String) : Bool :=
  match s.toList with
  | [] => false
  | c :: rest => isNameStart c && rest.all isNameChar

/-- Whether a character names a parameter by itself. -/
def isSign (c : Char) : Bool := c.isDigit || ['?', '$', '#', '@', '*', '!', '-'].contains c

end Shell

end CodeAtlas
