import CodeAtlas.Shell.Script

/-!
# The text of a script as it is read

What is left of a text, with the line it stands on, and one token that was read too far.

## Architecture

- **Layer A**: tokens and faults;
- **Layer B**: the state of reading;
- **Layer C**: characters;
- **Layer D**: texts inside the script that end at a mark.
-/

namespace CodeAtlas

namespace Shell

/-! ## Layer A: tokens -/

/-- A token of a script. -/
inductive Token where
  | ending
  | newline
  | semicolon
  | ampersand
  | both
  | either
  | pipe
  | opening
  | closing
  /-- The end of a case. -/
  | caseEnd
  | keyword (s : String)
  /-- A redirection of a stream, before its word. -/
  | redirect (stream : Option Nat) (direction : Direction) (stripTabs : Bool)
  /-- A word, and whether something in it was quoted. -/
  | word (w : Word) (quoted : Bool)

instance : Inhabited Token := ⟨.ending⟩

/-- The words that are not names of commands where a command begins. -/
def keywords : List String :=
  ["!", "case", "do", "done", "elif", "else", "esac", "fi", "for", "if", "in", "then", "until",
   "while", "\x7b", "\x7d"]

/-- The keywords before which a list of commands ends. -/
def closers : List String := ["do", "done", "elif", "else", "esac", "fi", "then", "\x7d"]

namespace Token

/-- How a message names a token. -/
def shown : Token → String
  | ending => "end of file"
  | newline => "newline"
  | semicolon => "\";\""
  | ampersand => "\"&\""
  | both => "\"&&\""
  | either => "\"||\""
  | pipe => "\"|\""
  | opening => "\"(\""
  | closing => "\")\""
  | caseEnd => "\";;\""
  | keyword s => "\"" ++ s ++ "\""
  | redirect _ _ _ => "redirection"
  | word _ _ => "word"

/-- Whether a list of commands ends before a token. -/
def endsList : Token → Bool
  | ending | closing | caseEnd => true
  | keyword s => closers.contains s
  | _ => false

/-- Whether a token is a keyword. -/
def isKeyword (s : String) : Token → Bool
  | keyword t => s == t
  | _ => false

/-- The keyword that a plain word is, if it is one. -/
def asKeyword : Token → Token
  | word w false =>
    match plain? w with
    | some s => if keywords.contains s then keyword s else word w false
    | none => word w false
  | t => t

/-- The word that a token is. -/
def word? : Token → Option Word
  | word w _ => some w
  | keyword s => some [.text s false]
  | _ => none

end Token

/-- Why a text is no script. -/
structure SyntaxFault where
  line : Nat
  message : String
  deriving Repr, DecidableEq, Inhabited

/-! ## Layer B: state -/

/-- A text that stands behind the line on which it is asked for, up to a line that is its mark. -/
structure HereText where
  mark : List Char
  stripTabs : Bool
  /-- Whether nothing in the text is expanded. -/
  isLiteral : Bool

/-- **What is left of a script.** A text that stands behind a line is asked for before it is
reached. So a command is read once to find these texts, and once more with all of them known. -/
structure Source where
  rest : List Char
  line : Nat := 1
  /-- How many texts behind lines the present command has asked for. -/
  asked : Nat := 0
  /-- The texts that stand behind the present line, with their numbers. -/
  awaited : List (Nat × HereText) := []
  /-- The texts behind lines that were reached. -/
  found : List (Nat × Word) := []
  /-- The texts behind lines that are known from the first time. -/
  known : List (Nat × Word) := []
  /-- A token that was read too far. -/
  pushed : Option Token := none
  /-- The texts that stand for words where a command begins. -/
  aliases : List (String × String) := []
  /-- The aliases that are being read, with how much was left behind each. -/
  opened : List (String × Nat) := []

/-- Reading from a script. -/
abbrev Reading := StateT Source (Except SyntaxFault)

/-- Refuses a script. -/
def malformed {α : Type} (message : String) : Reading α := do
  throw ⟨(← get).line, message⟩

/-- Refuses a script at a token, where another one may have been expected. -/
def unexpected {α : Type} (t : Token) (expected : Option Token) : Reading α :=
  malformed (t.shown ++ " unexpected" ++
    match expected with
    | some e => " (expecting " ++ e.shown ++ ")"
    | none => "")

/-- Puts a token back. -/
def pushBack (t : Token) : Reading Unit := modify fun s => { s with pushed := some t }

/-- The text that stands for a word that was just read, unless it is part of itself. -/
def Source.alias? (s : Source) : Token → Option (String × String)
  | .word w false => do
    let name ← plain? w
    let text ← s.aliases.lookup name
    let isOpen := s.opened.any fun o => o.1 == name && o.2 ≤ s.rest.length
    if isOpen then none else some (name, text)
  | _ => none

/-- Puts the text of an alias in front of what is left. -/
def Source.withAlias (s : Source) (name text : String) : Source :=
  { s with rest := text.toList ++ s.rest, opened := (name, s.rest.length) :: s.opened }

/-! ## Layer C: characters -/

/-- Drops a character. -/
def skipChar : Reading Unit := modify fun s =>
  match s.rest with
  | [] => s
  | '\n' :: rest => { s with rest := rest, line := s.line + 1 }
  | _ :: rest => { s with rest := rest }

/-- Drops line ends behind backslashes. -/
def joinLines : Nat → Source → Source
  | fuel + 1, s =>
    match s.rest with
    | '\\' :: '\n' :: rest => joinLines fuel { s with rest := rest, line := s.line + 1 }
    | _ => s
  | 0, s => s

/-- The next character, which is not dropped. -/
def peekRaw : Reading (Option Char) := do pure (← get).rest.head?

/-- The next character of lines that are joined, which is not dropped. -/
def peek : Reading (Option Char) := do
  modify fun s => joinLines s.rest.length s
  peekRaw

/-- Drops the next character if it is the wanted one. -/
def skipIf (c : Char) : Reading Bool := do
  if (← peek) == some c then
    skipChar
    pure true
  else pure false

/-- Takes characters while they satisfy a condition. -/
def takeChars (p : Char → Bool) : Nat → List Char → Reading (List Char)
  | 0, cs => pure cs.reverse
  | fuel + 1, cs => do
    match ← peek with
    | some c =>
      if p c then
        skipChar
        takeChars p fuel (c :: cs)
      else pure cs.reverse
    | none => pure cs.reverse

/-- The characters up to one, which is dropped. -/
def takeUpTo (c : Char) (missing : String) : Nat → List Char → Reading (List Char)
  | 0, cs => pure cs.reverse
  | fuel + 1, cs => do
    match ← peekRaw with
    | some d =>
      skipChar
      if c == d then pure cs.reverse else takeUpTo c missing fuel (d :: cs)
    | none => malformed missing

/-! ## Layer D: texts with an end mark -/

/-- Asks for a text behind the present line. -/
def askFor (h : HereText) : Reading Word := do
  let s ← get
  set { s with asked := s.asked + 1, awaited := s.awaited ++ [(s.asked, h)] }
  pure ((s.known.lookup s.asked).getD [])

/-- Keeps a text that was asked for. -/
def keepText (number : Nat) (w : Word) : Reading Unit :=
  modify fun s => { s with found := (number, w) :: s.found }

/-- Reads with nothing asked for on the present line. What is asked for and not reached meanwhile
is given up. -/
def apart {α : Type} (read : Reading α) : Reading α := do
  let awaited := (← get).awaited
  modify fun s => { s with awaited := [] }
  let a ← read
  modify fun s => { s with awaited := awaited }
  pure a

/-- Reads something together with the texts behind lines that it asks for. If there are some, they
are found by reading it, and it is then read again. -/
def settled {α : Type} (read : Reading α) : Reading α := do
  let s ← get
  let a ← read
  let found := (← get).found
  if found.length == s.found.length then pure a
  else
    set { s with known := found ++ s.known }
    read

/-- Reads another text, from which only the texts behind its lines are kept. -/
def within {α : Type} (text : List Char) (read : Reading α) : Reading α := do
  let outer ← get
  set { outer with rest := text, line := 1, pushed := none, opened := [], awaited := [] }
  let a ← read
  let inner ← get
  set { outer with asked := inner.asked, found := inner.found }
  pure a

/-- At the start of a line, drops the tabs that do not count, and then the line if it is the
mark. -/
def skipMark (h : HereText) : Reading Bool := do
  if h.stripTabs then modify fun s => { s with rest := s.rest.dropWhile (· == '\t') }
  let s ← get
  match s.rest.drop h.mark.length with
  | [] =>
    if s.rest == h.mark then
      set { s with rest := [] }
      pure true
    else pure false
  | c :: rest =>
    if c == '\n' && h.mark.isPrefixOf s.rest then
      set { s with rest := rest, line := s.line + 1 }
      pure true
    else pure false

/-- The lines up to the mark, as they are. -/
def linesToMark (h : HereText) : Nat → List Char → Reading (List Char)
  | 0, cs => pure cs
  | fuel + 1, cs => do
    let ended ← if (← get).rest.isEmpty then pure true else skipMark h
    if ended then pure cs
    else
      let line := (← get).rest.takeWhile (· != '\n')
      modify fun s => { s with rest := s.rest.drop line.length }
      match ← peekRaw with
      | none => pure (cs ++ line)
      | some c =>
        skipChar
        linesToMark h fuel (cs ++ line ++ [c])

end Shell

end CodeAtlas
