import CodeAtlas.Shell.Regex.Reader
import CodeAtlas.Shell.Tools.Basic

/-!
# Scripts for editing lines

A script is a list of commands, each with the lines it is meant for. Blocks and jumps lead to
numbers of commands.

## Architecture

- **Layer A**: commands;
- **Layer B**: faults and the state of reading;
- **Layer C**: texts between delimiters, and replacements;
- **Layer D**: addresses;
- **Layer E**: commands and whole scripts.
-/

namespace CodeAtlas

namespace Shell

/-! ## Layer A: commands -/

/-- A line that a command is meant for. -/
inductive LineAddress where
  | number (n : Nat)
  | last
  /-- Every so many lines from one on. -/
  | every (first step : Nat)
  /-- Lines that an expression matches; without one it is that which was used last. -/
  | fits (r : Option Regex)

/-- The end of a range of lines. -/
inductive RangeEnd where
  | number (n : Nat)
  | last
  | fits (r : Option Regex)
  /-- So many lines further. -/
  | further (n : Nat)
  /-- Up to a multiple of a number. -/
  | multiple (n : Nat)

/-- How letters of a replacement are changed. -/
inductive CaseChange where
  | upper
  | lower
  | upperNext
  | lowerNext
  | none
  deriving Repr, DecidableEq, Inhabited

/-- A part of a replacement. -/
inductive ReplacementPart where
  | text (bs : Bytes)
  /-- What a group has taken; the group with number zero is the whole match. -/
  | group (n : Nat)
  | change (c : CaseChange)
  deriving Repr, DecidableEq, Inhabited

/-- A replacement of what matches. -/
structure Substitution where
  wanted : Option Regex
  replacement : List ReplacementPart
  /-- The number of the first match that is replaced. -/
  first : Nat := 1
  /-- Whether all matches behind it are replaced too. -/
  all : Bool := false
  print : Bool := false
  file : Option String := none

/-- When a jump is made. -/
inductive JumpKind where
  | always
  | replaced
  | notReplaced
  deriving Repr, DecidableEq, Inhabited

/-- What a command does. -/
inductive EditAction where
  /-- A block that ends before a command. -/
  | block (behind : Nat)
  | blockEnd
  | append (text : Bytes)
  | insert (text : Bytes)
  | change (text : Bytes)
  | jump (kind : JumpKind) (label : String)
  | label (name : String)
  /-- A command of one letter. -/
  | plain (letter : Char)
  | quit (print : Bool) (status : Nat)
  /-- The line with signs for what cannot be seen. -/
  | list (width : Option Nat)
  | readFile (file : String)
  /-- The next line of a file is printed. -/
  | readLine (file : String)
  | writeFile (file : String) (firstLine : Bool)
  | substitute (s : Substitution)
  | exchange (pairs : List (UInt8 × UInt8))

/-- **A command and the lines it is meant for.** -/
structure EditCommand where
  start : Option LineAddress := none
  /-- Whether a range begins before the first line. -/
  fromZero : Bool := false
  finish : Option RangeEnd := none
  negated : Bool := false
  action : EditAction

instance : Inhabited EditCommand := ⟨{ action := .blockEnd }⟩

/-! ## Layer B: reading -/

/-- Why a text is no script: a reason, and the number of characters that were read. -/
structure EditFault where
  read : Nat
  why : String
  deriving Repr, DecidableEq, Inhabited

/-- What is left of a script, and how many characters were read. -/
structure EditSource where
  rest : List Char
  read : Nat := 0
  extended : Bool := false
  deriving Repr, DecidableEq, Inhabited

/-- Reading from a script. -/
abbrev EditReading := StateT EditSource (Except EditFault)

/-- Refuses a script. -/
def badEdit {α : Type} (why : String) : EditReading α := do throw ⟨(← get).read, why⟩

/-- Takes the next character. -/
def nextEdit : EditReading (Option Char) := do
  let s ← get
  match s.rest with
  | [] => pure none
  | c :: rest =>
    set { s with rest := rest, read := s.read + 1 }
    pure (some c)

/-- The next character, which is not taken. -/
def peekEdit : EditReading (Option Char) := do pure (← get).rest.head?

/-- Takes characters while they satisfy a condition. -/
def takeEdit (p : Char → Bool) : EditReading (List Char) := do
  let s ← get
  let cs := s.rest.takeWhile p
  set { s with rest := s.rest.drop cs.length, read := s.read + cs.length }
  pure cs

/-- Whether a character is a blank within a line. -/
def isEditBlank (c : Char) : Bool := c == ' ' || c == '\t'

/-- Drops blanks. -/
def skipEditBlanks : EditReading Unit := do
  let _ ← takeEdit isEditBlank
  pure ()

/-! ## Layer C: texts -/

/-- The number of characters of a bracket of a regular expression, from behind its first sign. -/
def bracketLength (cs : List Char) : Nat :=
  let front := if cs.head? == some '^' then 1 else 0
  let front := front + if (cs.drop front).head? == some ']' then 1 else 0
  let rec inside : Nat → List Char → Nat
    | 0, _ => 0
    | _ + 1, [] => 0
    | fuel + 1, '[' :: ':' :: more =>
      let name := more.takeWhile fun c => c != ':' && c != ']'
      2 + name.length + inside fuel (more.drop name.length)
    | _ + 1, ']' :: _ => 1
    | fuel + 1, _ :: more => 1 + inside fuel more
  front + inside cs.length (cs.drop front)

/-- Whether a bracket is closed on its line. -/
def bracketCloses (cs : List Char) : Bool :=
  let n := bracketLength cs
  (cs.take n).getLast? == some ']' && !(cs.take n).contains '\n' && 1 < n

/-- Takes a text up to a delimiter. A delimiter behind a backslash stands for itself. -/
def upToDelimiter (delimiter : Char) (isRegex : Bool) (missing : String) :
    Nat → List Char → EditReading (List Char)
  | 0, cs => pure cs
  | fuel + 1, cs => do
    match ← nextEdit with
    | none => badEdit missing
    | some '\n' =>
      modify fun s => { s with read := s.read - 1 }
      badEdit missing
    | some '\\' =>
      if delimiter == '\\' then pure cs.reverse
      else
        match ← nextEdit with
        | none => badEdit missing
        | some c =>
          if c == delimiter && !(c == '&' && !isRegex) then
            upToDelimiter delimiter isRegex missing fuel (c :: cs)
          else if c == 'n' && isRegex then
            upToDelimiter delimiter isRegex missing fuel ('n' :: '\\' :: cs)
          else upToDelimiter delimiter isRegex missing fuel (c :: '\\' :: cs)
    | some c =>
      if c == delimiter then pure cs.reverse
      else if c == '[' && isRegex && bracketCloses (← get).rest then
        let n := bracketLength (← get).rest
        let inside := (← get).rest.take n
        modify fun s => { s with rest := s.rest.drop n, read := s.read + n }
        upToDelimiter delimiter isRegex missing fuel (inside.reverse ++ c :: cs)
      else upToDelimiter delimiter isRegex missing fuel (c :: cs)

/-- Takes a text up to a delimiter. -/
def delimited (delimiter : Char) (isRegex : Bool) (missing : String) :
    EditReading (List Char) := do
  upToDelimiter delimiter isRegex missing ((← get).rest.length + 1) []

/-- The bytes of characters. -/
def bytesOf (cs : List Char) : Bytes := Bytes.ofText (String.ofList cs)

/-- A byte that is written with digits behind a letter, and what is left. -/
def numberedByte? (c : Char) (rest : List Char) : Option (UInt8 × List Char) :=
  let (base, most) := if c == 'x' then (16, 2) else if c == 'o' then (8, 3)
    else if c == 'd' then (10, 3) else (0, 0)
  let ds := (rest.take most).takeWhile fun d => (digitValue? d).any (· < base)
  if ds.isEmpty then none else some ((valueIn base ds % 256).toUInt8, rest.drop ds.length)

/-- Adds bytes to a replacement. -/
def pushText (bs : Bytes) : List ReplacementPart → List ReplacementPart
  | .text cs :: rest => .text (bs ++ cs) :: rest
  | rest => .text bs :: rest

/-- Reads a replacement. -/
def replacementOf : Nat → List Char → List ReplacementPart
  | 0, _ => []
  | _ + 1, [] => []
  | fuel + 1, '\\' :: c :: rest =>
    match c with
    | 'U' => .change .upper :: replacementOf fuel rest
    | 'L' => .change .lower :: replacementOf fuel rest
    | 'u' => .change .upperNext :: replacementOf fuel rest
    | 'l' => .change .lowerNext :: replacementOf fuel rest
    | 'E' => .change .none :: replacementOf fuel rest
    | 'n' => pushText [10] (replacementOf fuel rest)
    | _ =>
      if c.isDigit then .group (c.toNat - 48) :: replacementOf fuel rest
      else
        match numberedByte? c rest with
        | some (b, rest) => pushText [b] (replacementOf fuel rest)
        | none =>
          let bs := match c with
            | 't' => [9]
            | 'f' => [12]
            | 'v' => [11]
            | 'a' => [7]
            | 'r' => [13]
            | _ => bytesOf [c]
          pushText bs (replacementOf fuel rest)
  | fuel + 1, '&' :: rest => .group 0 :: replacementOf fuel rest
  | fuel + 1, c :: rest => pushText (bytesOf [c]) (replacementOf fuel rest)

/-- Reads a regular expression; an empty one stands for that which was used last. -/
def editRegex (cs : List Char) (caseless : Bool) : EditReading (Option Regex × Nat) := do
  if cs.isEmpty then pure (none, 9)
  else
    match Regex.read ⟨(← get).extended, caseless⟩ (bytesOf cs) with
    | .ok (r, n) => pure (some r, n)
    | .error fault => badEdit fault.message

/-- A number in decimal digits. -/
def editNumber : EditReading Nat := do pure (valueIn 10 (← takeEdit Char.isDigit))

/-! ## Layer D: addresses -/

/-- An address before it is known whether it begins or ends a range. -/
inductive AnyAddress where
  | number (n : Nat)
  | last
  | every (first step : Nat)
  | fits (r : Option Regex)
  | further (n : Nat)
  | multiple (n : Nat)

/-- Reads the marks behind an expression. -/
def regexMarks : Nat → Bool → EditReading Bool
  | 0, caseless => pure caseless
  | fuel + 1, caseless => do
    skipEditBlanks
    match ← peekEdit with
    | some 'I' =>
      let _ ← nextEdit
      regexMarks fuel true
    | some 'M' =>
      let _ ← nextEdit
      regexMarks fuel caseless
    | _ => pure caseless

/-- Reads an address, if there is one. -/
def editAddress : EditReading (Option AnyAddress) := do
  let fits (delimiter : Char) : EditReading (Option AnyAddress) := do
    let cs ← delimited delimiter true "unterminated address regex"
    let caseless ← regexMarks (← get).rest.length false
    pure (some (.fits (← editRegex cs caseless).1))
  match ← peekEdit with
  | some '/' =>
    let _ ← nextEdit
    fits '/'
  | some '\\' =>
    let _ ← nextEdit
    match ← nextEdit with
    | some c => fits c
    | none => badEdit "unterminated address regex"
  | some '$' =>
    let _ ← nextEdit
    pure (some .last)
  | some '+' =>
    let _ ← nextEdit
    skipEditBlanks
    pure (some (.further (← editNumber)))
  | some '~' =>
    let _ ← nextEdit
    skipEditBlanks
    pure (some (.multiple (← editNumber)))
  | some c =>
    if c.isDigit then
      let n ← editNumber
      skipEditBlanks
      if (← peekEdit) == some '~' then
        let _ ← nextEdit
        skipEditBlanks
        let step ← editNumber
        pure (some (if step == 0 then .number n else .every n step))
      else pure (some (.number n))
    else pure none
  | none => pure none

/-- The address that begins a range, or is no range. -/
def AnyAddress.start? : AnyAddress → Option LineAddress
  | number n => some (.number n)
  | last => some .last
  | every a s => some (.every a s)
  | fits r => some (.fits r)
  | further _ => none
  | multiple _ => none

/-- The address that ends a range. -/
def AnyAddress.finish : AnyAddress → RangeEnd
  | number n => .number n
  | last => .last
  | every a _ => .number a
  | fits r => .fits r
  | further n => .further n
  | multiple n => .multiple n

/-! ## Layer E: commands -/

/-- The end of a command: a blank line, a semicolon or a brace. -/
def endOfEdit : EditReading Unit := do
  skipEditBlanks
  match ← peekEdit with
  | none => pure ()
  | some '\x7d' => pure ()
  | some '#' => pure ()
  | some c =>
    let _ ← nextEdit
    if c == '\n' || c == ';' || c == '\r' then pure ()
    else badEdit "extra characters after command"

/-- The name of a file up to the end of a line. -/
def editFile : EditReading String := do
  skipEditBlanks
  let cs ← takeEdit (· != '\n')
  if cs.isEmpty then badEdit "missing filename in r/R/w/W commands"
  else pure (String.ofList cs)

/-- The name of a label. -/
def editLabel (isJump : Bool) : EditReading String := do
  skipEditBlanks
  let cs ← takeEdit fun c => c != '\n' && c != ';' && !(isJump && (c == '\x7d' || isEditBlank c))
  pure (String.ofList (cs.reverse.dropWhile isEditBlank).reverse)

/-- Lines of a text. A backslash before the end of a line goes on, other backslashes are dropped. -/
def textLines : Nat → List Char → EditReading (List Char)
  | 0, cs => pure cs.reverse
  | fuel + 1, cs => do
    match ← nextEdit with
    | none => pure cs.reverse
    | some '\n' => pure cs.reverse
    | some '\\' =>
      match ← nextEdit with
      | none => pure cs.reverse
      | some 't' => textLines fuel ('\t' :: cs)
      | some c => textLines fuel (c :: cs)
    | some c => textLines fuel (c :: cs)

/-- The text of a command that adds lines. -/
def editText : EditReading Bytes := do
  skipEditBlanks
  match ← peekEdit with
  | none => badEdit "expected \\ after \x60a', \x60c' or \x60i'"
  | some '\\' =>
    let _ ← nextEdit
    let blanks ← takeEdit isEditBlank
    match ← peekEdit with
    | some '\n' =>
      let _ ← nextEdit
      let cs ← textLines ((← get).rest.length + 1) []
      pure (bytesOf (cs ++ ['\n']))
    | none => badEdit "expected \\ after \x60a', \x60c' or \x60i'"
    | some _ =>
      let cs ← textLines ((← get).rest.length + 1) []
      pure (bytesOf (blanks ++ cs ++ ['\n']))
  | some _ =>
    let cs ← textLines ((← get).rest.length + 1) []
    pure (bytesOf (cs ++ ['\n']))

/-- The marks behind a replacement. -/
structure SubstitutionMarks where
  number : Option Nat := none
  all : Bool := false
  print : Bool := false
  caseless : Bool := false
  file : Option String := none

/-- Reads the marks behind a replacement. -/
def substitutionMarks : Nat → SubstitutionMarks → EditReading SubstitutionMarks
  | 0, m => pure m
  | fuel + 1, m => do
    match ← peekEdit with
    | none => pure m
    | some '\x7d' => pure m
    | some '#' => pure m
    | some c =>
      if c.isDigit then
        let n ← editNumber
        if m.number.isSome then badEdit "multiple number options to \x60s' command"
        else if n == 0 then badEdit "number option to \x60s' command may not be zero"
        else substitutionMarks fuel { m with number := some n }
      else
        let _ ← nextEdit
        match c with
        | '\n' => pure m
        | ';' => pure m
        | 'i' => substitutionMarks fuel { m with caseless := true }
        | 'I' => substitutionMarks fuel { m with caseless := true }
        | 'm' => substitutionMarks fuel m
        | 'M' => substitutionMarks fuel m
        | 'g' =>
          if m.all then badEdit "multiple \x60g' options to \x60s' command"
          else substitutionMarks fuel { m with all := true }
        | 'p' =>
          if m.print then badEdit "multiple \x60p' options to \x60s' command"
          else substitutionMarks fuel { m with print := true }
        | 'w' =>
          let file ← editFile
          pure { m with file := some file }
        | _ =>
          if isEditBlank c || c == '\r' then substitutionMarks fuel m
          else badEdit "unknown option to \x60s'"

/-- The largest group that a replacement uses. -/
def largestGroup (parts : List ReplacementPart) : Nat :=
  parts.foldl (fun n p =>
    match p with
    | .group k => max n k
    | _ => n) 0

/-- Reads a replacement of what matches. -/
def editSubstitution : EditReading Substitution := do
  let missing := "unterminated \x60s' command"
  match ← nextEdit with
  | none => badEdit missing
  | some d =>
    let cs ← delimited d true missing
    let new ← delimited d false missing
    let parts := replacementOf (new.length + 1) new
    let m ← substitutionMarks ((← get).rest.length + 1) {}
    let (r, groups) ← editRegex cs m.caseless
    if groups < largestGroup parts then
      badEdit ("invalid reference \\" ++ toString (largestGroup parts)
        ++ " on \x60s' command's RHS")
    else
      pure { wanted := r, replacement := parts, first := m.number.getD 1, all := m.all
             print := m.print, file := m.file }

/-- A text whose backslashes are dropped. -/
def withoutBackslashes : List Char → List Char
  | '\\' :: 'n' :: rest => '\n' :: withoutBackslashes rest
  | '\\' :: 't' :: rest => '\t' :: withoutBackslashes rest
  | '\\' :: c :: rest => c :: withoutBackslashes rest
  | c :: rest => c :: withoutBackslashes rest
  | [] => []

/-- Reads an exchange of bytes. -/
def editExchange : EditReading EditAction := do
  let missing := "unterminated \x60y' command"
  match ← nextEdit with
  | none => badEdit missing
  | some d =>
    let a := bytesOf (withoutBackslashes (← delimited d false missing))
    let b := bytesOf (withoutBackslashes (← delimited d false missing))
    if a.length != b.length then badEdit "strings for \x60y' command are different lengths"
    else
      endOfEdit
      pure (.exchange (a.zip b))

/-- A number behind a command, if there is one. -/
def optionalNumber : EditReading (Option Nat) := do
  skipEditBlanks
  let ds ← takeEdit Char.isDigit
  endOfEdit
  pure (if ds.isEmpty then none else some (valueIn 10 ds))

/-- The commands of one letter without anything behind it. -/
def plainEdits : List Char := "=dDFgGhHnNpPxz".toList

/-- Reads what a command does. The names of labels and the ends of blocks are found later. -/
def editAction (c : Char) (addresses : Nat) (depth : Nat) : EditReading EditAction := do
  match c with
  | '\x7b' => pure (.block 0)
  | '\x7d' =>
    if depth == 0 then badEdit "unexpected \x60\x7d'"
    else if addresses != 0 then badEdit "\x7d doesn't want any addresses"
    else
      endOfEdit
      pure .blockEnd
  | 'a' => do pure (.append (← editText))
  | 'i' => do pure (.insert (← editText))
  | 'c' => do pure (.change (← editText))
  | ':' =>
    if addresses != 0 then badEdit ": doesn't want any addresses"
    else
      let name ← editLabel false
      if name.isEmpty then badEdit "\":\" lacks a label" else pure (.label name)
  | 'b' => do pure (.jump .always (← editLabel true))
  | 't' => do pure (.jump .replaced (← editLabel true))
  | 'T' => do pure (.jump .notReplaced (← editLabel true))
  | 'q' =>
    if addresses == 2 then badEdit "command only uses one address"
    else pure (.quit true ((← optionalNumber).getD 0))
  | 'Q' =>
    if addresses == 2 then badEdit "command only uses one address"
    else pure (.quit false ((← optionalNumber).getD 0))
  | 'l' => do pure (.list (← optionalNumber))
  | 'r' => do pure (.readFile (← editFile))
  | 'R' => do pure (.readLine (← editFile))
  | 'w' => do pure (.writeFile (← editFile) false)
  | 'W' => do pure (.writeFile (← editFile) true)
  | 's' => do pure (.substitute (← editSubstitution))
  | 'y' => editExchange
  | _ =>
    if plainEdits.contains c then
      endOfEdit
      pure (.plain c)
    else badEdit ("unknown command: \x60" ++ String.singleton c ++ "'")

/-- Reads the commands of a script; `depth` counts the blocks that are open. -/
def editCommands : Nat → Nat → List EditCommand → EditReading (List EditCommand × Nat)
  | 0, depth, done => pure (done.reverse, depth)
  | fuel + 1, depth, done => do
    let _ ← takeEdit fun c => c == ';' || isGap c
    if (← peekEdit).isNone then pure (done.reverse, depth)
    else
      let first ← editAddress
      skipEditBlanks
      let second ← (do
        if first.isSome && (← peekEdit) == some ',' then
          let _ ← nextEdit
          skipEditBlanks
          match ← editAddress with
          | some a =>
            skipEditBlanks
            pure (some a)
          | none =>
            let _ ← nextEdit
            badEdit "unexpected \x60,'"
        else pure none : EditReading (Option AnyAddress))
      let negated := (← peekEdit) == some '!'
      if negated then
        let _ ← nextEdit
        skipEditBlanks
        if (← peekEdit) == some '!' then
          let _ ← nextEdit
          badEdit "multiple \x60!'s"
      match ← nextEdit with
      | none => badEdit "missing command"
      | some c =>
        let fromZero := match first with
          | some (.number 0) => true
          | _ => false
        let endsAtMatch := match second with
          | some (.fits _) => true
          | _ => false
        if fromZero && !endsAtMatch then badEdit "invalid usage of line address 0"
        else if c == '#' then
          if first.isSome then badEdit "comments don't accept any addresses"
          else
            let _ ← takeEdit (· != '\n')
            editCommands fuel depth done
        else
          let addresses := (if first.isSome then 1 else 0) + if second.isSome then 1 else 0
          let action ← editAction c addresses depth
          let depth := match action with
            | .block _ => depth + 1
            | .blockEnd => depth - 1
            | _ => depth
          let command : EditCommand :=
            { start := first.bind AnyAddress.start?, fromZero := fromZero
              finish := second.map AnyAddress.finish, negated := negated, action := action }
          editCommands fuel depth (command :: done)

/-- The number of the command behind the end of a block, counted from its first command on. -/
def blockLength : Nat → Nat → List EditCommand → Nat
  | _, n, [] => n
  | depth, n, c :: rest =>
    match c.action with
    | .block _ => blockLength (depth + 1) (n + 1) rest
    | .blockEnd => if depth == 0 then n + 1 else blockLength (depth - 1) (n + 1) rest
    | _ => blockLength depth (n + 1) rest

/-- Gives each block its end; `i` is the number of the first command. -/
def withBlockEnds : Nat → List EditCommand → List EditCommand
  | _, [] => []
  | i, c :: rest =>
    let c := match c.action with
      | .block _ => { c with action := .block (i + 1 + blockLength 0 0 rest) }
      | _ => c
    c :: withBlockEnds (i + 1) rest

/-- The label of a jump that leads nowhere. -/
def lostLabel? (cs : List EditCommand) : Option String :=
  let labels := cs.filterMap fun c =>
    match c.action with
    | .label name => some name
    | _ => none
  cs.findSome? fun c =>
    match c.action with
    | .jump _ name => if name.isEmpty || labels.contains name then none else some name
    | _ => none

/-- **Reads a script.** -/
def readEdits (extended : Bool) (text : String) : Except EditFault (List EditCommand) := do
  let cs := text.toList
  let ((commands, depth), _) ← (editCommands (cs.length + 1) 0 []).run ⟨cs, 0, extended⟩
  if 0 < depth then throw ⟨0, "unmatched \x60\x7b'"⟩ else pure (withBlockEnds 0 commands)

end Shell

end CodeAtlas
