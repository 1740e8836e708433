import CodeAtlas.Shell.Source

/-!
# Reading a script

From text to commands, one complete command at a time: what stands behind a command is not looked
at before the command has run. Words, expansions and commands contain each other, so they are read
in one recursion, whose first argument bounds its depth.

## Architecture

- **Layer A**: tokens that are signs, and names;
- **Layer B**: words, tokens and commands, in this order;
- **Layer C**: whole scripts.
-/

namespace CodeAtlas

namespace Shell

/-! ## Layer A: signs and names -/

/-- The fault of a text that is nested too deeply to be read. -/
def tooDeep {α : Type} : Reading α := malformed "too deeply nested"

/-- Whether a character ends a word. -/
def endsWord (c : Char) : Bool := [' ', '\t', '\n', ';', '&', '|', '<', '>', '(', ')'].contains c

/-- Reads the sign of a redirection. -/
def redirectSign (stream : Option Nat) : Reading Token := do
  if ← skipIf '>' then
    if ← skipIf '>' then pure (.redirect stream .append false)
    else if ← skipIf '|' then pure (.redirect stream .overwrite false)
    else if ← skipIf '&' then pure (.redirect stream .copyOut false)
    else pure (.redirect stream .write false)
  else
    skipChar
    if ← skipIf '<' then pure (.redirect stream .here (← skipIf '-'))
    else if ← skipIf '&' then pure (.redirect stream .copyIn false)
    else if ← skipIf '>' then pure (.redirect stream .readWrite false)
    else pure (.redirect stream .read false)

/-- Reads the rest of a line, which is a comment. -/
def skipComment : Reading Unit := modify fun s =>
  { s with rest := s.rest.dropWhile (· != '\n') }

/-- A name or a number at the start of what is left. -/
def takeName : Reading (List Char) := do takeChars isNameChar (← get).rest.length []

/-- Reads the script between back quotes. Backslashes before some characters are dropped. -/
def backQuoted (quoted : Bool) : Nat → List Char → Reading (List Char)
  | 0, cs => pure cs.reverse
  | fuel + 1, cs => do
    match (← get).rest with
    | [] => malformed "EOF in backquote substitution"
    | '\x60' :: _ =>
      skipChar
      pure cs.reverse
    | '\\' :: '\n' :: _ =>
      skipChar
      skipChar
      backQuoted quoted fuel cs
    | '\\' :: c :: _ =>
      skipChar
      skipChar
      if ['\\', '\x60', '$'].contains c || (quoted && c == '"') then
        backQuoted quoted fuel (c :: cs)
      else backQuoted quoted fuel (c :: '\\' :: cs)
    | c :: _ =>
      skipChar
      backQuoted quoted fuel (c :: cs)

/-- The name of a parameter between braces, and whether its length is asked for. There is none if
it is not written properly. -/
def bracedName : Reading (Option (String × Bool)) := do
  match ← peek with
  | none => pure none
  | some c =>
    if c.isDigit then
      pure (some (String.ofList (← takeChars Char.isDigit (← get).rest.length []), false))
    else if isNameStart c then pure (some (String.ofList (← takeName), false))
    else if c == '#' then
      skipChar
      match ← peek with
      | none => pure (some ("#", false))
      | some d =>
        if d.isDigit then
          pure (some (String.ofList (← takeChars Char.isDigit (← get).rest.length []), true))
        else if isNameStart d then pure (some (String.ofList (← takeName), true))
        else if isSign d && ((← get).rest.drop 1).head? == some '\x7d' then
          skipChar
          pure (some (String.singleton d, true))
        else pure (some ("#", false))
    else if isSign c then
      skipChar
      pure (some (String.singleton c, false))
    else pure none

/-- The assignment that a word is, if it is one. -/
def assignment? : Word → Option (String × Word)
  | .text s false :: rest =>
    let cs := s.toList
    let name := cs.takeWhile isNameChar
    if (cs.head?.map isNameStart).getD false && (cs.drop name.length).head? == some '=' then
      let value := cs.drop (name.length + 1)
      let first := if value.isEmpty then [] else [Piece.text (String.ofList value) false]
      some (String.ofList name, first ++ rest)
    else none
  | _ => none

/-- The text of a word in which nothing is expanded. -/
def markText (w : Word) : List Char :=
  w.flatMap fun p =>
    match p with
    | .text s _ => s.toList
    | _ => []

/-- Commands that may not be given another meaning. -/
def fixedCommands : List String :=
  [".", ":", "break", "continue", "eval", "exec", "exit", "export", "readonly", "return", "set",
   "shift", "times", "trap", "unset"]

/-! ## Layer B: words, tokens and commands -/

mutual

/-- Reads on in a word outside of quotes. In a mark nothing is expanded. The result is the word,
and whether something in it was quoted. -/
def word (mark : Bool) : Nat → Word → Bool → Reading (Word × Bool)
  | 0, _, _ => tooDeep
  | fuel + 1, w, quoted => do
    match ← peek with
    | none => pure (w, quoted)
    | some c =>
      if endsWord c then pure (w, quoted)
      else
        skipChar
        match c with
        | '\'' =>
          let cs ← takeUpTo '\'' "Unterminated quoted string" ((← get).rest.length + 1) []
          word mark fuel (w ++ [.text (String.ofList cs) true]) true
        | '"' =>
          let ps ← quotedUpTo (some '"') mark fuel []
          word mark fuel (w ++ if ps.isEmpty then [.text "" true] else ps) true
        | '\\' =>
          match ← peekRaw with
          | none => word mark fuel (w.push '\\' true) true
          | some d =>
            skipChar
            word mark fuel (w.push d true) true
        | _ =>
          if c == '$' && !mark then word mark fuel (w ++ [← dollar fuel false]) quoted
          else if c == '\x60' && !mark then word mark fuel (w ++ [← backQuotes fuel false]) quoted
          else word mark fuel (w.push c false) quoted

/-- Reads on between double quotes, or to the end of a text that is treated alike. -/
def quotedUpTo (closing : Option Char) (mark : Bool) : Nat → Word → Reading Word
  | 0, _ => tooDeep
  | fuel + 1, w => do
    match ← peek with
    | none => if closing.isSome then malformed "Unterminated quoted string" else pure w
    | some c =>
      skipChar
      if some c == closing then pure w
      else if c == '$' && !mark then quotedUpTo closing mark fuel (w ++ [← dollar fuel true])
      else if c == '\x60' && !mark then
        quotedUpTo closing mark fuel (w ++ [← backQuotes fuel true])
      else if c == '\\' then
        match ← peekRaw with
        | some d =>
          if ['$', '\x60', '\\'].contains d || some d == closing then
            skipChar
            quotedUpTo closing mark fuel (w.push d true)
          else quotedUpTo closing mark fuel (w.push c true)
        | none => quotedUpTo closing mark fuel (w.push c true)
      else quotedUpTo closing mark fuel (w.push c true)

/-- Reads the expansion behind a dollar sign. -/
def dollar : Nat → Bool → Reading Piece
  | 0, _ => tooDeep
  | fuel + 1, quoted => do
    match ← peek with
    | none => pure (.text "$" quoted)
    | some '(' =>
      skipChar
      if ← skipIf '(' then pure (.arithmetic (← expression fuel 0 []) quoted)
      else
        apart do
          let cs ← list fuel false true []
          match ← token fuel false false with
          | .closing => pure (.output (.sequence cs) quoted)
          | t => unexpected t (some .closing)
    | some '\x7b' =>
      skipChar
      braced fuel quoted
    | some c =>
      if isNameStart c then pure (.parameter (String.ofList (← takeName)) .plain quoted)
      else if isSign c then
        skipChar
        pure (.parameter (String.singleton c) .plain quoted)
      else pure (.text "$" quoted)

/-- Reads the commands between back quotes. -/
def backQuotes : Nat → Bool → Reading Piece
  | 0, _ => tooDeep
  | fuel + 1, quoted => do
    let cs ← backQuoted quoted ((← get).rest.length + 1) []
    let commands ← within cs (list fuel false true [])
    pure (.output (.sequence commands) quoted)

/-- Reads an expression over numbers, up to its two brackets. -/
def expression : Nat → Nat → Word → Reading Word
  | 0, _, _ => tooDeep
  | fuel + 1, depth, w => do
    match ← peek with
    | none => malformed "Missing '))'"
    | some c =>
      skipChar
      match c with
      | '$' => expression fuel depth (w ++ [← dollar fuel true])
      | '\x60' => expression fuel depth (w ++ [← backQuotes fuel true])
      | '(' => expression fuel (depth + 1) (w.push c true)
      | ')' =>
        if 0 < depth then expression fuel (depth - 1) (w.push c true)
        else if ← skipIf ')' then pure w
        else expression fuel depth (w.push c true)
      | _ => expression fuel depth (w.push c true)

/-- Reads a parameter between braces. -/
def braced : Nat → Bool → Reading Piece
  | 0, _ => tooDeep
  | fuel + 1, quoted => do
    match ← bracedName with
    | none =>
      let _ ← bracedWord quoted fuel false []
      pure .unreadable
    | some (name, true) =>
      let _ ← bracedWord quoted fuel false []
      pure (.parameter name .length quoted)
    | some (name, false) =>
      let piece (use : Use) : Piece := .parameter name use quoted
      let orEmpty ← skipIf ':'
      match ← peek with
      | none => malformed "Missing '\x7d'"
      | some c =>
        skipChar
        if orEmpty && !(['-', '+', '?', '='].contains c) then
          let _ ← if c == '\x7d' then pure [] else bracedWord quoted fuel false []
          pure .unreadable
        else
          match c with
          | '\x7d' => pure (piece .plain)
          | '-' => pure (piece (.orElse orEmpty (← bracedWord quoted fuel false [])))
          | '+' => pure (piece (.andThen orEmpty (← bracedWord quoted fuel false [])))
          | '?' => pure (piece (.orFail orEmpty (← bracedWord quoted fuel false [])))
          | '=' => pure (piece (.orSet orEmpty (← bracedWord quoted fuel false [])))
          | '%' =>
            let longest ← skipIf '%'
            pure (piece (.cut true longest (← bracedWord false fuel false [])))
          | '#' =>
            let longest ← skipIf '#'
            pure (piece (.cut false longest (← bracedWord false fuel false [])))
          | _ =>
            let _ ← bracedWord quoted fuel false []
            pure .unreadable

/-- Reads the word of a parameter, up to its closing brace. Between double quotes further double
quotes only protect closing braces. -/
def bracedWord (quoted : Bool) : Nat → Bool → Word → Reading Word
  | 0, _, _ => tooDeep
  | fuel + 1, inner, w => do
    match ← peek with
    | none => malformed "Missing '\x7d'"
    | some c =>
      skipChar
      match c with
      | '\x7d' =>
        if inner then bracedWord quoted fuel inner (w.push c quoted) else pure w
      | '$' => bracedWord quoted fuel inner (w ++ [← dollar fuel quoted])
      | '\x60' => bracedWord quoted fuel inner (w ++ [← backQuotes fuel quoted])
      | '"' =>
        if quoted then bracedWord quoted fuel (!inner) w
        else
          let ps ← quotedUpTo (some '"') false fuel []
          bracedWord quoted fuel inner (w ++ if ps.isEmpty then [.text "" true] else ps)
      | '\\' =>
        match ← peekRaw with
        | none => malformed "Missing '\x7d'"
        | some d =>
          if quoted && !(['$', '\x60', '"', '\\', '\x7d'].contains d) then
            bracedWord quoted fuel inner (w.push c true)
          else
            skipChar
            bracedWord quoted fuel inner (w.push d true)
      | '\'' =>
        if quoted then bracedWord quoted fuel inner (w.push c true)
        else
          let cs ← takeUpTo '\'' "Unterminated quoted string" ((← get).rest.length + 1) []
          bracedWord quoted fuel inner (w ++ [.text (String.ofList cs) true])
      | _ => bracedWord quoted fuel inner (w.push c quoted)

/-- Reads a token. -/
def bareToken (mark : Bool) : Nat → Reading Token
  | 0 => tooDeep
  | fuel + 1 => do
    match ← peek with
    | none => pure .ending
    | some c =>
      let sign (t : Token) : Reading Token := do
        skipChar
        pure t
      let either (d : Char) (double single : Token) : Reading Token := do
        skipChar
        pure (if ← skipIf d then double else single)
      match c with
      | ' ' | '\t' =>
        skipChar
        bareToken mark fuel
      | '#' =>
        skipComment
        bareToken mark fuel
      | '\n' =>
        skipChar
        let awaited := (← get).awaited
        modify fun s => { s with awaited := [] }
        hereTexts fuel awaited
        pure .newline
      | '&' => either '&' .both .ampersand
      | '|' => either '|' .either .pipe
      | ';' => either ';' .caseEnd .semicolon
      | '(' => sign .opening
      | ')' => sign .closing
      | '<' | '>' => redirectSign none
      | _ =>
        let next := ((← get).rest.drop 1).head?
        if c.isDigit && (next == some '<' || next == some '>') then
          skipChar
          redirectSign (some (c.toNat - 48))
        else
          let (w, quoted) ← word mark fuel [] false
          pure (.word w quoted)

/-- Reads the texts that stand behind a line. -/
def hereTexts : Nat → List (Nat × HereText) → Reading Unit
  | _, [] => pure ()
  | 0, _ => tooDeep
  | fuel + 1, (number, h) :: rest => do
    let w ← if h.isLiteral then do
        let cs ← linesToMark h ((← get).rest.length + 1) []
        pure [.text (String.ofList cs) true]
      else do
        modify fun s => joinLines s.rest.length s
        hereText h fuel true []
    keepText number w
    hereTexts fuel rest

/-- Reads on in a text behind a line, in which expansions count. -/
def hereText (h : HereText) : Nat → Bool → Word → Reading Word
  | 0, _, _ => tooDeep
  | fuel + 1, startsLine, w => do
    let ended ← if startsLine then skipMark h else pure false
    if ended then pure w
    else
      match ← peek with
      | none => pure w
      | some c =>
        skipChar
        match c with
        | '$' => hereText h fuel false (w ++ [← settled (dollar fuel true)])
        | '\x60' => hereText h fuel false (w ++ [← settled (backQuotes fuel true)])
        | '\\' =>
          match ← peekRaw with
          | some d =>
            if ['$', '\x60', '\\'].contains d then
              skipChar
              hereText h fuel false (w.push d true)
            else hereText h fuel false (w.push c true)
          | none => hereText h fuel false (w.push c true)
        | _ => hereText h fuel (c == '\n') (w.push c true)

/-- Skips line ends. -/
def tokenBehindLines : Nat → Token → Reading Token
  | 0, _ => tooDeep
  | fuel + 1, .newline => do tokenBehindLines fuel (← bareToken false fuel)
  | _ + 1, t => pure t

/-- Reads the next token. Line ends may be skipped, and plain words may be keywords. -/
def token : Nat → Bool → Bool → Reading Token
  | 0, _, _ => tooDeep
  | fuel + 1, keywordsCount, skipLines => do
    let t ← match (← get).pushed with
      | some t => do
        modify fun s => { s with pushed := none }
        pure t
      | none => bareToken false fuel
    let t ← if skipLines then tokenBehindLines fuel t else pure t
    pure (if keywordsCount then t.asKeyword else t)

/-- Reads the word of a redirection. -/
def redirection : Nat → Option Nat → Direction → Bool → Reading Redirect
  | 0, _, _, _ => tooDeep
  | fuel + 1, stream, direction, stripTabs => do
    let usual := if [Direction.read, .readWrite, .copyIn, .here].contains direction then 0 else 1
    match direction, ← bareToken (direction == .here) fuel with
    | .here, .word w quoted =>
      let text ← askFor ⟨markText w, stripTabs, quoted⟩
      pure (.lead (stream.getD usual) .here text)
    | _, .word w _ => pure (.lead (stream.getD usual) direction w)
    | _, t => unexpected t none

/-- Reads the redirections behind a command. -/
def redirections : Nat → List Redirect → Reading (List Redirect)
  | 0, _ => tooDeep
  | fuel + 1, rs => do
    match ← token fuel true false with
    | .redirect stream direction stripTabs =>
      let r ← redirection fuel stream direction stripTabs
      redirections fuel (rs ++ [r])
    | t =>
      pushBack t
      pure rs

/-- Reads commands up to the end of a list. A list of whole lines ends with a line; any other ends
before a token that closes it, though not before its first command unless it may be empty. -/
def list : Nat → Bool → Bool → List Command → Reading (List Command)
  | 0, _, _, _ => tooDeep
  | fuel + 1, wholeLine, mayEnd, cs => do
    match ← token fuel true (!wholeLine) with
    | .newline => pure cs
    | .ending =>
      pushBack .ending
      pure cs
    | t =>
      pushBack t
      if mayEnd && !wholeLine && t.endsList then pure cs
      else
        let c ← chain fuel
        match ← token fuel false false with
        | .ampersand => list fuel wholeLine true (cs ++ [.background c])
        | .semicolon => list fuel wholeLine true (cs ++ [c])
        | .newline =>
          pushBack .newline
          list fuel wholeLine true (cs ++ [c])
        | .ending =>
          pushBack .ending
          list fuel wholeLine true (cs ++ [c])
        | t =>
          if wholeLine then unexpected t none
          else
            pushBack t
            pure (cs ++ [c])

/-- Reads commands joined by their results. -/
def chain : Nat → Reading Command
  | 0 => tooDeep
  | fuel + 1 => do chainFrom fuel (← pipeline fuel false)

/-- Reads what is joined to a command. -/
def chainFrom : Nat → Command → Reading Command
  | 0, _ => tooDeep
  | fuel + 1, c => do
    match ← token fuel false false with
    | .both => chainFrom fuel (.both c (← pipeline fuel true))
    | .either => chainFrom fuel (.either c (← pipeline fuel true))
    | t =>
      pushBack t
      pure c

/-- Reads commands joined by pipes. -/
def pipeline : Nat → Bool → Reading Command
  | 0, _ => tooDeep
  | fuel + 1, skipLines => do
    let t ← token fuel true skipLines
    let negated := t.isKeyword "!"
    if !negated then pushBack t
    let c ← command fuel false
    let parts ← pipeParts fuel [c]
    let c := match parts with
      | [c] => c
      | cs => .pipe cs
    pure (if negated then .negated c else c)

/-- Reads the further parts of a pipe. -/
def pipeParts : Nat → List Command → Reading (List Command)
  | 0, _ => tooDeep
  | fuel + 1, cs => do
    match ← token fuel false false with
    | .pipe =>
      let c ← command fuel true
      pipeParts fuel (cs ++ [c])
    | t =>
      pushBack t
      pure cs

/-- Skips a keyword that has to come next. -/
def expect : Nat → String → Bool → Reading Unit
  | 0, _, _ => tooDeep
  | fuel + 1, s, skipLines => do
    let t ← token fuel true skipLines
    if t.isKeyword s then pure () else unexpected t (some (.keyword s))

/-- Reads a branch behind its keyword. -/
def branches : Nat → Reading Command
  | 0 => tooDeep
  | fuel + 1 => do
    let condition ← list fuel false false []
    expect fuel "then" false
    let body ← list fuel false false []
    let t ← token fuel true false
    let branch (rest : Command) : Command := .branch (.sequence condition) (.sequence body) rest
    if t.isKeyword "elif" then pure (branch (← branches fuel))
    else if t.isKeyword "else" then
      let rest ← list fuel false false []
      expect fuel "fi" false
      pure (branch (.sequence rest))
    else if t.isKeyword "fi" then pure (branch (.sequence []))
    else unexpected t (some (.keyword "fi"))

/-- Reads the patterns of a case, from the first one on. -/
def casePatterns : Nat → Token → List Word → Reading (List Word)
  | 0, _, _ => tooDeep
  | fuel + 1, t, ws => do
    let ws := ws ++ t.word?.toList
    match ← token fuel false false with
    | .pipe => casePatterns fuel (← token fuel false false) ws
    | .closing => if t.word?.isSome then pure ws else unexpected t (some .closing)
    | u => unexpected u (some .closing)

/-- Reads cases up to the end of all. -/
def cases : Nat → List (List Word × Command) → Reading (List (List Word × Command))
  | 0, _ => tooDeep
  | fuel + 1, cs => do
    let t ← token fuel true true
    if t.isKeyword "esac" then pure cs
    else
      let first ← match t with
        | .opening => token fuel false false
        | t => pure t
      let patterns ← casePatterns fuel first []
      let body ← list fuel false true []
      let cs := cs ++ [(patterns, Command.sequence body)]
      match ← token fuel true true with
      | .caseEnd => cases fuel cs
      | t => if t.isKeyword "esac" then pure cs else unexpected t (some .caseEnd)

/-- Reads the words of a loop. -/
def loopWords : Nat → List Word → Reading (List Word)
  | 0, _ => tooDeep
  | fuel + 1, ws => do
    match ← token fuel false false with
    | .word w _ => loopWords fuel (ws ++ [w])
    | .newline => pure ws
    | .semicolon => pure ws
    | t => unexpected t none

/-- Reads a list between keywords. -/
def block : Nat → String → String → Bool → Reading Command
  | 0, _, _, _ => tooDeep
  | fuel + 1, first, last, skipLines => do
    expect fuel first skipLines
    let cs ← list fuel false false []
    expect fuel last false
    pure (.sequence cs)

/-- Reads a loop over words behind its keyword. -/
def wordLoop : Nat → Nat → Reading Command
  | 0, _ => tooDeep
  | fuel + 1, line => do
    match ← token fuel false false with
    | .word w false =>
      match (plain? w).filter isName with
      | none => malformed "Bad for loop variable"
      | some name =>
        let t ← token fuel true true
        let words ← if t.isKeyword "in" then loopWords fuel [] else do
          match t with
          | .semicolon => pure ()
          | t => pushBack t
          pure [[.parameter "@" .plain true]]
        let body ← block fuel "do" "done" true
        pure (.each line name words body)
    | _ => malformed "Bad for loop variable"

/-- Reads one command. -/
def command : Nat → Bool → Reading Command
  | 0, _ => tooDeep
  | fuel + 1, skipLines => do
    let line := (← get).line
    let t ← token fuel true skipLines
    if let some (name, text) := (← get).alias? t then
      modify fun s => s.withAlias name text
      return ← command fuel false
    let enclosed (c : Command) : Reading Command := do
      let rs ← redirections fuel []
      pure (if rs.isEmpty then c else .group line c rs)
    match t with
    | .opening =>
      let cs ← list fuel false false []
      match ← token fuel true false with
      | .closing => pure (.subshell line (.sequence cs) (← redirections fuel []))
      | t => unexpected t (some .closing)
    | .word _ _ =>
      pushBack t
      simple fuel (← get).line [] [] []
    | .redirect _ _ _ =>
      pushBack t
      simple fuel (← get).line [] [] []
    | .keyword "\x7b" =>
      let cs ← list fuel false false []
      expect fuel "\x7d" false
      enclosed (.sequence cs)
    | .keyword "if" => enclosed (← branches fuel)
    | .keyword "while" =>
      let c ← list fuel false false []
      enclosed (.loop true (.sequence c) (← block fuel "do" "done" false))
    | .keyword "until" =>
      let c ← list fuel false false []
      enclosed (.loop false (.sequence c) (← block fuel "do" "done" false))
    | .keyword "for" => enclosed (← wordLoop fuel line)
    | .keyword "case" =>
      match ← token fuel false false with
      | .word w _ =>
        expect fuel "in" true
        enclosed (.choice line w (← cases fuel []))
      | t => unexpected t (some (.word [] false))
    | t => unexpected t none

/-- Reads a command without structure. Assignments stand before the first word. -/
def simple : Nat → Nat → List (String × Word) → List Word → List Redirect → Reading Command
  | 0, _, _, _, _ => tooDeep
  | fuel + 1, line, settings, words, redirects => do
    match ← token fuel false false with
    | .redirect stream direction stripTabs =>
      let r ← redirection fuel stream direction stripTabs
      simple fuel line settings words (redirects ++ [r])
    | .word w _ =>
      match words.isEmpty, assignment? w with
      | true, some a => simple fuel line (settings ++ [a]) words redirects
      | _, _ => simple fuel line settings (words ++ [w]) redirects
    | t =>
      match t, words, settings.isEmpty && redirects.isEmpty with
      | .opening, [w], true =>
        match ← token fuel false false with
        | .closing =>
          match (plain? w).filter fun s => isName s && !fixedCommands.contains s with
          | some name => pure (.define name (← command fuel true))
          | none => malformed "Bad function name"
        | t => unexpected t (some .closing)
      | _, _, _ =>
        pushBack t
        pure (.simple line settings words redirects)

end

/-! ## Layer C: scripts -/

/-- How deep the reading of a text can get. -/
def readingDepth (s : Source) : Nat := 16 * (s.rest.length + 4)

/-- **Reads the next complete command of a script.** There is none at its end. -/
def readCommand (s : Source) : Except SyntaxFault (Option Command × Source) := do
  let s := { s with asked := 0, awaited := [], found := [], known := [] }
  let (cs, s) ← (settled (list (readingDepth s) true false [])).run s
  match cs, s.rest, s.pushed with
  | [], [], some _ => pure (none, s)
  | cs, _, _ => pure (some (.sequence cs), { s with pushed := none })

end Shell

end CodeAtlas
