import CodeAtlas.Shell.Awk.Program
import CodeAtlas.Shell.Awk.Value
import CodeAtlas.Shell.Script

/-!
# Lexemes of programs over records

A program text is divided into tokens before it is read. Line ends that mean nothing are dropped
here, and a statement that ends at a closing brace is given the end it lacks.

## Architecture

- **Layer A**: tokens;
- **Layer B**: texts with escapes;
- **Layer C**: pieces of a program text;
- **Layer D**: whole texts.
-/

namespace CodeAtlas

namespace Shell

namespace Awk

/-! ## Layer A: tokens -/

/-- A token. -/
inductive Token where
  | ending
  | newline
  | semicolon
  /-- The end of a statement before a closing brace. -/
  | impliedEnd
  /-- A sign without a value of its own. -/
  | sign (text : String)
  | update (op : NumberOp) (text : String)
  | compare (c : Comparison) (text : String)
  | matching (negated : Bool)
  | step (up : Bool)
  | number (f : Float) (text : String)
  | text (bs : Bytes)
  | regex (source : Bytes)
  | name (text : String)
  /-- A name directly before a bracket. -/
  | function (text : String)
  | builtin (text : String)
  | keyword (text : String)
  /-- A message about a text that is no token, which ends the reading. -/
  | fault (message : String)
  /-- A message about a sign that is passed over. -/
  | remark (message : String)

instance : Inhabited Token := ⟨.ending⟩

namespace Token

/-- How a message names a token. -/
def shown : Token → String
  | ending => "end of file"
  | newline => "end of line"
  | semicolon => ";"
  | impliedEnd => "\x7d"
  | sign t => t
  | update _ t => t
  | compare _ t => t
  | matching negated => if negated then "!~" else "~"
  | step up => if up then "++" else "--"
  | number _ t => t
  | text bs => Bytes.lossyText bs
  | regex bs => "/" ++ Bytes.lossyText bs ++ "/"
  | name t => t
  | function t => t
  | builtin t => t
  | keyword t => t
  | fault m => m
  | remark m => m

/-- Whether a token is a sign. -/
def isSign (text : String) : Token → Bool
  | sign t => t == text
  | _ => false

/-- Whether a token is a keyword. -/
def isKeyword (text : String) : Token → Bool
  | keyword t => t == text
  | _ => false

/-- Whether a token ends a statement. -/
def endsStatement : Token → Bool
  | newline | semicolon | impliedEnd => true
  | _ => false

/-- Whether a slash behind a token divides. -/
def endsOperand : Token → Bool
  | number _ _ | text _ | regex _ | name _ => true
  | sign t => t == ")" || t == "]"
  | keyword t => t == "getline"
  | _ => false

end Token

/-- A token with its line, and with the brackets and braces that are open there. -/
structure Lexeme where
  token : Token
  line : Nat
  brackets : Nat
  braces : Nat
  deriving Inhabited

/-- The words with a meaning of their own. -/
def keywordsOf : List String :=
  ["BEGIN", "END", "if", "else", "while", "for", "do", "break", "continue", "next", "nextfile",
   "exit", "return", "function", "print", "printf", "delete", "getline", "in"]

/-- The functions that are there, with the least and the greatest number of their arguments. -/
def builtins : List (String × Nat × Nat) :=
  [("length", 0, 1), ("substr", 2, 3), ("index", 2, 2), ("split", 2, 3), ("sub", 2, 3),
   ("gsub", 2, 3), ("match", 2, 2), ("sprintf", 1, 255), ("sin", 1, 1), ("cos", 1, 1),
   ("atan2", 2, 2), ("exp", 1, 1), ("log", 1, 1), ("sqrt", 1, 1), ("int", 1, 1), ("rand", 0, 0),
   ("srand", 0, 1), ("tolower", 1, 1), ("toupper", 1, 1), ("system", 1, 1), ("close", 1, 1),
   ("fflush", 0, 1), ("systime", 0, 0)]

/-! ## Layer B: escapes -/

/-- The bytes of a text in which a backslash stands before letters and digits of control
characters, quotes and other backslashes. Any other backslash stands for itself. -/
def withEscapes : Nat → List Char → Bytes
  | 0, _ => []
  | _ + 1, [] => []
  | fuel + 1, '\\' :: c :: rest =>
    let hex := (rest.take 2).takeWhile fun c => (hexValue? c).isSome
    if c == '"' then 34 :: withEscapes fuel rest
    else if c == '\n' then withEscapes fuel rest
    else if isOctal c then
      let ds := ((c :: rest).take 3).takeWhile isOctal
      UInt8.ofNat (valueIn 8 ds % 256) :: withEscapes fuel ((c :: rest).drop ds.length)
    else if c == 'x' && !hex.isEmpty then
      UInt8.ofNat ((hex.filterMap hexValue?).foldl (fun n d => 16 * n + d) 0)
        :: withEscapes fuel (rest.drop hex.length)
    else
      match if c == 'e' then none else letterEscape? c with
      | some b => b :: withEscapes fuel rest
      | none => 92 :: withEscapes fuel (c :: rest)
  | fuel + 1, c :: rest => Bytes.ofText (String.singleton c) ++ withEscapes fuel rest

/-- The bytes of a text with escapes. -/
def escaped (cs : List Char) : Bytes := withEscapes (cs.length + 1) cs

/-! ## Layer C: pieces -/

/-- Drops blanks, joined lines and comments. Line ends may be dropped as well. The result tells
what is left, and its line. -/
def skipBlank (lines : Bool) : Nat → List Char → Nat → List Char × Nat
  | 0, cs, line => (cs, line)
  | _ + 1, [], line => ([], line)
  | fuel + 1, '\\' :: '\n' :: rest, line => skipBlank lines fuel rest (line + 1)
  | fuel + 1, '#' :: rest, line => skipBlank lines fuel (rest.dropWhile (· != '\n')) line
  | fuel + 1, '\n' :: rest, line =>
    if lines then skipBlank lines fuel rest (line + 1) else ('\n' :: rest, line)
  | fuel + 1, c :: rest, line =>
    if [' ', '\t', '\r', '\x0c', '\x0b'].contains c then skipBlank lines fuel rest line
    else (c :: rest, line)

/-- The characters of a quoted text up to its closing quote, and what is left behind it. -/
def quotedText : Nat → List Char → List Char → Option (List Char × List Char)
  | 0, _, _ => none
  | _ + 1, [], _ => none
  | _ + 1, '"' :: rest, done => some (done.reverse, rest)
  | _ + 1, '\n' :: _, _ => none
  | fuel + 1, '\\' :: c :: rest, done => quotedText fuel rest (c :: '\\' :: done)
  | fuel + 1, c :: rest, done => quotedText fuel rest (c :: done)

/-- The characters of a regular expression up to its closing slash, and what is left behind it. A
slash between square brackets is part of the expression. -/
def slashedText : Nat → Bool → List Char → List Char → Option (List Char × List Char)
  | 0, _, _, _ => none
  | _ + 1, _, [], _ => none
  | _ + 1, _, '\n' :: _, _ => none
  | fuel + 1, inSet, '\\' :: c :: rest, done =>
    if c == '/' then slashedText fuel inSet rest ('/' :: done)
    else slashedText fuel inSet rest (c :: '\\' :: done)
  | fuel + 1, false, '[' :: '^' :: ']' :: rest, done =>
    slashedText fuel true rest (']' :: '^' :: '[' :: done)
  | fuel + 1, false, '[' :: ']' :: rest, done => slashedText fuel true rest (']' :: '[' :: done)
  | fuel + 1, inSet, c :: rest, done =>
    if c == '/' && !inSet then some (done.reverse, rest)
    else slashedText fuel (if c == '[' then true else if c == ']' then false else inSet) rest
      (c :: done)

/-- A number at the start of a text, and how it is written. -/
def writtenNumber (cs : List Char) : Float × List Char × List Char :=
  let whole := cs.takeWhile Char.isDigit
  let (f, left) : Float × List Char :=
    if whole == ['0'] then
      let behind := cs.drop 1
      if behind.head? == some 'x' || behind.head? == some 'X' then (0, behind) else numeralAt cs
    else numeralAt cs
  (f, cs.take (cs.length - left.length), left)

/-- The start of a text in a message about a text that does not end. -/
def startOf (cs : List Char) : String :=
  String.ofList ((cs.takeWhile (· != '\n')).take 10) ++ " ..."

/-- The sign at the start of a text, and what is left. -/
def signAt : List Char → Option (Token × List Char)
  | '+' :: '+' :: r => some (.step true, r)
  | '-' :: '-' :: r => some (.step false, r)
  | '+' :: '=' :: r => some (.update .add "+=", r)
  | '-' :: '=' :: r => some (.update .subtract "-=", r)
  | '*' :: '=' :: r => some (.update .multiply "*=", r)
  | '/' :: '=' :: r => some (.update .divide "/=", r)
  | '%' :: '=' :: r => some (.update .remainder "%=", r)
  | '^' :: '=' :: r => some (.update .power "^=", r)
  | '=' :: '=' :: r => some (.compare .equal "==", r)
  | '!' :: '=' :: r => some (.compare .notEqual "!=", r)
  | '<' :: '=' :: r => some (.compare .lessEqual "<=", r)
  | '>' :: '=' :: r => some (.compare .greaterEqual ">=", r)
  | '>' :: '>' :: r => some (.sign ">>", r)
  | '<' :: r => some (.compare .less "<", r)
  | '>' :: r => some (.compare .greater ">", r)
  | '!' :: '~' :: r => some (.matching true, r)
  | '~' :: r => some (.matching false, r)
  | '&' :: '&' :: r => some (.sign "&&", r)
  | '|' :: '|' :: r => some (.sign "||", r)
  | c :: r =>
    if ['+', '-', '*', '/', '%', '^', '=', '!', '|', '?', ':', ',', '$', '[', ']', '(', ')',
      '\x7b', '\x7d'].contains c then some (.sign (String.singleton c), r)
    else none
  | [] => none

/-- The word at the start of a text, as a token. -/
def wordToken (word : List Char) (rest : List Char) : Token :=
  let s := String.ofList word
  if keywordsOf.contains s then .keyword s
  else if (builtins.lookup s).isSome then .builtin s
  else if rest.head? == some '(' then .function s
  else .name s

/-- The token at the start of a text that is not empty, and what is left. A slash divides behind an
operand. -/
def tokenAt (before : Token) (cs : List Char) : Token × List Char :=
  match cs with
  | [] => (.ending, [])
  | '\n' :: rest => (.newline, rest)
  | ';' :: rest => (.semicolon, rest)
  | '"' :: rest =>
    match quotedText (rest.length + 1) rest [] with
    | some (body, rest) => (.text (escaped body), rest)
    | none => (.fault ("runaway string constant \"" ++ startOf rest), [])
  | c :: rest =>
    if isNameStart c then
      let word := cs.takeWhile isNameChar
      (wordToken word (cs.drop word.length), cs.drop word.length)
    else if c.isDigit || (c == '.' && rest.head?.any Char.isDigit) then
      let (f, written, left) := writtenNumber cs
      (.number f (String.ofList written), left)
    else if c == '/' && !before.endsOperand then
      match slashedText (rest.length + 1) false rest [] with
      | some (body, rest) => (.regex (Bytes.ofText (String.ofList body)), rest)
      | none =>
        (.fault ("runaway regular expression /" ++ startOf (rest.dropWhile (· == ' '))), [])
    else
      match signAt cs with
      | some r => r
      | none => (.fault ("unexpected character '" ++ String.singleton c ++ "'"), [])

/-! ## Layer D: whole texts -/

/-- Signs and words behind which a line end means nothing. -/
def opensLine : Token → Bool
  | .newline | .semicolon => true
  | .sign t => [",", "&&", "||", "\x7b", "\x7d"].contains t
  | .keyword t => t == "do" || t == "else"
  | _ => false

/-- The lexemes of a text, from one on. -/
def lexemesFrom : Nat → Token → Nat → Nat → Nat → List Char → List Lexeme
  | 0, _, line, brackets, braces, _ => [⟨.ending, line, brackets, braces⟩]
  | fuel + 1, before, line, brackets, braces, cs =>
    let (cs, line) := skipBlank (opensLine before) (cs.length + 1) cs line
    let (t, rest) := tokenAt before cs
    let plain (t : Token) (brackets braces : Nat) (rest : List Char) : List Lexeme :=
      let next := if t matches .newline then line + 1
        else line + ((cs.take (cs.length - rest.length)).filter (· == '\n')).length
      ⟨t, line, brackets, braces⟩ :: lexemesFrom fuel t next brackets braces rest
    match t with
    | .ending => [⟨.ending, line, brackets, braces⟩]
    | .fault _ => [⟨t, line, brackets, braces⟩]
    | .sign "(" => plain t (brackets + 1) braces rest
    | .sign ")" =>
      if brackets == 0 then plain (.remark "extra ')'") 0 braces rest
      else plain t (brackets - 1) braces rest
    | .sign "\x7b" => plain t brackets (braces + 1) rest
    | .sign "\x7d" =>
      let ended := before.endsStatement || before.isSign "\x7d"
      if braces == 0 then plain (.remark "extra '\x7d'") brackets 0 rest
      else if !ended then plain .impliedEnd brackets braces cs
      else if braces == 1 then
        let (behind, _) := skipBlank false (rest.length + 1) rest line
        plain t brackets 0 (if behind.head? == some ';' then behind.drop 1 else rest)
      else plain t brackets (braces - 1) rest
    | _ => plain t brackets braces rest

/-- **The lexemes of a program text.** -/
def lexemes (text : String) : List Lexeme :=
  let cs := text.toList ++ ['\n']
  lexemesFrom (2 * cs.length + 2) .newline 1 0 0 cs

end Awk

end Shell

end CodeAtlas
