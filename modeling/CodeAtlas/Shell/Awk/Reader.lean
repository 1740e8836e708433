import CodeAtlas.Shell.Awk.Lexeme
import CodeAtlas.Shell.Awk.Record

/-!
# Reading programs over records

From lexemes to rules and functions. Operators bind in levels, and each level reads the next
tighter one. Expressions contain each other, and so do statements, so each is read in one recursion
whose first argument bounds its depth.

## Architecture

- **Layer A**: faults and the state of reading;
- **Layer B**: names;
- **Layer C**: expressions;
- **Layer D**: statements;
- **Layer E**: programs.
-/

namespace CodeAtlas

namespace Shell

namespace Awk

/-! ## Layer A: state -/

/-- What is wrong with a program text. -/
structure ProgramFault where
  line : Nat
  message : String
  /-- Whether the message is about a character that belongs to no program. -/
  isStray : Bool := false
  /-- Whether nothing can be read behind the fault. -/
  isFinal : Bool := false
  deriving Repr, DecidableEq, Inhabited

/-- The wording of a fault in a file, which may have no name. -/
def ProgramFault.shown (f : ProgramFault) (file : Option String) : String :=
  (match file with
    | some name => name ++ ": "
    | none => "")
  ++ (if f.isStray then "" else "line ") ++ toString f.line ++ ": " ++ f.message

/-- What is left of a program, and what is known where it is read. -/
structure Reader where
  left : List Lexeme
  /-- The functions that were defined so far. -/
  routines : List String := []
  /-- The parameters of the function that is read. -/
  parameters : List String := []
  inRoutine : Bool := false
  /-- Whether a rule for records is read. -/
  inRecordRule : Bool := false
  /-- How many loops are open. -/
  loops : Nat := 0
  /-- Whether a sign for more sends what is printed elsewhere. -/
  inPrint : Bool := false
  /-- The brackets that were left open by faults. -/
  forgotten : Nat := 0
  /-- Which names are arrays. -/
  kinds : List (String × Bool) := []
  /-- Which parameters of the function that is read are arrays. -/
  innerKinds : List (String × Bool) := []
  /-- The functions that are called, with the numbers of arguments and the lines. -/
  called : List (String × Nat × Nat) := []
  /-- What is wrong and does not end the reading. -/
  remarks : List ProgramFault := []

/-- Reading from a program. A fault leaves what comes behind it to be read. -/
abbrev Parsing := ExceptT ProgramFault (StateM Reader)

/-- The next lexeme, which is not dropped. -/
def lexeme : Parsing Lexeme := do pure ((← get).left.headD default)

/-- Notes what is wrong and goes on. -/
def note (message : String) : Parsing Unit := do
  let line := (← lexeme).line
  modify fun s => { s with remarks := s.remarks ++ [{ line, message }] }

/-- Drops remarks of the lexemes, and keeps them. -/
def keepRemarks : List Lexeme → List ProgramFault → List Lexeme × List ProgramFault
  | l :: rest, found =>
    match l.token with
    | .remark m => keepRemarks rest (found ++ [{ line := l.line, message := m }])
    | _ => (l :: rest, found)
  | [], found => ([], found)

/-- The next token, which is not dropped. -/
def look : Parsing Token := do
  modify fun s =>
    let (left, remarks) := keepRemarks s.left s.remarks
    { s with left, remarks }
  let l ← lexeme
  match l.token with
  | .fault m => throw ⟨l.line, m, m.startsWith "unexpected", true⟩
  | t => pure t

/-- Drops the next token. -/
def skip : Parsing Unit := modify fun s => { s with left := s.left.drop 1 }

/-- Refuses the program at the next token. -/
def refuseHere {α : Type} : Parsing α := do
  let t ← look
  let l ← lexeme
  let isEnd : Bool := match t with
    | .ending => true
    | _ => t.endsStatement || t.isSign "\x7d"
  let startsRule : Bool := match t with
    | .ending => true
    | _ => t.isKeyword "BEGIN" || t.isKeyword "END"
  let isOpen : Bool := (← get).forgotten < l.brackets
  throw {
    line := l.line
    message := (if isOpen && isEnd then "missing ) near "
      else if 0 < l.braces && startsRule then "missing \x7d near "
      else "syntax error at or near ") ++ t.shown }

/-- Drops the next token if it is a sign. -/
def skipSign (text : String) : Parsing Bool := do
  if (← look).isSign text then
    skip
    pure true
  else pure false

/-- Drops the next token, which has to be a sign. -/
def needSign (text : String) : Parsing Unit := do
  if !(← skipSign text) then refuseHere

/-- Drops the next token if it is a keyword. -/
def skipKeyword (text : String) : Parsing Bool := do
  if (← look).isKeyword text then
    skip
    pure true
  else pure false

/-- Drops line ends. -/
def skipLines : Nat → Parsing Unit
  | 0 => pure ()
  | fuel + 1 => do
    if (← look) matches .newline then
      skip
      skipLines fuel

/-- Drops the end of a statement. -/
def needEnd : Parsing Unit := do
  if (← look).endsStatement then skip else refuseHere

/-- Goes on behind a fault, at a token where that is possible. -/
def recover (f : ProgramFault) (isWanted : Token → Bool) : Parsing Unit := do
  if f.isFinal then throw f
  modify fun s => { s with
    left := s.left.dropWhile fun l => !isWanted l.token
    inPrint := false }
  match (← get).left with
  | [] => throw { f with isFinal := true }
  | l :: _ => modify fun s => { s with remarks := s.remarks ++ [f], forgotten := l.brackets }

/-- Reads where signs for more compare. -/
def enclosed {α : Type} (read : Parsing α) : Parsing α := do
  let before := (← get).inPrint
  modify fun s => { s with inPrint := false }
  let a ← read
  modify fun s => { s with inPrint := before }
  pure a

/-! ## Layer B: names -/

/-- The variable that a name stands for. -/
def nameOf (text : String) : Parsing Name := do
  match (← get).parameters.idxOf? text with
  | some i => pure (.parameter i)
  | none => pure (.shared text)

/-- Notes that a name is used as an array or as a single value. -/
def useAs (isArray : Bool) (text : String) : Parsing Name := do
  let n ← nameOf text
  let isInner : Bool := n != .shared text
  let s ← get
  match (if isInner then s.innerKinds else s.kinds).lookup text with
  | none =>
    if isInner then modify fun s => { s with innerKinds := (text, isArray) :: s.innerKinds }
    else modify fun s => { s with kinds := (text, isArray) :: s.kinds }
  | some was =>
    if was != isArray then
      note ("illegal reference to " ++ (if isInner then "local " else "")
        ++ (if was then "array " else "variable ") ++ text)
  pure n

/-- Notes a call of a function. -/
def callOf (function : String) (args : List Expr) : Parsing Expr := do
  let line := (← lexeme).line
  modify fun s => { s with called := s.called ++ [(function, args.length, line)] }
  pure (.call function args)

/-- A regular expression, which has to be one. -/
def regexHere (source : Bytes) : Parsing Expr := do
  match regexOf source with
  | .ok _ => pure (.regex source)
  | .error why =>
    throw ⟨(← lexeme).line,
      "regular expression compile failed (" ++ why ++ ")\n" ++ Bytes.lossyText source, false, true⟩

/-- Reads the name of an array. -/
def arrayName : Parsing Name := do
  match ← look with
  | .name text =>
    skip
    useAs true text
  | _ => refuseHere

/-! ## Layer C: expressions -/

/-- The operators on conditions and texts, by level. -/
def levelOp? (level : Nat) (inPrint : Bool) : Token → Option (Expr → Expr → Expr)
  | .sign "||" => if level == 1 then some .either else none
  | .sign "&&" => if level == 2 then some .both else none
  | .matching negated => if level == 4 then some (.isMatch negated) else none
  | .compare c _ =>
    if level == 5 && !(inPrint && c == .greater) then some (.compared c) else none
  | _ => none

/-- The operators on numbers, by level. -/
def numberOp? (level : Nat) : Token → Option NumberOp
  | .sign "+" => if level == 7 then some .add else none
  | .sign "-" => if level == 7 then some .subtract else none
  | .sign "*" => if level == 8 then some .multiply else none
  | .sign "/" => if level == 8 then some .divide else none
  | .sign "%" => if level == 8 then some .remainder else none
  | _ => none

/-- Whether a token begins an operand that is joined to the one before. -/
def beginsOperand : Token → Bool
  | .number _ _ | .text _ | .regex _ | .name _ | .function _ | .builtin _ | .step _ => true
  | .sign t => ["$", "!", "("].contains t
  | .keyword t => t == "getline"
  | _ => false

mutual

/-- Reads an expression, with choices between two. -/
def expression : Nat → Parsing Expr
  | 0 => refuseHere
  | fuel + 1 => do
    let e ← level fuel 1
    if ← skipSign "?" then
      let a ← expression fuel
      needSign ":"
      let b ← expression fuel
      pure (.choice e a b)
    else pure e

/-- Reads an expression of a level. -/
def level : Nat → Nat → Parsing Expr
  | 0, _ => refuseHere
  | fuel + 1, n => do
    if 6 ≤ n then joinedOperands fuel
    else levelFrom fuel n (← level fuel (n + 1))

/-- Reads the operators of a level behind an operand. -/
def levelFrom : Nat → Nat → Expr → Parsing Expr
  | 0, _, _ => refuseHere
  | fuel + 1, n, e => do
    let t ← look
    match levelOp? n (← get).inPrint t with
    | some op =>
      skip
      levelFrom fuel n (op e (← level fuel (n + 1)))
    | none =>
      if n == 3 && t.isKeyword "in" then
        skip
        let array ← arrayName
        levelFrom fuel n (.isElement [e] array)
      else pure e

/-- Reads operands that are joined, or an assignment. -/
def joinedOperands : Nat → Parsing Expr
  | 0 => refuseHere
  | fuel + 1 => do
    let e ← sum fuel 7
    if e.isTarget then
      match ← look with
      | .sign "=" =>
        skip
        pure (.assign e (← expression fuel))
      | .update op _ =>
        skip
        pure (.update op e (← expression fuel))
      | _ => joinedFrom fuel e
    else joinedFrom fuel e

/-- Reads further operands that are joined. -/
def joinedFrom : Nat → Expr → Parsing Expr
  | 0, _ => refuseHere
  | fuel + 1, e => do
    if beginsOperand (← look) then joinedFrom fuel (.joined e (← sum fuel 7)) else pure e

/-- Reads a sum or a product. -/
def sum : Nat → Nat → Parsing Expr
  | 0, _ => refuseHere
  | fuel + 1, n => do
    if 9 ≤ n then signed fuel else sumFrom fuel n (← sum fuel (n + 1))

/-- Reads the operators of a sum or a product behind an operand. -/
def sumFrom : Nat → Nat → Expr → Parsing Expr
  | 0, _, _ => refuseHere
  | fuel + 1, n, e => do
    match numberOp? n (← look) with
    | some op =>
      skip
      sumFrom fuel n (.arithmetic op e (← sum fuel (n + 1)))
    | none => pure e

/-- Reads an operand with signs before it. -/
def signed : Nat → Parsing Expr
  | 0 => refuseHere
  | fuel + 1 => do
    match ← look with
    | .sign "!" =>
      skip
      pure (.not (← signed fuel))
    | .sign "-" =>
      skip
      pure (.negative (← signed fuel))
    | .sign "+" =>
      skip
      pure (.positive (← signed fuel))
    | _ => do fromCommand fuel (← power fuel)

/-- Reads what is asked of a command. -/
def fromCommand : Nat → Expr → Parsing Expr
  | 0, _ => refuseHere
  | fuel + 1, e => do
    let isPipe : Bool := (← look).isSign "|"
    let s ← get
    if isPipe && !s.inPrint then
      skip
      if !(← skipKeyword "getline") then refuseHere
      fromCommand fuel (.recordFrom e (← recordTarget fuel))
    else pure e

/-- Reads a power. -/
def power : Nat → Parsing Expr
  | 0 => refuseHere
  | fuel + 1 => do
    let e ← behindOperand (← operand fuel)
    if ← skipSign "^" then
      let raised ← match ← look with
        | .sign "-" => signed fuel
        | .sign "+" => signed fuel
        | .sign "!" => signed fuel
        | _ => power fuel
      pure (.arithmetic .power e raised)
    else pure e

/-- Reads the variable or field that a record goes to. -/
def recordTarget : Nat → Parsing (Option Expr)
  | 0 => refuseHere
  | fuel + 1 => do
    match ← look with
    | .name _ => do pure (some (← operand fuel))
    | .sign "$" => do pure (some (← operand fuel))
    | _ => pure none

/-- Reads expressions between commas, up to a sign, which is dropped. -/
def listUpTo (closing : String) : Nat → List Expr → Parsing (List Expr)
  | 0, _ => refuseHere
  | fuel + 1, es => do
    if es.isEmpty && closing == ")" && (← look).isSign closing then
      skip
      pure []
    else
      let es := es ++ [← expression fuel]
      if ← skipSign "," then listUpTo closing fuel es
      else
        needSign closing
        pure es

/-- Reads the arguments of a function. A name alone may be an array. -/
def arguments : Nat → List Expr → Parsing (List Expr)
  | 0, _ => refuseHere
  | fuel + 1, es => do
    if es.isEmpty && (← look).isSign ")" then
      skip
      pure []
    else
      let s ← get
      let isNameAlone : Bool := match (s.left.drop 1).head? with
        | some l => l.token.isSign "," || l.token.isSign ")"
        | none => false
      let e ← match ← look with
        | .name text =>
          if isNameAlone then do
            skip
            pure (Expr.valueOf (← nameOf text))
          else expression fuel
        | _ => expression fuel
      if ← skipSign "," then arguments fuel (es ++ [e])
      else
        needSign ")"
        pure (es ++ [e])

/-- Reads the arguments of a function that is always there. Some have to have as many as they need,
and one of them may have to be an array. -/
def builtinArguments (function : String) : Nat → Parsing (List Expr)
  | 0 => refuseHere
  | fuel + 1 => do
    match function with
    | "length" =>
      let s ← get
      match (s.left.map (·.token) : List Token) with
      | .name text :: .sign ")" :: _ =>
        skip
        skip
        pure [.valueOf (← nameOf text)]
      | _ =>
        if ← skipSign ")" then pure []
        else
          let e ← expression fuel
          needSign ")"
          pure [e]
    | "split" =>
      let e ← expression fuel
      needSign ","
      let array ← arrayName
      let rest ← if ← skipSign "," then do pure [← expression fuel] else pure []
      needSign ")"
      pure (e :: .valueOf array :: rest)
    | _ =>
      if ["sub", "gsub", "match"].contains function then
        let a ← expression fuel
        needSign ","
        let b ← expression fuel
        let takesTarget : Bool := function != "match"
        let rest ← if takesTarget && (← look).isSign "," then do
            skip
            pure [← expression fuel]
          else pure []
        needSign ")"
        pure (a :: b :: rest)
      else listUpTo ")" fuel []

/-- Reads an operand without signs. -/
def operand : Nat → Parsing Expr
  | 0 => refuseHere
  | fuel + 1 => do
    match ← look with
    | .number f _ =>
      skip
      pure (.number f)
    | .text bs =>
      skip
      pure (.text bs)
    | .regex bs =>
      let e ← regexHere bs
      skip
      pure e
    | .step up =>
      skip
      match ← look with
      | .name _ => do pure (.step up false (← operand fuel))
      | .sign "$" => do pure (.step up false (← operand fuel))
      | _ => refuseHere
    | .name text =>
      skip
      if (← get).routines.contains text then
        needSign "("
        callOf text (← enclosed (arguments fuel []))
      else if ← skipSign "[" then
        let array ← useAs true text
        pure (.element array (← enclosed (listUpTo "]" fuel [])))
      else do pure (.valueOf (← useAs false text))
    | .function text =>
      skip
      skip
      callOf text (← enclosed (arguments fuel []))
    | .builtin text =>
      skip
      let args ← if ← skipSign "(" then enclosed (builtinArguments text fuel)
        else if text == "length" then pure []
        else refuseHere
      let (least, most) := (builtins.lookup text).getD (0, 0)
      if args.length < least || most < args.length then
        note ("wrong number of arguments in call to " ++ text)
      pure (.builtin text args)
    | .sign "$" =>
      skip
      match ← look with
      | .sign "-" => do pure (.field (← signed fuel))
      | .sign "+" => do pure (.field (← signed fuel))
      | .sign "!" => do pure (.field (← signed fuel))
      | _ =>
        let e ← operand fuel
        match e.bare with
        | .field _ => do pure (.field (← behindOperand e.bare))
        | .valueOf (.shared "NF") => do pure (.field (← behindOperand e.bare))
        | _ => pure (.field e)
    | .sign "(" =>
      skip
      let es ← enclosed (listUpTo ")" fuel [])
      match es with
      | [e] => pure (.grouped e)
      | [] => refuseHere
      | _ =>
        if ← skipKeyword "in" then do pure (.isElement es (← arrayName)) else refuseHere
    | .keyword "getline" =>
      skip
      let target ← recordTarget fuel
      match ← look with
      | .compare .less _ =>
        skip
        pure (.recordOf target (← power fuel))
      | _ => pure (.nextRecord target)
    | _ => refuseHere

/-- Reads a step behind an operand. -/
def behindOperand (e : Expr) : Parsing Expr := do
  match e.isTarget, ← look with
  | true, .step up =>
    skip
    pure (.step up true e)
  | _, _ => pure e

end

/-! ## Layer D: statements -/

/-- Reads where what is printed goes. -/
def outletHere (fuel : Nat) : Parsing (Option (Outlet × Expr)) := do
  let kind : Option Outlet := match ← look with
    | .compare .greater _ => some .file
    | .sign ">>" => some .append
    | .sign "|" => some .command
    | _ => none
  match kind with
  | none => pure none
  | some k =>
    skip
    modify fun s => { s with inPrint := false }
    pure (some (k, ← expression fuel))

/-- Reads expressions between commas up to the end of a statement or an outlet. -/
def printed (fuel : Nat) : Nat → List Expr → Parsing (List Expr)
  | 0, _ => refuseHere
  | n + 1, es => do
    let es := es ++ [← expression fuel]
    if ← skipSign "," then printed fuel n es else pure es

/-- Whether the next token ends what is printed. -/
def endsPrinted (t : Token) : Bool :=
  t.endsStatement || t.isSign ">>" || t.isSign "|" || (t matches .compare .greater _)

/-- Reads what is printed. Several expressions may stand between brackets. -/
def printedHere (fuel : Nat) : Parsing (List Expr) := do
  modify fun s => { s with inPrint := true }
  let t ← look
  if endsPrinted t then pure []
  else
    let before ← get
    let among : Parsing (Option (List Expr)) := do
      if !t.isSign "(" then pure none
      else
        skip
        let es ← enclosed (listUpTo ")" fuel [])
        if endsPrinted (← look) && es.length != 1 then pure (some es) else pure none
    match ← tryCatch among fun _ => pure none with
    | some es => pure es
    | none =>
      set before
      printed fuel fuel []

/-- Reads the end of a statement, and gives the statement. -/
def ended (s : Statement) : Parsing Statement := do
  needEnd
  pure s

/-- Reads the condition of a branch or a loop between its brackets. -/
def conditionHere (fuel : Nat) : Parsing Expr := do
  needSign "("
  let e ← expression fuel
  needSign ")"
  pure e

/-- Reads an expression unless a token comes next. -/
def expressionUnless (stop : Token → Bool) (fuel : Nat) : Parsing (Option Expr) := do
  if stop (← look) then pure none else do pure (some (← expression fuel))

/-- The key and the array of a loop over keys, if one is next. -/
def keyLoop? (ls : List Lexeme) : Option (String × String) :=
  match (ls.map (·.token) : List Token) with
  | .sign "(" :: .name key :: .keyword "in" :: .name array :: .sign ")" :: _ => some (key, array)
  | _ => none

/-- Reads inside of one more loop. -/
def inLoop (read : Parsing Statement) : Parsing Statement := do
  modify fun s => { s with loops := s.loops + 1 }
  let a ← read
  modify fun s => { s with loops := s.loops - 1 }
  pure a

mutual

/-- Reads a statement. Behind a fault in it the next one is read. -/
def statement : Nat → Parsing Statement
  | 0 => refuseHere
  | fuel + 1 => do
    let loops := (← get).loops
    tryCatch (soundStatement fuel) fun f => do
      recover f Token.endsStatement
      modify fun s => { s with left := s.left.drop 1, loops := loops }
      pure .nothing

/-- Reads a statement without faults. -/
def soundStatement : Nat → Parsing Statement
  | 0 => refuseHere
  | fuel + 1 => do
    match ← look with
    | .sign "\x7b" => block fuel
    | .keyword "if" =>
      skip
      let condition ← conditionHere fuel
      skipLines fuel
      let body ← statement fuel
      if ← skipKeyword "else" then do pure (.branch condition body (some (← statement fuel)))
      else pure (.branch condition body none)
    | .keyword "while" =>
      skip
      let condition ← conditionHere fuel
      skipLines fuel
      inLoop (do pure (.whileTrue condition (← statement fuel)))
    | .keyword "do" =>
      skip
      let body ← inLoop (statement fuel)
      if !(← skipKeyword "while") then refuseHere
      let condition ← conditionHere fuel
      ended (.doWhile body condition)
    | .keyword "for" =>
      skip
      match keyLoop? ((← get).left.take 5) with
      | some (key, array) =>
        modify fun s => { s with left := s.left.drop 5 }
        let array ← useAs true array
        let key ← useAs false key
        skipLines fuel
        inLoop (do pure (.eachKey key array (← statement fuel)))
      | none =>
        needSign "("
        let isEnd (t : Token) : Bool := t matches .semicolon
        let first ← expressionUnless isEnd fuel
        if (← look) matches .semicolon then skip else refuseHere
        let condition ← expressionUnless isEnd fuel
        if (← look) matches .semicolon then skip else refuseHere
        let after ← expressionUnless (·.isSign ")") fuel
        needSign ")"
        skipLines fuel
        inLoop (do pure (.loop first condition after (← statement fuel)))
    | .keyword "break" =>
      skip
      if (← get).loops == 0 then note "break statement outside of loop"
      ended .leave
    | .keyword "continue" =>
      skip
      if (← get).loops == 0 then note "continue statement outside of loop"
      ended .goOn
    | .keyword "next" =>
      skip
      if !(← get).inRecordRule then note "improper use of next"
      ended .nextRecord
    | .keyword "nextfile" =>
      skip
      if !(← get).inRecordRule then note "improper use of nextfile"
      ended .nextFile
    | .keyword "exit" =>
      skip
      ended (.finish (← expressionUnless Token.endsStatement fuel))
    | .keyword "return" =>
      skip
      if !(← get).inRoutine then note "return outside function body"
      ended (.giveBack (← expressionUnless Token.endsStatement fuel))
    | .keyword "delete" =>
      skip
      let array ← arrayName
      if ← skipSign "[" then do ended (.deleteElement array (← listUpTo "]" fuel []))
      else ended (.deleteAll array)
    | .keyword "print" =>
      skip
      let es ← printedHere fuel
      let outlet ← outletHere fuel
      modify fun s => { s with inPrint := false }
      ended (.print es outlet)
    | .keyword "printf" =>
      skip
      let es ← printedHere fuel
      if es.isEmpty then note "no arguments in call to printf"
      let outlet ← outletHere fuel
      modify fun s => { s with inPrint := false }
      ended (.printFormat es outlet)
    | t =>
      if t.endsStatement then
        skip
        pure .nothing
      else do ended (.evaluate (← expression fuel))

/-- Reads statements between braces. -/
def block : Nat → Parsing Statement
  | 0 => refuseHere
  | fuel + 1 => do
    needSign "\x7b"
    pure (.block (← statements fuel []))

/-- Reads statements up to a closing brace, which is dropped. -/
def statements : Nat → List Statement → Parsing (List Statement)
  | 0, _ => refuseHere
  | fuel + 1, done => do
    if ← skipSign "\x7d" then pure done
    else statements fuel (done ++ [← statement fuel])

end

/-! ## Layer E: programs -/

/-- Reads the names of parameters, up to a closing bracket. -/
def parameterNames : Nat → List String → Parsing (List String)
  | 0, _ => refuseHere
  | fuel + 1, names => do
    match ← look with
    | .name text =>
      skip
      if names.contains text then note (text ++ " is duplicated in argument list")
      if ← skipSign "," then parameterNames fuel (names ++ [text])
      else
        needSign ")"
        pure (names ++ [text])
    | t =>
      if names.isEmpty && t.isSign ")" then
        skip
        pure []
      else refuseHere

/-- Reads a function behind its keyword. -/
def routine (fuel : Nat) : Parsing Routine := do
  let name ← match ← look with
    | .function text => pure text
    | .name text => pure text
    | _ => refuseHere
  if (← get).routines.contains name then note ("redefinition of " ++ name)
  else if (← get).kinds.lookup name == some false then
    note ("illegal reference to variable " ++ name)
  modify fun s => { s with routines := name :: s.routines }
  skip
  needSign "("
  let parameters ← parameterNames fuel []
  skipLines fuel
  modify fun s => { s with
    parameters, innerKinds := [], inRoutine := true, inRecordRule := false }
  let body ← block fuel
  modify fun s => { s with parameters := [], inRoutine := false }
  pure ⟨name, parameters, body⟩

/-- Reads the action of a rule, or none at the end of a line. -/
def actionHere (fuel : Nat) : Parsing (Option Statement) := do
  if (← look).isSign "\x7b" then do pure (some (← block fuel))
  else
    needEnd
    pure none

/-- Reads a rule. -/
def rule (fuel : Nat) : Parsing Rule := do
  modify fun s => { s with inRecordRule := false }
  if ← skipKeyword "BEGIN" then do pure ⟨.first, some (← block fuel)⟩
  else if ← skipKeyword "END" then do pure ⟨.last, some (← block fuel)⟩
  else
    modify fun s => { s with inRecordRule := true }
    if (← look).isSign "\x7b" then do pure ⟨.always, some (← block fuel)⟩
    else
      let a ← expression fuel
      if ← skipSign "," then
        let b ← expression fuel
        pure ⟨.between a b, ← actionHere fuel⟩
      else pure ⟨.when a, ← actionHere fuel⟩

/-- Reads rules and functions up to the end. -/
def programFrom (fuel : Nat) : Nat → Program → Parsing Program
  | 0, p => pure p
  | n + 1, p => do
    match ← look with
    | .ending => pure p
    | .keyword "function" =>
      skip
      let r ← routine fuel
      programFrom fuel n { p with functions := p.functions ++ [r] }
    | _ =>
      let r ← tryCatch (rule fuel) fun f => do
        recover f (·.isSign "\x7b")
        pure ⟨.always, some (← block fuel)⟩
      programFrom fuel n { p with rules := p.rules ++ [r] }

/-- The names that are arrays or single values in all programs. -/
def knownKinds : List (String × Bool) :=
  [("ENVIRON", true), ("ARGV", true)]
    ++ ["NF", "NR", "FNR", "FS", "OFS", "ORS", "RS", "SUBSEP", "CONVFMT", "OFMT", "RSTART",
        "RLENGTH", "FILENAME", "ARGC"].map fun s => (s, false)

/-- What is wrong with the calls of a program, whose last line is given. -/
def callFaults (p : Program) (called : List (String × Nat × Nat)) (last : Nat) :
    List ProgramFault :=
  let many := called.filterMap fun (name, count, line) =>
    match p.function? name with
    | some f =>
      if f.parameters.length < count then
        some ({ line, message := "too many arguments in call to " ++ name } : ProgramFault)
      else none
    | none => none
  let unknown := (called.map (·.1)).eraseDups.filter fun name => (p.function? name).isNone
  let missing := unknown.map fun name =>
    ({ line := last, message := "function " ++ name ++ " never defined" } : ProgramFault)
  if many.isEmpty then missing else many

/-- How many faults are told. -/
def mostFaults : Nat := 5

/-- **Reads a program**, or tells all that is wrong with it. -/
def Program.read (text : String) : Except (List ProgramFault) Program :=
  let ls := lexemes text
  let fuel := 8 * ls.length + 64
  let start : Reader := { left := ls, kinds := knownKinds }
  match (programFrom fuel fuel {}).run.run start with
  | (.error fault, s) => .error ((s.remarks ++ [fault]).take mostFaults)
  | (.ok p, s) =>
    let faults := if !s.remarks.isEmpty then s.remarks.take mostFaults
      else callFaults p s.called ((ls.getLast?.map (·.line)).getD 1)
    if faults.isEmpty then .ok p else .error faults

end Awk

end Shell

end CodeAtlas
