import CodeAtlas.Ordered.Table

/-!
# Arithmetic of scripts

The value of an expression over words of 64 bits and variables. Operators bind in levels, and each
level reads the operands that the tighter ones make. Assignments take effect in the order in which
they are evaluated.

## Architecture

- **Layer A**: numbers;
- **Layer B**: lexemes;
- **Layer C**: expressions;
- **Layer D**: values.
-/

namespace CodeAtlas

namespace Shell

/-- Why an expression has no value. -/
inductive ArithmeticFault where
  /-- It is not written properly, or divides by zero. -/
  | wrong (why : String)
  /-- A variable holds no number. -/
  | noNumber (text : String)
  deriving Repr, DecidableEq, Inhabited

/-! ## Layer A: numbers -/

/-- The value of a digit in bases up to sixteen. -/
def digitValue? (c : Char) : Option Nat :=
  if c.isDigit then some (c.toNat - 48)
  else if 'a' ≤ c && c ≤ 'f' then some (c.toNat - 87)
  else if 'A' ≤ c && c ≤ 'F' then some (c.toNat - 55)
  else none

/-- The digits of a base at the start of a text. -/
def digitsOf (base : Nat) (cs : List Char) : List Char :=
  cs.takeWhile fun c => (digitValue? c).any (· < base)

/-- The number that digits denote in a base. -/
def valueIn (base : Nat) (ds : List Char) : Nat :=
  ds.foldl (fun n c => n * base + (digitValue? c).getD 0) 0

/-- A number at the start of a text, and what is left. A zero in front is the mark of base eight, or
with an x of base sixteen. -/
def numberAt (cs : List Char) : Nat × List Char :=
  let read (base : Nat) (cs : List Char) : Nat × List Char :=
    let ds := digitsOf base cs
    (valueIn base ds, cs.drop ds.length)
  match cs with
  | '0' :: x :: rest =>
    if (x == 'x' || x == 'X') && !(digitsOf 16 rest).isEmpty then read 16 rest else read 8 cs
  | _ => if cs.head? == some '0' then read 8 cs else read 10 cs

/-- The largest number of a word. -/
def largestWord : Nat := 0x7fffffffffffffff

/-- Whether a character is blank between numbers. -/
def isGap (c : Char) : Bool := c == ' ' || ('\t' ≤ c && c ≤ '\r')

/-- The number that a text holds, with a sign and blanks around it; no text at all is zero. -/
def wordNumber? (s : String) : Option Int :=
  let cs := s.toList.dropWhile isGap
  let (sign, digits) : Int × List Char := match cs with
    | '-' :: rest => (-1, rest)
    | '+' :: rest => (1, rest)
    | _ => (1, cs)
  let (n, left) := numberAt digits
  if cs.isEmpty then some 0
  else if !(digits.head?.any Char.isDigit) || !left.all isGap then none
  else if largestWord + (if sign == -1 then 1 else 0) < n then none
  else some (sign * n)

/-! ## Layer B: lexemes -/

/-- A lexeme of an expression. -/
inductive Term where
  | number (n : Nat)
  | name (s : String)
  | sign (s : String)
  /-- A character that no expression holds. -/
  | strange
  deriving Repr, DecidableEq, Inhabited

/-- The operators between two operands, loose ones first. -/
def operatorLevels : List (List String) :=
  [["|"], ["^"], ["&"], ["==", "!="], ["<=", ">=", "<", ">"], ["<<", ">>"], ["+", "-"],
   ["*", "/", "%"]]

/-- The operators that change a variable by an operand. -/
def updates : List (String × String) :=
  [("*=", "*"), ("/=", "/"), ("%=", "%"), ("+=", "+"), ("-=", "-"), ("<<=", "<<"), (">>=", ">>"),
   ("&=", "&"), ("^=", "^"), ("|=", "|")]

/-- All signs of an expression, longer ones first. -/
def termSigns : List String :=
  ["<<=", ">>=", "||", "&&", "==", "!=", "<=", ">=", "<<", ">>", "*=", "/=", "%=", "+=", "-=", "&=",
   "^=", "|=", "|", "^", "&", "<", ">", "+", "-", "*", "/", "%", "(", ")", "!", "~", "?", ":", "="]

/-- The lexemes of an expression. -/
def terms : Nat → List Char → List Term
  | 0, _ => []
  | _ + 1, [] => []
  | fuel + 1, c :: rest =>
    if c == ' ' || c == '\t' || c == '\n' then terms fuel rest
    else if c.isDigit then
      let (n, left) := numberAt (c :: rest)
      .number (min n largestWord) :: terms fuel left
    else if c.isAlpha || c == '_' then
      let name := (c :: rest).takeWhile fun d => d.isAlphanum || d == '_'
      .name (String.ofList name) :: terms fuel ((c :: rest).drop name.length)
    else
      match termSigns.find? fun s => s.toList.isPrefixOf (c :: rest) with
      | some s => .sign s :: terms fuel ((c :: rest).drop s.length)
      | none => .strange :: terms fuel rest

/-! ## Layer C: expressions -/

/-- **An expression over numbers.** -/
inductive Formula where
  | number (n : Int64)
  | named (name : String)
  | unary (op : String) (a : Formula)
  | binary (op : String) (a b : Formula)
  | both (a b : Formula)
  | either (a b : Formula)
  | choice (condition a b : Formula)
  /-- Sets a variable, or changes it by an operator. -/
  | assign (name : String) (op : Option String) (a : Formula)
  deriving Repr, DecidableEq, Inhabited

/-- Reading an expression: what was read, and what is left. -/
abbrev FormulaResult := Except ArithmeticFault (Formula × List Term)

/-- The operator that a sign of assignment stands for: none for a plain one. -/
def assignment (s : String) : Option (Option String) :=
  if s == "=" then some none else (updates.lookup s).map some

mutual

/-- Reads a whole expression. -/
def formula : Nat → List Term → FormulaResult
  | 0, _ => .error (.wrong "expecting primary")
  | fuel + 1, ts =>
    match ts with
    | .name s :: .sign op :: rest =>
      match assignment op with
      | some op => do
        let (a, rest) ← formula fuel rest
        pure (.assign s op a, rest)
      | none => conditional fuel ts
    | _ => conditional fuel ts

/-- Reads a choice between two expressions. -/
def conditional : Nat → List Term → FormulaResult
  | 0, _ => .error (.wrong "expecting primary")
  | fuel + 1, ts => do
    let (c, rest) ← alternatives fuel ts
    match rest with
    | .sign "?" :: rest =>
      let (a, rest) ← formula fuel rest
      match rest with
      | .sign ":" :: rest =>
        let (b, rest) ← conditional fuel rest
        pure (.choice c a b, rest)
      | _ => throw (.wrong "expecting ':'")
    | _ => pure (c, rest)

/-- Reads expressions of which one has to hold. -/
def alternatives : Nat → List Term → FormulaResult
  | 0, _ => .error (.wrong "expecting primary")
  | fuel + 1, ts => do
    let (a, rest) ← conjunction fuel ts
    match rest with
    | .sign "||" :: rest =>
      let (b, rest) ← alternatives fuel rest
      pure (.either a b, rest)
    | _ => pure (a, rest)

/-- Reads expressions all of which have to hold. -/
def conjunction : Nat → List Term → FormulaResult
  | 0, _ => .error (.wrong "expecting primary")
  | fuel + 1, ts => do
    let (a, rest) ← level fuel operatorLevels ts
    match rest with
    | .sign "&&" :: rest =>
      let (b, rest) ← conjunction fuel rest
      pure (.both a b, rest)
    | _ => pure (a, rest)

/-- Reads what stands at some levels. -/
def level : Nat → List (List String) → List Term → FormulaResult
  | 0, _, _ => .error (.wrong "expecting primary")
  | fuel + 1, [], ts => operand fuel ts
  | fuel + 1, ops :: tighter, ts => do
    let (a, rest) ← level fuel tighter ts
    levelFrom fuel ops tighter a rest

/-- Goes on at a level behind an operand. -/
def levelFrom : Nat → List String → List (List String) → Formula → List Term → FormulaResult
  | 0, _, _, _, _ => .error (.wrong "expecting primary")
  | fuel + 1, ops, tighter, a, ts =>
    match ts with
    | .sign s :: rest =>
      if ops.contains s then do
        let (b, rest) ← level fuel tighter rest
        levelFrom fuel ops tighter (.binary s a b) rest
      else pure (a, ts)
    | _ => pure (a, ts)

/-- Reads one operand. -/
def operand : Nat → List Term → FormulaResult
  | 0, _ => .error (.wrong "expecting primary")
  | fuel + 1, ts =>
    match ts with
    | .number n :: rest => pure (.number (Int64.ofInt n), rest)
    | .name s :: rest => pure (.named s, rest)
    | .sign "(" :: rest => do
      match ← formula fuel rest with
      | (a, .sign ")" :: rest) => pure (a, rest)
      | _ => throw (.wrong "expecting ')'")
    | .sign s :: rest =>
      if ["+", "-", "!", "~"].contains s then do
        let (a, rest) ← operand fuel rest
        pure (.unary s a, rest)
      else throw (.wrong "expecting primary")
    | _ => throw (.wrong "expecting primary")

end

/-! ## Layer D: values -/

/-- The value of a comparison. -/
def truth (b : Bool) : Int64 := if b then 1 else 0

/-- The value of an operator. -/
def binaryValue (op : String) (a b : Int64) : Except ArithmeticFault Int64 :=
  match op with
  | "|" => pure (a ||| b)
  | "^" => pure (a ^^^ b)
  | "&" => pure (a &&& b)
  | "==" => pure (truth (a == b))
  | "!=" => pure (truth (a != b))
  | "<=" => pure (truth (a ≤ b))
  | ">=" => pure (truth (b ≤ a))
  | "<" => pure (truth (a < b))
  | ">" => pure (truth (b < a))
  | "<<" => pure (a <<< b)
  | ">>" => pure (a >>> b)
  | "+" => pure (a + b)
  | "-" => pure (a - b)
  | "*" => pure (a * b)
  | "/" => if b == 0 then throw (.wrong "division by zero") else pure (a / b)
  | _ => if b == 0 then throw (.wrong "division by zero") else pure (a % b)

/-- Evaluation with the variables that were assigned on the way. -/
abbrev Evaluating := StateT (Table String Int64) (Except ArithmeticFault)

/-- The value of a variable, by its text if it was not assigned on the way. -/
def variableValue (text : String → String) (name : String) : Evaluating Int64 := do
  match (← get).get? name with
  | some n => pure n
  | none =>
    match wordNumber? (text name) with
    | some n => pure (Int64.ofInt n)
    | none => throw (.noNumber (text name))

namespace Formula

/-- The value of an expression. What does not count is not evaluated. -/
def value (text : String → String) : Formula → Evaluating Int64
  | number n => pure n
  | named name => variableValue text name
  | unary op a => do
    let x ← a.value text
    pure (match op with
      | "-" => -x
      | "!" => truth (x == 0)
      | "~" => ~~~x
      | _ => x)
  | binary op a b => do
    let x ← a.value text
    let y ← b.value text
    binaryValue op x y
  | both a b => do
    if (← a.value text) == 0 then pure 0 else pure (truth ((← b.value text) != 0))
  | either a b => do
    if (← a.value text) != 0 then pure 1 else pure (truth ((← b.value text) != 0))
  | choice c a b => do
    if (← c.value text) != 0 then a.value text else b.value text
  | assign name op a => do
    let x ← a.value text
    let y ← match op with
      | none => pure x
      | some op => do binaryValue op (← variableValue text name) x
    modify fun t => t.insert name y
    pure y

/-- Reads an expression. -/
def read (text : String) : Except ArithmeticFault Formula := do
  let ts := terms (text.length + 1) text.toList
  match ← formula (16 * (ts.length + 2)) ts with
  | (a, []) => pure a
  | _ => throw (.wrong "expecting EOF")

end Formula

/-- **The value of an expression**, and the variables it sets. -/
def arithmetic (vars : String → String) (text : String) :
    Except ArithmeticFault (Int × List (String × Int)) := do
  let (n, set) ← ((← Formula.read text).value vars).run Table.empty
  pure (n.toInt, set.entries.map fun e => (e.1, e.2.toInt))

end Shell

end CodeAtlas
