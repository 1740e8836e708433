import CodeAtlas.Shell.Arithmetic
import CodeAtlas.Shell.View

/-!
# Conditions

Conditions about texts, numbers and files, as they are written in arguments. An argument is an
operator only where one can stand, so that any text can be an operand.

## Architecture

- **Layer A**: operators;
- **Layer B**: the value of a single test;
- **Layer C**: compound conditions;
- **Layer D**: whole conditions.
-/

namespace CodeAtlas

namespace Shell

/-- Why arguments are no condition. -/
inductive ConditionFault where
  /-- Something is wrong at an argument. -/
  | misplaced (arg why : String)
  | noNumber (text : String)
  deriving Repr, DecidableEq, Inhabited

/-- The wording of a fault. -/
def ConditionFault.message : ConditionFault → String
  | .misplaced arg why => if arg.isEmpty then why else arg ++ ": " ++ why
  | .noNumber text => "Illegal number: " ++ text

/-! ## Layer A: operators -/

/-- What an argument is, where an operator can stand. -/
inductive Operator where
  | unary (letter : Char)
  | binary (name : String)
  | negation
  | both
  | either
  | opening
  | closing
  deriving Repr, DecidableEq, Inhabited

/-- The letters of tests of one operand. -/
def unaryLetters : List Char := "rwxefdcbpugkstznhOGLS".toList

/-- The names of tests of two operands. -/
def binaryNames : List String :=
  ["=", "!=", "<", ">", "-eq", "-ne", "-ge", "-gt", "-le", "-lt", "-nt", "-ot", "-ef"]

/-- The operator that an argument spells. -/
def operator? (arg : String) : Option Operator :=
  if binaryNames.contains arg then some (.binary arg)
  else
    match arg with
    | "!" => some .negation
    | "-a" => some .both
    | "-o" => some .either
    | "(" => some .opening
    | ")" => some .closing
    | _ =>
      match arg.toList with
      | ['-', c] => if unaryLetters.contains c then some (.unary c) else none
      | _ => none

/-- Whether an argument spells an operator of two operands. -/
def isBinary (arg : String) : Bool :=
  match operator? arg with
  | some (.binary _) => true
  | _ => false

/-- The operator at the start of arguments. A test of one operand is an operand itself if nothing
follows it, or an operator of two operands does. -/
def leadingOperator? : List String → Option Operator
  | [] => none
  | arg :: rest =>
    match operator? arg, rest with
    | some (.unary _), [] => none
    | some (.unary c), [_] => some (.unary c)
    | some (.unary c), next :: _ => if isBinary next then none else some (.unary c)
    | some .opening, [] => none
    | op, _ => op

/-! ## Layer B: tests -/

/-- The number that an argument holds. -/
def operandNumber (arg : String) : Except ConditionFault Int :=
  let cs := arg.toList.dropWhile isGap
  let (sign, digits) : Int × List Char := match cs with
    | '-' :: rest => (-1, rest)
    | '+' :: rest => (1, rest)
    | _ => (1, cs)
  let ds := digits.takeWhile Char.isDigit
  let n := valueIn 10 ds
  if ds.isEmpty || !(digits.drop ds.length).all isGap || largestWord < n then .error (.noNumber arg)
  else .ok (sign * n)

/-- The truth of a test of one operand. -/
def unaryTest (v : FileView) (letter : Char) (arg : String) : Except ConditionFault Bool :=
  match letter with
  | 'z' => pure arg.isEmpty
  | 'n' => pure !arg.isEmpty
  | 't' => do
    let _ ← operandNumber arg
    pure false
  | 'f' => pure (v.isFile arg)
  | 'd' => pure (v.isFolder arg)
  | 's' => pure (v.isFolder arg || (v.size? arg).any (0 < ·))
  | 'x' => pure (v.mayRun arg)
  | 'h' => pure (v.isLink arg)
  | 'L' => pure (v.isLink arg)
  | 'c' => pure (v.isDevice arg)
  | 'b' => pure false
  | 'p' => pure false
  | 'S' => pure false
  | 'u' => pure false
  | 'g' => pure false
  | 'k' => pure false
  | _ => pure (v.has arg)

/-- The truth of a test of two operands. -/
def binaryTest (v : FileView) (a op b : String) : Except ConditionFault Bool := do
  let numbers (p : Int → Int → Bool) : Except ConditionFault Bool := do
    let m ← operandNumber a
    let n ← operandNumber b
    pure (p m n)
  let order := compare (Bytes.ofText a) (Bytes.ofText b)
  match op with
  | "=" => pure (a == b)
  | "!=" => pure (a != b)
  | "<" => pure (order == .lt)
  | ">" => pure (order == .gt)
  | "-eq" => numbers (· == ·)
  | "-ne" => numbers (· != ·)
  | "-ge" => numbers (· ≥ ·)
  | "-gt" => numbers (· > ·)
  | "-le" => numbers (· ≤ ·)
  | "-lt" => numbers (· < ·)
  | "-ef" => pure (v.sameEntry a b)
  | "-nt" => pure (v.has a && !v.has b)
  | _ => pure (v.has b && !v.has a)

/-! ## Layer C: compound conditions -/

/-- What was found, and the arguments from the last one on that belongs to it. -/
abbrev Found := Except ConditionFault (Bool × List String)

mutual

/-- Conditions of which one has to hold. -/
def anyOf (v : FileView) : Nat → List String → Found
  | 0, args => .ok (false, args)
  | fuel + 1, args => do
    let (a, args) ← allOf v fuel args
    if leadingOperator? (args.drop 1) == some .either then
      let (b, args) ← anyOf v fuel (args.drop 2)
      pure (a || b, args)
    else pure (a, args)

/-- Conditions all of which have to hold. -/
def allOf (v : FileView) : Nat → List String → Found
  | 0, args => .ok (false, args)
  | fuel + 1, args => do
    let (a, args) ← negatable v fuel args
    if leadingOperator? (args.drop 1) == some .both then
      let (b, args) ← allOf v fuel (args.drop 2)
      pure (a && b, args)
    else pure (a, args)

/-- A condition that may be negated. -/
def negatable (v : FileView) : Nat → List String → Found
  | 0, args => .ok (false, args)
  | fuel + 1, args =>
    if leadingOperator? args == some .negation then
      if (args.drop 1).isEmpty then .ok (true, args)
      else (negatable v fuel (args.drop 1)).map fun r => (!r.1, r.2)
    else single v fuel args

/-- A single test, or a condition between brackets. -/
def single (v : FileView) : Nat → List String → Found
  | 0, args => .ok (false, args)
  | fuel + 1, args =>
    match args, leadingOperator? args with
    | [], _ => .ok (false, [])
    | _ :: rest, some .opening => do
      if leadingOperator? rest == some .closing then pure (false, rest)
      else
        let (a, left) ← anyOf v fuel rest
        let left := left.drop 1
        if leadingOperator? left == some .closing then pure (a, left)
        else throw (.misplaced "" "closing paren expected")
    | arg :: rest, some (.unary c) =>
      match rest with
      | [] => .error (.misplaced arg "argument expected")
      | operand :: _ => do pure (← unaryTest v c operand, rest)
    | a :: op :: left, _ =>
      if isBinary op then
        match left with
        | [] => .error (.misplaced op "argument expected")
        | b :: _ => do pure (← binaryTest v a op b, left)
      else .ok (!a.isEmpty, args)
    | a :: [], _ => .ok (!a.isEmpty, args)

end

/-! ## Layer D: whole conditions -/

/-- The truth of arguments with a known first operand; nothing may be left behind them. -/
def wholly (r : Found) : Except ConditionFault Bool := do
  let (a, args) ← r
  match args with
  | arg :: _ :: _ => throw (.misplaced arg "unexpected operator")
  | _ => pure a

/-- **The truth of a condition.** Three arguments with an operator between are a test whatever the
others say. -/
def holds (v : FileView) : Nat → List String → Except ConditionFault Bool
  | 0, _ => .ok false
  | _ + 1, [] => .ok false
  | fuel + 1, args =>
    let whole := wholly (anyOf v (4 * args.length + 4) args)
    match args with
    | [a, op, b] =>
      if isBinary op then binaryTest v a op b
      else if a == "(" && b == ")" then wholly (anyOf v 16 [op])
      else if a == "!" then (holds v fuel [op, b]).map (!·)
      else whole
    | [a, b, c, d] =>
      if a == "(" && d == ")" then wholly (anyOf v 20 [b, c])
      else if a == "!" then (holds v fuel [b, c, d]).map (!·)
      else whole
    | _ => whole

end Shell

end CodeAtlas
