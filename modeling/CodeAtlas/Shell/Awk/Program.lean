import CodeAtlas.Bytes.Basic

/-!
# Programs over records

What a program of `awk` consists of: rules with patterns and actions, and functions.

## Architecture

- **Layer A**: names and operators;
- **Layer B**: expressions;
- **Layer C**: statements;
- **Layer D**: rules and programs.
-/

namespace CodeAtlas

namespace Shell

namespace Awk

/-! ## Layer A: names and operators -/

/-- A variable: of the whole program, or the parameter of a function by its number. -/
inductive Name where
  | shared (text : String)
  | parameter (number : Nat)
  deriving Repr, DecidableEq, Inhabited

/-- An operator on two numbers. -/
inductive NumberOp where
  | add
  | subtract
  | multiply
  | divide
  | remainder
  | power
  deriving Repr, DecidableEq, Inhabited

/-- A comparison of two values. -/
inductive Comparison where
  | less
  | lessEqual
  | equal
  | notEqual
  | greater
  | greaterEqual
  deriving Repr, DecidableEq, Inhabited

/-- Whether a comparison holds of two values in an order. -/
def Comparison.holds (c : Comparison) (o : Ordering) : Bool :=
  match c with
  | less => o == .lt
  | lessEqual => o != .gt
  | equal => o == .eq
  | notEqual => o != .eq
  | greater => o == .gt
  | greaterEqual => o != .lt

/-- Where printed text goes. -/
inductive Outlet where
  | file
  | append
  | command
  deriving Repr, DecidableEq, Inhabited

/-! ## Layer B: expressions -/

/-- **An expression.** -/
inductive Expr where
  | number (f : Float)
  | text (bs : Bytes)
  /-- A regular expression, which is looked for in the record. -/
  | regex (source : Bytes)
  | valueOf (n : Name)
  | element (array : Name) (subscripts : List Expr)
  | field (e : Expr)
  | assign (target value : Expr)
  /-- An assignment of what an operator makes of the value so far and another one. -/
  | update (op : NumberOp) (target value : Expr)
  /-- A step up or down by one. The value is the one before or after the step. -/
  | step (up before : Bool) (target : Expr)
  | arithmetic (op : NumberOp) (a b : Expr)
  | joined (a b : Expr)
  | compared (c : Comparison) (a b : Expr)
  | isMatch (negated : Bool) (subject pattern : Expr)
  | isElement (subscripts : List Expr) (array : Name)
  | both (a b : Expr)
  | either (a b : Expr)
  | not (e : Expr)
  | negative (e : Expr)
  | positive (e : Expr)
  | choice (condition a b : Expr)
  /-- An expression between brackets. -/
  | grouped (e : Expr)
  | call (function : String) (args : List Expr)
  | builtin (function : String) (args : List Expr)
  /-- The next record of the input. -/
  | nextRecord (target : Option Expr)
  /-- The next record of a file. -/
  | recordOf (target : Option Expr) (file : Expr)
  /-- The next record that a command prints. -/
  | recordFrom (command : Expr) (target : Option Expr)

instance : Inhabited Expr := ⟨.text []⟩

/-- Whether a value can be assigned to an expression. -/
def Expr.isTarget : Expr → Bool
  | valueOf _ | element _ _ | field _ => true
  | _ => false

/-- An expression without brackets around it. -/
def Expr.bare : Expr → Expr
  | grouped e => e.bare
  | e => e

/-! ## Layer C: statements -/

/-- **A statement.** -/
inductive Statement where
  | nothing
  | evaluate (e : Expr)
  | print (args : List Expr) (outlet : Option (Outlet × Expr))
  | printFormat (args : List Expr) (outlet : Option (Outlet × Expr))
  | block (body : List Statement)
  | branch (condition : Expr) (body : Statement) (otherwise : Option Statement)
  | whileTrue (condition : Expr) (body : Statement)
  | doWhile (body : Statement) (condition : Expr)
  /-- A loop with what is done before it, a condition, and what is done after each round. -/
  | loop (first : Option Expr) (condition : Option Expr) (after : Option Expr) (body : Statement)
  | eachKey (key : Name) (array : Name) (body : Statement)
  | leave
  | goOn
  | nextRecord
  | nextFile
  | finish (status : Option Expr)
  | giveBack (value : Option Expr)
  | deleteElement (array : Name) (subscripts : List Expr)
  | deleteAll (array : Name)

instance : Inhabited Statement := ⟨.nothing⟩

/-! ## Layer D: rules -/

/-- When a rule applies. -/
inductive Pattern where
  | first
  | last
  | always
  | when (e : Expr)
  /-- From a record on up to another one. -/
  | between (a b : Expr)

/-- A rule. Without an action it prints the record. -/
structure Rule where
  pattern : Pattern
  action : Option Statement

/-- A function. -/
structure Routine where
  name : String
  parameters : List String
  body : Statement

/-- **A program.** -/
structure Program where
  rules : List Rule := []
  functions : List Routine := []

/-- The function with a name. -/
def Program.function? (p : Program) (name : String) : Option Routine :=
  p.functions.find? (·.name == name)

end Awk

end Shell

end CodeAtlas
