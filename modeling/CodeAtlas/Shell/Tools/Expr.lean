import CodeAtlas.Shell.Regex.Reader
import CodeAtlas.Shell.Tools.Basic

/-!
# Values of expressions in arguments

Each argument is an operand or an operator. Operands are texts; those that look like whole numbers
can be calculated with.

## Architecture

- **Layer A**: values and faults;
- **Layer B**: operators;
- **Layer C**: reading and evaluating;
- **Layer D**: the tool.
-/

namespace CodeAtlas

namespace Shell

/-! ## Layer A: values -/

/-- Why arguments have no value. -/
inductive ExprFault where
  | noNumber
  | divisionByZero
  | unexpected (arg : String)
  | missingAfter (arg : String)
  | notClosed (instead : Option String) (last : String)
  | badRegex (fault : RegexFault)
  deriving Repr, DecidableEq, Inhabited

/-- The wording of a fault. -/
def ExprFault.message : ExprFault → String
  | noNumber => "non-integer argument"
  | divisionByZero => "division by zero"
  | unexpected arg => "syntax error: unexpected argument '" ++ arg ++ "'"
  | missingAfter arg => "syntax error: missing argument after '" ++ arg ++ "'"
  | notClosed (some arg) _ => "syntax error: expecting ')' instead of '" ++ arg ++ "'"
  | notClosed none last => "syntax error: expecting ')' after '" ++ last ++ "'"
  | badRegex fault => fault.message

/-- The whole number that a text is. -/
def wholeNumber? (s : String) : Option Int :=
  match s.toList with
  | '-' :: cs => (decimal? (String.ofList cs)).map fun n => -Int.ofNat n
  | _ => (decimal? s).map Int.ofNat

/-- Whether a value counts as nothing: an empty text, or zero. -/
def isNothing (s : String) : Bool :=
  s.isEmpty ||
    match s.toList with
    | '-' :: c :: cs => (c :: cs).all (· == '0')
    | cs => cs.all (· == '0')

/-! ## Layer B: operators -/

/-- The value of an operation on numbers. -/
def exprNumbers (op : String) (a b : String) : Except ExprFault String :=
  match wholeNumber? a, wholeNumber? b with
  | some m, some n =>
    match op with
    | "+" => .ok (toString (m + n))
    | "-" => .ok (toString (m - n))
    | "*" => .ok (toString (m * n))
    | "/" => if n == 0 then .error .divisionByZero else .ok (toString (m.tdiv n))
    | _ => if n == 0 then .error .divisionByZero else .ok (toString (m.tmod n))
  | _, _ => .error .noNumber

/-- The value of a comparison: of numbers if both are, else of texts. -/
def exprCompare (op : String) (a b : String) : String :=
  let order := match wholeNumber? a, wholeNumber? b with
    | some m, some n => compare m n
    | _, _ => compare (Bytes.ofText a) (Bytes.ofText b)
  let isTrue : Bool := match op with
    | "<" => order == .lt
    | "<=" => order != .gt
    | ">" => order == .gt
    | ">=" => order != .lt
    | "!=" => order != .eq
    | _ => order == .eq
  if isTrue then "1" else "0"

/-- What an expression matches at the start of a text: a group, or a number of bytes. -/
def exprMatch (text pattern : String) : Except ExprFault String :=
  match Regex.read ⟨false, false⟩ (Bytes.ofText pattern) with
  | .error fault => .error (.badRegex fault)
  | .ok (r, groups) =>
    let t := (Bytes.ofText text).toArray
    match r.matchAt t 0 with
    | none => .ok (if 0 < groups then "" else "0")
    | some (e, taken) =>
      if 0 < groups then
        .ok (match Regex.taken? taken 1 with
          | some (a, b) => Bytes.lossyText (t.extract a b).toList
          | none => "")
      else .ok (toString e)

/-- Part of a text, by the number of its first byte and how many there are. -/
def exprPart (text first count : String) : String :=
  match wholeNumber? first, wholeNumber? count with
  | some i, some n =>
    if i ≤ 0 || n ≤ 0 then ""
    else Bytes.lossyText (((Bytes.ofText text).drop (i.toNat - 1)).take n.toNat)
  | _, _ => ""

/-- The number of the first byte of a text that is in another one, or zero. -/
def exprIndex (text set : String) : String :=
  match (Bytes.ofText text).findIdx? (Bytes.ofText set).contains with
  | some i => toString (i + 1)
  | none => "0"

/-! ## Layer C: evaluating -/

/-- The operators from the weakest to the strongest. -/
def exprLevels : List (List String) :=
  [["|"], ["&"], ["<", "<=", "=", "==", "!=", ">=", ">"], ["+", "-"], ["*", "/", "%"], [":"]]

/-- The value of an operation. -/
def exprApply (op a b : String) : Except ExprFault String :=
  match op with
  | "|" => .ok (if !isNothing a then a else if isNothing b then "0" else b)
  | "&" => .ok (if isNothing a || isNothing b then "0" else a)
  | ":" => exprMatch a b
  | _ => if ["+", "-", "*", "/", "%"].contains op then exprNumbers op a b
    else .ok (exprCompare op a b)

/-- A value, the last argument that was read, and those that are left. -/
abbrev ExprResult := Except ExprFault (String × String × List String)

mutual

/-- The value of operations of a level. -/
def exprLevel : Nat → List (List String) → String → List String → ExprResult
  | 0, _, last, _ => .error (.missingAfter last)
  | fuel + 1, [], last, args => exprOperand fuel last args
  | fuel + 1, ops :: tighter, last, args => do
    let (a, last, args) ← exprLevel fuel tighter last args
    exprFrom fuel ops tighter a last args

/-- Goes on with operations of a level behind a value. -/
def exprFrom : Nat → List String → List (List String) → String → String → List String → ExprResult
  | 0, _, _, a, last, args => .ok (a, last, args)
  | _ + 1, _, _, a, last, [] => .ok (a, last, [])
  | fuel + 1, ops, tighter, a, last, op :: args =>
    if ops.contains op then do
      let (b, last, args) ← exprLevel fuel tighter op args
      exprFrom fuel ops tighter (← exprApply op a b) last args
    else .ok (a, last, op :: args)

/-- The value of an operand. -/
def exprOperand : Nat → String → List String → ExprResult
  | 0, last, _ => .error (.missingAfter last)
  | _ + 1, last, [] => .error (.missingAfter last)
  | fuel + 1, _, arg :: rest =>
    match arg with
    | "(" => do
      let (a, last, args) ← exprLevel fuel exprLevels arg rest
      match args with
      | ")" :: args => pure (a, ")", args)
      | other :: _ => throw (.notClosed (some other) last)
      | [] => throw (.notClosed none last)
    | ")" => .error (.unexpected arg)
    | "+" =>
      match rest with
      | [] => .error (.missingAfter arg)
      | a :: args => .ok (a, a, args)
    | "length" => do
      let (a, last, args) ← exprOperand fuel arg rest
      pure (toString (Bytes.ofText a).length, last, args)
    | "match" => do
      let (a, last, args) ← exprOperand fuel arg rest
      let (b, last, args) ← exprOperand fuel last args
      pure (← exprMatch a b, last, args)
    | "index" => do
      let (a, last, args) ← exprOperand fuel arg rest
      let (b, last, args) ← exprOperand fuel last args
      pure (exprIndex a b, last, args)
    | "substr" => do
      let (a, last, args) ← exprOperand fuel arg rest
      let (b, last, args) ← exprOperand fuel last args
      let (n, last, args) ← exprOperand fuel last args
      pure (exprPart a b n, last, args)
    | _ => .ok (arg, arg, rest)

end

/-! ## Layer D: the tool -/

/-- **Prints the value of an expression.** -/
def exprTool (c : ToolCall) : ToolResult :=
  let args := if c.args.head? == some "--" then c.args.drop 1 else c.args
  if args.isEmpty then usage c 2 "missing operand"
  else
    match exprLevel (16 * args.length + 16) exprLevels "" args with
    | .error fault => .failing 2 (c.shown ++ ": " ++ fault.message)
    | .ok (_, _, extra :: _) =>
      .failing 2 (c.shown ++ ": " ++ (ExprFault.unexpected extra).message)
    | .ok (value, _, []) =>
      { ToolResult.printing (value ++ "\n") with status := if isNothing value then 1 else 0 }

end Shell

end CodeAtlas
