import CodeAtlas.Shell.Condition
import CodeAtlas.Shell.Format
import CodeAtlas.Shell.Tools.Basic

/-!
# Tools that print texts and numbers

These tools look at their arguments and the environment only.

## Architecture

- **Layer A**: texts;
- **Layer B**: numbers;
- **Layer C**: names and the environment.
-/

namespace CodeAtlas

namespace Shell

/-! ## Layer A: texts -/

/-- Whether an argument is a cluster of letters that change how words are printed. -/
def isEchoOption (arg : String) : Bool :=
  match arg.toList with
  | '-' :: c :: cs => (c :: cs).all fun d => ['n', 'e', 'E'].contains d
  | _ => false

/-- Prints words. Escapes are looked at only if that is asked for. -/
def echoTool (c : ToolCall) : ToolResult :=
  let letters := (c.args.takeWhile isEchoOption).flatMap fun a => a.toList.drop 1
  let text := " ".intercalate (c.args.dropWhile isEchoOption)
  let escapes := ((letters.filter (· != 'n')).getLast?) == some 'e'
  let (bs, stopped) := if escapes then unescape (text.length + 1) text.toList
    else (Bytes.ofText text, false)
  .bytes (if letters.contains 'n' || stopped then bs else bs ++ [10])

/-- What a tool says about an argument that should be a number. -/
def NumeralFault.told : NumeralFault → String
  | noNumber arg => "'" ++ arg ++ "': expected a numeric value"
  | notAll arg => "'" ++ arg ++ "': value not completely converted"
  | outOfRange arg => "'" ++ arg ++ "': Numerical result out of range"

/-- Fills in a format. -/
def printfTool (c : ToolCall) : ToolResult :=
  match (if c.args.head? == some "--" then c.args.drop 1 else c.args) with
  | [] => missingOperand c
  | format :: args =>
    let p := formatted format args
    let told := p.faults.map fun f => ToolResult.failing 1 (c.shown ++ ": " ++ f.told)
    let unused : ToolResult := if p.rest.isEmpty || p.stopped then {} else
      { ToolResult.failing 0 (c.shown ++ ": warning: ignoring excess arguments, starting with '"
          ++ p.rest.headD "" ++ "'") with status := 0 }
    let fatal : ToolResult := match p.fatal with
      | some "missing format character" =>
        ToolResult.failing 1 (c.shown ++ ": %: invalid conversion specification")
      | some why =>
        .failing 1 (c.shown ++ ": " ++ String.ofList (why.toList.takeWhile (· != ':'))
          ++ ": invalid conversion specification")
      | none => {}
    (ToolResult.inTurn told).andThen ((ToolResult.bytes p.bytes).andThen (fatal.andThen unused))

/-- Prints a line again and again. -/
def yesTool (c : ToolCall) : ToolResult :=
  let line := Bytes.ofText ((if c.args.isEmpty then "y" else " ".intercalate c.args) ++ "\n")
  { ToolResult.bytes (List.replicate (burst / line.length + 1) line).flatten with endless := true }

/-! ## Layer B: numbers -/

/-- A decimal number: its digits without a point, and how many stand behind the point. -/
structure PlainDecimal where
  digits : Int
  places : Nat
  deriving Repr, DecidableEq, Inhabited

namespace PlainDecimal

/-- The decimal number that an argument is. -/
def read? (arg : String) : Option PlainDecimal :=
  let (negative, cs) := match arg.toList with
    | '-' :: cs => (true, cs)
    | '+' :: cs => (false, cs)
    | cs => (false, cs)
  let whole := cs.takeWhile Char.isDigit
  let rest := cs.drop whole.length
  let fraction := rest.drop 1
  if rest.any (· != '.') && !(rest.head? == some '.' && fraction.all Char.isDigit) then none
  else if whole.isEmpty && fraction.isEmpty then none
  else
    let n := Int.ofNat (valueIn 10 (whole ++ fraction))
    some ⟨if negative then -n else n, fraction.length⟩

/-- The digits if there were so many places. -/
def scaled (d : PlainDecimal) (places : Nat) : Int := d.digits * Nat.pow 10 (places - d.places)

end PlainDecimal

/-- A number whose last digits stand behind a point. -/
def withPoint (n : Int) (places : Nat) : String :=
  if places == 0 then toString n
  else
    let ds := (toString n.natAbs).toList
    let ds := List.replicate (places + 1 - ds.length) '0' ++ ds
    (if n < 0 then "-" else "") ++ String.ofList (ds.take (ds.length - places)) ++ "."
      ++ String.ofList (ds.drop (ds.length - places))

/-- Fills a number up with zeros behind its sign. -/
def zeroFilled (width : Nat) (s : String) : String :=
  let zeros := String.ofList (List.replicate (width - s.length) '0')
  if s.startsWith "-" then "-" ++ zeros ++ String.ofList (s.toList.drop 1) else zeros ++ s

/-- The numbers from one to another, or those of which more are there than can be printed. -/
def numbersBetween (first step last : Int) : List Int × Bool :=
  let count := if 0 < step then (last - first).fdiv step + 1 else (first - last).fdiv (-step) + 1
  let most : Int := 200000
  ((List.range (min count most).toNat).map fun (i : Nat) => first + step * i, most < count)

/-- Splits arguments at the first that is a number. -/
def optionsBeforeNumbers (args : List String) : List String :=
  let isNumber (a : String) : Bool := (PlainDecimal.read? a).isSome
  args.takeWhile (fun a => !isNumber a)
    ++ (if (args.takeWhile fun a => !isNumber a).contains "--" then [] else ["--"])
    ++ args.dropWhile fun a => !isNumber a

/-- Prints the numbers from one to another. -/
def seqTool (c : ToolCall) : ToolResult :=
  let table : OptionTable :=
    { plain := "w", valued := "sf", anywhere := false
      long := [("separator", 's'), ("format", 'f'), ("equal-width", 'w')] }
  let isNegative (a : String) : Bool := a.startsWith "-" && (PlainDecimal.read? a).isSome
  let args := if c.args.any isNegative then optionsBeforeNumbers c.args else c.args
  withOptions { c with args := args } 1 table fun g =>
    match g.operands, g.operands.find? fun a => (PlainDecimal.read? a).isNone with
    | [], _ => missingOperand c
    | _ :: _ :: _ :: extra :: _, _ => usage c 1 ("extra operand '" ++ extra ++ "'")
    | _, some bad => usage c 1 ("invalid floating point argument: '" ++ bad ++ "'")
    | operands, none =>
      let numbers := operands.filterMap PlainDecimal.read?
      let (first, step, last) : PlainDecimal × PlainDecimal × PlainDecimal := match numbers with
        | [b] => (⟨1, 0⟩, ⟨1, 0⟩, b)
        | [a, b] => (a, ⟨1, 0⟩, b)
        | a :: s :: b :: _ => (a, s, b)
        | [] => (⟨1, 0⟩, ⟨1, 0⟩, ⟨0, 0⟩)
      if step.digits == 0 then
        usage c 1 ("invalid Zero increment value: '" ++ operands.getD 1 "" ++ "'")
      else
        let shownPlaces := max first.places step.places
        let places := max shownPlaces last.places
        let (ns, more) := numbersBetween (first.scaled places) (step.scaled places)
          (last.scaled places)
        let text (n : Int) : String :=
          withPoint (n.tdiv (Nat.pow 10 (places - shownPlaces))) shownPlaces
        let width := max (text (first.scaled places)).length (text (last.scaled places)).length
        let shown (n : Int) : Bytes := match g.value? 'f' with
          | some format => (formatted format [text n]).bytes
          | none => Bytes.ofText (if g.has 'w' then zeroFilled width (text n) else text n)
        let separator := Bytes.ofText ((g.value? 's').getD "\n")
        if ns.isEmpty then {}
        else { ToolResult.bytes (separator.intercalate (ns.map shown) ++ [10]) with
          endless := more }

/-- The prime factors of a number from a divisor on. -/
def factorsFrom : Nat → Nat → Nat → List Nat
  | 0, _, n => if 1 < n then [n] else []
  | fuel + 1, d, n =>
    if n < d * d then if 1 < n then [n] else []
    else if n % d == 0 then d :: factorsFrom fuel d (n / d)
    else factorsFrom fuel (d + 1) n

/-- Prints the prime factors of numbers. -/
def factorTool (c : ToolCall) : ToolResult :=
  let words := if c.args.isEmpty then
      ((Bytes.lossyText c.input).split Char.isWhitespace).toList.map (·.toString)
        |>.filter fun w => !w.isEmpty
    else c.args
  let r := ToolResult.inTurn (words.map fun a =>
    match decimal? a with
    | some n => .printing (toString n ++ ":"
        ++ "".intercalate ((factorsFrom 2000000 2 n).map fun f => " " ++ toString f) ++ "\n")
    | none => .failing 1 (c.shown ++ ": '" ++ a ++ "' is not a valid positive integer"))
  { r with left := if c.args.isEmpty then some [] else none }

/-! ## Layer C: names -/

/-- A path without the separators at its end. -/
def withoutTrailing (cs : List Char) : List Char := (cs.reverse.dropWhile (· == '/')).reverse

/-- The last name of a path. -/
def lastName (path : String) : String :=
  let cs := withoutTrailing path.toList
  if cs.isEmpty then (if path.isEmpty then "" else "/")
  else String.ofList (cs.reverse.takeWhile (· != '/')).reverse

/-- What stands before the last name of a path. -/
def folderText (path : String) : String :=
  let cs := withoutTrailing path.toList
  let before := (cs.reverse.dropWhile (· != '/')).reverse
  if cs.isEmpty then (if path.isEmpty then "." else "/")
  else if before.isEmpty then "."
  else
    let bare := withoutTrailing before
    if bare.isEmpty then "/" else String.ofList bare

/-- A name without an ending, unless it is the whole name. -/
def withoutEnding (name ending : String) : String :=
  if name != ending && name.endsWith ending then
    String.ofList (name.toList.take (name.length - ending.length))
  else name

/-- Prints the last names of paths. -/
def basenameTool (c : ToolCall) : ToolResult :=
  let table : OptionTable :=
    { plain := "az", valued := "s", anywhere := false
      long := [("multiple", 'a'), ("suffix", 's'), ("zero", 'z')] }
  withOptions c 1 table fun g =>
    let ending := if g.has 'z' then "\x00" else "\n"
    let many := g.has 'a' || g.has 's'
    match g.operands with
    | [] => missingOperand c
    | path :: rest =>
      if many then
        .printing ("".intercalate (g.operands.map fun p =>
          withoutEnding (lastName p) ((g.value? 's').getD "") ++ ending))
      else
        match rest with
        | _ :: extra :: _ => usage c 1 ("extra operand '" ++ extra ++ "'")
        | _ => .printing (withoutEnding (lastName path) (rest.headD "") ++ ending)

/-- Prints what stands before the last names of paths. -/
def dirnameTool (c : ToolCall) : ToolResult :=
  withOptions c 1 { plain := "z", long := [("zero", 'z')] } fun g =>
    if g.operands.isEmpty then missingOperand c
    else
      let ending := if g.has 'z' then "\x00" else "\n"
      .printing ("".intercalate (g.operands.map fun p => folderText p ++ ending))

/-- Prints variables. -/
def printenvTool (c : ToolCall) : ToolResult :=
  match c.args with
  | [] => .printing ("".intercalate (c.env.entries.map fun e => e.1 ++ "=" ++ e.2 ++ "\n"))
  | names =>
    let values := names.filterMap c.env.get?
    { ToolResult.printing ("".intercalate (values.map (· ++ "\n"))) with
      status := if values.length == names.length then 0 else 1 }

/-- Ends with the truth of a condition. -/
def testTool (c : ToolCall) : ToolResult :=
  let closed := c.name != "[" || c.args.getLast? == some "]"
  let condition := if c.name == "[" then c.args.dropLast else c.args
  if !closed then .failing 2 (c.shown ++ ": missing ']'")
  else
    match holds c.files (condition.length + 1) condition with
    | .ok b => { status := if b then 0 else 1 }
    | .error (.misplaced arg "argument expected") =>
      .failing 2 (c.shown ++ ": missing argument after '" ++ arg ++ "'")
    | .error (.misplaced _ _) =>
      .failing 2 (c.shown ++ ": '" ++ condition.getD 1 "" ++ "': binary operator expected")
    | .error (.noNumber text) => .failing 2 (c.shown ++ ": invalid integer '" ++ text ++ "'")

/-- Prints who runs the tool. -/
def idTool (c : ToolCall) : ToolResult :=
  withOptions c 1 { plain := "ugnr", long := [("user", 'u'), ("group", 'g'), ("name", 'n')] }
    fun g =>
      if g.has 'u' || g.has 'g' then .printing (if g.has 'n' then "root\n" else "0\n")
      else .printing "uid=0(root) gid=0(root) groups=0(root)\n"

/-- Tells the terminal of the input: it has none. -/
def ttyTool (c : ToolCall) : ToolResult :=
  withOptions c 2 { plain := "s", long := [("silent", 's'), ("quiet", 's')] } fun g =>
    if g.has 's' then { status := 1 } else { ToolResult.printing "not a tty\n" with status := 1 }

/-- Prints the name under which one has come in: there is none. -/
def lognameTool (c : ToolCall) : ToolResult := .failing 1 (c.shown ++ ": no login name")

/-- Prints the name of the system. -/
def unameTool (c : ToolCall) : ToolResult :=
  withOptions c 1 { plain := "so", long := [("kernel-name", 's'), ("operating-system", 'o')] }
    fun g =>
      let names := (if g.has 's' || g.options.isEmpty then ["Linux"] else [])
        ++ if g.has 'o' then ["GNU/Linux"] else []
      .printing (" ".intercalate names ++ "\n")

end Shell

end CodeAtlas
