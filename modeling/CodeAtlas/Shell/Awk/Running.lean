import CodeAtlas.Shell.Awk.Lexeme
import CodeAtlas.Shell.Awk.State

/-!
# Running programs over records

Expressions are evaluated and statements carried out; then the rules are applied to one record
after another.

## Architecture

- **Layer A**: operators;
- **Layer B**: functions that need no other expressions;
- **Layer C**: expressions and statements;
- **Layer D**: rules and whole programs.
-/

namespace CodeAtlas

namespace Shell

namespace Awk

/-! ## Layer A: operators -/

/-- The value of an operator on two numbers. -/
def NumberOp.apply (op : NumberOp) (x y : Float) : Float :=
  match op with
  | add => x + y
  | subtract => x - y
  | multiply => x * y
  | divide => x / y
  | remainder => Awk.remainder x y
  | power => x ^ y

/-- The key that values stand for. Several values are joined. -/
def keyOf (vs : List Value) : Doing Key := do
  match vs with
  | [.number f] =>
    match (exactInt? f).filter fun n => n.natAbs < 0x20000000000000 with
    | some n => pure (.number n)
    | none => do pure (.text (← textOf (.number f)))
  | [v] => do pure (.text (← textOf v))
  | _ => do
    let between ← settingText "SUBSEP"
    pure (.text (between.intercalate (← vs.mapM textOf)))

/-- How a statement ended. -/
inductive Pace where
  | on
  | left
  | again
  deriving Repr, DecidableEq, Inhabited

/-- How often a loop goes round before it counts as endless. -/
def mostPasses : Nat := 2000000

/-- Goes round while a round tells so. -/
def rounds (round : Doing Bool) : Nat → Doing Unit
  | 0 => throw .endless
  | n + 1 => do
    if ← round then rounds round n

/-- A step of a loop: the condition, and then the body and what follows it. The result tells
whether the loop goes on. -/
def loopRound (condition : Doing Bool) (body : Doing Pace) (after : Doing Unit) : Doing Bool := do
  if ← condition then
    match ← body with
    | .left => pure false
    | _ =>
      after
      pure true
  else pure false

/-! ## Layer B: functions -/

/-- The bytes of a text from a place on, at most so many. What lies before the first byte of a
negative place adds to their number. -/
def piece (bs : Bytes) (start : Float) (size : Option Float) : Bytes :=
  let b := truncated start
  let bs := bs.drop (b.toNat - 1)
  match size with
  | none => bs
  | some f =>
    let l := truncated f
    bs.take (if b < 0 then l - b else l).toNat

/-- The place of a text in another one; zero if it is not there. -/
def placeOf (needle : Bytes) : Bytes → Nat → Nat
  | [], i => if needle.isEmpty then i else 0
  | b :: rest, i => if needle.isPrefixOf (b :: rest) then i else placeOf needle rest (i + 1)

/-- A byte in upper or lower case. -/
def recased (upper : Bool) (b : UInt8) : UInt8 :=
  if upper && 97 ≤ b && b ≤ 122 then b - 32
  else if !upper && 65 ≤ b && b ≤ 90 then b + 32
  else b

/-- The value of a function of numbers. -/
def numberFunction? (name : String) (xs : List Float) : Option Float :=
  match name, xs with
  | "sin", [x] => some x.sin
  | "cos", [x] => some x.cos
  | "atan2", [y, x] => some (Float.atan2 y x)
  | "exp", [x] => some x.exp
  | "log", [x] => some x.log
  | "sqrt", [x] => some x.sqrt
  | "int", [x] => some (if x < 0 then x.ceil else x.floor)
  | _, _ => none

/-- The value of a function of texts and numbers. -/
def textFunction (name : String) (vs : List Value) : Doing Value := do
  match name, vs with
  | "length", [v] => do pure (.ofNat (← textOf v).length)
  | "length", _ => do pure (.ofNat (← recordNow).length)
  | "substr", [v, b] => do pure (.text (piece (← textOf v) b.toFloat none))
  | "substr", [v, b, l] => do pure (.text (piece (← textOf v) b.toFloat (some l.toFloat)))
  | "index", [v, w] =>
    let bs ← textOf v
    let needle ← textOf w
    pure (.ofNat (placeOf needle bs 1))
  | "tolower", [v] => do pure (.text ((← textOf v).map (recased false)))
  | "toupper", [v] => do pure (.text ((← textOf v).map (recased true)))
  | "rand", _ => pure (.number 0.5)
  | "srand", _ =>
    let before := (← get).seed
    let clock := firstSecond + (← outside get).self.now / 1000000
    alter fun s => { s with seed := vs.headD (.ofNat clock) }
    pure before
  | "systime", _ => do
    pure (.ofNat (firstSecond + (← outside get).self.now / 1000000))
  | _, _ => pure ((numberFunction? name (vs.map Value.toFloat)).elim .missing .number)

/-- Fills in a format. -/
def formattedText (caller : String) (vs : List Value) : Doing (Bytes × Option String) := do
  match vs with
  | [] => pure ([], none)
  | f :: vs =>
    let inner ← innerFormat
    let format ← textOf f
    let cs := charsOf format
    let (bs, fault) := fillFormat (Value.toText inner) (cs.length + 1) 1 cs vs []
    let called := caller ++ "(\"" ++ Bytes.lossyText format ++ "\")"
    pure (bs, fault.map fun why =>
      match why with
      | .tooFew => "not enough arguments passed to " ++ called
      | .improper n => "improper conversion(number " ++ toString n ++ ") in " ++ called)

/-- Runs a command and gives its result. -/
def runCommand (g : Given) (command : Bytes) : Doing Value := do
  flushAll
  let killer ← outside (g.run "sh" command)
  pure (.ofNat (← resultOf killer))

/-! ## Layer C: expressions and statements -/

/-- How deep expressions and statements may be nested. -/
def mostNested : Nat := 9000

/-- How many values functions that run may keep. -/
def mostKept : Nat := 1000

mutual

/-- **The value of an expression.** -/
def evaluate (g : Given) : Nat → Expr → Doing Value
  | 0, _ => throw (.failed "program limit exceeded: eval stack size=1024")
  | fuel + 1, e => do
    match e with
    | .number f => pure (.number f)
    | .text bs => pure (.text bs)
    | .regex source =>
      let r ← regexFor source
      pure (.ofBool (r.search (← recordNow).toArray 0).isSome)
    | .valueOf n => valueOf n
    | .element array subscripts =>
      let k ← keyOf (← subscripts.mapM (evaluate g fuel))
      let number ← arrayOf array
      changeArray number (·.used k true)
      pure ((← arrayAt number).get k)
    | .field e => do fieldAt (← evaluate g fuel e).toFloat
    | .assign target value =>
      let store ← place g fuel target
      let v ← evaluate g fuel value
      store.2 v
      pure v
    | .update op target value =>
      let store ← place g fuel target
      let v ← evaluate g fuel value
      let now ← store.1
      let new := Value.number (op.apply now.toFloat v.toFloat)
      store.2 new
      pure new
    | .step up before target =>
      let store ← place g fuel target
      let old := (← store.1).toFloat
      let new := if up then old + 1 else old - 1
      store.2 (.number new)
      pure (.number (if before then old else new))
    | .arithmetic op a b =>
      let x ← evaluate g fuel a
      let y ← evaluate g fuel b
      pure (.number (op.apply x.toFloat y.toFloat))
    | .joined a b =>
      let x ← textOf (← evaluate g fuel a)
      let y ← textOf (← evaluate g fuel b)
      pure (.text (x ++ y))
    | .compared c a b =>
      let x ← evaluate g fuel a
      let y ← evaluate g fuel b
      pure (.ofBool (c.holds (x.order (← innerFormat) y)))
    | .isMatch negated subject pattern =>
      let bs ← textOf (← evaluate g fuel subject)
      let r ← patternOf g fuel pattern
      pure (.ofBool ((r.search bs.toArray 0).isSome != negated))
    | .isElement subscripts array =>
      let k ← keyOf (← subscripts.mapM (evaluate g fuel))
      let number ← arrayOf array
      let isThere := (← arrayAt number).contains k
      changeArray number (·.used k false)
      pure (.ofBool isThere)
    | .both a b =>
      if (← evaluate g fuel a).isTrue then do pure (.ofBool (← evaluate g fuel b).isTrue)
      else pure (.ofBool false)
    | .either a b =>
      if (← evaluate g fuel a).isTrue then pure (.ofBool true)
      else do pure (.ofBool (← evaluate g fuel b).isTrue)
    | .not e => do pure (.ofBool (!(← evaluate g fuel e).isTrue))
    | .negative e => do pure (.number (-(← evaluate g fuel e).toFloat))
    | .positive e => do pure (.number (← evaluate g fuel e).toFloat)
    | .choice condition a b =>
      if (← evaluate g fuel condition).isTrue then evaluate g fuel a else evaluate g fuel b
    | .grouped e => evaluate g fuel e
    | .call function args => call g fuel function args
    | .builtin function args => special g fuel function args
    | .nextRecord target =>
      match ← nextInput (fun s => escaped s.toList) mostPasses with
      | none => pure (.number 0)
      | some bs =>
        receive g fuel target bs
        pure (.number 1)
    | .recordOf target file =>
      let name ← textOf (← evaluate g fuel file)
      receiveFrom g fuel target (← nextFromSource g false name)
    | .recordFrom command target =>
      let name ← textOf (← evaluate g fuel command)
      receiveFrom g fuel target (← nextFromSource g true name)

/-- How the value of what can be assigned to is found and set. -/
def place (g : Given) : Nat → Expr → Doing (Doing Value × (Value → Doing Unit))
  | 0, _ => throw (.failed "program limit exceeded: eval stack size=1024")
  | fuel + 1, e => do
    match e with
    | .valueOf n => pure (valueOf n, setValue n)
    | .element array subscripts =>
      let k ← keyOf (← subscripts.mapM (evaluate g fuel))
      let number ← arrayOf array
      changeArray number (·.used k true)
      let now : Doing Value := do pure ((← arrayAt number).get k)
      pure (now, fun v => changeArray number (·.set k v))
    | .field e =>
      let f := (← evaluate g fuel e).toFloat
      pure (fieldAt f, setField f)
    | .grouped e => place g fuel e
    | _ => do
      let v ← evaluate g fuel e
      pure (pure v, fun _ => pure ())

/-- The regular expression that an expression stands for. -/
def patternOf (g : Given) : Nat → Expr → Doing Regex
  | 0, _ => throw (.failed "program limit exceeded: eval stack size=1024")
  | fuel + 1, e => do
    match e.bare with
    | .regex source => regexFor source
    | e => do regexFor (← textOf (← evaluate g fuel e))

/-- Puts a record where it belongs. -/
def receive (g : Given) : Nat → Option Expr → Bytes → Doing Unit
  | 0, _, _ => pure ()
  | fuel + 1, target, bs => do
    match target with
    | none => setRecord bs
    | some e => do (← place g fuel e).2 (.ofInput bs)

/-- Puts a record of a file or a command where it belongs, and tells whether there was one. -/
def receiveFrom (g : Given) : Nat → Option Expr → Option (Option Bytes) → Doing Value
  | 0, _, _ => pure .missing
  | fuel + 1, target, found => do
    match found with
    | none => pure (.number (-1))
    | some none => pure (.number 0)
    | some (some bs) =>
      receive g fuel target bs
      pure (.number 1)

/-- Calls a function of the program. Arrays are shared with it, values are not. -/
def call (g : Given) : Nat → String → List Expr → Doing Value
  | 0, _, _ => throw (.failed "program limit exceeded: eval stack size=1024")
  | fuel + 1, name, args => do
    match g.program.function? name with
    | none => pure .missing
    | some f =>
      let given ← args.mapM fun e => do
        match e with
        | .valueOf n =>
          if n == .shared "NF" then do pure (Binding.value (← valueOf n))
          else
            match ← binding n with
            | .unset =>
              let k ← freshArray
              bindTo n (.undecided k)
              pure (.undecided k)
            | b => pure b
        | _ => do pure (.value (← evaluate g fuel e))
      let before ← get
      let kept := before.depth + f.parameters.length + 1
      if mostKept < kept then throw (.failed "program limit exceeded: eval stack size=1024")
      let others := List.replicate (f.parameters.length - given.length) Binding.unset
      alter fun s => { s with frame := (given ++ others).toArray, depth := kept }
      let leave : Doing Unit :=
        alter fun s => { s with frame := before.frame, depth := before.depth }
      let body : Doing Value := do
        let _ ← perform g fuel f.body
        pure .missing
      let v ← tryCatch body fun d =>
        match d with
        | .gaveBack v => pure v
        | d => throw d
      leave
      pure v

/-- The value of a function that is always there. -/
def special (g : Given) : Nat → String → List Expr → Doing Value
  | 0, _, _ => throw (.failed "program limit exceeded: eval stack size=1024")
  | fuel + 1, name, args => do
    match name, args with
    | "length", [.valueOf n] =>
      match ← binding n with
      | .array k => do pure (.ofNat (← arrayAt k).size)
      | .undecided k => do pure (.ofNat (← arrayAt k).size)
      | _ => do textFunction name [← valueOf n]
    | "split", subject :: .valueOf array :: rest =>
      let bs ← textOf (← evaluate g fuel subject)
      let d ← match rest.map Expr.bare with
        | [] => do dividerFor (← settingText "FS")
        | .regex source :: _ => do pure (Divider.regex (← regexFor source))
        | e :: _ => do dividerFor (← textOf (← evaluate g fuel e))
      let parts := (d.parts bs).map Value.ofInput
      let number ← arrayOf array
      changeArray number fun _ => Assoc.ofList parts
      pure (.ofNat parts.length)
    | "match", [subject, pattern] =>
      let bs ← textOf (← evaluate g fuel subject)
      let r ← patternOf g fuel pattern
      let (start, size) : Float × Float := match r.search bs.toArray 0 with
        | some (b, e, _) => ((b + 1).toFloat, (e - b).toFloat)
        | none => (0, -1)
      setShared "RSTART" (.number start)
      setShared "RLENGTH" (.number size)
      pure (.number start)
    | "sprintf", _ =>
      let (bs, fault) ← formattedText "sprintf" (← args.mapM (evaluate g fuel))
      match fault with
      | some why => failHere why
      | none => pure (.text bs)
    | "system", [e] => do runCommand g (← textOf (← evaluate g fuel e))
    | "close", [e] =>
      match ← closeNamed g (← textOf (← evaluate g fuel e)) with
      | some n => pure (.ofNat n)
      | none => pure (.number (-1))
    | "fflush", _ =>
      let _ ← args.mapM (evaluate g fuel)
      flushAll
      pure (.number 0)
    | _, pattern :: new :: rest =>
      if name == "sub" || name == "gsub" then
        let r ← patternOf g fuel pattern
        let new ← textOf (← evaluate g fuel new)
        let store ← place g fuel (rest.headD (.field (.number 0)))
        let bs ← textOf (← store.1)
        let (result, n) := replaced r new bs (name == "gsub")
        if 0 < n then store.2 (.text result)
        pure (.ofNat n)
      else do textFunction name (← args.mapM (evaluate g fuel))
    | _, _ => do textFunction name (← args.mapM (evaluate g fuel))

/-- Prints where a statement says. -/
def output (g : Given) : Nat → Option (Outlet × Expr) → Bytes → Doing Unit
  | 0, _, _ => pure ()
  | fuel + 1, outlet, bs => do
    match outlet with
    | none => alter fun s => { s with pending := bs :: s.pending }
    | some (kind, e) => do printTo kind (← textOf (← evaluate g fuel e)) bs

/-- **Carries out a statement.** -/
def perform (g : Given) : Nat → Statement → Doing Pace
  | 0, _ => throw (.failed "program limit exceeded: eval stack size=1024")
  | fuel + 1, s => do
    let truth (e : Expr) : Doing Bool := do pure (← evaluate g fuel e).isTrue
    let maybe (e : Option Expr) : Doing Unit := do
      match e with
      | some e =>
        let _ ← evaluate g fuel e
      | none => pure ()
    match s with
    | .nothing => pure .on
    | .evaluate e =>
      let _ ← evaluate g fuel e
      pure .on
    | .print args outlet =>
      let format := (← plainValue "OFMT").toText []
      let parts ← args.mapM fun e => do pure ((← evaluate g fuel e).toText format)
      let body ← if args.isEmpty then recordNow
        else do pure ((← settingText "OFS").intercalate parts)
      output g fuel outlet (body ++ (← settingText "ORS"))
      pure .on
    | .printFormat args outlet =>
      let (bs, fault) ← formattedText "printf" (← args.mapM (evaluate g fuel))
      output g fuel outlet bs
      match fault with
      | some why => failHere why
      | none => pure .on
    | .block body =>
      body.foldlM (fun pace s => if pace == .on then perform g fuel s else pure pace) .on
    | .branch condition body otherwise =>
      if ← truth condition then perform g fuel body
      else
        match otherwise with
        | some s => perform g fuel s
        | none => pure .on
    | .whileTrue condition body =>
      rounds (loopRound (truth condition) (perform g fuel body) (pure ())) mostPasses
      pure .on
    | .doWhile body condition =>
      let first ← perform g fuel body
      if first != .left then
        rounds (loopRound (truth condition) (perform g fuel body) (pure ())) mostPasses
      pure .on
    | .loop first condition after body =>
      maybe first
      let goesOn : Doing Bool := match condition with
        | some e => truth e
        | none => pure true
      rounds (loopRound goesOn (perform g fuel body) (maybe after)) mostPasses
      pure .on
    | .eachKey key array body =>
      let number ← arrayOf array
      let (keys, a) := (← arrayAt number).keys
      changeArray number fun _ => a
      let _ ← keys.foldlM (fun pace k =>
        if pace == .left then pure pace
        else do
          setValue key (.text k)
          perform g fuel body) Pace.on
      pure .on
    | .leave => pure .left
    | .goOn => pure .again
    | .nextRecord => throw .nextRecord
    | .nextFile => throw .nextFile
    | .finish status =>
      match status with
      | some e =>
        let f := (← evaluate g fuel e).toFloat
        alter fun s => { s with status := (truncated f % 256).toNat }
      | none => pure ()
      throw .finished
    | .giveBack value =>
      match value with
      | some e => do throw (.gaveBack (← evaluate g fuel e))
      | none => throw (.gaveBack .missing)
    | .deleteElement array subscripts =>
      let k ← keyOf (← subscripts.mapM (evaluate g fuel))
      changeArray (← arrayOf array) (·.erase k)
      pure .on
    | .deleteAll array =>
      changeArray (← arrayOf array) fun _ => {}
      pure .on

end

/-! ## Layer D: rules -/

/-- Whether a rule applies to the record. -/
def applies (g : Given) (number : Nat) (p : Pattern) : Doing Bool := do
  let truth (e : Expr) : Doing Bool := do pure (← evaluate g mostNested e).isTrue
  match p with
  | .first => pure false
  | .last => pure false
  | .always => pure true
  | .when e => truth e
  | .between a b =>
    let inside : Bool := (← get).active.contains number
    let begins ← if inside then pure true else truth a
    if begins then
      let ends ← truth b
      alter fun s => { s with
        active := if ends then s.active.erase number else number :: s.active.erase number }
    pure begins

/-- Carries out the action of a rule. -/
def act (g : Given) (r : Rule) : Doing Unit := do
  let _ ← perform g mostNested (r.action.getD (.print [] none))

/-- Applies the rules to the record. -/
def applyRules (g : Given) : Doing Unit :=
  g.program.rules.zipIdx.forM fun x => do
    if ← applies g x.2 x.1.pattern then act g x.1

/-- Reads a record and applies the rules to it. The result tells whether there was one. -/
def recordRound (g : Given) : Doing Bool := do
  match ← nextInput (fun s => escaped s.toList) mostPasses with
  | none => pure false
  | some bs =>
    setRecord bs
    tryCatch (applyRules g) fun d =>
      match d with
      | .nextRecord => pure ()
      | .nextFile => alter fun s => { s with input := none }
      | d => throw d
    pure true

/-- Whether a rule is for the start or the end. -/
def Pattern.isFirst : Pattern → Bool
  | first => true
  | _ => false

/-- Whether a rule is for the end. -/
def Pattern.isLast : Pattern → Bool
  | last => true
  | _ => false

/-- Carries out a program: the rules for the start, those for records, and those for the end. -/
def carryOut (g : Given) : Doing Unit := do
  let rules := g.program.rules
  let orExit (body : Doing Unit) : Doing Bool :=
    tryCatch (do
      body
      pure true) fun d =>
      match d with
      | .finished => pure false
      | d => throw d
  let started ← orExit ((rules.filter (·.pattern.isFirst)).forM (act g))
  let needsInput := rules.any fun r => !r.pattern.isFirst
  if started && needsInput then
    let _ ← orExit (rounds (recordRound g) mostPasses)
  let _ ← orExit ((rules.filter (·.pattern.isLast)).forM (act g))

/-- The variables that a program begins with. -/
def firstState (env : List (String × String)) (args : List String)
    (settings : List (String × Bytes)) : State :=
  let texts : List (String × String) :=
    [("FS", " "), ("OFS", " "), ("ORS", "\n"), ("RS", "\n"), ("SUBSEP", "\x1c"),
     ("CONVFMT", "%.6g"), ("OFMT", "%.6g"), ("FILENAME", "")]
  let numbers : List (String × Float) :=
    [("NR", 0), ("FNR", 0), ("RSTART", 0), ("RLENGTH", -1), ("ARGC", args.length.toFloat)]
  let bound := texts.map (fun x => (x.1, Binding.value (.text (Bytes.ofText x.2))))
    ++ numbers.map (fun x => (x.1, Binding.value (.number x.2)))
    ++ [("ENVIRON", .array 0), ("ARGV", .array 1)]
    ++ settings.map fun x => (x.1, Binding.value (Value.ofInput x.2))
  let environment := env.foldl (fun (a : Assoc) x =>
    a.set (.text (Bytes.ofText x.1)) (.ofInput (Bytes.ofText x.2))) {}
  let arguments := args.zipIdx.foldl (fun (a : Assoc) x =>
    a.set (.number x.2) (.ofInput (Bytes.ofText x.1))) {}
  { shared := Std.HashMap.ofList bound
    arrays := Std.HashMap.ofList [(0, environment), (1, arguments)]
    fresh := 2 }

/-- The end of a program with a result, unless a signal has ended it before. -/
def endWith (status : Nat) : Run Flow := do
  match ← spend 0 with
  | some s => pure (.killed s)
  | none =>
    setStatus status
    pure .exited

/-- **Runs a program** from a state on. -/
def Given.start (g : Given) (s : State) : Run Flow := do
  let (result, s) ← (carryOut g).run.run s
  match result with
  | .error .endless =>
    let _ ← (flushOut.run.run s : Run _)
    writeForEver
  | .error (.failed message) =>
    complain (g.shown ++ ": " ++ message)
    let _ ← ((closeAll g).run.run s : Run _)
    endWith 2
  | _ =>
    let (_, s) ← (closeAll g).run.run s
    endWith s.status

end Awk

end Shell

end CodeAtlas
