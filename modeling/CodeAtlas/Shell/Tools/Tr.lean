import CodeAtlas.Shell.Tools.Lines

/-!
# Replacing bytes

`tr` replaces, removes or squeezes bytes of its input. Sets of bytes are written as characters,
escapes, ranges, classes, and bytes that are repeated.

## Architecture

- **Layer A**: characters and escapes;
- **Layer B**: items of a set;
- **Layer C**: which sets go together;
- **Layer D**: the tool.
-/

namespace CodeAtlas

namespace Shell

/-- The bytes between two others. -/
def bytesBetween (a b : UInt8) : Bytes :=
  if b < a then []
  else (List.range (b.toNat - a.toNat + 1)).map fun i => (a.toNat + i).toUInt8

/-- All bytes. -/
def allByteValues : Bytes := bytesBetween 0 255

/-- A number of a base with zeros in front. -/
def zeroPadded (base width n : Nat) : String :=
  let s := String.ofList (Nat.toDigits base n)
  String.ofList (List.replicate (width - s.length) '0') ++ s

/-! ## Layer A: characters -/

/-- A byte of a description. If it was escaped, it is no sign. -/
structure SetByte where
  byte : UInt8
  escaped : Bool := false
  deriving Repr, DecidableEq, Inhabited

/-- Whether a byte of a description is a sign. -/
def SetByte.isSign (b : SetByte) (c : Char) : Bool := !b.escaped && b.byte.toNat == c.toNat

/-- The warning about three octal digits that are more than a byte. -/
def octalWarning (digits : List Char) : String :=
  "the ambiguous octal escape \\" ++ String.ofList digits
    ++ " is being\n\tinterpreted as the 2-byte sequence \\0" ++ String.ofList (digits.take 2)
    ++ ", " ++ String.ofList (digits.drop 2)

/-- The bytes of a description, and warnings about how it is written. -/
def setBytes : Nat → List Char → List SetByte × List String
  | 0, _ => ([], [])
  | _ + 1, [] => ([], [])
  | _ + 1, ['\\'] => ([⟨92, false⟩], ["an unescaped backslash at end of string is not portable"])
  | fuel + 1, '\\' :: c :: rest =>
    if isOctal c then
      let ds := ((c :: rest).take 3).takeWhile isOctal
      let used := if valueIn 8 ds < 256 then ds else ds.take 2
      let (bs, warnings) := setBytes fuel ((c :: rest).drop used.length)
      (⟨(valueIn 8 used).toUInt8, true⟩ :: bs,
        if used.length == ds.length then warnings else octalWarning ds :: warnings)
    else
      let meant := match (if c == 'e' then none else letterEscape? c) with
        | some b => [b]
        | none => Bytes.ofText (String.singleton c)
      let (bs, warnings) := setBytes fuel rest
      (meant.map (⟨·, true⟩) ++ bs, warnings)
  | fuel + 1, c :: rest =>
    let (bs, warnings) := setBytes fuel rest
    ((Bytes.ofText (String.singleton c)).map (⟨·, false⟩) ++ bs, warnings)

/-- A byte in a message. -/
def shownSetByte (b : UInt8) : String :=
  if b == 92 then "\\\\"
  else if 32 ≤ b && b < 127 then String.singleton (Char.ofNat b.toNat)
  else "\\" ++ zeroPadded 8 3 b.toNat

/-- Bytes in a message. -/
def shownSetBytes (bs : List SetByte) : String :=
  "".intercalate (bs.map fun b => shownSetByte b.byte)

/-! ## Layer B: items -/

/-- An item of a set. -/
inductive SetItem where
  | range (first last : UInt8)
  | named (name : String) (members : Bytes)
  /-- One byte that is written like a class. -/
  | alike (byte : UInt8)
  /-- A byte that is repeated; zero times is as often as needed. -/
  | repeated (byte : UInt8) (times : Nat)
  deriving Repr, DecidableEq, Inhabited

/-- Where a class that begins in a description ends. -/
def closingAt (delimiter : Char) : List SetByte → Option Nat
  | a :: b :: rest =>
    if a.isSign delimiter && b.isSign ']' then some 0
    else (closingAt delimiter (b :: rest)).map (· + 1)
  | _ => none

/-- A byte that is repeated, from behind its bracket on. There is no answer if it is none. -/
def repetitionAt? (bs : List SetByte) : Except String (Option (SetItem × List SetByte)) :=
  match bs with
  | c :: star :: rest =>
    let count := rest.takeWhile fun b => !b.escaped && !b.isSign ']'
    match star.isSign '*', rest.drop count.length with
    | true, close :: left =>
      let digits := count.map fun b => Char.ofNat b.byte.toNat
      let base := if digits.head? == some '0' then 8 else 10
      let isDigit (d : Char) : Bool := if base == 8 then isOctal d else d.isDigit
      if close.escaped then .ok none
      else if digits.all isDigit then .ok (some (.repeated c.byte (valueIn base digits), left))
      else
        .error ("invalid repeat count '" ++ shownSetBytes count ++ "' in [c*n] construct")
    | _, _ => .ok none
  | _ => .ok none

/-- A class, from behind its bracket and first sign on. There is no answer if it is not closed. -/
def classAt? (delimiter : Char) (bs : List SetByte) :
    Except String (Option (SetItem × List SetByte)) :=
  match closingAt delimiter bs with
  | none => .ok none
  | some n =>
    let inner := bs.take n
    let left := bs.drop (n + 2)
    let name := String.ofList (inner.map fun b => Char.ofNat b.byte.toNat)
    if delimiter == ':' then
      match byteClass? name with
      | some f => .ok (some (.named name (allByteValues.filter f), left))
      | none =>
        .error (if name.isEmpty then "missing character class name '[::]'"
          else "invalid character class '" ++ shownSetBytes inner ++ "'")
    else
      match inner with
      | [] => .error "missing equivalence class character '[==]'"
      | [b] => .ok (some (.alike b.byte, left))
      | _ =>
        .error (shownSetBytes inner ++ ": equivalence class operand must be a single character")

/-- What is written in brackets at the start of a description. -/
def bracketedAt? (bs : List SetByte) : Except String (Option (SetItem × List SetByte)) :=
  match bs with
  | open_ :: sign :: rest =>
    if !open_.isSign '[' then .ok none
    else
      let delimiter := if sign.isSign ':' then some ':' else if sign.isSign '=' then some '='
        else none
      match delimiter.map fun d => classAt? d rest with
      | some (.ok (some r)) => .ok (some r)
      | some (.error why) =>
        match repetitionAt? (sign :: rest) with
        | .ok (some r) => .ok (some r)
        | _ => .error why
      | _ => repetitionAt? (sign :: rest)
  | _ => .ok none

/-- The items of a description. -/
def setItems : Nat → List SetByte → Except String (List SetItem)
  | 0, _ => .ok []
  | fuel + 1, bs =>
    match bs with
    | a :: b :: c :: rest => do
      match ← bracketedAt? bs with
      | some (item, left) => pure (item :: (← setItems fuel left))
      | none =>
        if !b.isSign '-' then pure (.range a.byte a.byte :: (← setItems fuel (b :: c :: rest)))
        else if c.byte < a.byte then
          throw ("range-endpoints of '" ++ shownSetByte a.byte ++ "-" ++ shownSetByte c.byte
            ++ "' are in reverse collating sequence order")
        else pure (.range a.byte c.byte :: (← setItems fuel rest))
    | _ => .ok (bs.map fun b => .range b.byte b.byte)

/-- The bytes of an item; `filler` is how often a byte is repeated if that is not said. -/
def SetItem.bytes (filler : Nat) : SetItem → Bytes
  | range a b => bytesBetween a b
  | named _ bs => bs
  | alike b => [b]
  | repeated b n => List.replicate (if n == 0 then filler else n) b

/-- Whether an item is a byte that is repeated as often as needed. -/
def SetItem.isFiller : SetItem → Bool
  | repeated _ 0 => true
  | _ => false

/-- Whether an item is one of the classes of letters by case. -/
def SetItem.isCase : SetItem → Bool
  | named name _ => name == "upper" || name == "lower"
  | _ => false

/-- Whether an item is a class that no byte can be replaced by. -/
def SetItem.isOpen : SetItem → Bool
  | named name _ => name != "upper" && name != "lower"
  | _ => false

/-! ## Layer C: pairs of sets -/

/-- The items of a set with the place of each. -/
def placed (filler : Nat) : Nat → List SetItem → List (Nat × SetItem)
  | _, [] => []
  | n, i :: rest => (n, i) :: placed filler (n + (i.bytes filler).length) rest

/-- Which bytes are replaced by which. -/
structure Replacement where
  first : Bytes
  second : Bytes

/-- Puts two sets side by side, of which the second replaces the first. -/
def pairSets (complement shorten : Bool) (first second : List SetItem) :
    Except String Replacement := do
  let plain := first.flatMap (SetItem.bytes 0)
  let from_ := if complement then allByteValues.filter fun b => !plain.contains b else plain
  let filler := from_.length - (second.flatMap (SetItem.bytes 0)).length
  let target := second.flatMap (SetItem.bytes filler)
  if second.any fun i => i matches .alike _ then
    throw "[=c=] expressions may not appear in string2 when translating"
  if second.any SetItem.isOpen then
    throw ("when translating, the only character classes that may appear in\n"
      ++ "string2 are 'upper' and 'lower'")
  let cases (items : List SetItem) : List Nat :=
    ((placed filler 0 items).filter (·.2.isCase)).map (·.1)
  if !complement && !(cases second).all (cases first).contains then
    throw "misaligned [:upper:] and/or [:lower:] construct"
  if target.length < from_.length && !shorten then
    if target.isEmpty then throw "when not truncating set1, string2 must be non-empty"
    if second.getLast?.any SetItem.isCase then
      throw ("when translating with string1 longer than string2,\n"
        ++ "the latter string must not end with a character class")
  if complement && first.any (fun i => i matches .named _ _)
      && !(target.length ≤ from_.length && target.all (· == target.headD 0)) then
    throw ("when translating with complemented character classes,\n"
      ++ "string2 must map all characters in the domain to one")
  pure ⟨if shorten then from_.take target.length else from_, target⟩

/-! ## Layer D: the tool -/

/-- Drops bytes of a set that repeat the one before. -/
def squeeze (set : Bytes) (bs : Bytes) : Bytes :=
  (bs.foldl (fun (acc : Bytes × Option UInt8) b =>
    if acc.2 == some b && set.contains b then acc else (b :: acc.1, some b)) ([], none)).1.reverse

/-- Replaces bytes. The last byte of a shorter set is repeated. -/
def Replacement.apply (r : Replacement) (bs : Bytes) : Bytes :=
  let pairs := r.first.zipIdx.map fun x => (x.1, r.second.getD x.2 (r.second.getLastD x.1))
  let table := pairs.foldl (fun (a : Array UInt8) e => a.setIfInBounds e.1.toNat e.2)
    allByteValues.toArray
  bs.map fun b => table.getD b.toNat b

/-- What is wrong with the number of sets, if something is. -/
def setCountFault? (removing squeezing : Bool) (operands : List String) : Option String :=
  let needed := if removing == squeezing then 2 else 1
  let most := if removing && !squeezing then 1 else 2
  match operands with
  | [] => some "missing operand"
  | [s] =>
    if 1 < needed then
      some ("missing operand after '" ++ s ++ "'\nTwo strings must be given when "
        ++ if squeezing then "both deleting and squeezing repeats." else "translating.")
    else none
  | _ =>
    if operands.length ≤ most then none
    else
      some ("extra operand '" ++ operands.getD most "" ++ "'"
        ++ if operands.length == 2 then
            "\nOnly one string may be given when deleting without squeezing repeats."
          else "")

/-- What the sets do to the input. -/
def translated (g : Given) (sets : List (List SetItem)) (input : Bytes) : Except String Bytes := do
  let complement := g.has 'c' || g.has 'C'
  let first := sets.headD []
  if first.any SetItem.isFiller then
    throw "the [c*] repeat construct may not appear in string1"
  let plain := first.flatMap (SetItem.bytes 0)
  let chosen (b : UInt8) : Bool := plain.contains b != complement
  let kept := if g.has 'd' then input.filter fun b => !chosen b else input
  match sets.drop 1 with
  | [] => pure (if g.has 'd' then kept else squeeze (allByteValues.filter chosen) input)
  | second :: _ =>
    if 1 < (second.filter SetItem.isFiller).length then
      throw "only one [c*] repeat construct may appear in string2"
    if g.has 'd' then
      if second.any SetItem.isFiller then
        throw "the [c*] construct may appear in string2 only when translating"
      pure (squeeze (second.flatMap (SetItem.bytes 0)) kept)
    else
      let r ← pairSets complement (g.has 't') first second
      let out := r.apply input
      pure (if g.has 's' then squeeze r.second out else out)

/-- Replaces or removes bytes of the input. -/
def trTool (c : ToolCall) : ToolResult :=
  let table : OptionTable :=
    { plain := "cCdst", anywhere := false
      long := [("complement", 'c'), ("delete", 'd'), ("squeeze-repeats", 's'),
        ("truncate-set1", 't')] }
  withOptions c 1 table fun g =>
    match setCountFault? (g.has 'd') (g.has 's') g.operands with
    | some why => usage c 1 why
    | none =>
      let read := g.operands.map fun s => setBytes (s.length + 1) s.toList
      let warnings := read.flatMap (·.2)
      let warned := ToolResult.inTurn (warnings.map fun w =>
        { ToolResult.failing 0 (c.shown ++ ": warning: " ++ w) with status := 0 })
      match (read.mapM fun r => setItems (r.1.length + 1) r.1).bind fun sets =>
          translated g sets c.input with
      | .ok bs => warned.andThen { ToolResult.bytes bs with left := some [] }
      | .error why => warned.andThen (.failing 1 (c.shown ++ ": " ++ why))

end Shell

end CodeAtlas
