import CodeAtlas.Shell.Tools.Tr

/-!
# Comparing two files

Tools that read two files at once: byte by byte, line by line, or by the fields of their lines.

## Architecture

- **Layer A**: bytes (`cmp`);
- **Layer B**: sorted lines (`comm`);
- **Layer C**: fields of sorted lines (`join`).
-/

namespace CodeAtlas

namespace Shell

/-! ## Layer A: bytes -/

/-- How many bytes two texts have in common at the start. -/
def commonLength : Bytes → Bytes → Nat
  | a :: as, b :: bs => if a == b then commonLength as bs + 1 else 0
  | _, _ => 0

/-- The message of a tool for files that was called in a wrong way, which names itself twice. -/
def namedUsage (c : ToolCall) (why : String) : ToolResult :=
  .failing 2 (c.shown ++ ": " ++ why ++ "\n" ++ c.shown ++ ": Try '" ++ c.shown
    ++ " --help' for more information.")

/-- A byte as a character, with signs in front of those that are not printable. -/
def markedByte (b : UInt8) : String :=
  Bytes.lossyText (visibleByte b)

/-- What two files are compared for. -/
structure ByteComparison where
  first : Bytes
  second : Bytes
  /-- The names of the files. -/
  names : String × String
  /-- Whether characters are shown. -/
  characters : Bool

namespace ByteComparison

/-- The message that one file ends before the other. -/
def ending (k : ByteComparison) (n : Nat) (withLine : Bool) : String :=
  let short := if n == k.first.length then k.names.1 else k.names.2
  let common := k.first.take n
  let lines := common.count 10
  "EOF on " ++ short ++
    if n == 0 then " which is empty"
    else " after byte " ++ toString n ++
      if !withLine then ""
      else if common.getLast? == some 10 then ", line " ++ toString lines
      else ", in line " ++ toString (lines + 1)

/-- Two bytes that differ, in octal digits. -/
def pair (k : ByteComparison) (x y : UInt8) : String :=
  let octal (b : UInt8) : String := padLeft 3 (String.ofList (Nat.toDigits 8 b.toNat))
  if k.characters then
    let shown := markedByte x
    octal x ++ " " ++ shown ++ String.ofList (List.replicate (4 - shown.length) ' ') ++ " "
      ++ octal y ++ " " ++ markedByte y
  else octal x ++ " " ++ octal y

/-- All bytes that differ. -/
def listing (k : ByteComparison) : String :=
  let width := (toString (min k.first.length k.second.length)).length
  "".intercalate ((k.first.zip k.second).zipIdx.filterMap fun x =>
    if x.1.1 == x.1.2 then none
    else some (padLeft width (toString (x.2 + 1)) ++ " " ++ k.pair x.1.1 x.1.2 ++ "\n"))

/-- The message about the first bytes that differ. -/
def firstDifference (k : ByteComparison) (n : Nat) : String :=
  let octal (b : UInt8) : String := padLeft 3 (String.ofList (Nat.toDigits 8 b.toNat))
  let x := k.first.getD n 0
  let y := k.second.getD n 0
  k.names.1 ++ " " ++ k.names.2 ++ " differ: " ++ (if k.characters then "byte " else "char ")
    ++ toString (n + 1) ++ ", line " ++ toString ((k.first.take n).count 10 + 1)
    ++ (if k.characters then
        " is " ++ octal x ++ " " ++ markedByte x ++ " " ++ octal y ++ " " ++ markedByte y
      else "") ++ "\n"

end ByteComparison

/-- Compares two files byte by byte. -/
def cmpTool (c : ToolCall) : ToolResult :=
  let table : OptionTable :=
    { plain := "slb", valued := "ni"
      long := [("silent", 's'), ("quiet", 's'), ("verbose", 'l'), ("print-bytes", 'b'),
        ("bytes", 'n'), ("ignore-initial", 'i')] }
  match table.read c.args {} with
  | .error why => namedUsage c why
  | .ok g =>
    let skips := ((g.value? 'i').getD "0").splitOn ":"
    let skip (i : Nat) : Option Nat :=
      sized? (g.operands.getD (i + 2) (skips.getD i (skips.headD "0")))
    let limit := (g.value? 'n').map sized?
    match g.operands, skip 0, skip 1, limit with
    | [], _, _, _ => namedUsage c ("missing operand after '" ++ c.shown ++ "'")
    | _, none, _, _ => namedUsage c ("invalid --ignore-initial value '"
        ++ g.operands.getD 2 (skips.headD "") ++ "'")
    | _, _, none, _ => namedUsage c ("invalid --ignore-initial value '"
        ++ g.operands.getD 3 (skips.getD 1 "") ++ "'")
    | _, _, _, some none =>
      namedUsage c ("invalid --bytes value '" ++ (g.value? 'n').getD "" ++ "'")
    | a :: rest, some m, some n, limit =>
      let b := rest.headD "-"
      if 3 < rest.length then namedUsage c ("extra operand '" ++ rest.getD 3 "" ++ "'")
      else
        match c.content a, c.content b with
        | .ok x, .ok y =>
          let part (skip : Nat) (content : Content) : Bytes :=
            let bs := content.toBytes.drop skip
            match limit.join with
            | some n => bs.take n
            | none => bs
          let k : ByteComparison := ⟨part m x, part n y, (a, b), g.has 'b'⟩
          let n := commonLength k.first k.second
          let least := min k.first.length k.second.length
          if k.first == k.second then {}
          else if g.has 's' then { status := 1 }
          else if g.has 'l' then
            let told : ToolResult := if k.first.length == k.second.length then {}
              else .failing 1 (c.shown ++ ": " ++ k.ending least false)
            { (ToolResult.printing k.listing).andThen told with status := 1 }
          else if n == least then .failing 1 (c.shown ++ ": " ++ k.ending n true)
          else { ToolResult.printing (k.firstDifference n) with status := 1 }
        | .error fault, _ =>
          if g.has 's' then { status := 2 } else .failing 2 (plainRefusal c a fault)
        | _, .error fault =>
          if g.has 's' then { status := 2 } else .failing 2 (plainRefusal c b fault)

/-! ## Layer B: sorted lines -/

/-- How bytes are ordered. -/
def orderOf (a b : Bytes) : Ordering := compare (a.map UInt8.toNat) (b.map UInt8.toNat)

/-- Whether it is told that lines are not sorted. -/
inductive OrderCheck where
  /-- Only if some line is in one file only. -/
  | usual
  | strict
  | none
  deriving Repr, DecidableEq, Inhabited

/-- The lines of a file as they are read, with those that were read last. -/
structure SortedFile where
  next : List Bytes
  present : Option Bytes := none
  before : Option Bytes := none
  /-- Whether it was told that the file is not sorted. -/
  told : Bool := false
  deriving Inhabited

namespace SortedFile

/-- Reads on. -/
def advance (f : SortedFile) : SortedFile :=
  match f.next with
  | [] => { f with present := none, before := f.present <|> f.before }
  | l :: rest => { f with next := rest, present := some l, before := f.present }

end SortedFile

/-- What has been found out about two sorted files. -/
structure LineMerge where
  first : SortedFile
  second : SortedFile
  /-- The lines by column: only in the first file, only in the second, or in both. -/
  columns : List (Nat × Bytes) := []
  unpaired : Bool := false
  faults : List String := []
  /-- Whether a fault ended the comparison. -/
  stopped : Bool := false
  deriving Inhabited

namespace LineMerge

/-- Reads on in a file, and tells if it is not sorted. -/
def readOn (check : OrderCheck) (unpaired : Bool) (number : Nat) (f : SortedFile) :
    SortedFile × List String :=
  let g := f.advance
  let pair := match g.present with
    | some l => f.present.map fun before => (before, l)
    | none => f.before.bind fun before => f.present.map fun l => (before, l)
  let checks := check == .strict || (check == .usual && unpaired)
  let wrong := pair.any fun p => orderOf p.1 p.2 == .gt
  if checks && wrong && !f.told then
    ({ g with told := true }, ["file " ++ toString number ++ " is not in sorted order"])
  else (g, [])

/-- Puts the lines of two files into columns. -/
def run (check : OrderCheck) : Nat → LineMerge → LineMerge
  | 0, m => m
  | fuel + 1, m =>
    let order : Option (Ordering × Bytes) := match m.first.present, m.second.present with
      | none, none => none
      | some a, none => some (.lt, a)
      | none, some b => some (.gt, b)
      | some a, some b => some (orderOf a b, if orderOf a b == .gt then b else a)
    match order with
    | none => m
    | some (o, l) =>
      let column := match o with
        | .lt => 1
        | .gt => 2
        | .eq => 3
      let unpaired := m.unpaired || o != .eq
      let (first, faults) := if o == .gt then (m.first, [])
        else readOn check unpaired 1 m.first
      let stopped := check == .strict && !faults.isEmpty
      let (second, more) := if o == .lt || stopped then (m.second, [])
        else readOn check unpaired 2 m.second
      let m : LineMerge :=
        { first := first, second := second, columns := (column, l) :: m.columns
          unpaired := unpaired, faults := m.faults ++ faults ++ more
          stopped := stopped || (check == .strict && !more.isEmpty) }
      if m.stopped then m else run check fuel m

end LineMerge

/-- Compares two sorted files. -/
def commTool (c : ToolCall) : ToolResult :=
  let table : OptionTable :=
    { plain := "123+%=z", valued := ":"
      long := [("check-order", '+'), ("nocheck-order", '%'), ("total", '='),
        ("output-delimiter", ':'), ("zero-terminated", 'z')] }
  withOptions c 1 table fun g =>
    match g.operands with
    | [a, b] =>
      match c.content a, c.content b with
      | .ok x, .ok y =>
        let check : OrderCheck := match g.lastOf? ['+', '%'] with
          | some '+' => .strict
          | some _ => .none
          | none => .usual
        let start (content : Content) : SortedFile :=
          ({ next := bareLines content.toBytes } : SortedFile).advance
        let m := LineMerge.run check (x.size + y.size + 1) { first := start x, second := start y }
        let gap := Bytes.ofText ((g.value? ':').getD "\t")
        let shown (n : Nat) : Bool := !g.has (Char.ofNat (48 + n))
        let indent (n : Nat) : Bytes :=
          ((List.range n).filter fun k => 0 < k && shown k).flatMap fun _ => gap
        let rows := m.columns.reverse.filter fun r => shown r.1
        let number (n : Nat) : String := toString (m.columns.filter (·.1 == n)).length
        let total := if g.has '=' then
            ascii (number 1) ++ gap ++ ascii (number 2) ++ gap ++ ascii (number 3) ++ gap
              ++ ascii "total\n"
          else []
        let faults := if m.stopped || m.faults.isEmpty then m.faults
          else m.faults ++ ["input is not in sorted order"]
        (ToolResult.bytes (endedLines (rows.map fun r => indent r.1 ++ r.2)
          ++ if m.stopped then [] else total)).andThen
            (.inTurn (faults.map fun f => .failing 1 (c.shown ++ ": " ++ f)))
      | .error fault, _ => .failing 1 (plainRefusal c a fault)
      | _, .error fault => .failing 1 (plainRefusal c b fault)
    | [] => missingOperand c
    | [a] => usage c 1 ("missing operand after '" ++ a ++ "'")
    | _ :: _ :: extra :: _ => usage c 1 ("extra operand '" ++ extra ++ "'")

/-! ## Layer C: fields -/

/-- A field of a joined line: the common one, or one of a file. -/
inductive JoinField where
  | common
  | of (file field : Nat)
  deriving Repr, DecidableEq, Inhabited

/-- How lines are joined. -/
structure JoinMode where
  /-- The number of the common field in each file, from zero on. -/
  first : Nat
  second : Nat
  separator : Option UInt8
  caseless : Bool
  check : OrderCheck
  /-- The files of which lines without a counterpart are printed. -/
  alone : List Nat
  /-- Whether lines with a counterpart are printed. -/
  pairs : Bool
  filler : Bytes
  layout : Option (List JoinField)

namespace JoinMode

/-- The fields of a line. -/
def fields (m : JoinMode) (l : Bytes) : List Bytes :=
  match m.separator with
  | some b => l.splitOn b
  | none => ((l.map fun b => if b == 9 then 32 else b).splitOn 32).filter (!·.isEmpty)

/-- The common field of a line of a file. -/
def key (m : JoinMode) (file : Nat) (l : Bytes) : Bytes :=
  let k := (m.fields l).getD (if file == 1 then m.first else m.second) []
  if m.caseless then k.map fun b => if 97 ≤ b && b ≤ 122 then b - 32 else b else k

/-- Two lines as one. A line that is missing has no fields. -/
def joined (m : JoinMode) (a b : Option Bytes) : Bytes :=
  let as := (a.map m.fields).getD []
  let bs := (b.map m.fields).getD []
  let common := if a.isSome then as.getD m.first [] else bs.getD m.second []
  let filled (f : Option Bytes) : Bytes :=
    match f with
    | some x => if x.isEmpty then m.filler else x
    | none => m.filler
  let gap := [m.separator.getD 32]
  match m.layout with
  | none => gap.intercalate ((common :: (as.eraseIdx m.first ++ bs.eraseIdx m.second)).map fun f =>
      filled (some f))
  | some fs => gap.intercalate (fs.map fun f =>
      match f with
      | .common => filled (some common)
      | .of 1 n => filled as[n]?
      | .of _ n => filled bs[n]?)

end JoinMode

/-- The state of joining two files. -/
structure JoinState where
  first : List Bytes
  second : List Bytes
  out : List Bytes := []
  unpaired : Bool := false
  /-- The files that are known not to be sorted. -/
  unsorted : List Nat := []
  faults : List String := []
  deriving Inhabited

namespace JoinState

/-- Tells if the lines of a file from a number of lines on are not sorted, as far as they are
read. -/
def checked (m : JoinMode) (name : String) (whole : List Bytes) (file : Nat) (s : JoinState)
    (count : Nat) : JoinState :=
  let rest := if file == 1 then s.first else s.second
  let at_ := whole.length - rest.length
  (List.range count).foldl (fun s i =>
    match whole[at_ + i]?, whole[at_ + i + 1]? with
    | some a, some b =>
      let checks := m.check == .strict || (m.check == .usual && s.unpaired)
      if checks && !s.unsorted.contains file && orderOf (m.key file a) (m.key file b) == .gt then
        { s with
          unsorted := file :: s.unsorted
          faults := s.faults ++ [name ++ ":" ++ toString (at_ + i + 2) ++ ": is not sorted: "
            ++ Bytes.lossyText b] }
      else s
    | _, _ => s) s

/-- Joins lines until one file has ended. -/
def run (m : JoinMode) (names : String × String) (whole : List Bytes × List Bytes) :
    Nat → JoinState → JoinState
  | 0, s => s
  | fuel + 1, s =>
    if m.check == .strict && !s.unsorted.isEmpty then s
    else
      match s.first, s.second with
      | a :: as, b :: bs =>
        match orderOf (m.key 1 a) (m.key 2 b) with
        | .lt =>
          let out := if m.alone.contains 1 then m.joined (some a) none :: s.out else s.out
          let s := { s with out := out }.checked m names.1 whole.1 1 1
          run m names whole fuel { s with first := as, unpaired := true }
        | .gt =>
          let out := if m.alone.contains 2 then m.joined none (some b) :: s.out else s.out
          let s := { s with out := out }.checked m names.2 whole.2 2 1
          run m names whole fuel { s with second := bs, unpaired := true }
        | .eq =>
          let xs := (a :: as).takeWhile fun l => m.key 1 l == m.key 1 a
          let ys := (b :: bs).takeWhile fun l => m.key 2 l == m.key 2 b
          let s := (s.checked m names.1 whole.1 1 xs.length).checked m names.2 whole.2 2 ys.length
          let stopped := m.check == .strict && !s.unsorted.isEmpty
          let rows := if m.pairs && !stopped then
              xs.flatMap fun x => ys.map fun y => m.joined (some x) (some y)
            else []
          run m names whole fuel
            { s with
              out := rows.reverse ++ s.out
              first := (a :: as).drop xs.length, second := (b :: bs).drop ys.length }
      | _, _ => s

/-- What is left of the files has no counterpart. -/
def finish (m : JoinMode) (names : String × String) (whole : List Bytes × List Bytes)
    (s : JoinState) : JoinState :=
  if m.check == .strict && !s.unsorted.isEmpty then s
  else
    let s := s.checked m names.1 whole.1 1 s.first.length
    let s := s.checked m names.2 whole.2 2 s.second.length
    let first := if m.alone.contains 1 then s.first.map fun l => m.joined (some l) none else []
    let second := if m.alone.contains 2 then s.second.map fun l => m.joined none (some l) else []
    { s with out := second.reverse ++ first.reverse ++ s.out }

end JoinState

/-- The fields that a description of joined lines names. -/
def joinFields? (text : String) : Option (List JoinField) :=
  let items := ((text.map fun c => if c == ' ' then ',' else c).splitOn ",").filter (!·.isEmpty)
  items.mapM fun item =>
    match item.splitOn "." with
    | ["0"] => some .common
    | [f, n] =>
      match f, decimal? n with
      | "1", some (n + 1) => some (.of 1 n)
      | "2", some (n + 1) => some (.of 2 n)
      | _, _ => none
    | _ => none

/-- Joins the lines of two sorted files that have a field in common. -/
def joinTool (c : ToolCall) : ToolResult :=
  let table : OptionTable :=
    { plain := "i+%=z", valued := "12jtaveo"
      long := [("ignore-case", 'i'), ("check-order", '+'), ("nocheck-order", '%'),
        ("header", '='), ("zero-terminated", 'z')] }
  withOptions c 1 table fun g =>
    let number (k : Char) : Nat := (((g.value? k <|> g.value? 'j').bind decimal?).getD 1) - 1
    let files := (g.values 'a' ++ g.values 'v').map fun v => (v, decimal? v)
    match files.find? fun f => f.2 != some 1 && f.2 != some 2, g.operands with
    | some f, _ => .failing 1 (c.shown ++ ": invalid field number: '" ++ f.1 ++ "'")
    | none, [a, b] =>
      match c.content a, c.content b with
      | .ok x, .ok y =>
        let ls := bareLines x.toBytes
        let ms := bareLines y.toBytes
        let auto := g.value? 'o' == some "auto"
        let m : JoinMode :=
          { first := number '1', second := number '2'
            separator := ((g.value? 't').map Bytes.ofText).bind List.head?
            caseless := g.has 'i'
            check := if g.has '+' then .strict else if g.has '%' then .none else .usual
            alone := files.filterMap (·.2), pairs := !g.has 'v'
            filler := Bytes.ofText ((g.value? 'e').getD "")
            layout := if auto then none
              else if g.has 'o' then joinFields? (",".intercalate (g.values 'o')) else none }
        let width (file key : Nat) (lines : List Bytes) : List JoinField :=
          ((List.range (m.fields (lines.headD [])).length).eraseIdx key).map (.of file)
        let m := if auto then
            { m with layout := some (.common :: width 1 m.first ls ++ width 2 m.second ms) }
          else m
        let start : JoinState := { first := ls, second := ms }
        let start := if g.has '=' then
            { start with
              first := ls.drop 1, second := ms.drop 1
              out := if ls.isEmpty && ms.isEmpty then [] else [m.joined ls.head? ms.head?] }
          else start
        let s := (start.run m (a, b) (ls, ms) (ls.length + ms.length + 1)).finish m (a, b) (ls, ms)
        let faults := if s.faults.isEmpty || m.check == .strict then s.faults
          else s.faults ++ ["input is not in sorted order"]
        (ToolResult.bytes (endedLines s.out.reverse)).andThen
          (.inTurn (faults.map fun f => .failing 1 (c.shown ++ ": " ++ f)))
      | .error fault, _ => .failing 1 (plainRefusal c a fault)
      | _, .error fault => .failing 1 (plainRefusal c b fault)
    | none, [] => missingOperand c
    | none, [a] => usage c 1 ("missing operand after '" ++ a ++ "'")
    | none, _ :: _ :: extra :: _ => usage c 1 ("extra operand '" ++ extra ++ "'")

end Shell

end CodeAtlas
