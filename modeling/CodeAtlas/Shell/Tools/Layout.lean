import CodeAtlas.Shell.Tools.Lines

/-!
# Layout of lines

Tools that change blanks of lines, cut files into pieces, and put items in order.

## Architecture

- **Layer A**: tabs (`expand`, `unexpand`);
- **Layer B**: pieces of files (`split`);
- **Layer C**: orders of items (`tsort`, `shuf`).
-/

namespace CodeAtlas

namespace Shell

/-! ## Layer A: tabs -/

/-- The columns that tabs reach to: each of some, or every so many. -/
structure TabStops where
  listed : List Nat
  every : Nat

/-- The stops that a list names. -/
def TabStops.read? (s : String) : Option TabStops :=
  match (((s.map fun c => if c == ' ' then ',' else c).splitOn ",").mapM decimal?) with
  | some [n] => if n == 0 then none else some ⟨[], n⟩
  | some ns => some ⟨ns, 1⟩
  | none => none

/-- The column of the next stop. Behind the last one, a tab is a blank. -/
def TabStops.next (t : TabStops) (column : Nat) : Nat :=
  if t.listed.isEmpty then (column / t.every + 1) * t.every
  else (t.listed.find? (column < ·)).getD (column + 1)

/-- The blanks that tabs of a line stand for, from a column on. If only those at its start count,
`front` tells whether it still lasts. -/
def expandLine (t : TabStops) (onlyFront : Bool) : Bool → Nat → Bytes → Bytes
  | _, _, [] => []
  | front, column, b :: rest =>
    if b == 9 && (front || !onlyFront) then
      let goal := t.next column
      List.replicate (goal - column) 32 ++ expandLine t onlyFront front goal rest
    else if b == 10 then b :: expandLine t onlyFront true 0 rest
    else if b == 8 then b :: expandLine t onlyFront front (column - 1) rest
    else b :: expandLine t onlyFront (front && b == 32) (column + 1) rest

/-- The message about stops that are none. -/
def badStops (c : ToolCall) (text : String) : ToolResult :=
  match text.toList.find? fun ch => !(ch.isDigit || ch == ',' || ch == ' ') with
  | some ch =>
    .failing 1 (c.shown ++ ": tab size contains invalid character(s): '"
      ++ String.ofList (text.toList.dropWhile (· != ch)) ++ "'")
  | none => .failing 1 (c.shown ++ ": tab size cannot be 0")

/-- Stops that stand behind a hyphen alone. -/
def withOldStops (args : List String) : List String := args.map fun a =>
  match a.toList with
  | '-' :: d :: ds => if d.isDigit then "-t" ++ String.ofList (d :: ds) else a
  | _ => a

/-- Replaces tabs by blanks. -/
def expandTool (c : ToolCall) : ToolResult :=
  let table : OptionTable :=
    { plain := "i", valued := "t", long := [("tabs", 't'), ("initial", 'i')] }
  withOptions { c with args := withOldStops c.args } 1 table fun g =>
    match TabStops.read? ((g.value? 't').getD "8") with
    | none => badStops c ((g.value? 't').getD "")
    | some t =>
      let r := allBytes c g.operands 1 (plainRefusal c)
      r.withOutput (expandLine t (g.has 'i') true 0 r.output)

/-- The tabs and blanks for a gap between two columns. -/
def gapBetween (t : TabStops) : Nat → Nat → Nat → Bytes
  | 0, column, goal => List.replicate (goal - column) 32
  | fuel + 1, column, goal =>
    if t.next column ≤ goal then 9 :: gapBetween t fuel (t.next column) goal
    else List.replicate (goal - column) 32

/-- Replaces blanks of a line by tabs. `start` is where a gap began, if there is one. -/
def unexpandLine (t : TabStops) (all : Bool) : Bool → Nat → Nat → Bytes → Bytes
  | _, start, column, [] => gapBetween t (column - start) start column
  | front, start, column, b :: rest =>
    if (b == 32 || b == 9) && (front || all) then
      unexpandLine t all front start (if b == 32 then column + 1 else t.next column) rest
    else
      let gap := if column - start == 1 && !front then [32]
        else gapBetween t (column - start) start column
      gap ++ b :: unexpandLine t all false (column + 1) (column + 1) rest

/-- Replaces blanks by tabs. -/
def unexpandTool (c : ToolCall) : ToolResult :=
  let table : OptionTable :=
    { plain := "a+", valued := "t"
      long := [("tabs", 't'), ("all", 'a'), ("first-only", '+')] }
  withOptions { c with args := withOldStops c.args } 1 table fun g =>
    match TabStops.read? ((g.value? 't').getD "8") with
    | none => badStops c ((g.value? 't').getD "")
    | some t =>
      let all := (g.has 'a' || g.has 't') && !g.has '+'
      let r := allBytes c g.operands 1 (plainRefusal c)
      r.withOutput ((linesOf r.output).flatMap fun l =>
        let bare := bareLine l
        unexpandLine t all true 0 0 bare ++ l.drop bare.length)

/-! ## Layer B: pieces -/

/-- The ending of the name of a piece, in letters. -/
def pieceEnding (width n : Nat) (digits : Bool) : String :=
  let base := if digits then 10 else 26
  let first := if digits then 48 else 97
  String.ofList ((List.range width).reverse.map fun i =>
    Char.ofNat (first + n / Nat.pow base i % base))

/-- Pieces of at most so many items. -/
def piecesOf {α : Type} (size : Nat) : Nat → List α → List (List α)
  | 0, _ => []
  | _ + 1, [] => []
  | fuel + 1, xs => xs.take size :: piecesOf size fuel (xs.drop size)

/-- Cuts a file into pieces, each in a file of its own. -/
def splitTool (c : ToolCall) : ToolResult :=
  let table : OptionTable :=
    { plain := "dex", valued := "lbna"
      long := [("lines", 'l'), ("bytes", 'b'), ("suffix-length", 'a'), ("numeric-suffixes", 'd')] }
  withOptions { c with args := withOldCount c.args } 1 table fun g =>
    let file := g.operands.headD "-"
    let front := g.operands.getD 1 "x"
    let width := ((g.value? 'a').bind decimal?).getD 2
    let kind := (g.lastOf? ['l', 'b']).getD 'l'
    let text := (g.value? kind).getD "1000"
    match sized? text, c.content file, g.operands.drop 2 with
    | _, _, extra :: _ => usage c 1 ("extra operand '" ++ extra ++ "'")
    | some (n + 1), .ok content, [] =>
      let pieces := if kind == 'b' then piecesOf (n + 1) content.size content.toBytes
        else (piecesOf (n + 1) content.size (linesOf content.toBytes)).map List.flatten
      pieces.zipIdx.foldl (fun r p =>
        let d := r.disk.getD c.files.disk
        let name := front ++ pieceEnding width p.2 (g.has 'd')
        match d.write (c.files.path name) ⟨p.1, 0⟩ with
        | .ok d => { r with disk := some d }
        | .error fault => r.andThen (.failing 1 (plainRefusal c name fault)))
        { left := if file == "-" then some [] else none }
    | some (_ + 1), .error fault, [] =>
      .failing 1 (c.shown ++ ": cannot open '" ++ file ++ "' for reading: " ++ reason fault)
    | _, _, [] =>
      .failing 1 (c.shown ++ ": invalid number of " ++ (if kind == 'b' then "bytes" else "lines")
        ++ ": '" ++ text ++ "'")

/-! ## Layer C: orders -/

/-- The words of a text. -/
def wordsOf (bs : Bytes) : List Bytes :=
  ((bs.map fun b => if 9 ≤ b && b ≤ 13 then 32 else b).splitOn 32).filter (!·.isEmpty)

/-- Words and which of them stand before which. -/
structure Precedence where
  words : List Bytes
  pairs : List (Bytes × Bytes)

/-- The pairs of words in a list. -/
def Precedence.ofWords : List Bytes → Precedence
  | a :: b :: rest =>
    let p := Precedence.ofWords rest
    ⟨a :: b :: p.words, if a == b then p.pairs else (a, b) :: p.pairs⟩
  | _ => ⟨[], []⟩

/-- The words that nothing stands before, in the order of their bytes. -/
def Precedence.free (pairs : List (Bytes × Bytes)) (words : List Bytes) : List Bytes :=
  words.filter fun w => !pairs.any fun p => p.2 == w

/-- Takes words in order; `ready` are those that nothing stands before. What is left is a loop. -/
def Precedence.sorted : Nat → List (Bytes × Bytes) → List Bytes → List Bytes →
    List Bytes × List Bytes
  | 0, _, _, left => ([], left)
  | _ + 1, _, [], left => ([], left)
  | fuel + 1, pairs, w :: ready, left =>
    let behind := (pairs.filter (·.1 == w)).map (·.2)
    let pairs := pairs.filter (·.1 != w)
    let next := behind.reverse.eraseDups.filter fun x => !pairs.any fun p => p.2 == x
    let ready := ready ++ next.filter fun x => !ready.contains x
    let (out, rest) := Precedence.sorted fuel pairs ready (left.filter (· != w))
    (w :: out, rest)

/-- Puts words in an order in which they do not stand before those that precede them. -/
def tsortTool (c : ToolCall) : ToolResult :=
  withOptions c 1 {} fun g =>
    let file := g.operands.headD "-"
    match c.content file with
    | .error fault => .failing 1 (plainRefusal c file fault)
    | .ok content =>
      let ws := wordsOf content.toBytes
      if ws.length % 2 == 1 then
        .failing 1 (c.shown ++ ": " ++ file ++ ": input contains an odd number of tokens")
      else
        let p := Precedence.ofWords ws
        let words := sortBy (fun (w : Bytes) => w.map UInt8.toNat) p.words.eraseDups
        let (out, rest) := Precedence.sorted (words.length + 1) p.pairs
          (Precedence.free p.pairs words) words
        let loop : ToolResult := if rest.isEmpty then {}
          else .failing 1 ("\n".intercalate ((c.shown ++ ": " ++ file ++ ": input contains a loop:")
            :: rest.map fun w => c.shown ++ ": " ++ Bytes.lossyText w))
        { (ToolResult.bytes (endedLines out)).andThen (loop.andThen (.bytes (endedLines rest))) with
          left := if file == "-" then some [] else none }

/-- Prints lines in some order. The order of the input is one. -/
def shufTool (c : ToolCall) : ToolResult :=
  let table : OptionTable :=
    { plain := "ezr", valued := "ino"
      long := [("echo", 'e'), ("head-count", 'n'), ("input-range", 'i')] }
  withOptions c 1 table fun g =>
    let chosen (ls : List Bytes) : Bytes :=
      endedLines (match (g.value? 'n').bind decimal? with
        | some n => ls.take n
        | none => ls)
    match g.value? 'i' with
    | some range =>
      match (range.splitOn "-").map decimal? with
      | [some a, some b] =>
        .bytes (chosen ((List.range (b + 1 - a)).map fun i => ascii (toString (a + i))))
      | _ => .failing 1 (c.shown ++ ": invalid input range: '" ++ range ++ "'")
    | none =>
      if g.has 'e' then .bytes (chosen (g.operands.map Bytes.ofText))
      else
        let r := allBytes c g.operands 1 (plainRefusal c)
        r.withOutput (chosen (bareLines r.output))

end Shell

end CodeAtlas
