import CodeAtlas.Shell.Tools.Comparison
import CodeAtlas.Shell.Tools.Difference
import CodeAtlas.Shell.Tools.Listing

/-!
# Telling how files differ

`diff` tells which lines of one file have to change to make another one of it.

## Architecture

- **Layer A**: lines and what counts of them;
- **Layer B**: plain listings and scripts;
- **Layer C**: listings with context;
- **Layer D**: files side by side;
- **Layer E**: the tool.
-/

namespace CodeAtlas

namespace Shell

/-! ## Layer A: lines -/

/-- How differences are told. -/
inductive DiffStyle where
  | plain
  | unified (context : Nat)
  | context (context : Nat)
  /-- As commands of an editor. -/
  | script
  /-- As numbers of lines that go and come. -/
  | counts
  | sideBySide
  /-- Only whether there are some. -/
  | brief
  deriving Repr, DecidableEq, Inhabited

/-- How files are compared. -/
structure DiffMode where
  style : DiffStyle
  given : Given

/-- A file that is compared. -/
structure DiffSide where
  name : String
  lines : Array Bytes

namespace DiffMode

/-- What counts of a line. -/
def key (m : DiffMode) (l : Bytes) : Bytes :=
  let blank (b : UInt8) : Bool := b == 32 || (9 ≤ b && b ≤ 13)
  let bare := bareLine l
  let trimmed (bs : Bytes) : Bytes := (bs.reverse.dropWhile blank).reverse
  let free := m.given.has 'w' || m.given.has 'b' || m.given.has 'Z' || m.style == .script
  let kept := if m.given.has 'w' then bare.filter fun b => !blank b
    else if m.given.has 'b' then
      squeeze [32] ((trimmed bare).map fun b => if blank b then 32 else b)
    else if m.given.has 'Z' then trimmed bare
    else bare
  let kept := if m.given.has 'i' then kept.map fun b => if 65 ≤ b && b ≤ 90 then b + 32 else b
    else kept
  if free || bare.length < l.length then kept ++ [10] else kept

/-- The runs of changes between two files. -/
def hunks (m : DiffMode) (a b : DiffSide) : List Hunk :=
  let horizon := match m.style with
    | .unified n => n
    | .context n => n
    | _ => 0
  let hs := hunksBetween horizon (a.lines.toList.map m.key) (b.lines.toList.map m.key)
  let isBlank (s : DiffSide) (start count : Nat) : Bool :=
    (s.lines.extract start (start + count)).all fun l => (bareLine l).isEmpty
  if m.given.has 'B' then
    hs.filter fun h => !(isBlank a h.left h.leftCount && isBlank b h.right h.rightCount)
  else hs

end DiffMode

/-- Lines with a sign in front of each. -/
def DiffSide.marked (s : DiffSide) (mark : String) (start count : Nat) : Bytes :=
  (s.lines.extract start (start + count)).toList.flatMap fun l =>
    Bytes.ofText mark ++ l ++
      if l.getLast? == some 10 then [] else ascii "\n\\ No newline at end of file\n"

/-! ## Layer B: plain listings -/

/-- The numbers of lines, counted from one. No lines stand behind the line before them. -/
def lineRange (start count : Nat) : String :=
  if count ≤ 1 then toString (start + count)
  else toString (start + 1) ++ "," ++ toString (start + count)

/-- The letter for a run of changes. -/
def Hunk.letter (h : Hunk) : String :=
  if h.leftCount == 0 then "a" else if h.rightCount == 0 then "d" else "c"

/-- A run of changes in a plain listing. -/
def Hunk.plain (a b : DiffSide) (h : Hunk) : Bytes :=
  ascii (lineRange h.left h.leftCount ++ h.letter ++ lineRange h.right h.rightCount ++ "\n")
    ++ a.marked "< " h.left h.leftCount
    ++ (if h.leftCount != 0 && h.rightCount != 0 then ascii "---\n" else [])
    ++ b.marked "> " h.right h.rightCount

/-- A run of changes as a command of an editor. -/
def Hunk.command (b : DiffSide) (h : Hunk) : Bytes :=
  ascii (lineRange h.left h.leftCount ++ h.letter ++ "\n")
    ++ if h.rightCount == 0 then []
      else endedLines ((b.lines.extract h.right (h.right + h.rightCount)).toList.map bareLine)
        ++ ascii ".\n"

/-- A run of changes as numbers of lines. -/
def Hunk.counted (b : DiffSide) (h : Hunk) : Bytes :=
  (if h.leftCount == 0 then []
    else ascii ("d" ++ toString (h.left + 1) ++ " " ++ toString h.leftCount ++ "\n"))
    ++ if h.rightCount == 0 then []
      else ascii ("a" ++ toString (h.left + h.leftCount) ++ " " ++ toString h.rightCount ++ "\n")
        ++ (b.lines.extract h.right (h.right + h.rightCount)).toList.flatten

/-! ## Layer C: listings with context -/

/-- Runs of changes that are so near that they are told together. -/
def groupedHunks (context : Nat) : List Hunk → List (List Hunk)
  | [] => []
  | h :: rest =>
    match groupedHunks context rest with
    | (g :: gs) :: groups =>
      if g.left - (h.left + h.leftCount) ≤ 2 * context then (h :: g :: gs) :: groups
      else [h] :: (g :: gs) :: groups
    | groups => [h] :: groups

/-- The lines of a group with those around it: the first and the number in each file. -/
def groupBounds (context : Nat) (a b : DiffSide) (hs : List Hunk) : Hunk :=
  let first := hs.headD default
  let last := hs.getLastD default
  let before := min context first.left
  let behind := min context (a.lines.size - (last.left + last.leftCount))
  let behindRight := min behind (b.lines.size - (last.right + last.rightCount))
  let left := first.left - before
  let right := first.right - before
  ⟨left, last.left + last.leftCount + behind - left, right,
    last.right + last.rightCount + behindRight - right⟩

/-- The numbers of lines in a listing where signs tell what changes. -/
def unifiedRange (start count : Nat) : String :=
  if count == 0 then toString start ++ ",0"
  else if count == 1 then toString (start + 1)
  else toString (start + 1) ++ "," ++ toString count

/-- A group in a listing where signs tell what changes. -/
def unifiedGroup (context : Nat) (a b : DiffSide) (hs : List Hunk) : Bytes :=
  let g := groupBounds context a b hs
  let (body, i) := hs.foldl (fun (acc : Bytes × Nat) h =>
    (acc.1 ++ a.marked " " acc.2 (h.left - acc.2) ++ a.marked "-" h.left h.leftCount
      ++ b.marked "+" h.right h.rightCount, h.left + h.leftCount)) ([], g.left)
  ascii ("@@ -" ++ unifiedRange g.left g.leftCount ++ " +" ++ unifiedRange g.right g.rightCount
    ++ " @@\n") ++ body ++ a.marked " " i (g.left + g.leftCount - i)

/-- One half of a group in a listing that shows both files one after the other. -/
def contextHalf (s : DiffSide) (mark : String) (start count : Nat)
    (runs : List (Nat × Nat × Bool)) : Bytes :=
  if runs.all (·.2.1 == 0) then []
  else
    let (body, i) := runs.foldl (fun (acc : Bytes × Nat) r =>
      (acc.1 ++ s.marked "  " acc.2 (r.1 - acc.2)
        ++ s.marked (if r.2.2 then "! " else mark) r.1 r.2.1, r.1 + r.2.1)) ([], start)
    body ++ s.marked "  " i (start + count - i)

/-- A group in a listing that shows both files one after the other. -/
def contextGroup (context : Nat) (a b : DiffSide) (hs : List Hunk) : Bytes :=
  let g := groupBounds context a b hs
  let both (h : Hunk) : Bool := h.leftCount != 0 && h.rightCount != 0
  ascii ("***************\n*** " ++ lineRange g.left g.leftCount ++ " ****\n")
    ++ contextHalf a "- " g.left g.leftCount (hs.map fun h => (h.left, h.leftCount, both h))
    ++ ascii ("--- " ++ lineRange g.right g.rightCount ++ " ----\n")
    ++ contextHalf b "+ " g.right g.rightCount (hs.map fun h => (h.right, h.rightCount, both h))

/-- The time that is shown for a file: no file of the disk has one. -/
def shownTime (long : Bool) : String :=
  if long then "\t1970-01-01 00:00:00.000000000 +0000" else "\tThu Jan  1 00:00:00 1970"

/-! ## Layer D: side by side -/

/-- Blanks from a column to another one, with tabs as far as they go. -/
def gapTo (start goal : Nat) : Bytes :=
  let tabs := goal / 8 - start / 8
  if tabs == 0 then List.replicate (goal - start) 32
  else List.replicate tabs 9 ++ List.replicate (goal - goal / 8 * 8) 32

/-- Two lines side by side, with a sign between them. -/
def sideBySideLine (half column : Nat) (left : Option Bytes) (mark : Option UInt8)
    (right : Option Bytes) : Bytes :=
  let isEnded (l : Option Bytes) : Bool := l.any (·.getLast? == some 10)
  let shown := ((left.map bareLine).getD []).take half
  let (marked, at_) := match mark with
    | none => (shown, shown.length)
    | some m =>
      let place := (half + column - 1) / 2
      let m := if m == 124 && isEnded left != isEnded right then
          (if isEnded left then 47 else 92)
        else m
      (shown ++ gapTo shown.length place ++ [m], place + 1)
  let other := ((right.map bareLine).getD []).take half
  marked ++ (if other.isEmpty then [] else gapTo at_ column ++ other)
    ++ if isEnded left || isEnded right then [10] else []

/-- All lines of two files side by side. -/
def sideBySide (half column : Nat) (a b : DiffSide) (hs : List Hunk) : Bytes :=
  let common (i j n : Nat) : Bytes := (List.range n).flatMap fun k =>
    sideBySideLine half column a.lines[i + k]? none b.lines[j + k]?
  let (body, i, j) := hs.foldl (fun (acc : Bytes × Nat × Nat) h =>
    let (body, i, j) := acc
    let rows := (List.range (max h.leftCount h.rightCount)).flatMap fun k =>
      let left := if k < h.leftCount then a.lines[h.left + k]? else none
      let right := if k < h.rightCount then b.lines[h.right + k]? else none
      let mark := if left.isNone then 62 else if right.isNone then 60 else 124
      sideBySideLine half column left (some mark) right
    (body ++ common i j (h.left - i) ++ rows, h.left + h.leftCount, h.right + h.rightCount))
    ([], 0, 0)
  body ++ common i j (a.lines.size - i)

/-! ## Layer E: the tool -/

namespace DiffMode

/-- The width of each half of lines side by side, and where the second one begins. -/
def columns (m : DiffMode) : Nat × Nat :=
  let width := ((m.given.value? 'W').bind decimal?).getD 130
  let column := (width / 2 + 5 + width % 2) / 8 * 8
  (min (column - 3) (width - column), column)

/-- How two files differ, if they do. -/
def listing (m : DiffMode) (a b : DiffSide) : Option Bytes :=
  let hs := m.hunks a b
  let labels := m.given.values 'L'
  let titled (first second : String) (long : Bool) (body : Bytes) : Bytes :=
    let title (i : Nat) (s : DiffSide) : String := labels.getD i (s.name ++ shownTime long)
    Bytes.ofText (first ++ title 0 a ++ "\n" ++ second ++ title 1 b ++ "\n") ++ body
  if hs.isEmpty then none
  else
    match m.style with
    | .plain => some (hs.flatMap (Hunk.plain a b))
    | .unified n =>
      some (titled "--- " "+++ " true ((groupedHunks n hs).flatMap (unifiedGroup n a b)))
    | .context n =>
      some (titled "*** " "--- " false ((groupedHunks n hs).flatMap (contextGroup n a b)))
    | .script => some (hs.reverse.flatMap (Hunk.command b))
    | .counts => some (hs.flatMap (Hunk.counted b))
    | .sideBySide =>
      let (half, column) := m.columns
      some (sideBySide half column a b hs)
    | .brief => some (Bytes.ofText ("Files " ++ a.name ++ " and " ++ b.name ++ " differ\n"))

/-- Compares two files with known content. -/
def compare (m : DiffMode) (a b : String) (x y : Bytes) : ToolResult :=
  let side (name : String) (bs : Bytes) : DiffSide := ⟨name, (linesOf bs).toArray⟩
  let isBinary (bs : Bytes) : Bool := bs.contains 0 && !m.given.has 'a'
  let same := if m.given.has 's' then
      ToolResult.printing ("Files " ++ a ++ " and " ++ b ++ " are identical\n")
    else {}
  let unended (name : String) (bs : Bytes) : ToolResult :=
    if bs.isEmpty || bs.getLast? == some 10 then {}
    else .failing 2 ("diff: " ++ name ++ ": No newline at end of file\n")
  let (half, column) := m.columns
  if x == y then
    if m.style == .sideBySide then
      (ToolResult.bytes (sideBySide half column (side a x) (side b y) [])).andThen same
    else same
  else if isBinary x || isBinary y then
    { ToolResult.printing ((if m.style == .brief then "Files " else "Binary files ") ++ a ++ " and "
        ++ b ++ " differ\n") with status := if m.style == .brief then 1 else 2 }
  else
    let told := if m.style == .script then (unended a x).andThen (unended b y) else {}
    let found := match m.listing (side a x) (side b y) with
      | none => if told.status == 0 then same else {}
      | some bs => { ToolResult.bytes bs with status := 1 }
    { found.andThen told with status := max found.status told.status }

/-- The content of a file; one that is missing may count as empty. -/
def content (m : DiffMode) (c : ToolCall) (file : String) : Except IoFault Bytes :=
  match c.content file with
  | .ok content => .ok content.toBytes
  | .error fault => if m.given.has 'N' && leadsNowhere fault then .ok [] else .error fault

/-- Compares two files. -/
def files (m : DiffMode) (c : ToolCall) (a b : String) : ToolResult :=
  match m.content c a, m.content c b with
  | .ok x, .ok y => m.compare a b x y
  | x, y =>
    let told (name : String) (r : Except IoFault Bytes) : ToolResult :=
      match r with
      | .error fault =>
        if fault == .isDirectory then { status := 2 } else .failing 2 (plainRefusal c name fault)
      | .ok _ => {}
    (told a x).andThen (told b y)

/-- What kind of entry a path leads to, in words. -/
def kindWords (v : FileView) (file : String) : String :=
  if v.isFolder file then "directory"
  else if v.size? file == some 0 then "regular empty file" else "regular file"

/-- Results behind each other, of which the worst counts. -/
def worst (a b : ToolResult) : ToolResult :=
  { a.andThen b with status := max a.status b.status }

/-- Compares two folders name by name. -/
def folders (m : DiffMode) (c : ToolCall) : Nat → String → String → ToolResult
  | 0, _, _ => {}
  | fuel + 1, a, b =>
    let below (folder name : String) : String :=
      if folder.endsWith "/" then folder ++ name else folder ++ "/" ++ name
    let names (folder : String) : List String := namesIn c.files.disk (c.files.path folder)
    let all := sortBy (fun s => (Bytes.ofText s).map UInt8.toNat)
      (names a ++ (names b).filter fun n => !(names a).contains n)
    let options := c.args.filter (·.startsWith "-")
    all.foldl (fun r name =>
      let x := below a name
      let y := below b name
      let only (folder : String) : ToolResult :=
        { ToolResult.printing ("Only in " ++ folder ++ ": " ++ name ++ "\n") with status := 1 }
      let next : ToolResult :=
        if !(names a).contains name && !m.given.has 'N' then only b
        else if !(names b).contains name && !m.given.has 'N' then only a
        else if c.files.isFolder x && c.files.isFolder y then
          if m.given.has 'r' then folders m c fuel x y
          else .printing ("Common subdirectories: " ++ x ++ " and " ++ y ++ "\n")
        else if c.files.isFolder x != c.files.isFolder y && c.files.has x && c.files.has y then
          { ToolResult.printing ("File " ++ x ++ " is a " ++ kindWords c.files x ++ " while file "
              ++ y ++ " is a " ++ kindWords c.files y ++ "\n") with status := 1 }
        else
          let found := m.files c x y
          if found.status == 1 && m.style != .brief then
            let title := " ".intercalate (c.shown :: options ++ [x, y]) ++ "\n"
            { (ToolResult.printing title).andThen found with status := 1 }
          else found
      worst r next) {}

end DiffMode

/-- Tells how two files or folders differ. -/
def diffTool (c : ToolCall) : ToolResult :=
  let table : OptionTable :=
    { plain := "qsiwbBZurNcyenaEdtTl%", valued := "UCLWxI"
      long := [("brief", 'q'), ("report-identical-files", 's'), ("ignore-case", 'i'),
        ("ignore-all-space", 'w'), ("ignore-space-change", 'b'), ("ignore-blank-lines", 'B'),
        ("ignore-trailing-space", 'Z'), ("recursive", 'r'), ("new-file", 'N'), ("text", 'a'),
        ("side-by-side", 'y'), ("ed", 'e'), ("rcs", 'n'), ("label", 'L'), ("width", 'W'),
        ("normal", '%'), ("minimal", 'd')] }
  let args := c.args.map fun a =>
    if a == "--unified" then "-u" else if a == "--context" then "-c"
    else if a.startsWith "--unified=" then "-U" ++ String.ofList (a.toList.drop 10)
    else if a.startsWith "--context=" then "-C" ++ String.ofList (a.toList.drop 10) else a
  match table.read args {} with
  | .error why => namedUsage c why
  | .ok g =>
    let context (k : Char) : Nat := ((g.value? k).bind decimal?).getD 3
    let style : DiffStyle :=
      if g.has 'q' then .brief
      else match g.lastOf? ['u', 'U', 'c', 'C', 'e', 'n', 'y'] with
        | some 'u' => .unified 3
        | some 'U' => .unified (context 'U')
        | some 'c' => .context 3
        | some 'C' => .context (context 'C')
        | some 'e' => .script
        | some 'n' => .counts
        | some _ => .sideBySide
        | none => .plain
    let m : DiffMode := ⟨style, g⟩
    let kind (k : Char) : Char := if k == 'U' then 'u' else if k == 'C' then 'c' else k
    let styles := (g.options.map fun o => kind o.1).filter fun k =>
      ['u', 'c', 'e', 'n', 'y', '%'].contains k
    let isMixed := styles.any (· != styles.headD 'u')
    match isMixed, g.operands with
    | true, _ => namedUsage c "conflicting output style options"
    | _, [a, b] =>
      let isFolder (file : String) : Bool := file != "-" && c.files.isFolder file
      let inside (folder file : String) : String :=
        (if folder.endsWith "/" then folder else folder ++ "/") ++ lastName file
      let r := if (a == "-" && isFolder b) || (b == "-" && isFolder a) then
          .failing 2 (c.shown ++ ": cannot compare '-' to a directory")
        else if isFolder a && isFolder b then m.folders c c.files.depth a b
        else if isFolder a && c.files.has b then m.files c (inside a b) b
        else if isFolder b && c.files.has a then m.files c a (inside b a)
        else m.files c a b
      { r with left := if a == "-" || b == "-" then some [] else none }
    | _, _ :: _ :: extra :: _ => namedUsage c ("extra operand '" ++ extra ++ "'")
    | _, _ => namedUsage c ("missing operand after '" ++ c.args.getLastD c.shown ++ "'")

end Shell

end CodeAtlas
