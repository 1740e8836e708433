import CodeAtlas.Shell.Tools.Files
import CodeAtlas.Shell.Tools.Lines

/-!
# Listings of files

What is told of files: their names, kinds, permissions and sizes.

## Architecture

- **Layer A**: facts about entries;
- **Layer B**: facts in formats (`stat`);
- **Layer C**: rows of a listing;
- **Layer D**: listings (`ls`).
-/

namespace CodeAtlas

namespace Shell

/-! ## Layer A: facts -/

/-- The number of bytes of an entry. -/
def entrySize : Entry → Nat
  | .file content => content.size
  | .link target => target.text.utf8ByteSize
  | .folder => 4096

/-- The number of blocks of 1024 bytes that an entry takes. -/
def entryBlocks : Entry → Nat
  | .file content => (content.size + 4095) / 4096 * 4
  | .link _ => 0
  | .folder => 4

namespace FileView

/-- The number of names that lead to an entry; a folder is known in those it contains. -/
def linkCount (v : FileView) (place : Place) : Nat :=
  if v.disk.entry? place == some .folder then
    2 + ((v.namesAt place).filter fun n => v.disk.entry? (place ++ [n]) == some .folder).length
  else (v.facts.groupOf place).length

end FileView

/-- The name of the kind of an entry. -/
def kindName (e : Entry) : String :=
  match e with
  | .folder => "directory"
  | .link _ => "symbolic link"
  | .file content => if content.size == 0 then "regular empty file" else "regular file"

/-! ## Layer B: formats -/

/-- A fact about an entry, by its letter. -/
def statField (v : FileView) (file : String) (place : Place) (e : Entry) : Char → String
  | 's' => toString (entrySize e)
  | 'n' => file
  | 'N' => "'" ++ file ++ "'" ++ match e with
    | .link target => " -> '" ++ target.text ++ "'"
    | _ => ""
  | 'F' => kindName e
  | 'a' => String.ofList (Nat.toDigits 8 (v.facts.modeOf place e))
  | 'A' => String.singleton (kindLetter e) ++ modeLetters (v.facts.modeOf place e)
  | 'U' => "root"
  | 'G' => "root"
  | 'u' => "0"
  | 'g' => "0"
  | 'h' => toString (v.linkCount place)
  | 'b' => toString (2 * entryBlocks e)
  | 'B' => "512"
  | 'o' => "4096"
  | '%' => "%"
  | _ => "?"

/-- Fills facts about an entry into a format. -/
def statFormat (field : Char → String) : Nat → List Char → List Char
  | 0, _ => []
  | fuel + 1, '%' :: rest =>
    let (d, left, _) := readDirective rest []
    (Bytes.lossyText (d.text (Bytes.ofText (field (left.headD '%'))))).toList
      ++ statFormat field fuel (left.drop 1)
  | fuel + 1, c :: rest => c :: statFormat field fuel rest
  | _ + 1, [] => []

/-- Prints facts about files. -/
def statTool (c : ToolCall) : ToolResult :=
  let table : OptionTable :=
    { plain := "Lft", valued := "c+"
      long := [("format", 'c'), ("printf", '+'), ("dereference", 'L'), ("terse", 't')] }
  withOptions c 1 table fun g =>
    let format := (g.value? '+' <|> g.value? 'c').getD "%n"
    if g.operands.isEmpty then missingOperand c
    else .inTurn (g.operands.map fun file =>
      let found := if file.isEmpty then .error .noEntry
        else c.files.disk.locate (g.has 'L') (c.files.path file)
      match found with
      | .ok ⟨place, some e⟩ =>
        let text := String.ofList
          (statFormat (statField c.files file place e) (format.length + 1) format.toList)
        if g.has '+' then .bytes (unescape (text.length + 1) text.toList).1
        else .printing (text ++ "\n")
      | .ok ⟨_, none⟩ => about c "cannot statx" file .noEntry
      | .error fault => about c "cannot statx" file fault)

/-! ## Layer C: rows -/

/-- An entry that is listed. -/
structure Listed where
  name : String
  place : Place
  entry : Entry

namespace Listed

/-- The sign behind a name that tells what it is. -/
def sign (l : Listed) (g : Given) (v : FileView) : String :=
  match l.entry with
  | .folder => if g.has 'F' || g.has 'p' then "/" else ""
  | .link _ => if g.has 'F' && !g.has 'l' then "@" else ""
  | .file _ => if g.has 'F' && v.isMarked l.place then "*" else ""

/-- The name as it is shown. -/
def shown (l : Listed) (g : Given) (v : FileView) : String :=
  let name := if g.has 'Q' then "\"" ++ l.name ++ "\"" else l.name
  let arrow := match l.entry with
    | .link target => if g.has 'l' || g.has 'n' then " -> " ++ target.text else ""
    | _ => ""
  name ++ l.sign g v ++ arrow

end Listed

/-- A size in a unit that fits, rounded up. -/
def handySize (n : Nat) : String :=
  let scaled (unit : Nat) (letter : String) : String :=
    let tenths := (n * 10 + unit - 1) / unit
    if tenths < 100 then toString (tenths / 10) ++ "." ++ toString (tenths % 10) ++ letter
    else toString ((n + unit - 1) / unit) ++ letter
  if n < 1024 then toString n
  else if n ≤ 1024 * 1023 then scaled 1024 "K"
  else scaled (1024 * 1024) "M"

/-- The lines of some entries. -/
def listedLines (g : Given) (v : FileView) (entries : List Listed) : List String :=
  let long := g.has 'l' || g.has 'n' || g.has 'o' || g.has 'g'
  let size (l : Listed) : String := if g.has 'h' then handySize (entrySize l.entry)
    else toString (entrySize l.entry)
  let blocks (l : Listed) : String := if g.has 'h' then
      (if entryBlocks l.entry == 0 then "0" else handySize (1024 * entryBlocks l.entry))
    else toString (entryBlocks l.entry)
  let links (l : Listed) : String := toString (v.linkCount l.place)
  let widest (f : Listed → String) : Nat := (entries.map fun l => (f l).length).foldl max 0
  let who := if g.has 'n' then "0" else "root"
  let time := ((g.value? '+').map fun f => String.ofList (f.toList.drop 1)).getD "Jan  1 00:00"
  entries.map fun l =>
    let front := if g.has 's' then padLeft (widest blocks) (blocks l) ++ " " else ""
    let body := if long then
        String.singleton (kindLetter l.entry) ++ modeLetters (v.facts.modeOf l.place l.entry) ++ " "
          ++ padLeft (widest links) (links l) ++ " "
          ++ (if g.has 'g' then "" else who ++ " ") ++ (if g.has 'o' then "" else who ++ " ")
          ++ padLeft (widest size) (size l) ++ " " ++ time ++ " "
      else ""
    front ++ body ++ l.shown g v

/-- Lines with their ends. -/
def asLines (ls : List String) : String := "".intercalate (ls.map (· ++ "\n"))

/-- Entries as they are listed: in lines, or between commas. -/
def listedText (g : Given) (v : FileView) (entries : List Listed) : String :=
  let lines := listedLines g v entries
  if g.has 'm' && !lines.isEmpty then ", ".intercalate lines ++ "\n" else asLines lines

/-! ## Layer D: listings -/

/-- Entries in the order that options ask for. -/
def listedOrder (g : Given) (entries : List Listed) : List Listed :=
  let size (l : Listed) : Nat := entrySize l.entry
  let all := if g.has 'S' then entries.mergeSort fun a b => size b ≤ size a else entries
  if g.has 'r' then all.reverse else all

/-- The listing of a folder. -/
def listFolder (g : Given) (v : FileView) (place : Place) : String :=
  let hidden := g.has 'a' || g.has 'A'
  let names := (v.namesAt place).filter fun n => hidden || !n.startsWith "."
  let entries := names.filterMap fun n =>
    (v.disk.entry? (place ++ [n])).map fun e => (⟨n, place ++ [n], e⟩ : Listed)
  let dots : List Listed := if g.has 'a'
    then [⟨".", place, .folder⟩, ⟨"..", place.dropLast, .folder⟩] else []
  let all := listedOrder g (dots ++ entries)
  let total := all.foldl (fun n l => n + entryBlocks l.entry) 0
  let shown := if g.has 'h' && total != 0 then handySize (1024 * total) else toString total
  let counted := g.has 'l' || g.has 'n' || g.has 'o' || g.has 'g' || g.has 's'
  (if counted then "total " ++ shown ++ "\n" else "") ++ listedText g v all

/-- A folder and those below it, with their shown names. -/
def foldersBelow (v : FileView) (hidden : Bool) : Nat → String → Place → List (String × Place)
  | 0, shown, place => [(shown, place)]
  | fuel + 1, shown, place =>
    (shown, place) :: ((v.namesAt place).filter fun n =>
        (hidden || !n.startsWith ".") && v.disk.entry? (place ++ [n]) == some .folder).flatMap
      fun n => foldersBelow v hidden fuel
        (if shown.endsWith "/" then shown ++ n else shown ++ "/" ++ n) (place ++ [n])

/-- Prints the names in folders, or the names of files. -/
def lsTool (c : ToolCall) : ToolResult :=
  let table : OptionTable :=
    { plain := "aA1dFprRlhSCUtimnogsQxbBckuvXHLqNGZ", valued := "+%IwT"
      long := [("all", 'a'), ("almost-all", 'A'), ("directory", 'd'), ("classify", 'F'),
        ("reverse", 'r'), ("recursive", 'R'), ("human-readable", 'h'), ("size", 's'),
        ("quote-name", 'Q'), ("numeric-uid-gid", 'n'), ("no-group", 'o'), ("time-style", '+'),
        ("color", '%'), ("dereference", 'L'), ("inode", 'i')] }
  let args := c.args.map fun a => if a == "--color" then "--color=auto" else a
  withOptions { c with args := args } 2 table fun g =>
    let v := c.files
    let operands := sortBy (fun s => (Bytes.ofText s).map UInt8.toNat)
      (if g.operands.isEmpty then ["."] else g.operands)
    let operands := if g.has 'r' then operands.reverse else operands
    let found := operands.map fun a =>
      let follow := g.has 'L' || !(g.has 'd' || g.has 'l' || g.has 'F')
      (a, if a.isEmpty then .error .noEntry
        else (v.disk.locate follow (v.path a)).bind fun s =>
          match s.entry with
          | some e => .ok (⟨a, s.place, e⟩ : Listed)
          | none => .error IoFault.noEntry)
    let faults := (operands.zip (g.operands ++ operands)).filterMap fun p =>
      let a := if g.operands.isEmpty then p.1 else p.2
      match found.lookup a with
      | some (.error fault) => if v.has a then none
          else some (ToolResult.failing 2 (c.shown ++ ": cannot access '" ++ a ++ "': "
            ++ reason fault))
      | _ => none
    let isOpened (l : Listed) : Bool := l.entry == .folder && !g.has 'd'
    let files := listedOrder { g with options := g.options.filter (·.1 != 'r') }
      (found.filterMap fun f =>
        match f.2 with
        | .ok l => if isOpened l then none else some l
        | .error _ => none)
    let devices := (found.filter fun f => v.isDevice f.1 && !f.2.isOk).map (·.1)
    let folders := found.filterMap fun f =>
      match f.2 with
      | .ok l => if isOpened l then some (f.1, l.place) else none
      | .error _ => none
    let folders := if g.has 'R'
      then folders.flatMap fun f => foldersBelow v (g.has 'a' || g.has 'A') v.depth f.1 f.2
      else folders
    let titled := 1 < operands.length || g.has 'R'
    let listed := listedText g v files ++ asLines devices
    let blocks := (if listed.isEmpty then [] else [listed]) ++ folders.map fun f =>
      (if titled then f.1 ++ ":\n" else "") ++ listFolder g v f.2
    (ToolResult.inTurn faults).andThen (.printing ("\n".intercalate blocks))

end Shell

end CodeAtlas
