import CodeAtlas.Shell.Glob
import CodeAtlas.Shell.Tools.Values

/-!
# Tools that change and list files

Files and folders are made, removed, copied, moved and linked. A tool does one thing after
another, and each sees the files as the one before has left them.

## Architecture

- **Layer A**: one change after another;
- **Layer B**: making and removing;
- **Layer C**: copying, moving and linking;
- **Layer D**: permissions and sizes;
- **Layer E**: paths.
-/

namespace CodeAtlas

namespace Shell

/-! ## Layer A: changes -/

/-- The result of a tool that has left the files in a state. -/
def ToolResult.leaving (v : FileView) : ToolResult :=
  { disk := some v.disk, facts := some v.facts }

/-- Does something for each of some items; each time the files are as they were left before. -/
def oneByOne {α : Type} (c : ToolCall) (items : List α) (f : ToolCall → α → ToolResult) :
    ToolResult :=
  items.foldl (fun r a =>
    let files := { c.files with
      disk := r.disk.getD c.files.disk, facts := r.facts.getD c.files.facts }
    r.andThen (f { c with files := files } a)) {}

/-- A message about a file. -/
def about (c : ToolCall) (what file : String) (fault : IoFault) : ToolResult :=
  .failing 1 (c.shown ++ ": " ++ what ++ " '" ++ file ++ "': " ++ reason fault)

/-- A line that is printed if a tool tells what it does. -/
def telling (g : Given) (line : String) : ToolResult :=
  if g.has 'v' then .printing (line ++ "\n") else {}

namespace FileView

/-- The place of a path whose last name is not followed. -/
def spot (v : FileView) (arg : String) : Except IoFault Disk.Spot :=
  if arg.isEmpty then .error .noEntry else v.disk.locate false (v.path arg)

/-- Removes an entry with all below it. -/
def drop (v : FileView) (place : Place) : FileView :=
  { v with disk := v.disk.drop place, facts := v.facts.without place }

/-- The names in a folder, in the order of their bytes. -/
def namesAt (v : FileView) (place : Place) : List String :=
  sortBy (fun s => (Bytes.ofText s).map UInt8.toNat)
    (v.disk.folders.getD place Table.empty).keys

/-- Sets the permissions of the entry at a place. -/
def withMode (v : FileView) (place : Place) (mode : Nat) : FileView :=
  { v with facts := v.facts.withMode place mode }

/-- Copies an entry with all below it to a place; what is there already is kept or replaced. New
files have the permissions of those they are copied from, without those of the mask. -/
def copy (v : FileView) (mask : Nat) : Nat → Place → Place → FileView
  | 0, _, _ => v
  | fuel + 1, source, target =>
    let isNew := (v.disk.entry? target).isNone
    let mode := without (v.modeAt source) mask
    match v.disk.entry? source with
    | some .folder =>
      let made := if v.disk.entry? target == some .folder then v
        else ({ v with disk := v.disk.put target .folder }).withMode target mode
      (v.namesAt source).foldl (fun w n => w.copy mask fuel (source ++ [n]) (target ++ [n])) made
    | some e =>
      let made := { v with disk := v.disk.put target e }
      if isNew then made.withMode target mode else made
    | none => v

/-- How deep folders lie in each other at most. -/
def depth (v : FileView) : Nat := v.disk.folders.size + 1

end FileView

/-! ## Layer B: making and removing -/

/-- Makes files that are missing. -/
def touchTool (c : ToolCall) : ToolResult :=
  let table : OptionTable :=
    { plain := "camhf", valued := "drt"
      long := [("no-create", 'c'), ("date", 'd'), ("reference", 'r'), ("no-dereference", 'h')] }
  withOptions c 1 table fun g =>
    if g.operands.isEmpty then usage c 1 "missing file operand"
    else oneByOne c g.operands fun c file =>
      if c.files.has file || g.has 'c' then {}
      else
        match if file.isEmpty then .error .noEntry
            else c.files.disk.write (c.files.path file) ⟨[], 0⟩ with
        | .ok d => { disk := some d }
        | .error fault => about c "cannot touch" file fault

/-- Removes an entry with all below it, and tells of each. -/
def removeAll (g : Given) : Nat → FileView → String → Place → FileView × ToolResult
  | 0, v, _, _ => (v, {})
  | fuel + 1, v, shown, place =>
    if v.disk.entry? place == some .folder then
      let (v, r) := (v.namesAt place).foldl (fun (acc : FileView × ToolResult) n =>
        let (w, told) := removeAll g fuel acc.1 (shown ++ "/" ++ n) (place ++ [n])
        (w, acc.2.andThen told)) (v, {})
      (v.drop place, r.andThen (telling g ("removed directory '" ++ shown ++ "'")))
    else (v.drop place, telling g ("removed '" ++ shown ++ "'"))

/-- Removes files, and folders if that is asked for. -/
def rmTool (c : ToolCall) : ToolResult :=
  let table : OptionTable :=
    { plain := "rRfvidI"
      long := [("recursive", 'r'), ("force", 'f'), ("verbose", 'v'), ("dir", 'd')] }
  withOptions c 1 table fun g =>
    let deep := g.has 'r' || g.has 'R'
    let force := g.lastOf? ['f', 'i', 'I'] == some 'f'
    if g.operands.isEmpty && !force then missingOperand c
    else oneByOne c g.operands fun c file =>
      let last := lastName file
      match c.files.spot file with
      | .ok ⟨place, some .folder⟩ =>
        if place.isEmpty && deep then
          .failing 1 (c.shown ++ ": it is dangerous to operate recursively on '/'\n" ++ c.shown
            ++ ": use --no-preserve-root to override this failsafe")
        else if deep && (last == "." || last == "..") then
          .failing 1 (c.shown ++ ": refusing to remove '.' or '..' directory: skipping '"
            ++ file ++ "'")
        else if deep then
          let (v, r) := removeAll g c.files.depth c.files file place
          r.andThen (.leaving v)
        else if g.has 'd' && (c.files.namesAt place).isEmpty then
          (telling g ("removed directory '" ++ file ++ "'")).andThen (.leaving (c.files.drop place))
        else .failing 1 (c.shown ++ ": cannot remove '" ++ file ++ "': "
            ++ if g.has 'd' then "Directory not empty" else "Is a directory")
      | .ok ⟨place, some _⟩ =>
        (telling g ("removed '" ++ file ++ "'")).andThen (.leaving (c.files.drop place))
      | .ok ⟨_, none⟩ =>
        if force then {}
        else if c.files.has file then about c "cannot remove" file .denied
        else about c "cannot remove" file .noEntry
      | .error fault =>
        if force && leadsNowhere fault then {} else about c "cannot remove" file fault

/-- Removes a folder that is empty. -/
def removeFolder (c : ToolCall) (g : Given) (file : String) : ToolResult :=
  let failed (why : String) : ToolResult :=
    if g.has 'i' && why == "Directory not empty" then { status := 1 }
    else .failing 1 (c.shown ++ ": failed to remove '" ++ file ++ "': " ++ why)
  match c.files.spot file with
  | .ok ⟨place, some .folder⟩ =>
    if lastName file == "." then failed "Invalid argument"
    else if (c.files.namesAt place).isEmpty then
      (telling g (c.shown ++ ": removing directory, '" ++ file ++ "'")).andThen
        (.leaving (c.files.drop place))
    else failed "Directory not empty"
  | .ok ⟨_, some _⟩ => failed "Not a directory"
  | .ok ⟨_, none⟩ => failed "No such file or directory"
  | .error fault => failed (reason fault)

/-- A path and those before it that have a name. -/
def withFoldersBefore : Nat → String → List String
  | 0, path => [path]
  | fuel + 1, path =>
    let before := folderText path
    if before == "." || before == "/" then [path] else path :: withFoldersBefore fuel before

/-- Removes folders that are empty. -/
def rmdirTool (c : ToolCall) : ToolResult :=
  let table : OptionTable :=
    { plain := "pvi"
      long := [("parents", 'p'), ("verbose", 'v'), ("ignore-fail-on-non-empty", 'i')] }
  withOptions c 1 table fun g =>
    if g.operands.isEmpty then missingOperand c
    else
      let files := g.operands.flatMap fun f =>
        if g.has 'p' then withFoldersBefore f.length f else [f]
      oneByOne c files fun c file => removeFolder c g file

/-- Makes folders. -/
def mkdirTool (c : ToolCall) : ToolResult :=
  let table : OptionTable :=
    { plain := "pv", valued := "m", long := [("parents", 'p'), ("verbose", 'v'), ("mode", 'm')] }
  withOptions c 1 table fun g =>
    let badMode := (g.value? 'm').filter fun m => (Mode.read? m).isNone
    if g.operands.isEmpty then missingOperand c
    else if badMode.isSome then
      .failing 1 (c.shown ++ ": invalid mode '" ++ badMode.getD "" ++ "'")
    else
      let files := g.operands.flatMap fun f =>
        if g.has 'p' then (withFoldersBefore f.length f).reverse else [f]
      oneByOne c files fun c file =>
        if g.has 'p' && c.files.isFolder file then {}
        else
          let made := if file.isEmpty then .error .noEntry
            else if c.files.isSystemPlace file then .error .entryExists
            else c.files.disk.makeFolder (c.files.path file)
          let mode := (g.value? 'm').bind Mode.read?
          match made with
          | .ok d =>
            let v := { c.files with disk := d }
            let v := match mode, v.spot file with
              | some m, .ok ⟨place, some _⟩ => v.withMode place (m.apply v.mask true 511)
              | _, _ => v
            (telling g (c.shown ++ ": created directory '" ++ file ++ "'")).andThen (.leaving v)
          | .error fault => about c "cannot create directory" file fault

/-! ## Layer C: copying, moving, linking -/

/-- Sources and a target among operands. The target may be a folder into which all go. -/
def intoTarget (c : ToolCall) (g : Given) (f : ToolCall → String → String → ToolResult) :
    ToolResult :=
  match g.value? 't', g.operands with
  | some target, sources =>
    if sources.isEmpty then usage c 1 "missing file operand"
    else oneByOne c sources fun c s => f c s (target ++ "/" ++ lastName s)
  | none, [] => usage c 1 "missing file operand"
  | none, [file] => usage c 1 ("missing destination file operand after '" ++ file ++ "'")
  | none, operands =>
    let target := operands.getLastD ""
    let sources := operands.dropLast
    if c.files.isFolder target && !g.has 'T' then
      let slash := if target.endsWith "/" then "" else "/"
      oneByOne c sources fun c s => f c s (target ++ slash ++ lastName s)
    else if 1 < sources.length then
      .failing 1 (c.shown ++ ": target '" ++ target ++ "': "
        ++ if c.files.has target then "Not a directory" else "No such file or directory")
    else oneByOne c sources fun c s => f c s target

/-- Whether a place lies in another one or is it. -/
def isWithin (outer inner : Place) : Bool := outer.isPrefixOf inner

/-- Copies one entry. -/
def copyOne (g : Given) (c : ToolCall) (source target : String) : ToolResult :=
  let deep := g.has 'r' || g.has 'R' || g.has 'a'
  let follow := !(g.has 'd' || g.has 'P' || deep)
  let told := telling g ("'" ++ source ++ "' -> '" ++ target ++ "'")
  let found := if source.isEmpty then .error .noEntry
    else c.files.disk.locate follow (c.files.path source)
  match found, c.files.disk.locate true (c.files.path target) with
  | .error fault, _ => about c "cannot stat" source fault
  | .ok ⟨_, none⟩, _ =>
    if c.files.isDevice source then
      match c.files.disk.write (c.files.path target) ⟨[], 0⟩ with
      | .ok d => { disk := some d }
      | .error fault => about c "cannot create regular file" target fault
    else about c "cannot stat" source .noEntry
  | .ok ⟨old, some entry⟩, spot =>
    if entry == .folder && !deep then
      .failing 1 (c.shown ++ ": -r not specified; omitting directory '" ++ source ++ "'")
    else
      match spot with
      | .error fault =>
        about c (if entry == .folder then "cannot create directory" else
          "cannot create regular file") target fault
      | .ok ⟨goal, there⟩ =>
        if c.files.isDevice target then {}
        else if old == goal then
          .failing 1 (c.shown ++ ": '" ++ source ++ "' and '" ++ target ++ "' are the same file")
        else if entry == .folder && isWithin old goal then
          let refused := ToolResult.failing 1 (c.shown ++ ": cannot copy a directory, '" ++ source
            ++ "', into itself, '" ++ target ++ "'")
          if there.isSome then refused
          else refused.andThen (.leaving (c.files.copy c.files.mask c.files.depth old goal))
        else if entry == .folder && there.isSome && there != some .folder then
          .failing 1 (c.shown ++ ": cannot overwrite non-directory '" ++ target
            ++ "' with directory '" ++ source ++ "'")
        else if entry != .folder && there == some .folder then
          .failing 1 (c.shown ++ ": cannot overwrite directory '" ++ target
            ++ "' with non-directory")
        else if g.has 'n' && there.isSome then {}
        else if entry != .folder && target.endsWith "/" then
          .failing 1 (c.shown ++ ": cannot create regular file '" ++ target
            ++ "': Not a directory")
        else
          let mask := if g.has 'p' || g.has 'a' then 0 else c.files.mask
          told.andThen (.leaving (c.files.copy mask c.files.depth old goal))

/-- Copies files, and folders if that is asked for. -/
def cpTool (c : ToolCall) : ToolResult :=
  let table : OptionTable :=
    { plain := "rRapfnivdPTuL", valued := "t"
      long := [("recursive", 'r'), ("archive", 'a'), ("force", 'f'), ("no-clobber", 'n'),
        ("verbose", 'v'), ("target-directory", 't'), ("no-target-directory", 'T')] }
  withOptions c 1 table fun g => intoTarget c g (copyOne g)

/-- Moves one entry. -/
def moveOne (g : Given) (c : ToolCall) (source target : String) : ToolResult :=
  let told := telling g ("renamed '" ++ source ++ "' -> '" ++ target ++ "'")
  let cannot (why : String) : ToolResult :=
    .failing 1 (c.shown ++ ": cannot move '" ++ source ++ "' to '" ++ target ++ "': " ++ why)
  match c.files.spot source, c.files.spot target with
  | .error fault, _ => about c "cannot stat" source fault
  | .ok ⟨_, none⟩, _ => about c "cannot stat" source .noEntry
  | _, .error fault =>
    if target.endsWith "/" && fault == .noEntry then cannot "Not a directory"
    else cannot (reason fault)
  | .ok ⟨old, some entry⟩, .ok ⟨goal, there⟩ =>
    if old == goal then
      .failing 1 (c.shown ++ ": '" ++ source ++ "' and '" ++ target ++ "' are the same file")
    else if entry == .folder && isWithin old goal then
      .failing 1 (c.shown ++ ": cannot move '" ++ source ++ "' to a subdirectory of itself, '"
        ++ target ++ "'")
    else if entry != .folder && there == some .folder then
      .failing 1 (c.shown ++ ": cannot overwrite directory '" ++ target
        ++ "' with non-directory")
    else if entry == .folder && there.isSome && there != some .folder then
      .failing 1 (c.shown ++ ": cannot overwrite non-directory '" ++ target
        ++ "' with directory '" ++ source ++ "'")
    else if there == some .folder && !(c.files.namesAt goal).isEmpty then
      cannot "Directory not empty"
    else if g.has 'n' && there.isSome then {}
    else
      let cleared := if there.isSome then c.files.drop goal else c.files
      let moved := cleared.copy 0 cleared.depth old goal
      let moved := if (moved.facts.groupOf old).length == 1 then moved
        else { moved with facts := moved.facts.joined old goal }
      told.andThen (.leaving (moved.drop old))

/-- Moves files and folders. -/
def mvTool (c : ToolCall) : ToolResult :=
  let table : OptionTable :=
    { plain := "fnivTu", valued := "t"
      long := [("force", 'f'), ("no-clobber", 'n'), ("verbose", 'v'), ("target-directory", 't'),
        ("no-target-directory", 'T')] }
  withOptions c 1 table fun g => intoTarget c g (moveOne g)

/-- Makes one link. A link that is not symbolic is a copy of a file. -/
def linkOne (g : Given) (c : ToolCall) (source target : String) : ToolResult :=
  let kind := if g.has 's' then "symbolic" else "hard"
  let failed (fault : IoFault) : ToolResult :=
    .failing 1 (c.shown ++ ": failed to create " ++ kind ++ " link '" ++ target ++ "'"
      ++ (if g.has 's' then "" else
        if fault == .entryExists then "" else " => '" ++ source ++ "'") ++ ": " ++ reason fault)
  let put (place : Place) (e : Option Place × Entry) (v : FileView) : ToolResult :=
    let facts := (e.1.map fun old => v.facts.joined old place).getD v.facts
    (telling g ("'" ++ target ++ "' -> '" ++ source ++ "'")).andThen
      (.leaving { v with disk := v.disk.put place e.2, facts := facts })
  let entry : Except ToolResult (Option Place × Entry) := if g.has 's' then
      .ok (none, .link ⟨source⟩)
    else
      match c.files.spot source with
      | .error fault => .error (about c "failed to access" source fault)
      | .ok ⟨_, none⟩ => .error (about c "failed to access" source .noEntry)
      | .ok ⟨_, some .folder⟩ =>
        .error (.failing 1 (c.shown ++ ": " ++ source
          ++ ": hard link not allowed for directory"))
      | .ok ⟨old, some e⟩ => .ok (some old, e)
  match entry, c.files.spot target with
  | .error r, _ => r
  | .ok _, .error fault => failed fault
  | .ok e, .ok ⟨place, none⟩ => put place e c.files
  | .ok e, .ok ⟨place, some there⟩ =>
    if g.has 'f' && there != .folder then put place e (c.files.drop place)
    else failed .entryExists

/-- Makes links. -/
def lnTool (c : ToolCall) : ToolResult :=
  let table : OptionTable :=
    { plain := "sfnvTirP", valued := "t"
      long := [("symbolic", 's'), ("force", 'f'), ("verbose", 'v'), ("no-dereference", 'n'),
        ("no-target-directory", 'T'), ("target-directory", 't')] }
  withOptions c 1 table fun g =>
    match g.operands with
    | [source] => linkOne g c source (lastName source)
    | [source, target] =>
      if g.has 'n' && c.files.isLink target then linkOne g c source target
      else intoTarget c g (linkOne g)
    | _ => intoTarget c g (linkOne g)

/-- Makes one more name for a file. -/
def linkTool (c : ToolCall) : ToolResult :=
  withOptions c 1 {} fun g =>
    match g.operands with
    | [] => missingOperand c
    | [a] => usage c 1 ("missing operand after '" ++ a ++ "'")
    | [source, target] =>
      let cannot (fault : IoFault) : ToolResult :=
        .failing 1 (c.shown ++ ": cannot create link '" ++ target ++ "' to '" ++ source ++ "': "
          ++ reason fault)
      match c.files.spot source, c.files.spot target with
      | .error fault, _ => cannot fault
      | .ok ⟨_, none⟩, _ => cannot .noEntry
      | _, .error fault => cannot fault
      | _, .ok ⟨_, some _⟩ => cannot .entryExists
      | .ok ⟨old, some e⟩, .ok ⟨place, none⟩ =>
        .leaving { c.files with
          disk := c.files.disk.put place e, facts := c.files.facts.joined old place }
    | _ :: _ :: extra :: _ => usage c 1 ("extra operand '" ++ extra ++ "'")

/-- Removes one name of a file. -/
def unlinkTool (c : ToolCall) : ToolResult :=
  withOptions c 1 {} fun g =>
    match g.operands with
    | [] => missingOperand c
    | [file] =>
      match c.files.spot file with
      | .ok ⟨_, some .folder⟩ => about c "cannot unlink" file .isDirectory
      | .ok ⟨place, some _⟩ => .leaving (c.files.drop place)
      | .ok ⟨_, none⟩ => about c "cannot unlink" file .noEntry
      | .error fault => about c "cannot unlink" file fault
    | _ :: extra :: _ => usage c 1 ("extra operand '" ++ extra ++ "'")

/-- Letters in place of signs at the end of a name, by a number. -/
def lettersFor (count n : Nat) : String :=
  String.ofList ((List.range count).map fun i => Char.ofNat (97 + n / Nat.pow 26 i % 26))

/-- Makes a file or a folder with a name that nothing has yet. -/
def mktempTool (c : ToolCall) : ToolResult :=
  let table : OptionTable :=
    { plain := "duqt", valued := "p+"
      long := [("directory", 'd'), ("dry-run", 'u'), ("quiet", 'q'), ("tmpdir", 'p'),
        ("suffix", '+')] }
  withOptions c 1 table fun g =>
    let given := g.operands.headD "tmp.XXXXXXXXXX"
    let folder := (g.value? 'p').getD ((c.env.get? "TMPDIR").getD "/tmp")
    let inFolder := g.operands.isEmpty || g.has 'p' || g.has 't'
    let marks := (given.toList.reverse.takeWhile (· == 'X')).length
    let front := String.ofList (given.toList.take (given.length - marks))
    let path (n : Nat) : String :=
      (if inFolder then folder ++ "/" else "") ++ front ++ lettersFor marks n
        ++ (g.value? '+').getD ""
    if marks < 3 then
      .failing 1 (c.shown ++ ": too few X's in template '" ++ given ++ "'")
    else
      let n := ((List.range (c.files.disk.folders.size + 1000)).find? fun n =>
        !c.files.has (path n)).getD 0
      let made := if g.has 'u' then .ok c.files.disk
        else if g.has 'd' then c.files.disk.makeFolder (c.files.path (path n))
        else c.files.disk.write (c.files.path (path n)) ⟨[], 0⟩
      match made with
      | .ok d =>
        let v := { c.files with disk := d }
        let v := match g.has 'u', v.spot (path n) with
          | false, .ok ⟨place, some e⟩ => v.withMode place (if e == .folder then 448 else 384)
          | _, _ => v
        (ToolResult.printing (path n ++ "\n")).andThen (.leaving v)
      | .error fault =>
        .failing 1 (c.shown ++ ": failed to create " ++ (if g.has 'd' then "directory" else "file")
          ++ " via template '" ++ (if inFolder then folder ++ "/" else "") ++ given ++ "': "
          ++ reason fault)

/-- Copies files and sets their permissions, or makes folders. -/
def installTool (c : ToolCall) : ToolResult :=
  let table : OptionTable :=
    { plain := "dDvcpsTC", valued := "mtog"
      long := [("directory", 'd'), ("mode", 'm'), ("verbose", 'v'), ("target-directory", 't')] }
  withOptions c 1 table fun g =>
    match Mode.read? ((g.value? 'm').getD "755") with
    | none => .failing 1 (c.shown ++ ": invalid mode '" ++ (g.value? 'm').getD "" ++ "'")
    | some m =>
      let bits := m.apply 0 false 0
      let placed (v : FileView) (file : String) : FileView :=
        match v.disk.target? (v.path file) with
        | some s => v.withMode s.place bits
        | none => v
      if g.has 'd' then
        if g.operands.isEmpty then usage c 1 "missing file operand"
        else oneByOne c g.operands fun c file =>
          match c.files.disk.makeFolders (c.files.path file) with
          | .ok d => .leaving (placed { c.files with disk := d } file)
          | .error fault => about c "cannot create directory" file fault
      else
        intoTarget c g fun c source target =>
          let before := if g.has 'D' then
            match c.files.disk.makeFolders ((c.files.path target).parent?.getD ⟨"/"⟩) with
            | .ok d => { c with files := { c.files with disk := d } }
            | .error _ => c
            else c
          let r := copyOne g before source target
          if r.status != 0 then r
          else
            let v := { before.files with
              disk := r.disk.getD before.files.disk, facts := r.facts.getD before.files.facts }
            r.andThen (.leaving (placed v target))

/-! ## Layer D: permissions and sizes -/

/-- A mode in digits and letters. -/
def shownMode (mode : Nat) : String :=
  let digits := String.ofList (Nat.toDigits 8 mode)
  let zeros := String.ofList (List.replicate (4 - digits.length) '0')
  zeros ++ digits ++ " (" ++ modeLetters mode ++ ")"

/-- Changes the permissions of the entry at a place, and of all below it if that is asked for. -/
def changeMode (g : Given) (m : Mode) : Nat → FileView → String → Place → FileView × ToolResult
  | 0, v, _, _ => (v, {})
  | fuel + 1, v, shown, place =>
    let isFolder := v.disk.entry? place == some .folder
    let old := v.modeAt place
    let new := m.apply v.mask isFolder old
    let line := if old == new then "mode of '" ++ shown ++ "' retained as " ++ shownMode old
      else "mode of '" ++ shown ++ "' changed from " ++ shownMode old ++ " to " ++ shownMode new
    let told := if g.has 'v' || (g.has 'c' && old != new) then ToolResult.printing (line ++ "\n")
      else {}
    let names := if isFolder && g.has 'R' then v.namesAt place else []
    let start := (v.facts.groupOf place).foldl (fun v p => v.withMode p new) v
    names.foldl (fun (acc : FileView × ToolResult) n =>
      match v.disk.entry? (place ++ [n]) with
      | some (.link _) => acc
      | _ =>
        let (v, r) := changeMode g m fuel acc.1 (shown ++ "/" ++ n) (place ++ [n])
        (v, acc.2.andThen r)) (start, told)

/-- Changes permissions. -/
def chmodTool (c : ToolCall) : ToolResult :=
  let isMode (a : String) : Bool := a.startsWith "-" && a.length > 1
    && (a.toList.drop 1).all fun ch => "rwxXst,=+-ugoa".toList.contains ch
  let modes := c.args.filter isMode
  let table : OptionTable :=
    { plain := "Rfvc", valued := "+"
      long := [("recursive", 'R'), ("verbose", 'v'), ("silent", 'f'), ("quiet", 'f'),
        ("changes", 'c'), ("reference", '+')] }
  withOptions { c with args := c.args.filter fun a => !isMode a } 1 table fun g =>
    let like := (g.value? '+').bind fun f =>
      (c.files.disk.target? (c.files.path f)).map fun s => Mode.bits (c.files.modeAt s.place)
    let operands := modes.take 1 ++ g.operands
    let (mode, files) := if g.has '+' then ("", operands)
      else (operands.headD "", operands.drop 1)
    if operands.isEmpty then missingOperand c
    else if files.isEmpty then usage c 1 ("missing operand after '" ++ mode ++ "'")
    else
      match like <|> Mode.read? mode with
      | none => usage c 1 ("invalid mode: '" ++ mode ++ "'")
      | some m => oneByOne c files fun c file =>
        match c.files.disk.target? (c.files.path file) with
        | some ⟨place, _⟩ =>
          let (v, r) := changeMode g m c.files.depth c.files file place
          r.andThen (.leaving v)
        | none =>
          if c.files.has file then {}
          else if c.files.isLink file then
            .failing 1 (c.shown ++ ": cannot operate on dangling symlink '" ++ file ++ "'")
          else about c "cannot access" file .noEntry

/-- Changes the sizes of files. -/
def truncateTool (c : ToolCall) : ToolResult :=
  let table : OptionTable :=
    { plain := "co", valued := "sr", long := [("size", 's'), ("reference", 'r'),
      ("no-create", 'c')] }
  withOptions c 1 table fun g =>
    match g.value? 's' with
    | none =>
      if (g.value? 'r').isSome then {}
      else usage c 1 "you must specify either '--size' or '--reference'"
    | some text =>
      let sign := text.toList.head?
      let body := if sign == some '+' || sign == some '-' then String.ofList (text.toList.drop 1)
        else text
      match sized? body with
      | none => .failing 1 (c.shown ++ ": Invalid number: '" ++ text ++ "'")
      | some n =>
        if g.operands.isEmpty then usage c 1 "missing file operand"
        else oneByOne c g.operands fun c file =>
          let before := match c.files.disk.read (c.files.path file) with
            | .ok content => content
            | .error _ => ⟨[], 0⟩
          let size := if sign == some '+' then before.size + n
            else if sign == some '-' then before.size - n else n
          if g.has 'c' && !c.files.has file then {}
          else
            match c.files.disk.write (c.files.path file) (before.resize size) with
            | .ok d => { disk := some d }
            | .error fault =>
              .failing 1 (c.shown ++ ": cannot open '" ++ file ++ "' for writing: "
                ++ reason fault)

/-! ## Layer E: paths -/

/-- Prints where links lead. -/
def readlinkTool (c : ToolCall) : ToolResult :=
  let table : OptionTable :=
    { plain := "fenmzqsv", long := [("canonicalize", 'f'), ("no-newline", 'n'),
      ("canonicalize-existing", 'e'), ("canonicalize-missing", 'm')] }
  withOptions c 1 table fun g =>
    if g.operands.isEmpty then missingOperand c
    else .inTurn (g.operands.map fun file =>
      let found : Option String :=
        if g.has 'm' then
          match c.files.disk.canonicalize (c.files.path file) with
          | .ok p => some p.text
          | .error _ => some (c.files.path file).normalize.text
        else if g.has 'f' || g.has 'e' then
          match c.files.disk.locate true (c.files.path file) with
          | .ok ⟨place, e⟩ =>
            if e.isSome || g.has 'f' then some (Disk.pathOf place).text else none
          | .error _ => if c.files.has file then some (c.files.path file).normalize.text else none
        else
          match c.files.spot file with
          | .ok ⟨_, some (.link target)⟩ => some target.text
          | _ => none
      match found with
      | some text => .printing (text ++ if g.has 'n' then "" else "\n")
      | none => { status := 1 })

/-- Prints paths without links. -/
def realpathTool (c : ToolCall) : ToolResult :=
  let table : OptionTable :=
    { plain := "emLPqsz", long := [("canonicalize-existing", 'e'), ("canonicalize-missing", 'm'),
      ("no-symlinks", 's')] }
  withOptions c 1 table fun g =>
    if g.operands.isEmpty then missingOperand c
    else .inTurn (g.operands.map fun file =>
      if g.has 's' then .printing ((c.files.path file).normalize.text ++ "\n")
      else
        match if file.isEmpty then .error .noEntry
            else c.files.disk.locate true (c.files.path file) with
        | .ok ⟨place, e⟩ =>
          if e.isNone && g.has 'e' then .failing 1 (plainRefusal c file .noEntry)
          else .printing ((Disk.pathOf place).text ++ "\n")
        | .error fault =>
          if c.files.has file || g.has 'm' then
            .printing ((c.files.path file).normalize.text ++ "\n")
          else .failing 1 (plainRefusal c file fault))

/-- Prints the folder the tool runs in. -/
def pwdTool (c : ToolCall) : ToolResult :=
  match c.files.disk.canonicalize c.files.cwd with
  | .ok p => .printing (p.text ++ "\n")
  | .error _ => .printing (c.files.cwd.text ++ "\n")

end Shell

end CodeAtlas
