import CodeAtlas.Shell.Running
import CodeAtlas.Shell.Tools.Find

/-!
# Walking through folders

The walk of `find`: entry by entry, with what is done with each. How commands are run is given from
outside.
-/

namespace CodeAtlas

namespace Shell

/-- What has happened on a walk. -/
structure WalkState where
  /-- Whether the walk is over. -/
  ended : Bool := false
  /-- Whether the present folder is not entered. -/
  pruned : Bool := false
  status : Nat := 0
  /-- The commands for many entries, by number, with the paths so far in reverse order. -/
  pending : List (Nat × List String × List String) := []
  /-- What was written to files. -/
  stored : List (String × Bytes) := []

/-- A step of a walk. -/
abbrev Walking := StateT WalkState Run

/-- How a command is run, in a folder or where the walk began; the result tells whether it
succeeded. -/
abbrev CommandRunner := Option Path → List String → Run Bool

/-- What a walk is given. -/
structure WalkGiven where
  /-- The name in messages. -/
  shown : String
  mode : FindMode
  run : CommandRunner

namespace WalkGiven

/-- Tells that something went wrong. -/
def complainOf (w : WalkGiven) (what : String) : Walking Unit := do
  (complain (w.shown ++ ": " ++ what) : Run Unit)
  modify fun s => { s with status := 1 }

/-- Removes an entry. -/
def delete (w : WalkGiven) (f : FoundEntry) : Walking Bool := do
  let v := (← (get : Run Machine)).view
  if f.path == "." then pure true
  else if f.entry == .folder && !(v.namesAt f.place).isEmpty then
    w.complainOf ("cannot delete '" ++ f.path ++ "': Directory not empty")
    pure false
  else
    let left := v.drop f.place
    (changeWorld fun x => { x with facts := left.facts } : Run Unit)
    (changeDisk fun _ => left.disk : Run Unit)
    pure true

/-- Does something with an entry. -/
def act (w : WalkGiven) (f : FoundEntry) : FindAction → Walking Bool
  | .print ending => do
    (writeOut (Bytes.ofText f.path ++ [ending]) : Run Unit)
    pure true
  | .format text => do
    let v := (← (get : Run Machine)).view
    let (bs, faults) := f.filled v (text.length + 1) text.toList
    faults.forM fun why => (complain (w.shown ++ ": " ++ why) : Run Unit)
    (writeOut bs : Run Unit)
    pure true
  | .delete => w.delete f
  | .prune => do
    modify fun s => { s with pruned := true }
    pure true
  | .quit => do
    modify fun s => { s with ended := true }
    pure true
  | .run command inside => do
    let cwd := (← (get : Run Machine)).self.cwd
    let path := if inside then "./" ++ f.name else f.path
    let folder := if inside then some (cwd.join ⟨f.folder⟩) else none
    (w.run folder (command.map fun a => a.replace "\x7b\x7d" path) : Run Bool)
  | .runAll command number => do
    modify fun s =>
      let paths := ((s.pending.find? (·.1 == number)).map (·.2.2)).getD []
      { s with pending := s.pending.filter (·.1 != number)
          ++ [(number, command, f.path :: paths)] }
    pure true
  | .store file => do
    modify fun s => { s with stored := s.stored ++ [(file, Bytes.ofText (f.path ++ "\n"))] }
    pure true

/-- Carries out an expression for an entry. -/
def evaluate (w : WalkGiven) (f : FoundEntry) : FindExpr → Walking Bool
  | .test t => do pure (t.holds (← (get : Run Machine)).view w.mode.follow f)
  | .action a => w.act f a
  | .not e => do pure (!(← evaluate w f e))
  | .and a b => do
    let holds ← evaluate w f a
    if holds && !(← get).ended then evaluate w f b else pure holds
  | .or a b => do
    let holds ← evaluate w f a
    if holds || (← get).ended then pure holds else evaluate w f b
  | .sequence a b => do
    let _ ← evaluate w f a
    evaluate w f b

/-- The entry at a path. A link that leads nowhere is an entry itself. -/
def entryAt (v : FileView) (follow : Bool) (root path : String) (level : Nat) :
    Except IoFault FoundEntry :=
  let found (r : Except IoFault Disk.Spot) : Except IoFault FoundEntry :=
    match r with
    | .ok ⟨place, some e⟩ => .ok ⟨path, root, level, place, e⟩
    | .ok ⟨_, none⟩ => .error .noEntry
    | .error fault => .error fault
  let itself := if path.isEmpty then .error .noEntry
    else found (v.disk.locate false (v.path path))
  if !follow then itself
  else
    match found (v.disk.locate true (v.path path)) with
    | .ok f => .ok f
    | .error _ => itself

/-- Visits an entry and what is below it. -/
def visit (w : WalkGiven) (e : FindExpr) : Nat → FoundEntry → Walking Unit
  | 0, _ => pure ()
  | fuel + 1, f => do
    let applied : Walking Unit := do
      modify fun s => { s with pruned := false }
      if w.mode.least ≤ f.level && !(← get).ended then
        let _ ← w.evaluate f e
    if !w.mode.contentsFirst then applied
    let s ← get
    let enters := f.entry == .folder && w.mode.most.all (f.level < ·)
      && (w.mode.contentsFirst || !s.pruned)
    if enters then
      let v := (← (get : Run Machine)).view
      (v.namesAt f.place).forM fun name => do
        let path := if f.path.endsWith "/" then f.path ++ name else f.path ++ "/" ++ name
        let now := (← (get : Run Machine)).view
        match entryAt now w.mode.follow f.root path (f.level + 1) with
        | .ok g => if !(← get).ended then visit w e fuel g
        | .error _ => pure ()
    if w.mode.contentsFirst then applied

end WalkGiven

/-- **Walks through folders** and does what a plan says. -/
def FindPlan.run (p : FindPlan) (shown : String) (run : CommandRunner) : Run Flow := do
  let w : WalkGiven := ⟨shown, p.mode, run⟩
  let walk : Walking Unit := p.paths.forM fun path => do
    let v := (← (get : Run Machine)).view
    match WalkGiven.entryAt v (p.mode.follow || p.mode.followNamed) path path 0 with
    | .ok f => w.visit p.expr (v.depth + 1) f
    | .error fault => w.complainOf ("'" ++ path ++ "': " ++ reason fault)
  let (_, s) ← walk.run {}
  let files := s.stored.foldl (fun (t : Table String Bytes) x =>
    t.insert x.1 (t.getD x.1 [] ++ x.2)) Table.empty
  let cwd := (← get).self.cwd
  files.entries.forM fun x => changeDisk fun d =>
    match d.write (cwd.join ⟨x.1⟩) ⟨x.2, 0⟩ with
    | .ok d => d
    | .error _ => d
  let results ← s.pending.mapM fun x => run none (x.2.1 ++ x.2.2.reverse)
  setStatus (if s.status == 0 && results.all id then 0 else 1)
  pure .exited

end Shell

end CodeAtlas
