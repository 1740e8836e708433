import CodeAtlas.Json.Basic

/-!
# Tables of TOML

A document is built up table by table. Tables remember how they came to be, since a table that is
opened by a header, implied by the header of another, or spelled out by dotted keys may be extended
only in its own way.

## Architecture

- **Layer A**: items and tables;
- **Layer B**: finding and changing a table;
- **Layer C**: what may be added.
-/

namespace CodeAtlas

namespace Toml

/-! ## Layer A: items and tables -/

mutual

/-- What a key stands for while a document is read. -/
inductive Item where
  | value (v : Json)
  | table (t : TableNode)
  /-- Tables that are opened one after the other under the same header. -/
  | tables (ts : List TableNode)

/-- A table: whether it was only implied, whether dotted keys made it, and its items in order. -/
inductive TableNode where
  | mk (implied dotted : Bool) (items : List (String × Item))

end

instance : Inhabited TableNode := ⟨.mk false false []⟩

namespace TableNode

/-- Whether a table was only implied. -/
def implied : TableNode → Bool
  | .mk i _ _ => i

/-- Whether dotted keys made a table. -/
def dotted : TableNode → Bool
  | .mk _ d _ => d

/-- The items of a table. -/
def items : TableNode → List (String × Item)
  | .mk _ _ is => is

/-- A table that was opened by a header. -/
def opened (t : TableNode) : TableNode := .mk false false t.items

/-- The item under a key. -/
def find? (t : TableNode) (key : String) : Option Item := t.items.lookup key

/-- The table with an item under a key: in place if there is one, else behind all others. -/
def set (t : TableNode) (key : String) (item : Item) : TableNode :=
  let is := t.items
  .mk t.implied t.dotted
    (if (is.lookup key).isSome then is.map fun e => if e.1 == key then (key, item) else e
     else is ++ [(key, item)])

/-- The table without a key. -/
def without (t : TableNode) (key : String) : TableNode :=
  .mk t.implied t.dotted (t.items.filter fun e => e.1 != key)

end TableNode

mutual

/-- An item as a JSON value. -/
def itemJson : Item → Json
  | .value v => v
  | .table t => tableJson t
  | .tables ts => .arr (tablesJson ts)

/-- A table as a JSON value, with its keys in the order in which they appeared. -/
def tableJson : TableNode → Json
  | .mk _ _ is => .obj (membersJson is)

/-- Several tables as JSON values. -/
def tablesJson : List TableNode → List Json
  | [] => []
  | t :: rest => tableJson t :: tablesJson rest

/-- Items as the members of a JSON value. -/
def membersJson : List (String × Item) → List (Option String × Json)
  | [] => []
  | (k, i) :: rest => (some k, itemJson i) :: membersJson rest

end

/-! ## Layer B: finding and changing -/

/-- Changes the table that a path leads to. Tables on the way that are missing are made, by dotted
keys or only implied; the last of several tables under a header stands for all. -/
def TableNode.update (dotted : Bool) (change : TableNode → Option TableNode) :
    List String → TableNode → Option TableNode
  | [], t => change t
  | key :: rest, t =>
    match t.find? key with
    | none => do
      let child ← update dotted change rest (.mk true dotted [])
      pure (t.set key (.table child))
    | some (.value _) => none
    | some (.table child) =>
      -- what a header opened is closed to dotted keys from elsewhere
      if dotted && !child.implied then none
      else do
        let child ← update dotted change rest child
        pure (t.set key (.table child))
    | some (.tables ts) =>
      match ts.getLast? with
      | none => none
      | some child => do
        let child ← update dotted change rest child
        pure (t.set key (.tables (ts.dropLast ++ [child])))

/-! ## Layer C: adding -/

/-- Adds a key with a value. A table made by dotted keys takes only dotted keys, and others only
plain ones. -/
def TableNode.addValue (path : List String) (v : Json) (t : TableNode) : Option TableNode :=
  match path.getLast? with
  | none => none
  | some key =>
    let outer := path.dropLast
    let add (t : TableNode) : Option TableNode :=
      if t.dotted == outer.isEmpty || (t.find? key).isSome then none
      else some (t.set key (.value v))
    t.update true add outer

/-- A document that is being read: what is complete, and the table that is open. -/
structure Draft where
  root : TableNode
  /-- The header of the open table; it is empty at the start of the document. -/
  header : List String
  /-- Whether the open table is one of several under its header. -/
  repeated : Bool
  current : TableNode

namespace Draft

/-- Nothing has been read. -/
def empty : Draft := ⟨.mk false false [], [], false, .mk false false []⟩

/-- Puts the open table in its place. -/
def close (d : Draft) : Option TableNode :=
  match d.header.getLast? with
  | none => some d.current
  | some key =>
    let place (t : TableNode) : Option TableNode :=
      if d.repeated then
        match t.find? key with
        | some (.tables ts) => some (t.set key (.tables (ts ++ [d.current])))
        | _ => none
      else
        match t.find? key with
        | some _ => none
        | none => some (t.set key (.table d.current))
    d.root.update false place d.header.dropLast

/-- The table under a key that a header may open: a new one, or one that was only implied. -/
def reopen? (t : TableNode) (key : String) : Option TableNode :=
  match t.find? key with
  | none => some (.mk false false [])
  | some (.table c) => if c.implied && !c.dotted then some c.opened else none
  | some _ => none

/-- The table that a path leads to, past tables that may be missing. -/
def lookUp (path : List String) (t : TableNode) : Option TableNode :=
  match path with
  | [] => some t
  | key :: rest =>
    match t.find? key with
    | none => some (.mk true false [])
    | some (.value _) => none
    | some (.table c) => lookUp rest c
    | some (.tables ts) => ts.getLast?.bind fun c => lookUp rest c

/-- Opens the table under a header. -/
def openTable (d : Draft) (header : List String) : Option Draft := do
  let root ← d.close
  let key ← header.getLast?
  let outer ← lookUp header.dropLast root
  let current ← reopen? outer key
  -- an implied table leaves its place, to return as the open one when that is closed
  let root ← root.update false (fun t => some (t.without key)) header.dropLast
  pure ⟨root, header, false, current⟩

/-- Opens one more table under a header. -/
def openRepeated (d : Draft) (header : List String) : Option Draft := do
  let root ← d.close
  let key ← header.getLast?
  let declare (t : TableNode) : Option TableNode :=
    match t.find? key with
    -- the table itself is added when it is closed
    | none => some (t.set key (.tables []))
    | some (.tables _) => some t
    | some _ => none
  let root ← root.update false declare header.dropLast
  pure ⟨root, header, true, .mk false false []⟩

/-- Adds a key with a value to the open table. -/
def add (d : Draft) (path : List String) (v : Json) : Option Draft :=
  (d.current.addValue path v).map fun t => { d with current := t }

end Draft

end Toml

end CodeAtlas
