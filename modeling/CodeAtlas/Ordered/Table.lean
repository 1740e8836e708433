/-!
# Ordered tables

A finite map whose keys are kept in increasing order, as a plain association list. The order of
the keys is the order in which every listing of the project is printed, so it is part of the data
and not left to a hash.

## Architecture

- **Layer A**: the type and its look-ups (`get?`, `contains`);
- **Layer B**: updates that keep the order (`insert`, `erase`, `alter`);
- **Layer C**: bulk views (`keys`, `values`, `filter`, `ofList`).

A key that compares equal to a stored key takes its place without changing the stored spelling.
-/

namespace CodeAtlas

/-- **A finite map in key order.** Entries are strictly increasing under `compare`. -/
structure Table (κ : Type) (α : Type) where
  entries : List (κ × α)
  deriving Repr, DecidableEq

namespace Table

variable {κ α β : Type}

/-! ## Layer A: look-ups -/

/-- The table without entries. -/
def empty : Table κ α := ⟨[]⟩

instance : Inhabited (Table κ α) := ⟨empty⟩

instance : EmptyCollection (Table κ α) := ⟨empty⟩

/-- The number of entries. -/
def size (t : Table κ α) : Nat := t.entries.length

/-- Whether there is no entry. -/
def isEmpty (t : Table κ α) : Bool := t.entries.isEmpty

variable [Ord κ]

/-- The first value stored under a key that compares equal to `k`. -/
def lookup (k : κ) : List (κ × α) → Option α
  | [] => none
  | (j, a) :: rest => if compare k j == .eq then some a else lookup k rest

/-- The value stored under `k`. -/
def get? (t : Table κ α) (k : κ) : Option α := lookup k t.entries

/-- The value stored under `k`, or `fallback`. -/
def getD (t : Table κ α) (k : κ) (fallback : α) : α := (t.get? k).getD fallback

/-- Whether `k` has a value. -/
def contains (t : Table κ α) (k : κ) : Bool := (t.get? k).isSome

/-! ## Layer B: updates -/

/-- Puts `a` under `k` at the place the key order gives it. -/
def insertEntry (k : κ) (a : α) : List (κ × α) → List (κ × α)
  | [] => [(k, a)]
  | (j, b) :: rest =>
    match compare k j with
    | .lt => (k, a) :: (j, b) :: rest
    | .eq => (j, a) :: rest
    | .gt => (j, b) :: insertEntry k a rest

/-- The table in which `k` has the value `a`. -/
def insert (t : Table κ α) (k : κ) (a : α) : Table κ α := ⟨insertEntry k a t.entries⟩

/-- The table in which `k` has no value. -/
def erase (t : Table κ α) (k : κ) : Table κ α :=
  ⟨t.entries.filter fun e => compare k e.1 != .eq⟩

/-- Changes the value under `k` by `f`, where `none` stands for "no value". -/
def alter (t : Table κ α) (k : κ) (f : Option α → Option α) : Table κ α :=
  match f (t.get? k) with
  | some a => t.insert k a
  | none => t.erase k

/-! ## Layer C: bulk views -/

/-- The keys, in order. -/
def keys (t : Table κ α) : List κ := t.entries.map (·.1)

/-- The values, in the order of their keys. -/
def values (t : Table κ α) : List α := t.entries.map (·.2)

/-- The entries that satisfy `p`. -/
def filter (t : Table κ α) (p : κ → α → Bool) : Table κ α :=
  ⟨t.entries.filter fun e => p e.1 e.2⟩

/-- The table with every value changed by `f`. -/
def mapValues (t : Table κ α) (f : κ → α → β) : Table κ β :=
  ⟨t.entries.map fun e => (e.1, f e.1 e.2)⟩

/-- The table of a list of entries; a later entry replaces an earlier one of the same key. -/
def ofList (es : List (κ × α)) : Table κ α :=
  es.foldl (fun t e => t.insert e.1 e.2) empty

end Table

end CodeAtlas
