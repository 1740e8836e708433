/-!
# Ordered sets

A finite set as a strictly increasing list. Sets of units and of paths are printed in this order,
and the least element is the next one to be worked on.
-/

namespace CodeAtlas

/-- **A finite set in increasing order.** -/
structure KeySet (κ : Type) where
  toList : List κ
  deriving Repr, DecidableEq

namespace KeySet

variable {κ : Type}

/-- The set without elements. -/
def empty : KeySet κ := ⟨[]⟩

instance : Inhabited (KeySet κ) := ⟨empty⟩

instance : EmptyCollection (KeySet κ) := ⟨empty⟩

/-- Whether there is no element. -/
def isEmpty (s : KeySet κ) : Bool := s.toList.isEmpty

/-- The number of elements. -/
def size (s : KeySet κ) : Nat := s.toList.length

/-- The elements that satisfy `p`. -/
def filter (s : KeySet κ) (p : κ → Bool) : KeySet κ := ⟨s.toList.filter p⟩

variable [Ord κ]

/-- Whether `k` is an element. -/
def contains (s : KeySet κ) (k : κ) : Bool := s.toList.any fun j => compare k j == .eq

/-- Puts `k` at the place the order gives it; an element that compares equal stays. -/
def insertKey (k : κ) : List κ → List κ
  | [] => [k]
  | j :: rest =>
    match compare k j with
    | .lt => k :: j :: rest
    | .eq => j :: rest
    | .gt => j :: insertKey k rest

/-- The set with `k` added. -/
def insert (s : KeySet κ) (k : κ) : KeySet κ := ⟨insertKey k s.toList⟩

/-- The set with `k` removed. -/
def erase (s : KeySet κ) (k : κ) : KeySet κ := ⟨s.toList.filter fun j => compare k j != .eq⟩

/-- The set with the elements of a list added. -/
def insertAll (s : KeySet κ) (ks : List κ) : KeySet κ := ks.foldl insert s

/-- The set of the elements of a list. Of elements that compare equal the last one is taken. -/
def ofList (ks : List κ) : KeySet κ := empty.insertAll ks.reverse

end KeySet

end CodeAtlas
