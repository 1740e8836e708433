/-!
# Sorting by an order

Stable sorting of lists by `compare`, and the removal of neighbours that compare equal.
-/

namespace CodeAtlas

variable {α κ : Type}

/-- Sorts by a key; elements whose keys compare equal keep their order. -/
def sortBy [Ord κ] (key : α → κ) (xs : List α) : List α :=
  xs.mergeSort fun a b => compare (key a) (key b) != .gt

/-- Keeps the first of every run of neighbours that `same` identifies with it. -/
def dropRepeats (same : α → α → Bool) : List α → List α
  | [] => []
  | a :: rest => a :: go a rest
where
  /-- Walks the list behind the element `a` that was kept last. -/
  go (a : α) : List α → List α
    | [] => []
    | b :: rest => if same a b then go a rest else b :: go b rest

end CodeAtlas
