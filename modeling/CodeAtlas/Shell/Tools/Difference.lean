/-!
# Differences of two lists

Which items of two lists have to go and to come to make one list of the other: as few as possible,
found by searching from both ends at once along diagonals, that is pairs of places with the same
difference. Runs of changes that can be moved are moved to where they meet others, or else as far
down as they go.

## Architecture

- **Layer A**: the middle of the shortest way;
- **Layer B**: which items change;
- **Layer C**: moving runs of changes;
- **Layer D**: runs side by side.
-/

namespace CodeAtlas

namespace Shell

/-! ## Layer A: the middle -/

/-- Parts of two lists. -/
structure Window where
  left : Nat
  leftEnd : Nat
  right : Nat
  rightEnd : Nat
  deriving Repr, DecidableEq, Inhabited

namespace Window

/-- The number of items. -/
def size (w : Window) : Nat := (w.leftEnd - w.left) + (w.rightEnd - w.right)

/-- The lowest diagonal. -/
def lowest (w : Window) : Int := w.left - w.rightEnd

/-- The highest diagonal. -/
def highest (w : Window) : Int := w.leftEnd - w.right

end Window

/-- How far a search has come on each diagonal, and between which diagonals it moves. -/
structure Frontier where
  reach : Array Int
  low : Int
  high : Int
  deriving Repr, DecidableEq, Inhabited

namespace Frontier

/-- Where a diagonal is kept. -/
def slot (w : Window) (d : Int) : Nat := (d - w.lowest + 1).toNat

/-- How far a search has come on a diagonal. -/
def on (f : Frontier) (w : Window) (d : Int) : Int := f.reach.getD (slot w d) 0

/-- Notes how far a search has come on a diagonal. -/
def note (f : Frontier) (w : Window) (d x : Int) : Frontier :=
  { f with reach := f.reach.setIfInBounds (slot w d) x }

/-- A search that begins at a place. -/
def start (w : Window) (d x : Int) : Frontier :=
  note ⟨Array.replicate (w.size + 3) 0, d, d⟩ w d x

/-- Moves on to the diagonals next to those that were searched; `outside` stands for a diagonal that
was not searched. -/
def widened (f : Frontier) (w : Window) (outside : Int) : Frontier :=
  let f := if w.lowest < f.low then { f.note w (f.low - 2) outside with low := f.low - 1 }
    else { f with low := f.low + 1 }
  if f.high < w.highest then { f.note w (f.high + 2) outside with high := f.high + 1 }
  else { f with high := f.high - 1 }

end Frontier

/-- Goes down while items are alike. -/
def slideDown (same : Nat → Nat → Bool) (w : Window) : Nat → Int → Int → Int
  | 0, x, _ => x
  | n + 1, x, y =>
    if x < w.leftEnd && y < w.rightEnd && same x.toNat y.toNat then
      slideDown same w n (x + 1) (y + 1)
    else x

/-- Goes up while items are alike. -/
def slideUp (same : Nat → Nat → Bool) (w : Window) : Nat → Int → Int → Int
  | 0, x, _ => x
  | n + 1, x, y =>
    if w.left < x && w.right < y && same (x - 1).toNat (y - 1).toNat then
      slideUp same w n (x - 1) (y - 1)
    else x

/-- One step of the search from the top, from diagonal to diagonal. There is an answer as soon as
the search from the bottom is met. -/
def stepDown (same : Nat → Nat → Bool) (w : Window) (odd : Bool) (other : Frontier) :
    Nat → Int → Frontier → Frontier × Option (Nat × Nat)
  | 0, _, f => (f, none)
  | n + 1, d, f =>
    if d < f.low then (f, none)
    else
      let below := f.on w (d - 1)
      let above := f.on w (d + 1)
      let x := if below < above then above else below + 1
      let x := slideDown same w w.size x (x - d)
      let f := f.note w d x
      if odd && other.low ≤ d && d ≤ other.high && other.on w d ≤ x then
        (f, some (x.toNat, (x - d).toNat))
      else stepDown same w odd other n (d - 2) f

/-- One step of the search from the bottom. -/
def stepUp (same : Nat → Nat → Bool) (w : Window) (odd : Bool) (other : Frontier) :
    Nat → Int → Frontier → Frontier × Option (Nat × Nat)
  | 0, _, f => (f, none)
  | n + 1, d, f =>
    if d < f.low then (f, none)
    else
      let below := f.on w (d - 1)
      let above := f.on w (d + 1)
      let x := if below < above then below else above - 1
      let x := slideUp same w w.size x (x - d)
      let f := f.note w d x
      if !odd && other.low ≤ d && d ≤ other.high && x ≤ other.on w d then
        (f, some (x.toNat, (x - d).toNat))
      else stepUp same w odd other n (d - 2) f

/-- Searches from both ends until the searches meet. -/
def meeting (same : Nat → Nat → Bool) (w : Window) (odd : Bool) :
    Nat → Frontier → Frontier → Option (Nat × Nat)
  | 0, _, _ => none
  | n + 1, down, up =>
    let down := down.widened w (-1)
    match stepDown same w odd up (w.size + 1) down.high down with
    | (_, some p) => some p
    | (down, none) =>
      let up := up.widened w (w.leftEnd + w.rightEnd + 2)
      match stepUp same w odd down (w.size + 1) up.high up with
      | (_, some p) => some p
      | (up, none) => meeting same w odd n down up

/-- A place in the middle of the shortest way. -/
def middle (same : Nat → Nat → Bool) (w : Window) : Nat × Nat :=
  let first : Int := w.left - w.right
  let last : Int := w.leftEnd - w.rightEnd
  (meeting same w ((first - last) % 2 != 0) (w.size + 1) (.start w first w.left)
    (.start w last w.leftEnd)).getD (w.left, w.rightEnd)

/-! ## Layer B: which items change -/

/-- The window without what is alike at its beginning. -/
def Window.withoutBegin (same : Nat → Nat → Bool) : Nat → Window → Window
  | 0, w => w
  | n + 1, w =>
    if w.left < w.leftEnd && w.right < w.rightEnd && same w.left w.right then
      withoutBegin same n { w with left := w.left + 1, right := w.right + 1 }
    else w

/-- The window without what is alike at its end. -/
def Window.withoutEnd (same : Nat → Nat → Bool) : Nat → Window → Window
  | 0, w => w
  | n + 1, w =>
    if w.left < w.leftEnd && w.right < w.rightEnd && same (w.leftEnd - 1) (w.rightEnd - 1) then
      withoutEnd same n { w with leftEnd := w.leftEnd - 1, rightEnd := w.rightEnd - 1 }
    else w

/-- The places of two lists that change. -/
abbrev Changes := List Nat × List Nat

/-- Which items of a window change. -/
def changesIn (same : Nat → Nat → Bool) : Nat → Window → Changes
  | 0, _ => ([], [])
  | n + 1, w =>
    let w := (w.withoutBegin same w.size).withoutEnd same w.size
    if w.left == w.leftEnd then
      ([], (List.range (w.rightEnd - w.right)).map (· + w.right))
    else if w.right == w.rightEnd then
      ((List.range (w.leftEnd - w.left)).map (· + w.left), [])
    else
      let (x, y) := middle same w
      let before := changesIn same n { w with leftEnd := x, rightEnd := y }
      let behind := changesIn same n { w with left := x, right := y }
      (before.1 ++ behind.1, before.2 ++ behind.2)

/-- How much an item is worth comparing. -/
inductive Worth where
  /-- The item has counterparts. -/
  | compared
  /-- The item has none. -/
  | skipped
  /-- The item has so many that it tells little. -/
  | doubtful
  deriving Repr, DecidableEq, Inhabited

/-- The whole part of a quarter, again and again, until nothing is left: twice as much each time. -/
def doublings : Nat → Nat → Nat → Nat
  | 0, _, n => n
  | fuel + 1, size, n => if size / 4 == 0 then n else doublings fuel (size / 4) (2 * n)

/-- How much each item of a list is worth, by the items of another one. -/
def worths {α : Type} [BEq α] (as bs : Array α) : List Worth :=
  let many := doublings as.size (as.size / 64) 5
  as.toList.map fun a =>
    let n := bs.count a
    if n == 0 then .skipped else if many < n then .doubtful else .compared

/-- Compares doubtful items after all, from the beginning of a run until three others follow each
other, or until another one after the eighth. -/
def compareEdge : Nat → Nat → List Worth → List Worth
  | _, _, [] => []
  | j, row, w :: rest =>
    if 8 ≤ j && w == .skipped then w :: rest
    else
      let row := if w == .skipped then row + 1 else 0
      let w := if w == .doubtful then .compared else w
      if row == 3 then w :: rest else w :: compareEdge (j + 1) row rest

/-- Compares doubtful items after all where many follow each other. -/
def compareRows (least : Nat) : Nat → List Worth → List Worth
  | 0, ws => ws
  | _ + 1, [] => []
  | fuel + 1, w :: rest =>
    if w == .doubtful then
      let row := (w :: rest).takeWhile (· == .doubtful)
      let left := (w :: rest).drop row.length
      (if least ≤ row.length then row.map fun _ => .compared else row)
        ++ compareRows least fuel left
    else w :: compareRows least fuel rest

/-- Decides which doubtful items of a run are not compared. The first item and the last are
skipped. -/
def decideRun (run : List Worth) : List Worth :=
  let size := run.length
  if size < 4 * run.count .doubtful then
    run.map fun w => if w == .doubtful then .compared else w
  else
    let least := doublings size (size / 4) 1 + 1
    let rows := compareRows least size run
    (compareEdge 0 0 (compareEdge 0 0 rows).reverse).reverse

/-- Decides which items are not compared: doubtful ones only inside of runs of skipped ones. -/
def decideWorths : Nat → List Worth → List Worth
  | 0, ws => ws
  | _ + 1, [] => []
  | fuel + 1, w :: rest =>
    if w != .skipped then .compared :: decideWorths fuel rest
    else
      let whole := (w :: rest).takeWhile (· != .compared)
      let run := (whole.reverse.dropWhile (· == .doubtful)).reverse
      decideRun run ++ decideWorths fuel ((w :: rest).drop run.length)

/-- Which items of two lists change. Items without a counterpart are not compared. -/
def changedItems {α : Type} [BEq α] (xs ys : Array α) : Array Bool × Array Bool :=
  let met (as bs : Array α) : List Nat :=
    ((decideWorths as.size (worths as bs)).zipIdx.filter (·.1 == .compared)).map (·.2)
  let kept := ((met xs ys).toArray, (met ys xs).toArray)
  let same (i j : Nat) : Bool := (kept.1[i]?).bind (xs[·]?) == (kept.2[j]?).bind (ys[·]?)
  let w : Window := ⟨0, kept.1.size, 0, kept.2.size⟩
  let changes := changesIn same (w.size + 1) w
  let mark (n : Nat) (kept : Array Nat) (changed : List Nat) : Array Bool :=
    let unchanged := (List.range kept.size).filter fun i => !changed.contains i
    unchanged.foldl (fun a i => a.setIfInBounds (kept.getD i 0) false) (Array.replicate n true)
  (mark xs.size kept.1 changes.1, mark ys.size kept.2 changes.2)

/-! ## Layer C: moving runs -/

/-- A run of changes in one list, and the corresponding place in the other list. -/
structure ChangeRun where
  changed : Array Bool
  start : Nat
  finish : Nat
  other : Nat
  /-- The last end of the run that corresponds to changes of the other list. -/
  meeting : Option Nat := none
  deriving Inhabited

/-- The first place from which on an item does not change. -/
def skipChanged (a : Array Bool) : Nat → Nat → Nat
  | 0, i => i
  | n + 1, i => if a.getD i false then skipChanged a n (i + 1) else i

/-- The first place of a run that ends at a place. -/
def skipChangedBack (a : Array Bool) : Nat → Nat → Nat
  | 0, i => i
  | n + 1, i => if 0 < i && a.getD (i - 1) false then skipChangedBack a n (i - 1) else i

/-- The last place before a place whose item does not change. -/
def unchangedBefore (a : Array Bool) (j : Nat) : Nat :=
  ((List.range j).reverse.find? fun i => !a.getD i false).getD 0

namespace ChangeRun

/-- Moves a run back while the item before it is like its last one. -/
def back {α : Type} [BEq α] (items : Array α) (other : Array Bool) : Nat → ChangeRun → ChangeRun
  | 0, r => r
  | n + 1, r =>
    if 0 < r.start && items[r.start - 1]? == items[r.finish - 1]? then
      let changed := (r.changed.setIfInBounds (r.start - 1) true).setIfInBounds (r.finish - 1) false
      let start := skipChangedBack changed r.start (r.start - 1)
      back items other n
        { r with
          changed := changed, start := start, finish := r.finish - 1
          other := unchangedBefore other r.other }
    else r

/-- Moves a run on while the item behind it is like its first one. -/
def on {α : Type} [BEq α] (items : Array α) (other : Array Bool) : Nat → ChangeRun → ChangeRun
  | 0, r => r
  | n + 1, r =>
    if r.finish < items.size && items[r.start]? == items[r.finish]? then
      let changed := (r.changed.setIfInBounds r.start false).setIfInBounds r.finish true
      let finish := skipChanged changed items.size (r.finish + 1)
      let next := r.other + 1
      let j := skipChanged other other.size next
      on items other n
        { r with
          changed := changed, start := r.start + 1, finish := finish, other := j
          meeting := if next < j then some finish else r.meeting }
    else r

/-- Moves a run back and on until it does not grow. -/
def settle {α : Type} [BEq α] (items : Array α) (other : Array Bool) : Nat → ChangeRun → ChangeRun
  | 0, r => r
  | n + 1, r =>
    let length := r.finish - r.start
    let b := r.back items other items.size
    let met := 0 < b.other && other.getD (b.other - 1) false
    let b := { b with meeting := if met then some b.finish else none }
    let f := b.on items other items.size
    if f.finish - f.start == length then f else settle items other n f

/-- Moves a run back to where it meets changes of the other list. -/
def toMeeting (other : Array Bool) : Nat → ChangeRun → ChangeRun
  | 0, r => r
  | n + 1, r =>
    if r.meeting.any (· < r.finish) then
      toMeeting other n
        { r with
          changed := (r.changed.setIfInBounds (r.start - 1) true).setIfInBounds (r.finish - 1) false
          start := r.start - 1, finish := r.finish - 1
          other := unchangedBefore other r.other }
    else r

end ChangeRun

/-- Moves all runs of changes in a list; `i` and `j` are corresponding places. -/
def movedRuns {α : Type} [BEq α] (items : Array α) (other : Array Bool) :
    Nat → Array Bool → Nat → Nat → Array Bool
  | 0, changed, _, _ => changed
  | n + 1, changed, i, j =>
    if items.size ≤ i then changed
    else if !changed.getD i false then
      movedRuns items other n changed (i + 1) (skipChanged other other.size j + 1)
    else
      let r : ChangeRun :=
        { changed := changed, start := i, finish := skipChanged changed items.size i
          other := skipChanged other other.size j }
      let r := (r.settle items other (items.size + 1)).toMeeting other items.size
      movedRuns items other n r.changed r.finish r.other

/-! ## Layer D: runs side by side -/

/-- A run of changes: which items of the first list go, and which of the second come. -/
structure Hunk where
  left : Nat
  leftCount : Nat
  right : Nat
  rightCount : Nat
  deriving Repr, DecidableEq, Inhabited

/-- The runs of changes in two lists, from two corresponding places on. -/
def hunksFrom (a b : Array Bool) : Nat → Nat → Nat → List Hunk
  | 0, _, _ => []
  | n + 1, i, j =>
    if a.size ≤ i && b.size ≤ j then []
    else
      let x := skipChanged a a.size i
      let y := skipChanged b b.size j
      if x == i && y == j then hunksFrom a b n (i + 1) (j + 1)
      else ⟨i, x - i, j, y - j⟩ :: hunksFrom a b n x y

/-- How many items two lists have in common at the start. -/
def commonBegin {α : Type} [BEq α] : List α → List α → Nat
  | a :: as, b :: bs => if a == b then commonBegin as bs + 1 else 0
  | _, _ => 0

/-- **The runs of changes between two lists.** What is alike at both ends is looked at only as far
as `horizon` says. -/
def hunksBetween {α : Type} [BEq α] (horizon : Nat) (xs ys : List α) : List Hunk :=
  let front := commonBegin xs ys
  let back := commonBegin (xs.drop front).reverse (ys.drop front).reverse
  let skip := front - horizon
  let cut (l : List α) : Array α := ((l.take (l.length - (back - horizon))).drop skip).toArray
  let as := cut xs
  let bs := cut ys
  let (a, b) := changedItems as bs
  let a := movedRuns as b (as.size + 1) a 0 0
  let b := movedRuns bs a (bs.size + 1) b 0 0
  (hunksFrom a b (a.size + b.size + 1) 0 0).map fun h =>
    { h with left := h.left + skip, right := h.right + skip }

end Shell

end CodeAtlas
