/-!
# Progress

A piece of work that is reported to people has a beginning, any number of reports, and one end.
-/

namespace CodeAtlas

/-- What is told of a piece of work. -/
inductive ProgressEvent where
  | began (id : Nat) (title : String)
  | report (id : Nat) (message : Option String) (percent : Option Nat)
  | ended (id : Nat) (message : Option String)
  deriving Repr, DecidableEq, Inhabited

namespace ProgressEvent

/-- A report; there is never more than everything. -/
def reported (id : Nat) (message : Option String) (percent : Option Nat) : ProgressEvent :=
  .report id message (percent.map fun p => min p 100)

/-- A part of a whole as a percentage, rounded down. -/
def percentage (done total : Nat) : Nat :=
  if total == 0 then 100 else min done total * 100 / total

/-- Whether a percentage can be computed in 64 bits. -/
def isCountable (done total : Nat) : Bool :=
  total == 0 || min done total * 100 < 0x10000000000000000

/-- A report of a part of a whole (`report_fraction`). -/
def fraction (id : Nat) (message : Option String) (done total : Nat) : ProgressEvent :=
  reported id message (some (percentage done total))

end ProgressEvent

/-- **Pieces of work under names.** A name that is taken again ends the piece of work it stood
for. -/
structure ProgressBoard where
  next : Nat := 1
  opened : List (String × Nat) := []
  deriving Repr, DecidableEq, Inhabited

namespace ProgressBoard

/-- The board without a name. -/
def without (b : ProgressBoard) (name : String) : ProgressBoard :=
  { b with opened := b.opened.filter fun e => e.1 != name }

/-- What a name tells of its piece of work, if it stands for one. -/
def tell (b : ProgressBoard) (name : String) (event : Nat → ProgressEvent) : List ProgressEvent :=
  (b.opened.lookup name).toList.map event

/-- Begins a piece of work. -/
def start (b : ProgressBoard) (name title : String) : ProgressBoard × List ProgressEvent :=
  ({ next := b.next + 1, opened := (name, b.next) :: (b.without name).opened },
    .began b.next title :: b.tell name fun id => .ended id none)

/-- Reports a part of a whole, if its percentage can be computed. -/
def fraction? (b : ProgressBoard) (name : String) (message : Option String) (done total : Nat) :
    Option (List ProgressEvent) :=
  if (b.opened.lookup name).isNone || ProgressEvent.isCountable done total then
    some (b.tell name fun id => .fraction id message done total)
  else none

/-- Ends a piece of work. -/
def finish (b : ProgressBoard) (name : String) (message : Option String) :
    ProgressBoard × List ProgressEvent :=
  (b.without name, b.tell name fun id => .ended id message)

end ProgressBoard

end CodeAtlas
