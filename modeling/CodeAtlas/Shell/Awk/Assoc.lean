import CodeAtlas.Bytes.Basic
import CodeAtlas.Shell.Awk.Value
import Std.Data.HashMap

/-!
# Arrays by key

An array gives values to keys, which are texts or whole numbers. A loop over its keys takes them
slot by slot, where the slot of a key comes from its hash and a key that was used last stands first
in its slot. Keys that were only used as numbers have slots of their own, from which they enter
those of the texts as soon as a text is looked up or a loop begins.

## Architecture

- **Layer A**: hashes and slots;
- **Layer B**: arrays;
- **Layer C**: looking up;
- **Layer D**: changing and listing.
-/

namespace CodeAtlas

namespace Shell

namespace Awk

/-! ## Layer A: slots -/

/-- The hash of a text: byte by byte, an exclusive or and then a product, in 32 bits. -/
def hashOf (bs : Bytes) : Nat :=
  (bs.foldl (fun (h : UInt32) b => (h ^^^ b.toUInt32) * 16777619) 2166136261).toNat

/-- Slots with keys. -/
abbrev Slots (κ : Type) := Array (List κ)

namespace Slots

variable {κ : Type} [BEq κ]

/-- Slots without keys. -/
def ofSize (n : Nat) : Slots κ := Array.replicate n []

/-- Puts a key in front of its slot. -/
def toFront (s : Slots κ) (slot : Nat) (k : κ) : Slots κ :=
  s.modify slot fun ks => k :: ks.erase k

/-- Twice as many slots. The keys of a slot keep their order. -/
def doubled (s : Slots κ) (slotOf : Nat → κ → Nat) : Slots κ :=
  let n := 2 * s.size
  let part (upper : Bool) (i : Nat) (ks : List κ) : List κ :=
    ks.filter fun k => (slotOf n k != i) == upper
  s.mapIdx (part false) ++ s.mapIdx (part true)

end Slots

/-- A key: a text, or a whole number. -/
inductive Key where
  | text (bs : Bytes)
  | number (n : Int)
  deriving Repr, DecidableEq, Inhabited

/-- The text of a key. -/
def Key.toText : Key → Bytes
  | text bs => bs
  | number n => Bytes.ofText (toString n)

/-- The slot of a text. -/
def textSlot (size : Nat) (bs : Bytes) : Nat := hashOf bs % size

/-- The slot of a number. -/
def numberSlot (size : Nat) (n : Int) : Nat := (n % size).toNat

/-! ## Layer B: arrays -/

/-- The number of slots of a new array. -/
def firstSlots : Nat := 64

/-- How many keys there are for each slot before the slots are doubled. -/
def keysPerSlot : Nat := 12

/-- **An array.** -/
structure Assoc where
  values : Std.HashMap Bytes Value := {}
  /-- Whether the keys are the numbers from one on, and no slots are in use. -/
  isSequence : Bool := false
  /-- Whether all keys are in the slots of texts. -/
  hasTexts : Bool := false
  texts : Slots Bytes := .ofSize firstSlots
  numbers : Slots Int := .ofSize firstSlots

namespace Assoc

instance : Inhabited Assoc := ⟨{}⟩

/-- How many keys there are. -/
def size (a : Assoc) : Nat := a.values.size

/-- The array of values that are numbered from one on. -/
def ofList (vs : List Value) : Assoc :=
  { values := Std.HashMap.ofList (vs.zipIdx.map fun x => (Bytes.ofText (toString (x.2 + 1)), x.1))
    isSequence := !vs.isEmpty }

/-- How many slots are needed for a number of keys. -/
def slotsFor (keys : Nat) : Nat → Nat → Nat
  | 0, n => n
  | fuel + 1, n => if keysPerSlot * n < keys then slotsFor keys fuel (2 * n) else n

/-- The array with its numbers in slots. -/
def withNumbers (a : Assoc) : Assoc :=
  if !a.isSequence then a
  else
    let n := slotsFor a.size a.size firstSlots
    { a with
      isSequence := false
      numbers := (List.range a.size).foldl
        (fun s (i : Nat) => s.toFront (numberSlot n (i + 1)) (i + 1)) (Slots.ofSize n)
      texts := .ofSize n }

/-- The array with all keys in the slots of texts. -/
def withTexts (a : Assoc) : Assoc :=
  if a.hasTexts then a
  else
    let a := a.withNumbers
    let keys := (a.numbers.toList.flatten).map fun n => Key.toText (.number n)
    { a with
      hasTexts := true
      texts := keys.foldl (fun s k => s.toFront (textSlot s.size k) k) a.texts }

/-! ## Layer C: looking up -/

/-- The array with more slots if it has many keys. -/
def grown (a : Assoc) : Assoc :=
  if keysPerSlot * a.texts.size < a.size then
    { a with texts := a.texts.doubled textSlot, numbers := a.numbers.doubled numberSlot }
  else a

/-- Whether a key has a value. -/
def contains (a : Assoc) (k : Key) : Bool := a.values.contains k.toText

/-- The array in which a text was used, if it is a key or may become one. -/
def usedText (a : Assoc) (bs : Bytes) (create : Bool) : Assoc :=
  let a := a.withTexts
  if a.values.contains bs then { a with texts := a.texts.toFront (textSlot a.texts.size bs) bs }
  else if create then
    let a := { a with values := a.values.insert bs .missing }.grown
    { a with texts := a.texts.toFront (textSlot a.texts.size bs) bs }
  else a

/-- The array in which a number was used, if it is a key or may become one. -/
def usedNumber (a : Assoc) (n : Int) (create : Bool) : Assoc :=
  let k := Key.toText (.number n)
  if a.isSequence && a.values.contains k then a
  else if a.isSequence && !create then a
  else
    let a := a.withNumbers
    let isThere := (a.numbers.getD (numberSlot a.numbers.size n) []).contains n
    let front (a : Assoc) : Assoc :=
      { a with numbers := a.numbers.toFront (numberSlot a.numbers.size n) n }
    if isThere then front a
    else if a.hasTexts then
      let a := a.usedText k create
      if a.values.contains k then front a else a
    else if create then front { a with values := a.values.insert k .missing }.grown
    else a

/-- The array in which a key was used. With `create` it becomes a key. -/
def used (a : Assoc) (k : Key) (create : Bool) : Assoc :=
  if a.size == 0 && !create then a
  else
    match k with
    | .text bs => a.usedText bs create
    | .number n => a.usedNumber n create

/-- The value of a key. -/
def get (a : Assoc) (k : Key) : Value := a.values.getD k.toText .missing

/-! ## Layer D: changing and listing -/

/-- Gives a value to a key. -/
def set (a : Assoc) (k : Key) (v : Value) : Assoc :=
  let a := a.used k true
  { a with values := a.values.insert k.toText v }

/-- Takes a key away. -/
def erase (a : Assoc) (k : Key) : Assoc :=
  if !a.contains k then a.used k false
  else
    let a := (if a.isSequence then a.withNumbers else a).used k false
    let text := k.toText
    let left := { a with
      values := a.values.erase text
      texts := a.texts.map (·.erase text)
      numbers := a.numbers.map (·.filter fun n => Key.toText (.number n) != text) }
    if left.size == 0 then {} else left

/-- The keys in the order of a loop. -/
def keys (a : Assoc) : List Bytes × Assoc :=
  if a.size == 0 then ([], a)
  else
    let a := a.withTexts
    (a.texts.toList.flatten, a)

end Assoc

end Awk

end Shell

end CodeAtlas
