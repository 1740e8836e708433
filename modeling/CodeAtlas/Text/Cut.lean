import CodeAtlas.Text.Character

/-!
# Cuts by bytes

Parts of a text between two offsets that count bytes. An offset inside of a character cuts nothing.
-/

namespace CodeAtlas

/-- An offset inside of a character. -/
structure CutFault where
  /-- Whether it is the offset at which the part begins. -/
  atStart : Bool
  offset : Nat
  char : Char
  /-- The offset of the character. -/
  first : Nat
  deriving Repr, DecidableEq, Inhabited

/-- The wording of a fault. -/
def CutFault.message (f : CutFault) : String :=
  let shown := String.ofList (Quoted.escape f.char)
  let last := f.first + f.char.utf8Size
  (if f.atStart then "start" else "end") ++ " byte index " ++ toString f.offset
    ++ " is not a char boundary; it is inside '" ++ shown ++ "' (bytes " ++ toString f.first ++ ".."
    ++ toString last ++ " of string)"

/-- The number of bytes of characters. -/
def bytesOf (cs : List Char) : Nat := cs.foldl (fun n c => n + c.utf8Size) 0

/-- The character that an offset lies inside of, with its own offset; `at_` is that of the first
character. -/
def charAround? (offset : Nat) : (at_ : Nat) → List Char → Option (Char × Nat)
  | _, [] => none
  | at_, c :: rest =>
    if at_ < offset && offset < at_ + c.utf8Size then some (c, at_)
    else charAround? offset (at_ + c.utf8Size) rest

/-- The characters whose offsets lie between two. -/
def charsBetween (start stop : Nat) : (at_ : Nat) → List Char → List Char
  | _, [] => []
  | at_, c :: rest =>
    let tail := charsBetween start stop (at_ + c.utf8Size) rest
    if start ≤ at_ && at_ < stop then c :: tail else tail

/-- **The part of a text between two offsets.** -/
def bytesBetween (cs : List Char) (start stop : Nat) : Except CutFault (List Char) :=
  match charAround? start 0 cs, charAround? stop 0 cs with
  | some (c, first), _ => .error ⟨true, start, c, first⟩
  | none, some (c, first) => .error ⟨false, stop, c, first⟩
  | none, none => .ok (charsBetween start stop 0 cs)

end CodeAtlas
