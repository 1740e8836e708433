import CodeAtlas.Shell.Tools.Lines

/-!
# Sorting lines

Lines are compared by keys, which are parts of them; a key is compared as bytes or as a number.
Lines with equal keys are compared as a whole at last, unless only the keys count.
-/

namespace CodeAtlas

namespace Shell

/-- How a key is compared. -/
structure KeyStyle where
  numeric : Bool := false
  /-- Numbers have a unit behind them. -/
  human : Bool := false
  reverse : Bool := false
  fold : Bool := false
  /-- Blanks in front do not count. -/
  skipBlanks : Bool := false
  /-- Only blanks, letters and digits count. -/
  dictionary : Bool := false
  /-- Runs of digits are compared as numbers. -/
  versions : Bool := false
  deriving Repr, DecidableEq, Inhabited

/-- The style that letters ask for. -/
def KeyStyle.ofLetters (cs : List Char) : KeyStyle where
  numeric := cs.contains 'n' || cs.contains 'g'
  human := cs.contains 'h'
  reverse := cs.contains 'r'
  fold := cs.contains 'f'
  skipBlanks := cs.contains 'b'
  dictionary := cs.contains 'd'
  versions := cs.contains 'V'

/-- A part of a line: from a field and a byte in it to another. Fields and bytes count from one; a
last byte of zero is the end of its field. -/
structure SortKey where
  first : Nat × Nat
  last : Option (Nat × Nat)
  style : KeyStyle
  deriving Repr, DecidableEq, Inhabited

/-- A position in a key: a field, a byte, and letters. -/
def keyPosition? (cs : List Char) : Option (Nat × Option Nat × List Char) :=
  let field := cs.takeWhile Char.isDigit
  let rest := cs.drop field.length
  let (byte, letters) := match rest with
    | '.' :: rest =>
      let ds := rest.takeWhile Char.isDigit
      (some (valueIn 10 ds), rest.drop ds.length)
    | _ => (none, rest)
  if field.isEmpty || !letters.all "bdfgihnrRMV".toList.contains then none
  else some (valueIn 10 field, byte, letters)

/-- Reads a key. Without letters of its own it is compared like everything else. -/
def sortKey? (common : KeyStyle) (text : String) : Option SortKey :=
  match text.toList.splitOn ',' with
  | [a] => (keyPosition? a).map fun (f, b, ls) =>
      ⟨(f, b.getD 1), none, if ls.isEmpty then common else .ofLetters ls⟩
  | [a, z] =>
    match keyPosition? a, keyPosition? z with
    | some (f, b, ls), some (h, e, ms) =>
      some ⟨(f, b.getD 1), some (h, e.getD 0),
        if (ls ++ ms).isEmpty then common else .ofLetters (ls ++ ms)⟩
    | _, _ => none
  | _ => none

/-- Whether a byte is blank inside of a line. -/
def isBlankByte (b : UInt8) : Bool := b == 32 || b == 9

/-- What is left of a line behind a number of fields. Without a separator a field is a run of blanks
and what follows it. -/
def behindFields (separator : Option UInt8) : Nat → Bytes → Bytes
  | 0, l => l
  | n + 1, l =>
    match separator with
    | some s => behindFields separator n ((l.dropWhile (· != s)).drop 1)
    | none =>
      behindFields separator n ((l.dropWhile isBlankByte).dropWhile fun b => !isBlankByte b)

/-- How far a field reaches from the start of what is left. -/
def fieldLength (separator : Option UInt8) (l : Bytes) : Nat :=
  match separator with
  | some s => (l.takeWhile (· != s)).length
  | none =>
    let blanks := (l.takeWhile isBlankByte).length
    blanks + ((l.drop blanks).takeWhile fun b => !isBlankByte b).length

/-- The part of a line that a key names. -/
def SortKey.cut (k : SortKey) (separator : Option UInt8) (l : Bytes) : Bytes :=
  let from_ := behindFields separator (k.first.1 - 1) l
  let from_ := if k.style.skipBlanks then from_.dropWhile isBlankByte else from_
  let from_ := from_.drop (k.first.2 - 1)
  match k.last with
  | none => from_
  | some (field, byte) =>
    let there := behindFields separator (field - 1) l
    let left := if byte == 0 then there.drop (fieldLength separator there) else there.drop byte
    from_.take (from_.length - left.length)

/-- A number at the start of bytes, as a numerator over `10 ^ places`. -/
def leadingNumber (bs : Bytes) : Int × Nat :=
  let cs := (bs.dropWhile isBlankByte).map fun b => Char.ofNat b.toNat
  let (negative, cs) := match cs with
    | '-' :: rest => (true, rest)
    | _ => (false, cs)
  let whole := cs.takeWhile Char.isDigit
  let places := match cs.drop whole.length with
    | '.' :: rest => rest.takeWhile Char.isDigit
    | _ => []
  let n := Int.ofNat (valueIn 10 (whole ++ places))
  (if negative then -n else n, places.length)

/-- Compares numbers at the start of bytes. -/
def compareNumbers (a b : Bytes) : Ordering :=
  let (m, i) := leadingNumber a
  let (n, j) := leadingNumber b
  compare (m * Nat.pow 10 j) (n * Nat.pow 10 i)

/-- The place of the unit behind a number among all units. -/
def unitRank (bs : Bytes) : Nat :=
  let isPart (b : UInt8) : Bool := (48 ≤ b && b ≤ 57) || b == 46 || b == 45
  match ((bs.dropWhile isBlankByte).dropWhile isPart).head? with
  | some b => (("KMGTPEZY".toList.findIdx? fun c => c.toNat == b.toNat
      || c.toLower.toNat == b.toNat).map (· + 1)).getD 0
  | none => 0

/-- Compares bytes, runs of digits as numbers. -/
def compareVersions : Nat → Bytes → Bytes → Ordering
  | 0, _, _ => .eq
  | _ + 1, [], [] => .eq
  | _ + 1, [], _ => .lt
  | _ + 1, _, [] => .gt
  | fuel + 1, a :: as, b :: bs =>
    let digit (x : UInt8) : Bool := 48 ≤ x && x ≤ 57
    if digit a && digit b then
      let ds := (a :: as).takeWhile digit
      let es := (b :: bs).takeWhile digit
      let value (xs : Bytes) : Nat := xs.foldl (fun n x => n * 10 + (x.toNat - 48)) 0
      (compare (value ds) (value es)).then
        (compareVersions fuel ((a :: as).drop ds.length) ((b :: bs).drop es.length))
    else (compare a b).then (compareVersions fuel as bs)

/-- Compares two keys. -/
def KeyStyle.compare (s : KeyStyle) (a b : Bytes) : Ordering :=
  let order :=
    if s.human then
      (Ord.compare (unitRank a) (unitRank b)).then (compareNumbers a b)
    else if s.numeric then compareNumbers a b
    else if s.versions then compareVersions (a.length + b.length + 1) a b
    else
      let seen (l : Bytes) : List Nat :=
        let l := if s.dictionary then l.filter fun x =>
          isBlankByte x || (byteClass? "alnum").any (· x) else l
        l.map fun x => if s.fold && 97 ≤ x && x ≤ 122 then x.toNat - 32 else x.toNat
      Ord.compare (seen a) (seen b)
  if s.reverse then order.swap else order

/-- How lines are sorted. -/
structure SortOrder where
  separator : Option UInt8
  keys : List SortKey
  common : KeyStyle
  /-- Whether lines with equal keys keep their order. -/
  stable : Bool

/-- Compares lines by their keys. -/
def SortOrder.byKeys (o : SortOrder) (a b : Bytes) : Ordering :=
  if o.keys.isEmpty then
    let strip (l : Bytes) : Bytes := if o.common.skipBlanks then l.dropWhile isBlankByte else l
    o.common.compare (strip a) (strip b)
  else o.keys.foldl (fun r k =>
    r.then (k.style.compare (k.cut o.separator a) (k.cut o.separator b))) .eq

/-- Compares lines. -/
def SortOrder.compare (o : SortOrder) (a b : Bytes) : Ordering :=
  let last := Ord.compare (a.map UInt8.toNat) (b.map UInt8.toNat)
  (o.byKeys a b).then
    (if o.stable then .eq else if o.common.reverse then last.swap else last)

/-- The first line that stands behind a larger one, with its number. -/
def firstDisorder (o : SortOrder) (strict : Bool) : Nat → List Bytes → Option (Nat × Bytes)
  | n, a :: b :: rest =>
    let order := o.compare a b
    if order == .gt || (strict && o.byKeys a b == .eq) then some (n + 1, b)
    else firstDisorder o strict (n + 1) (b :: rest)
  | _, _ => none

/-- **Sorts the lines of files.** -/
def sortTool (c : ToolCall) : ToolResult :=
  let table : OptionTable :=
    { plain := "nrufbcCshgdiVmzM", valued := "ktoST"
      long := [("numeric-sort", 'n'), ("reverse", 'r'), ("unique", 'u'), ("ignore-case", 'f'),
        ("ignore-leading-blanks", 'b'), ("check", 'c'), ("stable", 's'), ("key", 'k'),
        ("field-separator", 't'), ("output", 'o'), ("human-numeric-sort", 'h'),
        ("general-numeric-sort", 'g'), ("dictionary-order", 'd'), ("version-sort", 'V')] }
  withOptions c 2 table fun g =>
    let common := KeyStyle.ofLetters (g.options.map (·.1))
    let separator := (g.value? 't').map Bytes.ofText
    match (g.values 'k').mapM (sortKey? common) with
    | none =>
      .failing 2 (c.shown ++ ": invalid number at field start: invalid count at start of '"
        ++ (g.value? 'k').getD "" ++ "'")
    | some keys =>
      if separator.any fun s => s.length != 1 && s != [92, 48] then
        .failing 2 (c.shown ++ ": multi-character tab '" ++ (g.value? 't').getD "" ++ "'")
      else
        let o : SortOrder :=
          ⟨separator.bind List.head?, keys, common, g.has 's' || g.has 'u'⟩
        let files := orInput g.operands
        match (c.contents files).mapM fun x => x.2.mapError fun fault => (x.1, fault) with
        | .error (f, fault) =>
          .failing 2 (c.shown ++ (if fault == .isDirectory then ": read failed: "
            else ": cannot read: ") ++ f ++ ": " ++ reason fault)
        | .ok contents =>
          let ls := contents.flatMap fun content => bareLines content.toBytes
          let left := if files.contains "-" then some [] else none
          if g.has 'c' || g.has 'C' then
            match firstDisorder o (g.has 'u') 1 ls with
            | none => { left := left }
            | some (n, l) =>
              let told := c.shown ++ ": " ++ files.headD "-" ++ ":" ++ toString n ++ ": disorder: "
                ++ Bytes.lossyText l
              { (if g.has 'C' then { status := 1 } else ToolResult.failing 1 told) with
                left := left }
          else
            let sorted := ls.mergeSort fun a b => o.compare a b != .gt
            let sorted := if g.has 'u' then dropRepeats (fun a b => o.byKeys a b == .eq) sorted
              else sorted
            let out := endedLines sorted
            match g.value? 'o' with
            | none => { ToolResult.bytes out with left := left }
            | some file =>
              match c.files.disk.write (c.files.path file) ⟨out, 0⟩ with
              | .ok d => { disk := some d, left := left }
              | .error fault => .failing 2 (c.shown ++ ": open failed: " ++ file ++ ": "
                  ++ reason fault)

end Shell

end CodeAtlas
