import CodeAtlas.Shell.Tools.Tr

/-!
# Tools for bytes

Tools that look at bytes one by one: they show and copy them.

## Architecture

- **Layer A**: dumps (`od`);
- **Layer B**: copies (`dd`);
- **Layer C**: encodings (`base64`).
-/

namespace CodeAtlas

namespace Shell

/-! ## Layer A: dumps -/

/-- How `od` shows a group of bytes. -/
structure DumpStyle where
  /-- The number of bytes in a group. -/
  size : Nat
  /-- The width of a column, with its gap. -/
  width : Nat
  render : Bytes → String

/-- A byte as a character, an escape, or in octal digits. -/
def dumpedChar (b : UInt8) : String :=
  match b.toNat with
  | 0 => "\\0"
  | 7 => "\\a"
  | 8 => "\\b"
  | 9 => "\\t"
  | 10 => "\\n"
  | 11 => "\\v"
  | 12 => "\\f"
  | 13 => "\\r"
  | n => if 32 ≤ n && n < 127 then String.singleton (Char.ofNat n) else zeroPadded 8 3 n

/-- A style for numbers of some size in a base. -/
def numberDump (size base digits : Nat) : DumpStyle :=
  ⟨size, digits + 1, fun bs => zeroPadded base digits (Bytes.toNat bs)⟩

/-- A style for decimal numbers. -/
def decimalDump (size width : Nat) (signed : Bool) : DumpStyle :=
  ⟨size, width + 1, fun bs =>
    let n := Bytes.toNat bs
    let limit := Nat.pow 256 size
    if signed && limit / 2 ≤ n then "-" ++ toString (limit - n) else toString n⟩

/-- The style that a type names. -/
def dumpStyle? (type : String) : Option DumpStyle :=
  match type with
  | "c" => some ⟨1, 4, fun bs => dumpedChar (bs.headD 0)⟩
  | "x1" => some (numberDump 1 16 2)
  | "x2" => some (numberDump 2 16 4)
  | "x4" => some (numberDump 4 16 8)
  | "x" => some (numberDump 4 16 8)
  | "o1" => some (numberDump 1 8 3)
  | "o2" => some (numberDump 2 8 6)
  | "o" => some (numberDump 4 8 11)
  | "u1" => some (decimalDump 1 3 false)
  | "u2" => some (decimalDump 2 5 false)
  | "d1" => some (decimalDump 1 4 true)
  | "d2" => some (decimalDump 2 6 true)
  | "d4" => some (decimalDump 4 11 true)
  | "d" => some (decimalDump 4 11 true)
  | _ => none

/-- The rows of a dump, each with the place of its first byte. -/
def dumpRows (width : Nat) : Nat → Nat → Bytes → List (Nat × Bytes)
  | 0, _, _ => []
  | _ + 1, _, [] => []
  | fuel + 1, at_, bs =>
    (at_, bs.take width) :: dumpRows width fuel (at_ + width) (bs.drop width)

/-- The groups of a row. -/
def groupsOf (size : Nat) : Nat → Bytes → List Bytes
  | 0, _ => []
  | _ + 1, [] => []
  | fuel + 1, bs => bs.take size :: groupsOf size fuel (bs.drop size)

/-- Shows bytes as numbers or characters. Rows like the one before are left out. -/
def odTool (c : ToolCall) : ToolResult :=
  let table : OptionTable :=
    { plain := "cxobdv", valued := "ANtjw"
      long := [("address-radix", 'A'), ("format", 't'), ("read-bytes", 'N'),
        ("skip-bytes", 'j'), ("width", 'w'), ("output-duplicates", 'v')] }
  withOptions c 1 table fun g =>
    let styles := g.options.filterMap fun o =>
      match o.1 with
      | 't' => some o.2
      | 'c' => some "c"
      | 'x' => some "x2"
      | 'o' => some "o2"
      | 'b' => some "o1"
      | 'd' => some "u2"
      | _ => none
    let styles := if styles.isEmpty then ["o2"] else styles
    match styles.mapM dumpStyle? with
    | none => .failing 1 (c.shown ++ ": invalid type string '" ++ styles.headD "" ++ "'")
    | some styles =>
      let r := allBytes c g.operands 1 (plainRefusal c)
      let skipped := r.output.drop (((g.value? 'j').bind sized?).getD 0)
      let start := ((g.value? 'j').bind sized?).getD 0
      let bs := match (g.value? 'N').bind sized? with
        | some n => skipped.take n
        | none => skipped
      let width := ((g.value? 'w').bind decimal?).getD 16
      let address (n : Nat) : String :=
        match g.value? 'A' with
        | some "n" => ""
        | some "d" => zeroPadded 10 7 n
        | some "x" => zeroPadded 16 6 n
        | _ => zeroPadded 8 7 n
      let widest := (styles.map fun s => s.width * 8 / s.size).foldl max 0
      let body (row : Bytes) (s : DumpStyle) : String :=
        "".intercalate ((groupsOf s.size row.length row).map fun b =>
          padLeft (widest * s.size / 8) (s.render b))
      let lines (x : Nat × Bytes) : String :=
        "".intercalate (styles.zipIdx.map fun s =>
          (if s.2 == 0 then address x.1
            else String.ofList (List.replicate (address x.1).length ' '))
            ++ body x.2 s.1 ++ "\n")
      let rows := dumpRows width bs.length start bs
      let (text, _) := rows.foldl (fun (acc : String × Option Bytes × Bool) x =>
        let (text, before, starred) := acc
        if !g.has 'v' && before == some x.2 && x.2.length == width then
          (if starred then text else text ++ "*\n", before, true)
        else (text ++ lines x, some x.2, false)) ("", none, false)
      let close := if g.value? 'A' == some "n" then "" else address (start + bs.length) ++ "\n"
      r.withOutput (ascii (text ++ close))

/-! ## Layer B: copies -/

/-- Copies bytes of a file or the input to another file or the output. -/
def ddTool (c : ToolCall) : ToolResult :=
  let setting (name : String) : Option String :=
    (c.args.reverse.find? (·.startsWith (name ++ "="))).map fun a =>
      String.ofList (a.toList.drop (name.length + 1))
  let size (name : String) (usual : Nat) : Nat := ((setting name).bind sized?).getD usual
  let block := size "bs" (size "ibs" 512)
  let source := match setting "if" with
    | some f => c.contentAt f
    | none => .ok ⟨c.input, 0⟩
  match source with
  | .error fault =>
    .failing 1 (c.shown ++ ": failed to open '" ++ (setting "if").getD "" ++ "': " ++ reason fault)
  | .ok content =>
    let skip := size "skip" 0 * block
    let limit := (setting "count").bind sized?
    let taken := match limit with
      | some n => (content.written.drop skip).take (n * block)
          ++ List.replicate (min content.hole (n * block - (content.written.length - skip))) 0
      | none => content.toBytes.drop skip
    let taken := if setting "conv" == some "ucase" then
        taken.map fun b => if 97 ≤ b && b ≤ 122 then b - 32 else b
      else if setting "conv" == some "lcase" then
        taken.map fun b => if 65 ≤ b && b ≤ 90 then b + 32 else b
      else taken
    let whole := taken.length / block
    let part := if taken.length % block == 0 then 0 else 1
    let records := toString whole ++ "+" ++ toString part
    let told := if setting "status" == some "none" then []
      else [(2, ascii (records ++ " records in\n" ++ records ++ " records out\n"))]
    let left := if (setting "if").isNone then some (c.input.drop (skip + taken.length)) else none
    match setting "of" with
    | none => { writes := (1, taken) :: told, left := left }
    | some f =>
      let kept := if setting "conv" == some "notrunc" then
        match c.files.disk.read (c.files.path f) with
        | .ok old => old.toBytes.drop taken.length
        | .error _ => []
        else []
      if (c.files.path f).text == "/dev/null" then { writes := told, left := left }
      else
        match c.files.disk.write (c.files.path f) ⟨taken ++ kept, 0⟩ with
        | .ok d => { writes := told, disk := some d, left := left }
        | .error fault =>
          .failing 1 (c.shown ++ ": failed to open '" ++ f ++ "': " ++ reason fault)

/-! ## Layer C: encodings -/

/-- The digits of base sixty-four. -/
def sixtyFour : List Char :=
  "ABCDEFGHIJKLMNOPQRSTUVWXYZabcdefghijklmnopqrstuvwxyz0123456789+/".toList

/-- Bytes in digits of base sixty-four. -/
def inSixtyFour : Bytes → List Char
  | [] => []
  | [a] =>
    let n := a.toNat * 16
    [sixtyFour.getD (n / 64) 'A', sixtyFour.getD (n % 64) 'A', '=', '=']
  | [a, b] =>
    let n := (a.toNat * 256 + b.toNat) * 4
    [sixtyFour.getD (n / 4096) 'A', sixtyFour.getD (n / 64 % 64) 'A',
      sixtyFour.getD (n % 64) 'A', '=']
  | a :: b :: d :: rest =>
    let n := (a.toNat * 256 + b.toNat) * 256 + d.toNat
    sixtyFour.getD (n / 262144) 'A' :: sixtyFour.getD (n / 4096 % 64) 'A'
      :: sixtyFour.getD (n / 64 % 64) 'A' :: sixtyFour.getD (n % 64) 'A' :: inSixtyFour rest

/-- The bytes of digits of base sixty-four, as far as they are digits. -/
def ofSixtyFour (cs : List Char) : Bytes :=
  let ds := (cs.takeWhile (· != '=')).filterMap fun c => sixtyFour.findIdx? (· == c)
  let (bs, _, _) := ds.foldl (fun (acc : Bytes × Nat × Nat) d =>
    let (bs, bits, n) := acc
    let bits := bits * 64 + d
    if n == 0 then (bs, bits, 6)
    else
      let unit := Nat.pow 2 (n - 2)
      (bs ++ [(bits / unit % 256).toUInt8], bits % unit, n - 2)) ([], 0, 0)
  bs

/-- Encodes files in base sixty-four, or decodes them. -/
def base64Tool (c : ToolCall) : ToolResult :=
  let table : OptionTable :=
    { plain := "di", valued := "w", long := [("decode", 'd'), ("wrap", 'w')] }
  withOptions c 1 table fun g =>
    let r := allBytes c g.operands 1 (plainRefusal c)
    if g.has 'd' then
      r.withOutput (ofSixtyFour (r.output.map fun b => Char.ofNat b.toNat))
    else
      let digits := (inSixtyFour r.output).map fun d => d.toNat.toUInt8
      let width := ((g.value? 'w').bind decimal?).getD 76
      if width == 0 then r.withOutput digits
      else r.withOutput (endedLines ((dumpRows width digits.length 0 digits).map (·.2)))

end Shell

end CodeAtlas
