import CodeAtlas.Shell.Tools.Lines
import CodeAtlas.Shell.Tools.Sums

/-!
# Digests of files

Tools that print digests and check sums of files, and check them again.

## Architecture

- **Layer A**: digests (`md5sum`, `sha1sum`, `sha256sum`, `sha512sum`);
- **Layer B**: check sums (`cksum`, `sum`).
-/

namespace CodeAtlas

namespace Shell

/-! ## Layer A: digests -/

/-- A line of a list of digests. -/
structure DigestLine where
  digest : String
  file : String

/-- Reads a line of a list of digests of some size. -/
def DigestLine.read? (size : Nat) (line : String) : Option DigestLine :=
  let cs := line.toList
  let digits := cs.takeWhile fun c => c.isDigit || ('a' ≤ c && c ≤ 'f') || ('A' ≤ c && c ≤ 'F')
  match cs.drop digits.length with
  | ' ' :: m :: file =>
    if digits.length == 2 * size && (m == ' ' || m == '*') && !file.isEmpty then
      some ⟨(String.ofList digits).toLower, String.ofList file⟩
    else none
  | _ => none

/-- A warning about a number of things; there is none about zero. -/
def countWarning (c : ToolCall) (n : Nat) (one many : String) : ToolResult :=
  if n == 0 then {}
  else .failing 1 (c.shown ++ ": WARNING: " ++ toString n ++ " " ++ if n == 1 then one else many)

/-- Checks the digests in a list. -/
def checkDigests (c : ToolCall) (g : Given) (digest : Bytes → Bytes) (size : Nat) (list : String)
    (content : Content) : ToolResult :=
  let lines := (bareLines content.toBytes).map Bytes.lossyText
  let read := lines.filterMap (DigestLine.read? size)
  let silent := g.has '='
  let shown (line : String) (good : Bool) : ToolResult :=
    if silent || (good && g.has '+') then {} else .printing (line ++ "\n")
  let results : List (ToolResult × Option Bool) := read.map fun l =>
    match c.contentAt l.file with
    | .error fault =>
      ((ToolResult.failing 1 (plainRefusal c l.file fault)).andThen
        (shown (l.file ++ ": FAILED open or read") false), none)
    | .ok content =>
      let good := Bytes.hex (digest content.toBytes) == l.digest
      (shown (l.file ++ if good then ": OK" else ": FAILED") good, some good)
  let count (r : Option Bool) : Nat := (results.filter (·.2 == r)).length
  if read.isEmpty then
    .failing 1 (c.shown ++ ": " ++ list ++ ": no properly formatted checksum lines found")
  else
    let warnings : List ToolResult := if silent then []
      else
        [countWarning c (lines.length - read.length) "line is improperly formatted"
          "lines are improperly formatted",
         countWarning c (count none) "listed file could not be read"
          "listed files could not be read",
         countWarning c (count (some false)) "computed checksum did NOT match"
          "computed checksums did NOT match"]
    let r := ToolResult.inTurn (results.map (·.1) ++ warnings)
    { r with status := if results.all fun x => x.2 == some true then 0 else 1 }

/-- Prints the digests of files, or checks them. -/
def digestTool (title : String) (size : Nat) (digest : Bytes → Bytes) (c : ToolCall) :
    ToolResult :=
  let table : OptionTable :=
    { plain := "bctwz+=%"
      long := [("check", 'c'), ("binary", 'b'), ("text", 't'), ("warn", 'w'), ("quiet", '+'),
        ("status", '='), ("tag", '%'), ("zero", 'z')] }
  withOptions c 1 table fun g =>
    overFiles c g.operands 1 (plainRefusal c) fun file content =>
      if g.has 'c' then
        checkDigests c g digest size (if file == "-" then "'standard input'" else file) content
      else
        let digits := Bytes.hex (digest content.toBytes)
        .printing ((if g.has '%' then title ++ " (" ++ file ++ ") = " ++ digits
          else digits ++ (if g.has 'b' then " *" else "  ") ++ file)
          ++ if g.has 'z' then "\x00" else "\n")

/-! ## Layer B: check sums -/

/-- One bit more of a remainder of polynomials. -/
def remainderStep (r : UInt32) : UInt32 :=
  if r &&& 0x80000000 == 0 then r <<< 1 else (r <<< 1) ^^^ 0x04c11db7

/-- One byte more of a remainder of polynomials. -/
def remainderByte (r : UInt32) (b : UInt8) : UInt32 :=
  (List.range 8).foldl (fun r _ => remainderStep r) (r ^^^ (b.toUInt32 <<< 24))

/-- The bytes of a number, the lowest first, as many as it needs. -/
def sizeBytes : Nat → Nat → Bytes
  | 0, _ => []
  | fuel + 1, n => if n == 0 then [] else (n % 256).toUInt8 :: sizeBytes fuel (n / 256)

/-- The check sum of bytes and their number. -/
def cyclicSum (bs : Bytes) : Nat :=
  (~~~((bs ++ sizeBytes 8 bs.length).foldl remainderByte 0)).toNat

/-- Prints check sums and sizes of files. -/
def cksumTool (c : ToolCall) : ToolResult :=
  withOptions c 1 {} fun g =>
    overFiles c g.operands 1 (plainRefusal c) fun file content =>
      let bs := content.toBytes
      .printing (toString (cyclicSum bs) ++ " " ++ toString bs.length
        ++ (if g.operands.isEmpty then "" else " " ++ file) ++ "\n")

/-- The check sum that is rotated by one bit for each byte. -/
def rotatedSum (bs : Bytes) : Nat :=
  bs.foldl (fun s b => (s / 2 + s % 2 * 32768 + b.toNat) % 65536) 0

/-- The check sum that adds up bytes and carries over what does not fit. -/
def carriedSum (bs : Bytes) : Nat :=
  let s := bs.foldl (fun n b => n + b.toNat) 0 % 0x100000000
  let r := s % 65536 + s / 65536
  r % 65536 + r / 65536

/-- Prints check sums and numbers of blocks of files. -/
def sumTool (c : ToolCall) : ToolResult :=
  withOptions c 1 { plain := "rs", long := [("sysv", 's')] } fun g =>
    let plain := g.lastOf? ['r', 's'] == some 's'
    overFiles c g.operands 1 (plainRefusal c) fun file content =>
      let bs := content.toBytes
      let name := if g.operands.isEmpty then "" else " " ++ file
      let digits := toString (rotatedSum bs)
      let zeros := String.ofList (List.replicate (5 - digits.length) '0')
      let blocks (size : Nat) : String := toString ((bs.length + size - 1) / size)
      let shown := if plain then toString (carriedSum bs) ++ " " ++ blocks 512
        else zeros ++ digits ++ " " ++ padLeft 5 (blocks 1024)
      .printing (shown ++ name ++ "\n")

end Shell

end CodeAtlas
