import CodeAtlas.Digest.Sha256

/-!
# Digests that tools print

Digests of 64, of 20 and of 16 bytes. In all of them a message is padded to blocks, and each block
is mixed into a few words of state.

## Architecture

- **Layer A**: the 512-bit member of the second family of secure hash algorithms, with eight words
  of state and 80 rounds; the constants are the first bits behind the point of roots of the first
  primes;
- **Layer B**: the first of the secure hash algorithms, with five words of state and 80 rounds;
- **Layer C**: the fifth message digest, with four words of state and 64 rounds; words have their
  lowest byte first.
-/

namespace CodeAtlas

namespace Shell

/-! ## Layer A: SHA-512 -/

namespace Sha512

/-- The largest number with some power that is at most another number, below a power of two. -/
def root (power : Nat) (n : Nat) : Nat → Nat → Nat
  | 0, r => r
  | bit + 1, r =>
    let next := r + Nat.pow 2 bit
    root power n bit (if Nat.pow next power ≤ n then next else r)

/-- The first 64 bits behind the point of a root. -/
def fractionOfRoot (power p : Nat) : UInt64 :=
  (root power (p * Nat.pow 2 (64 * power)) 80 0).toUInt64

/-- Whether a number is prime. -/
def isPrime (n : Nat) : Bool := 2 ≤ n && (List.range n).all fun d => d < 2 || n % d != 0

/-- The first 80 primes. -/
def primes : List Nat := (List.range 410).filter isPrime

/-- The state: eight words. -/
structure State where
  a : UInt64
  b : UInt64
  c : UInt64
  d : UInt64
  e : UInt64
  f : UInt64
  g : UInt64
  h : UInt64
  deriving Repr, DecidableEq, Inhabited

/-- The words of a state. -/
def State.words (s : State) : List UInt64 := [s.a, s.b, s.c, s.d, s.e, s.f, s.g, s.h]

/-- The state with some words. -/
def State.ofWords (ws : List UInt64) : State :=
  let w (i : Nat) : UInt64 := ws.getD i 0
  ⟨w 0, w 1, w 2, w 3, w 4, w 5, w 6, w 7⟩

/-- The state before the first block. -/
def initial : State := .ofWords ((primes.take 8).map (fractionOfRoot 2))

/-- The state before the first block of the variant with 384 bits. -/
def initialShort : State := .ofWords (((primes.drop 8).take 8).map (fractionOfRoot 2))

/-- The round constants. -/
def constants : List UInt64 := primes.map (fractionOfRoot 3)

/-- Rotation to the right. -/
def rotate (x : UInt64) (n : UInt64) : UInt64 := (x >>> n) ||| (x <<< (64 - n))

/-- The message as it is hashed: a one bit, zeros up to a full block, and the length in bits. -/
def pad (message : Bytes) : Bytes :=
  let n := message.length
  let zeros := (239 - n % 128) % 128
  message ++ 0x80 :: List.replicate zeros 0 ++ (Bytes.littleEndian 16 (8 * n)).reverse

/-- Groups of eight bytes as words, the highest byte first. -/
def words : Nat → Bytes → List UInt64
  | 0, _ => []
  | _ + 1, [] => []
  | n + 1, bs => (Bytes.toNat (bs.take 8).reverse).toUInt64 :: words n (bs.drop 8)

/-- The next word of the schedule, from the words before it, the last one first. -/
def nextWord (w : List UInt64) : UInt64 :=
  let x := w.getD 14 0
  let y := w.getD 1 0
  let s0 := rotate x 1 ^^^ rotate x 8 ^^^ (x >>> 7)
  let s1 := rotate y 19 ^^^ rotate y 61 ^^^ (y >>> 6)
  w.getD 15 0 + s0 + w.getD 6 0 + s1

/-- Puts more words in front of a reversed schedule. -/
def extend : Nat → List UInt64 → List UInt64
  | 0, w => w
  | n + 1, w => extend n (nextWord w :: w)

/-- One round. -/
def round (s : State) (kw : UInt64 × UInt64) : State :=
  let s1 := rotate s.e 14 ^^^ rotate s.e 18 ^^^ rotate s.e 41
  let choice := (s.e &&& s.f) ^^^ (~~~s.e &&& s.g)
  let t1 := s.h + s1 + choice + kw.1 + kw.2
  let s0 := rotate s.a 28 ^^^ rotate s.a 34 ^^^ rotate s.a 39
  let majority := (s.a &&& s.b) ^^^ (s.a &&& s.c) ^^^ (s.b &&& s.c)
  ⟨t1 + (s0 + majority), s.a, s.b, s.c, s.d + t1, s.e, s.f, s.g⟩

/-- Mixes one block into the state. -/
def compress (s : State) (block : List UInt64) : State :=
  let t := (constants.zip (extend 64 block.reverse).reverse).foldl round s
  .ofWords ((s.words.zip t.words).map fun x => x.1 + x.2)

/-- Mixes all blocks of sixteen words into the state. -/
def compressAll : (blocks : Nat) → State → List UInt64 → State
  | 0, s, _ => s
  | n + 1, s, ws => compressAll n (compress s (ws.take 16)) (ws.drop 16)

/-- The bytes of the state after a message, from a state on. -/
def digestFrom (start : State) (message : Bytes) : Bytes :=
  let bs := pad message
  let ws := words bs.length bs
  (compressAll (ws.length / 16) start ws).words.flatMap fun w =>
    (Bytes.littleEndian 8 w.toNat).reverse

/-- **The 64 bytes of the digest of a message.** -/
def digest (message : Bytes) : Bytes := digestFrom initial message

/-- The 48 bytes of the shorter digest of a message. -/
def shortDigest (message : Bytes) : Bytes := (digestFrom initialShort message).take 48

end Sha512

/-! ## Layer B: SHA-1 -/

namespace Sha1

/-- The state: five words. -/
structure State where
  a : UInt32
  b : UInt32
  c : UInt32
  d : UInt32
  e : UInt32
  deriving Repr, DecidableEq, Inhabited

/-- The state before the first block. -/
def initial : State := ⟨0x67452301, 0xefcdab89, 0x98badcfe, 0x10325476, 0xc3d2e1f0⟩

/-- Rotation to the left. -/
def rotate (x : UInt32) (n : UInt32) : UInt32 := (x <<< n) ||| (x >>> (32 - n))

/-- Puts more words in front of a reversed schedule. -/
def extend : Nat → List UInt32 → List UInt32
  | 0, w => w
  | n + 1, w =>
    extend n (rotate (w.getD 2 0 ^^^ w.getD 7 0 ^^^ w.getD 13 0 ^^^ w.getD 15 0) 1 :: w)

/-- The 80 words that one block contributes, each with the number of its round. -/
def schedule (block : List UInt32) : List (UInt32 × Nat) := (extend 64 block.reverse).reverse.zipIdx

/-- The constant of a round, and how it mixes three words. -/
def mixed (round : Nat) (b c d : UInt32) : UInt32 :=
  if round < 20 then ((b &&& c) ||| (~~~b &&& d)) + 0x5a827999
  else if round < 40 then (b ^^^ c ^^^ d) + 0x6ed9eba1
  else if round < 60 then ((b &&& c) ||| (b &&& d) ||| (c &&& d)) + 0x8f1bbcdc
  else (b ^^^ c ^^^ d) + 0xca62c1d6

/-- One round. -/
def round (s : State) (w : UInt32 × Nat) : State :=
  ⟨rotate s.a 5 + mixed w.2 s.b s.c s.d + s.e + w.1, s.a, rotate s.b 30, s.c, s.d⟩

/-- Mixes one block into the state. -/
def compress (s : State) (block : List UInt32) : State :=
  let t := (schedule block).foldl round s
  ⟨s.a + t.a, s.b + t.b, s.c + t.c, s.d + t.d, s.e + t.e⟩

/-- Mixes all blocks of sixteen words into the state. -/
def compressAll : (blocks : Nat) → State → List UInt32 → State
  | 0, s, _ => s
  | n + 1, s, ws => compressAll n (compress s (ws.take 16)) (ws.drop 16)

/-- **The 20 bytes of the digest of a message.** -/
def digest (message : Bytes) : Bytes :=
  let ws := Sha256.words (Sha256.pad message)
  let s := compressAll (ws.length / 16) initial ws
  [s.a, s.b, s.c, s.d, s.e].flatMap Sha256.wordBytes

end Sha1

/-! ## Layer C: MD5 -/

namespace Md5

/-- The state: four words. -/
structure State where
  a : UInt32
  b : UInt32
  c : UInt32
  d : UInt32
  deriving Repr, DecidableEq, Inhabited

/-- The state before the first block. -/
def initial : State := ⟨0x67452301, 0xefcdab89, 0x98badcfe, 0x10325476⟩

/-- The round constants. -/
def constants : List UInt32 :=
  [0xd76aa478, 0xe8c7b756, 0x242070db, 0xc1bdceee, 0xf57c0faf, 0x4787c62a, 0xa8304613, 0xfd469501,
   0x698098d8, 0x8b44f7af, 0xffff5bb1, 0x895cd7be, 0x6b901122, 0xfd987193, 0xa679438e, 0x49b40821,
   0xf61e2562, 0xc040b340, 0x265e5a51, 0xe9b6c7aa, 0xd62f105d, 0x02441453, 0xd8a1e681, 0xe7d3fbc8,
   0x21e1cde6, 0xc33707d6, 0xf4d50d87, 0x455a14ed, 0xa9e3e905, 0xfcefa3f8, 0x676f02d9, 0x8d2a4c8a,
   0xfffa3942, 0x8771f681, 0x6d9d6122, 0xfde5380c, 0xa4beea44, 0x4bdecfa9, 0xf6bb4b60, 0xbebfbc70,
   0x289b7ec6, 0xeaa127fa, 0xd4ef3085, 0x04881d05, 0xd9d4d039, 0xe6db99e5, 0x1fa27cf8, 0xc4ac5665,
   0xf4292244, 0x432aff97, 0xab9423a7, 0xfc93a039, 0x655b59c3, 0x8f0ccc92, 0xffeff47d, 0x85845dd1,
   0x6fa87e4f, 0xfe2ce6e0, 0xa3014314, 0x4e0811a1, 0xf7537e82, 0xbd3af235, 0x2ad7d2bb, 0xeb86d391]

/-- How far the rounds rotate, four by four. -/
def shifts : List (List UInt32) :=
  [[7, 12, 17, 22], [5, 9, 14, 20], [4, 11, 16, 23], [6, 10, 15, 21]]

/-- The message as it is hashed: a one bit, zeros up to a full block, and the length in bits. -/
def pad (message : Bytes) : Bytes :=
  let n := message.length
  let zeros := (119 - n % 64) % 64
  message ++ 0x80 :: List.replicate zeros 0 ++ Bytes.littleEndian 8 (8 * n)

/-- Groups of four bytes as words, the lowest byte first. -/
def words : Bytes → List UInt32
  | a :: b :: c :: d :: rest =>
    (d.toUInt32 <<< 24 ||| c.toUInt32 <<< 16 ||| b.toUInt32 <<< 8 ||| a.toUInt32) :: words rest
  | _ => []

/-- How a round mixes three words, and which word of the block it takes. -/
def mixed (round : Nat) (b c d : UInt32) : UInt32 × Nat :=
  if round < 16 then ((b &&& c) ||| (~~~b &&& d), round)
  else if round < 32 then ((d &&& b) ||| (~~~d &&& c), (5 * round + 1) % 16)
  else if round < 48 then (b ^^^ c ^^^ d, (3 * round + 5) % 16)
  else (c ^^^ (b ||| ~~~d), 7 * round % 16)

/-- One round. -/
def round (block : Array UInt32) (s : State) (k : UInt32 × Nat) : State :=
  let (f, i) := mixed k.2 s.b s.c s.d
  let turned := Sha1.rotate (s.a + f + k.1 + block.getD i 0)
    ((shifts.getD (k.2 / 16) []).getD (k.2 % 4) 0)
  ⟨s.d, s.b + turned, s.b, s.c⟩

/-- Mixes one block into the state. -/
def compress (s : State) (block : List UInt32) : State :=
  let t := constants.zipIdx.foldl (round block.toArray) s
  ⟨s.a + t.a, s.b + t.b, s.c + t.c, s.d + t.d⟩

/-- Mixes all blocks of sixteen words into the state. -/
def compressAll : (blocks : Nat) → State → List UInt32 → State
  | 0, s, _ => s
  | n + 1, s, ws => compressAll n (compress s (ws.take 16)) (ws.drop 16)

/-- **The 16 bytes of the digest of a message.** -/
def digest (message : Bytes) : Bytes :=
  let ws := words (pad message)
  let s := compressAll (ws.length / 16) initial ws
  [s.a, s.b, s.c, s.d].flatMap fun w => Bytes.littleEndian 4 w.toNat

end Md5

end Shell

end CodeAtlas
