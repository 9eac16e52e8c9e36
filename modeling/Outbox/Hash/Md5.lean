import Outbox.Octets

/-!
# Outbox.Hash.Md5 — MD5

The hash of RFC 1321 on lists of octets. It is needed for one login mechanism
only, which is older than better hashes.
-/

namespace Outbox.Md5

/-- The four words of chaining state. -/
structure State where
  a : UInt32
  b : UInt32
  c : UInt32
  d : UInt32

/-- The state before the first block. -/
def start : State where
  a := 0x67452301
  b := 0xefcdab89
  c := 0x98badcfe
  d := 0x10325476

/-- The constant of each step. -/
def constants : List UInt32 := [
  0xd76aa478, 0xe8c7b756, 0x242070db, 0xc1bdceee, 0xf57c0faf, 0x4787c62a, 0xa8304613, 0xfd469501,
  0x698098d8, 0x8b44f7af, 0xffff5bb1, 0x895cd7be, 0x6b901122, 0xfd987193, 0xa679438e, 0x49b40821,
  0xf61e2562, 0xc040b340, 0x265e5a51, 0xe9b6c7aa, 0xd62f105d, 0x02441453, 0xd8a1e681, 0xe7d3fbc8,
  0x21e1cde6, 0xc33707d6, 0xf4d50d87, 0x455a14ed, 0xa9e3e905, 0xfcefa3f8, 0x676f02d9, 0x8d2a4c8a,
  0xfffa3942, 0x8771f681, 0x6d9d6122, 0xfde5380c, 0xa4beea44, 0x4bdecfa9, 0xf6bb4b60, 0xbebfbc70,
  0x289b7ec6, 0xeaa127fa, 0xd4ef3085, 0x04881d05, 0xd9d4d039, 0xe6db99e5, 0x1fa27cf8, 0xc4ac5665,
  0xf4292244, 0x432aff97, 0xab9423a7, 0xfc93a039, 0x655b59c3, 0x8f0ccc92, 0xffeff47d, 0x85845dd1,
  0x6fa87e4f, 0xfe2ce6e0, 0xa3014314, 0x4e0811a1, 0xf7537e82, 0xbd3af235, 0x2ad7d2bb, 0xeb86d391]

/-- The four rotations of each group of sixteen steps, used in turn. -/
def rotations : List UInt32 := [7, 12, 17, 22, 5, 9, 14, 20, 4, 11, 16, 23, 6, 10, 15, 21]

/-- Rotates a word to the left. -/
def rotl (x : UInt32) (n : UInt32) : UInt32 := (x <<< n) ||| (x >>> (32 - n))

/-- A word from four octets, the least significant first. -/
def word (a b c d : UInt8) : UInt32 :=
  d.toUInt32 <<< 24 ||| c.toUInt32 <<< 16 ||| b.toUInt32 <<< 8 ||| a.toUInt32

/-- The words of a whole number of groups of four octets. -/
def words : Octets → List UInt32
  | a :: b :: c :: d :: rest => word a b c d :: words rest
  | _ => []

/-- The octets of a word, the least significant first. -/
def wordOctets (w : UInt32) : Octets :=
  [w.toUInt8, (w >>> 8).toUInt8, (w >>> 16).toUInt8, (w >>> 24).toUInt8]

/-- The message filled up to whole blocks, with its length in bits at the end. -/
def padded (message : Octets) : Octets :=
  let n := message.length
  let bits := UInt64.ofNat (8 * n)
  message ++ [(0x80 : UInt8)] ++ List.replicate ((119 - n % 64) % 64) (0 : UInt8)
    ++ wordOctets bits.toUInt32 ++ wordOctets (bits >>> 32).toUInt32

/-- The function that mixes three words in a step, and the word of the block that
the step takes. -/
def mix (i : Nat) (b c d : UInt32) : UInt32 × Nat :=
  if i < 16 then ((b &&& c) ||| (~~~b &&& d), i)
  else if i < 32 then ((d &&& b) ||| (~~~d &&& c), (5 * i + 1) % 16)
  else if i < 48 then (b ^^^ c ^^^ d, (3 * i + 5) % 16)
  else (c ^^^ (b ||| ~~~d), 7 * i % 16)

/-- One step. -/
def step (block : Array UInt32) (s : State) (i : Nat) (constant : UInt32) : State :=
  let (f, k) := mix i s.b s.c s.d
  let sum := s.a + f + constant + block.getD k 0
  { a := s.d, b := s.b + rotl sum (rotations.getD (i / 16 * 4 + i % 4) 0), c := s.b, d := s.c }

/-- Folds one block of sixteen words into the state. -/
def compress (s : State) (block : List UInt32) : State :=
  let words := block.toArray
  let r := ((List.range 64).zip constants).foldl (fun s ic => step words s ic.1 ic.2) s
  { a := s.a + r.a, b := s.b + r.b, c := s.c + r.c, d := s.d + r.d }

/-- Folds all blocks into the state. -/
def absorb (s : State) (ws : List UInt32) : State :=
  if ws.length < 16 then s else absorb (compress s (ws.take 16)) (ws.drop 16)
termination_by ws.length
decreasing_by simp only [List.length_drop]; omega

/-- The MD5 hash of a message, 16 octets. -/
def hash (message : Octets) : Octets :=
  let s := absorb start (words (padded message))
  [s.a, s.b, s.c, s.d].flatMap wordOctets

end Outbox.Md5
