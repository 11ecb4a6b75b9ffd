import SearchIndex.Text.Escaped

/-!
The MD5 digest of a text, over its UTF-8 bytes, written as 32 hexadecimal digits in lower case.
-/

namespace SearchIndex.Digest

/-- The four words that the digest carries from block to block. -/
structure Md5State where
  a : UInt32
  b : UInt32
  c : UInt32
  d : UInt32

/-- The additive constant of each step: the whole part of 2³² · |sin (i + 1)|. -/
def md5Sines : Array UInt32 := #[
  0xd76aa478, 0xe8c7b756, 0x242070db, 0xc1bdceee, 0xf57c0faf, 0x4787c62a, 0xa8304613, 0xfd469501,
  0x698098d8, 0x8b44f7af, 0xffff5bb1, 0x895cd7be, 0x6b901122, 0xfd987193, 0xa679438e, 0x49b40821,
  0xf61e2562, 0xc040b340, 0x265e5a51, 0xe9b6c7aa, 0xd62f105d, 0x02441453, 0xd8a1e681, 0xe7d3fbc8,
  0x21e1cde6, 0xc33707d6, 0xf4d50d87, 0x455a14ed, 0xa9e3e905, 0xfcefa3f8, 0x676f02d9, 0x8d2a4c8a,
  0xfffa3942, 0x8771f681, 0x6d9d6122, 0xfde5380c, 0xa4beea44, 0x4bdecfa9, 0xf6bb4b60, 0xbebfbc70,
  0x289b7ec6, 0xeaa127fa, 0xd4ef3085, 0x04881d05, 0xd9d4d039, 0xe6db99e5, 0x1fa27cf8, 0xc4ac5665,
  0xf4292244, 0x432aff97, 0xab9423a7, 0xfc93a039, 0x655b59c3, 0x8f0ccc92, 0xffeff47d, 0x85845dd1,
  0x6fa87e4f, 0xfe2ce6e0, 0xa3014314, 0x4e0811a1, 0xf7537e82, 0xbd3af235, 0x2ad7d2bb, 0xeb86d391]

/-- The rotations of the steps, by round and by step modulo four. -/
def md5Rotations : Array UInt32 := #[7, 12, 17, 22, 5, 9, 14, 20, 4, 11, 16, 23, 6, 10, 15, 21]

def rotateLeft (x s : UInt32) : UInt32 := (x <<< s) ||| (x >>> (32 - s))

/-- Step `i` on the block whose sixteen words are `words`. -/
def md5Step (words : Array UInt32) (s : Md5State) (i : Nat) : Md5State :=
  let (f, g) : UInt32 × Nat :=
    if i < 16 then ((s.b &&& s.c) ||| (~~~s.b &&& s.d), i)
    else if i < 32 then ((s.d &&& s.b) ||| (~~~s.d &&& s.c), (5 * i + 1) % 16)
    else if i < 48 then (s.b ^^^ s.c ^^^ s.d, (3 * i + 5) % 16)
    else (s.c ^^^ (s.b ||| ~~~s.d), 7 * i % 16)
  let sum := s.a + f + md5Sines.getD i 0 + words.getD g 0
  ⟨s.d, s.b + rotateLeft sum (md5Rotations.getD (i / 16 * 4 + i % 4) 0), s.b, s.c⟩

/-- Takes one block in. -/
def md5Block (s : Md5State) (words : Array UInt32) : Md5State :=
  let t := (List.range 64).foldl (md5Step words) s
  ⟨s.a + t.a, s.b + t.b, s.c + t.c, s.d + t.d⟩

/-- The bytes of a number, least significant first. -/
def littleEndian (width n : Nat) : List UInt8 :=
  (List.range width).map fun i => (n >>> (8 * i) % 256).toUInt8

/-- The number that some bytes stand for, least significant first. -/
def ofLittleEndian (bytes : List UInt8) : Nat := bytes.foldr (fun b n => b.toNat + 256 * n) 0

/-- Splits into parts of `n + 1` elements; the last part may be shorter. -/
def parts {α : Type} (n : Nat) : List α → List (List α)
  | [] => []
  | x :: xs => (x :: xs.take n) :: parts n (xs.drop n)
  termination_by xs => xs.length
  decreasing_by simp only [List.length_drop, List.length_cons]; omega

/-- A one bit, zeros up to 56 bytes modulo 64, and the length in bits. -/
def md5Padded (bytes : List UInt8) : List UInt8 :=
  bytes ++ [0x80] ++ List.replicate ((119 - bytes.length % 64) % 64) 0
    ++ littleEndian 8 (8 * bytes.length)

/-- The digest of some bytes. -/
def md5Bytes (bytes : List UInt8) : List UInt8 :=
  let blocks := (parts 63 (md5Padded bytes)).map fun block =>
    ((parts 3 block).map fun w => (ofLittleEndian w).toUInt32).toArray
  let s := blocks.foldl md5Block ⟨0x67452301, 0xefcdab89, 0x98badcfe, 0x10325476⟩
  [s.a, s.b, s.c, s.d].flatMap fun w => littleEndian 4 w.toNat

/-- Two hexadecimal digits. -/
def hexByte (b : UInt8) : String := .ofList [Nat.digitChar (b.toNat / 16), Nat.digitChar (b.toNat % 16)]

/-- The digest of a text in hexadecimal digits. -/
def md5 (s : String) : String := String.join ((md5Bytes s.toUTF8.toList).map hexByte)

end SearchIndex.Digest
