import ClassDiagram.Text.Utf8

/-!
# The SHA-256 digest

The digest of a byte sequence: the sequence is padded to whole blocks of
sixteen big-endian words, and each block is mixed into a chain of eight words
by sixty-four rounds.
-/

namespace ClassDiagram.Sha256

/-! ## Constants -/

/-- Eight words: the chaining value between blocks, and the working value of
the rounds inside one. -/
structure Chain where
  a : UInt32
  b : UInt32
  c : UInt32
  d : UInt32
  e : UInt32
  f : UInt32
  g : UInt32
  h : UInt32
deriving DecidableEq

/-- The chaining value before the first block. -/
def Chain.initial : Chain where
  a := 0x6a09e667
  b := 0xbb67ae85
  c := 0x3c6ef372
  d := 0xa54ff53a
  e := 0x510e527f
  f := 0x9b05688c
  g := 0x1f83d9ab
  h := 0x5be0cd19

/-- The constants of the sixty-four rounds. -/
def roundConstants : List UInt32 :=
  [0x428a2f98, 0x71374491, 0xb5c0fbcf, 0xe9b5dba5, 0x3956c25b, 0x59f111f1, 0x923f82a4, 0xab1c5ed5,
   0xd807aa98, 0x12835b01, 0x243185be, 0x550c7dc3, 0x72be5d74, 0x80deb1fe, 0x9bdc06a7, 0xc19bf174,
   0xe49b69c1, 0xefbe4786, 0x0fc19dc6, 0x240ca1cc, 0x2de92c6f, 0x4a7484aa, 0x5cb0a9dc, 0x76f988da,
   0x983e5152, 0xa831c66d, 0xb00327c8, 0xbf597fc7, 0xc6e00bf3, 0xd5a79147, 0x06ca6351, 0x14292967,
   0x27b70a85, 0x2e1b2138, 0x4d2c6dfc, 0x53380d13, 0x650a7354, 0x766a0abb, 0x81c2c92e, 0x92722c85,
   0xa2bfe8a1, 0xa81a664b, 0xc24b8b70, 0xc76c51a3, 0xd192e819, 0xd6990624, 0xf40e3585, 0x106aa070,
   0x19a4c116, 0x1e376c08, 0x2748774c, 0x34b0bcb5, 0x391c0cb3, 0x4ed8aa4a, 0x5b9cca4f, 0x682e6ff3,
   0x748f82ee, 0x78a5636f, 0x84c87814, 0x8cc70208, 0x90befffa, 0xa4506ceb, 0xbef9a3f7, 0xc67178f2]

/-! ## Rounds -/

/-- Rotation of a word to the right. -/
def rotateRight (x n : UInt32) : UInt32 :=
  (x >>> n) ||| (x <<< (32 - n))

/-- The word that the message schedule appends to sixteen given ones. -/
def nextWord (window : List UInt32) : UInt32 :=
  let x := window.getD 1 0
  let y := window.getD 14 0
  let s0 := rotateRight x 7 ^^^ rotateRight x 18 ^^^ (x >>> 3)
  let s1 := rotateRight y 17 ^^^ rotateRight y 19 ^^^ (y >>> 10)
  window.getD 0 0 + s0 + window.getD 9 0 + s1

/-- One round with its constant and its word of the schedule. -/
def round (v : Chain) (constant word : UInt32) : Chain :=
  let s1 := rotateRight v.e 6 ^^^ rotateRight v.e 11 ^^^ rotateRight v.e 25
  let choice := (v.e &&& v.f) ^^^ (~~~v.e &&& v.g)
  let t1 := v.h + s1 + choice + constant + word
  let s0 := rotateRight v.a 2 ^^^ rotateRight v.a 13 ^^^ rotateRight v.a 22
  let majority := (v.a &&& v.b) ^^^ (v.a &&& v.c) ^^^ (v.b &&& v.c)
  { a := t1 + s0 + majority, b := v.a, c := v.b, d := v.c
    e := v.d + t1, f := v.e, g := v.f, h := v.g }

/-- The rounds for the given constants, on a schedule that starts with the
given sixteen words. -/
def rounds : List UInt32 → List UInt32 → Chain → Chain
  | [], _, v => v
  | constant :: constants, window, v =>
      rounds constants (window.drop 1 ++ [nextWord window])
        (round v constant (window.getD 0 0))

/-- Mixes a block of sixteen words into the chaining value. -/
def absorb (v : Chain) (block : List UInt32) : Chain :=
  let w := rounds roundConstants block v
  { a := v.a + w.a, b := v.b + w.b, c := v.c + w.c, d := v.d + w.d
    e := v.e + w.e, f := v.f + w.f, g := v.g + w.g, h := v.h + w.h }

/-- Mixes the given number of blocks into the chaining value. -/
def absorbBlocks : Nat → List UInt32 → Chain → Chain
  | 0, _, v => v
  | n + 1, words, v => absorbBlocks n (words.drop 16) (absorb v (words.take 16))

/-! ## Padding and output -/

/-- The big-endian bytes of a number, the given count of them. -/
def bigEndian (n : Nat) : Nat → List UInt8
  | 0 => []
  | count + 1 => (n >>> (8 * count)).toUInt8 :: bigEndian n count

/-- The bytes with a set bit, zeros and the bit length behind them, which makes
whole blocks of sixty-four bytes. -/
def pad (bytes : List UInt8) : List UInt8 :=
  let zeros := (119 - bytes.length % 64) % 64
  bytes ++ 0x80 :: List.replicate zeros 0 ++ bigEndian (8 * bytes.length) 8

/-- Bytes taken four at a time as big-endian words. -/
def words : List UInt8 → List UInt32
  | a :: b :: c :: d :: rest =>
      (a.toUInt32 <<< 24 ||| b.toUInt32 <<< 16 ||| c.toUInt32 <<< 8 ||| d.toUInt32) :: words rest
  | _ => []

/-- The thirty-two bytes of the digest. -/
def digest (bytes : List UInt8) : List UInt8 :=
  let padded := words (pad bytes)
  let v := absorbBlocks (padded.length / 16) padded Chain.initial
  [v.a, v.b, v.c, v.d, v.e, v.f, v.g, v.h].flatMap fun w => bigEndian w.toNat 4

/-- A byte as two hexadecimal digits in lower case. -/
def hexByte (b : UInt8) : List Char :=
  [(b.toNat / 16).digitChar, (b.toNat % 16).digitChar]

/-- The digest of bytes in hexadecimal. -/
def hexDigest (bytes : List UInt8) : String :=
  String.ofList ((digest bytes).flatMap hexByte)

end ClassDiagram.Sha256

namespace ClassDiagram

/-- The digest of a text: that of its UTF-8 bytes, in hexadecimal. -/
def textDigest (text : List Char) : String :=
  Sha256.hexDigest (Text.utf8Bytes text)

end ClassDiagram
