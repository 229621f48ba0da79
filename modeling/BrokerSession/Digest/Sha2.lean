import BrokerSession.Bytes

namespace BrokerSession.Digest

/-!
# SHA-2

Both digests in use run the same rounds, one over 32-bit and one over 64-bit
words.  `Word` collects what depends on the width: the constants, the rotation
distances and the wire form of a word.
-/

/-- The operations and constants of SHA-2 at one word width. -/
class Word (W : Type) where
  width : Nat
  ofBytes : Bytes → W
  toBytes : W → Bytes
  add : W → W → W
  xor : W → W → W
  and : W → W → W
  not : W → W
  shift : W → W → W
  rotate : W → W → W
  /-- The rotations that mix the newest working word. -/
  upperNew : W × W × W
  /-- The rotations that mix the middle working word. -/
  upperMiddle : W × W × W
  /-- Two rotations and a shift that mix an early schedule word. -/
  lowerEarly : W × W × W
  /-- Two rotations and a shift that mix a late schedule word. -/
  lowerLate : W × W × W
  /-- The words that a digest starts from. -/
  start : List W
  /-- One constant for each round. -/
  constants : List W

/-- The first 32 bits of the fractions of the cube roots of 64 primes. -/
def constants32 : List UInt32 :=
    [0x428a2f98, 0x71374491, 0xb5c0fbcf, 0xe9b5dba5, 0x3956c25b, 0x59f111f1,
     0x923f82a4, 0xab1c5ed5, 0xd807aa98, 0x12835b01, 0x243185be, 0x550c7dc3,
     0x72be5d74, 0x80deb1fe, 0x9bdc06a7, 0xc19bf174, 0xe49b69c1, 0xefbe4786,
     0x0fc19dc6, 0x240ca1cc, 0x2de92c6f, 0x4a7484aa, 0x5cb0a9dc, 0x76f988da,
     0x983e5152, 0xa831c66d, 0xb00327c8, 0xbf597fc7, 0xc6e00bf3, 0xd5a79147,
     0x06ca6351, 0x14292967, 0x27b70a85, 0x2e1b2138, 0x4d2c6dfc, 0x53380d13,
     0x650a7354, 0x766a0abb, 0x81c2c92e, 0x92722c85, 0xa2bfe8a1, 0xa81a664b,
     0xc24b8b70, 0xc76c51a3, 0xd192e819, 0xd6990624, 0xf40e3585, 0x106aa070,
     0x19a4c116, 0x1e376c08, 0x2748774c, 0x34b0bcb5, 0x391c0cb3, 0x4ed8aa4a,
     0x5b9cca4f, 0x682e6ff3, 0x748f82ee, 0x78a5636f, 0x84c87814, 0x8cc70208,
     0x90befffa, 0xa4506ceb, 0xbef9a3f7, 0xc67178f2]

/-- The first 64 bits of the fractions of the cube roots of 80 primes. -/
def constants64 : List UInt64 :=
    [0x428a2f98d728ae22, 0x7137449123ef65cd, 0xb5c0fbcfec4d3b2f, 0xe9b5dba58189dbbc,
     0x3956c25bf348b538, 0x59f111f1b605d019, 0x923f82a4af194f9b, 0xab1c5ed5da6d8118,
     0xd807aa98a3030242, 0x12835b0145706fbe, 0x243185be4ee4b28c, 0x550c7dc3d5ffb4e2,
     0x72be5d74f27b896f, 0x80deb1fe3b1696b1, 0x9bdc06a725c71235, 0xc19bf174cf692694,
     0xe49b69c19ef14ad2, 0xefbe4786384f25e3, 0x0fc19dc68b8cd5b5, 0x240ca1cc77ac9c65,
     0x2de92c6f592b0275, 0x4a7484aa6ea6e483, 0x5cb0a9dcbd41fbd4, 0x76f988da831153b5,
     0x983e5152ee66dfab, 0xa831c66d2db43210, 0xb00327c898fb213f, 0xbf597fc7beef0ee4,
     0xc6e00bf33da88fc2, 0xd5a79147930aa725, 0x06ca6351e003826f, 0x142929670a0e6e70,
     0x27b70a8546d22ffc, 0x2e1b21385c26c926, 0x4d2c6dfc5ac42aed, 0x53380d139d95b3df,
     0x650a73548baf63de, 0x766a0abb3c77b2a8, 0x81c2c92e47edaee6, 0x92722c851482353b,
     0xa2bfe8a14cf10364, 0xa81a664bbc423001, 0xc24b8b70d0f89791, 0xc76c51a30654be30,
     0xd192e819d6ef5218, 0xd69906245565a910, 0xf40e35855771202a, 0x106aa07032bbd1b8,
     0x19a4c116b8d2d0c8, 0x1e376c085141ab53, 0x2748774cdf8eeb99, 0x34b0bcb5e19b48a8,
     0x391c0cb3c5c95a63, 0x4ed8aa4ae3418acb, 0x5b9cca4f7763e373, 0x682e6ff3d6b2b8a3,
     0x748f82ee5defb2fc, 0x78a5636f43172f60, 0x84c87814a1f0ab72, 0x8cc702081a6439ec,
     0x90befffa23631e28, 0xa4506cebde82bde9, 0xbef9a3f7b2c67915, 0xc67178f2e372532b,
     0xca273eceea26619c, 0xd186b8c721c0c207, 0xeada7dd6cde0eb1e, 0xf57d4f7fee6ed178,
     0x06f067aa72176fba, 0x0a637dc5a2c898a6, 0x113f9804bef90dae, 0x1b710b35131c471b,
     0x28db77f523047d84, 0x32caab7b40c72493, 0x3c9ebe0a15c9bebc, 0x431d67c49c100d4c,
     0x4cc5d4becb3e42b6, 0x597f299cfc657e2a, 0x5fcb6fab3ad6faec, 0x6c44198c4a475817]

@[inline] instance : Word UInt32 where
  width := 4
  ofBytes bytes := UInt32.ofNat bytes.toNat
  toBytes word := Bytes.bigEndian 4 word.toNat
  add left right := left + right
  xor left right := left ^^^ right
  and left right := left &&& right
  not word := ~~~word
  shift word distance := word >>> distance
  rotate word distance := (word >>> distance) ||| (word <<< (32 - distance))
  upperNew := (2, 13, 22)
  upperMiddle := (6, 11, 25)
  lowerEarly := (7, 18, 3)
  lowerLate := (17, 19, 10)
  start :=
    [0x6a09e667, 0xbb67ae85, 0x3c6ef372, 0xa54ff53a, 0x510e527f, 0x9b05688c,
     0x1f83d9ab, 0x5be0cd19]
  constants := constants32

@[inline] instance : Word UInt64 where
  width := 8
  ofBytes bytes := UInt64.ofNat bytes.toNat
  toBytes word := Bytes.bigEndian 8 word.toNat
  add left right := left + right
  xor left right := left ^^^ right
  and left right := left &&& right
  not word := ~~~word
  shift word distance := word >>> distance
  rotate word distance := (word >>> distance) ||| (word <<< (64 - distance))
  upperNew := (28, 34, 39)
  upperMiddle := (14, 18, 41)
  lowerEarly := (1, 8, 7)
  lowerLate := (19, 61, 6)
  start :=
    [0x6a09e667f3bcc908, 0xbb67ae8584caa73b, 0x3c6ef372fe94f82b, 0xa54ff53a5f1d36f1,
     0x510e527fade682d1, 0x9b05688c2b3e6c1f, 0x1f83d9abfb41bd6b, 0x5be0cd19137e2179]
  constants := constants64

/-- The eight working words of a digest. -/
structure Chaining (W : Type) where
  a : W
  b : W
  c : W
  d : W
  e : W
  f : W
  g : W
  h : W

namespace Chaining

/-- Eight words, in order; missing ones are taken from the front. -/
@[specialize] def ofList {W : Type} [Word W] (words : List W) : Chaining W :=
  let nth (index : Nat) : W := words.getD index (Word.ofBytes [])
  ⟨nth 0, nth 1, nth 2, nth 3, nth 4, nth 5, nth 6, nth 7⟩

def toList {W : Type} (words : Chaining W) : List W :=
  [words.a, words.b, words.c, words.d, words.e, words.f, words.g, words.h]

end Chaining

section Rounds

variable {W : Type} [Word W]

/-- Mix a word by three rotations. -/
@[specialize] def mixUpper (distances : W × W × W) (word : W) : W :=
  Word.xor
    (Word.xor (Word.rotate word distances.1) (Word.rotate word distances.2.1))
    (Word.rotate word distances.2.2)

/-- Mix a word by two rotations and a shift. -/
@[specialize] def mixLower (distances : W × W × W) (word : W) : W :=
  Word.xor
    (Word.xor (Word.rotate word distances.1) (Word.rotate word distances.2.1))
    (Word.shift word distances.2.2)

/-- One round: a schedule word and its constant enter the working words. -/
@[specialize] def round (words : Chaining W) (constant entering : W) :
    Chaining W :=
  let choice :=
    Word.xor (Word.and words.e words.f) (Word.and (Word.not words.e) words.g)
  let majority :=
    Word.xor (Word.xor (Word.and words.a words.b) (Word.and words.a words.c))
      (Word.and words.b words.c)
  let first :=
    Word.add (Word.add (Word.add words.h (mixUpper Word.upperMiddle words.e)) choice)
      (Word.add constant entering)
  let second := Word.add (mixUpper Word.upperNew words.a) majority
  { a := Word.add first second, b := words.a, c := words.b, d := words.c
    e := Word.add words.d first, f := words.e, g := words.f, h := words.g }

/-- The schedule word that follows a schedule listed newest first. -/
@[specialize] def nextScheduled (newestFirst : List W) : W :=
  let back (distance : Nat) : W :=
    newestFirst.getD (distance - 1) (Word.ofBytes [])
  Word.add
    (Word.add (mixLower Word.lowerLate (back 2)) (back 7))
    (Word.add (mixLower Word.lowerEarly (back 15)) (back 16))

/-- Lengthen a schedule, listed newest first, by a number of words. -/
@[specialize] def lengthen : Nat → List W → List W
  | 0, newestFirst => newestFirst
  | more + 1, newestFirst =>
      lengthen more (nextScheduled newestFirst :: newestFirst)

/-- Run one round for each constant and schedule word. -/
@[specialize] def runRounds :
    List W → List W → Chaining W → Chaining W
  | constant :: constants, entering :: schedule, words =>
      runRounds constants schedule (round words constant entering)
  | _, _, words => words

/-- Let one block of sixteen words enter the chaining words. -/
@[specialize] def compress (words : Chaining W) (block : List W) : Chaining W :=
  let constants : List W := Word.constants
  let schedule := (lengthen (constants.length - 16) block.reverse).reverse
  let mixed := runRounds constants schedule words
  { a := Word.add words.a mixed.a, b := Word.add words.b mixed.b
    c := Word.add words.c mixed.c, d := Word.add words.d mixed.d
    e := Word.add words.e mixed.e, f := Word.add words.f mixed.f
    g := Word.add words.g mixed.g, h := Word.add words.h mixed.h }

/-- Cut the first `count` words off a byte string. -/
@[specialize] def takeWords : Nat → Bytes → List W
  | 0, _ => []
  | count + 1, bytes =>
      Word.ofBytes (bytes.take (Word.width W)) ::
        takeWords count (bytes.drop (Word.width W))

/-- Let a number of whole blocks of a byte string enter the chaining words. -/
@[specialize] def absorb : Nat → Bytes → Chaining W → Chaining W
  | 0, _, words => words
  | blocks + 1, bytes, words =>
      absorb blocks (bytes.drop (16 * Word.width W))
        (compress words (takeWords 16 bytes))

end Rounds

def blockLength (W : Type) [Word W] : Nat := 16 * Word.width W

/-- What follows a message of a length: a one bit, zeros and the bit length. -/
def padding (W : Type) [Word W] (length : Nat) : Bytes :=
  let tail := 2 * Word.width W
  let zeros := (blockLength W - (length + 1 + tail) % blockLength W) % blockLength W
  0x80 :: List.replicate zeros 0 ++ Bytes.bigEndian tail (8 * length)

/--
The digest of a message of which some whole blocks have already entered the
chaining words and `rest` has not.
-/
@[specialize] def finish {W : Type} [Word W]
    (words : Chaining W) (absorbed : Nat) (rest : Bytes) : Bytes :=
  let padded : Bytes := rest ++ padding W (absorbed + rest.length)
  let final := absorb (padded.length / blockLength W) padded words
  final.toList.flatMap Word.toBytes

/-- The chaining words that a digest starts from. -/
@[specialize] def initial (W : Type) [Word W] : Chaining W :=
  Chaining.ofList Word.start

/-- The SHA-2 digest of a message, at a word width. -/
@[specialize] def sha2 (W : Type) [Word W] (message : Bytes) : Bytes :=
  finish (initial W) 0 message

end BrokerSession.Digest
