import HubAuth.Binary.BigEndian

/-! # Hashes

  The hash functions SHA-256 and SHA-512, and the keyed hash that signs a
  token. The two functions are one, taken with words of another size and with
  other constants: a message is padded to whole blocks of sixteen words, a
  block is extended to a schedule of one word for each round, and the rounds
  work on eight words.
-/

namespace HubAuth.Hash

/-! ### Functions and their states -/

/-- The eight working words. -/
structure State (width : Nat) where
  /-- Working word a. -/
  a : BitVec width
  /-- Working word b. -/
  b : BitVec width
  /-- Working word c. -/
  c : BitVec width
  /-- Working word d. -/
  d : BitVec width
  /-- Working word e. -/
  e : BitVec width
  /-- Working word f. -/
  f : BitVec width
  /-- Working word g. -/
  g : BitVec width
  /-- Working word h. -/
  h : BitVec width
  deriving DecidableEq, Repr

/-- A hash function on words of the given width. -/
structure Sha2 (width : Nat) where
  /-- The working words before the first block. -/
  initial : State width
  /-- One constant for each round. -/
  roundConstants : List (BitVec width)
  /-- By how many bits working word a is turned. -/
  big0 : Nat × Nat × Nat
  /-- By how many bits working word e is turned. -/
  big1 : Nat × Nat × Nat
  /-- By how many bits the older schedule word is turned and shifted. -/
  small0 : Nat × Nat × Nat
  /-- By how many bits the newer schedule word is turned and shifted. -/
  small1 : Nat × Nat × Nat
  deriving DecidableEq, Repr

section Generic

variable {width : Nat}

/-! ### Words -/

/-- The sum, bit by bit, of three turns of a word to the right. -/
def turns (bits : Nat × Nat × Nat) (x : BitVec width) : BitVec width :=
  x.rotateRight bits.1 ^^^ x.rotateRight bits.2.1 ^^^ x.rotateRight bits.2.2

/-- The sum, bit by bit, of two turns of a word to the right and a shift. -/
def turnsAndShift (bits : Nat × Nat × Nat) (x : BitVec width) : BitVec width :=
  x.rotateRight bits.1 ^^^ x.rotateRight bits.2.1 ^^^ (x >>> bits.2.2)

/-- The first `n` words of a byte sequence, the highest byte of each first. -/
def words : Nat → List UInt8 → List (BitVec width)
  | 0, _ => []
  | n + 1, bytes =>
    BitVec.ofNat width (Binary.natOf (bytes.take (width / 8))) :: words n (bytes.drop (width / 8))

/-- The bytes of a word, the highest first. -/
def wordBytes (x : BitVec width) : List UInt8 :=
  Binary.bytesOf (width / 8) x.toNat

namespace State

/-- The sums of the words with each other. -/
def add (s r : State width) : State width :=
  ⟨s.a + r.a, s.b + r.b, s.c + r.c, s.d + r.d, s.e + r.e, s.f + r.f, s.g + r.g, s.h + r.h⟩

/-- The bytes of all words. -/
def bytes (s : State width) : List UInt8 :=
  [s.a, s.b, s.c, s.d, s.e, s.f, s.g, s.h].flatMap wordBytes

end State

namespace Sha2

/-! ### Rounds -/

/-- One round with its constant and its schedule word. -/
def round (f : Sha2 width) (s : State width) (k w : BitVec width) : State width :=
  let choice := (s.e &&& s.f) ^^^ (~~~s.e &&& s.g)
  let t1 := s.h + turns f.big1 s.e + choice + k + w
  let majority := (s.a &&& s.b) ^^^ (s.a &&& s.c) ^^^ (s.b &&& s.c)
  ⟨t1 + (turns f.big0 s.a + majority), s.a, s.b, s.c, s.d + t1, s.e, s.f, s.g⟩

/-- The schedule word after sixteen words, of which the oldest comes first. -/
def nextWord (f : Sha2 width) : List (BitVec width) → BitVec width
  | w0 :: w1 :: _ :: _ :: _ :: _ :: _ :: _ :: _ :: w9 :: _ :: _ :: _ :: _ :: w14 :: _ =>
    w0 + turnsAndShift f.small0 w1 + w9 + turnsAndShift f.small1 w14
  | _ => 0

/-- The rounds with the given constants. The window holds the next sixteen
    schedule words. -/
def rounds (f : Sha2 width) :
    List (BitVec width) → List (BitVec width) → State width → State width
  | k :: ks, w :: ws, s => f.rounds ks (ws ++ [f.nextWord (w :: ws)]) (f.round s k w)
  | _, _, s => s

/-- The state after a block of sixteen words. -/
def compress (f : Sha2 width) (s : State width) (block : List (BitVec width)) : State width :=
  s.add (f.rounds f.roundConstants block s)

/-! ### Messages -/

/-- The length of a block in bytes. -/
def blockLength (_ : Sha2 width) : Nat :=
  16 * (width / 8)

/-- The message with a one bit, zeros and its length in bits after it. The
    length has the space of two words. -/
def pad (f : Sha2 width) (message : List UInt8) : List UInt8 :=
  let space := 2 * (width / 8)
  let zeros := (2 * f.blockLength - 1 - space - message.length % f.blockLength) % f.blockLength
  message ++ 0x80 :: List.replicate zeros 0 ++ Binary.bytesOf space (8 * message.length)

/-- The state after the first `n` blocks of a byte sequence. -/
def absorb (f : Sha2 width) : Nat → List UInt8 → State width → State width
  | 0, _, s => s
  | n + 1, bytes, s => f.absorb n (bytes.drop f.blockLength) (f.compress s (words 16 bytes))

/-- The hash of a message. -/
def digest (f : Sha2 width) (message : List UInt8) : List UInt8 :=
  let padded := f.pad message
  (f.absorb (padded.length / f.blockLength) padded f.initial).bytes

end Sha2

end Generic

/-! ### The two functions

  The initial words are fractional bits of the square roots of the first eight
  primes, the round constants of the cube roots of as many primes as there are
  rounds.
-/

/-- SHA-256, with sixty-four rounds. -/
def sha256 : Sha2 32 where
  initial :=
    ⟨0x6a09e667, 0xbb67ae85, 0x3c6ef372, 0xa54ff53a,
     0x510e527f, 0x9b05688c, 0x1f83d9ab, 0x5be0cd19⟩
  roundConstants :=
    [0x428a2f98, 0x71374491, 0xb5c0fbcf, 0xe9b5dba5, 0x3956c25b, 0x59f111f1, 0x923f82a4, 0xab1c5ed5,
     0xd807aa98, 0x12835b01, 0x243185be, 0x550c7dc3, 0x72be5d74, 0x80deb1fe, 0x9bdc06a7, 0xc19bf174,
     0xe49b69c1, 0xefbe4786, 0x0fc19dc6, 0x240ca1cc, 0x2de92c6f, 0x4a7484aa, 0x5cb0a9dc, 0x76f988da,
     0x983e5152, 0xa831c66d, 0xb00327c8, 0xbf597fc7, 0xc6e00bf3, 0xd5a79147, 0x06ca6351, 0x14292967,
     0x27b70a85, 0x2e1b2138, 0x4d2c6dfc, 0x53380d13, 0x650a7354, 0x766a0abb, 0x81c2c92e, 0x92722c85,
     0xa2bfe8a1, 0xa81a664b, 0xc24b8b70, 0xc76c51a3, 0xd192e819, 0xd6990624, 0xf40e3585, 0x106aa070,
     0x19a4c116, 0x1e376c08, 0x2748774c, 0x34b0bcb5, 0x391c0cb3, 0x4ed8aa4a, 0x5b9cca4f, 0x682e6ff3,
     0x748f82ee, 0x78a5636f, 0x84c87814, 0x8cc70208, 0x90befffa, 0xa4506ceb, 0xbef9a3f7, 0xc67178f2]
  big0 := (2, 13, 22)
  big1 := (6, 11, 25)
  small0 := (7, 18, 3)
  small1 := (17, 19, 10)

/-- SHA-512, with eighty rounds. -/
def sha512 : Sha2 64 where
  initial :=
    ⟨0x6a09e667f3bcc908, 0xbb67ae8584caa73b, 0x3c6ef372fe94f82b, 0xa54ff53a5f1d36f1,
     0x510e527fade682d1, 0x9b05688c2b3e6c1f, 0x1f83d9abfb41bd6b, 0x5be0cd19137e2179⟩
  roundConstants :=
    [0x428a2f98d728ae22, 0x7137449123ef65cd, 0xb5c0fbcfec4d3b2f, 0xe9b5dba58189dbbc,
     0x3956c25bf348b538, 0x59f111f1b605d019, 0x923f82a4af194f9b, 0xab1c5ed5da6d8118,
     0xd807aa98a3030242, 0x12835b0145706fbe, 0x243185be4ee4b28c, 0x550c7dc3d5ffb4e2,
     0x72be5d74f27b896f, 0x80deb1fe3b1696b1, 0x9bdc06a725c71235, 0xc19bf174cf692694,
     0xe49b69c19ef14ad2, 0xefbe4786384f25e3, 0x0fc19dc68b8cd5b5, 0x240ca1cc77ac9c65,
     0x2de92c6f592b0275, 0x4a7484aa6ea6e483, 0x5cb0a9dcbd41fbd4, 0x76f988da831153b5,
     0x983e5152ee66dfab, 0xa831c66d2db43210, 0xb00327c898fb213f, 0xbf597fc7beef0ee4,
     0xc6e00bf33da88fc2, 0xd5a79147930aa725, 0x06ca6351e003826f, 0x142929670a0e6e70,
     0x27b70a8546d22ffc, 0x2e1b21385c26c926, 0x4d2c6dfc5ac42aed, 0x53380d139d95b3df,
     0x650a73548baf63de, 0x766a0abb3c77b2a8, 0x81c2c92e47edaee6, 0x92722c851482353b,
     0xa2bfe8a14cf10364, 0xa81a664bbc423001, 0xc24b8b70d0f89791, 0xc76c51a30654be30,
     0xd192e819d6ef5218, 0xd69906245565a910, 0xf40e35855771202a, 0x106aa07032bbd1b8,
     0x19a4c116b8d2d0c8, 0x1e376c085141ab53, 0x2748774cdf8eeb99, 0x34b0bcb5e19b48a8,
     0x391c0cb3c5c95a63, 0x4ed8aa4ae3418acb, 0x5b9cca4f7763e373, 0x682e6ff3d6b2b8a3,
     0x748f82ee5defb2fc, 0x78a5636f43172f60, 0x84c87814a1f0ab72, 0x8cc702081a6439ec,
     0x90befffa23631e28, 0xa4506cebde82bde9, 0xbef9a3f7b2c67915, 0xc67178f2e372532b,
     0xca273eceea26619c, 0xd186b8c721c0c207, 0xeada7dd6cde0eb1e, 0xf57d4f7fee6ed178,
     0x06f067aa72176fba, 0x0a637dc5a2c898a6, 0x113f9804bef90dae, 0x1b710b35131c471b,
     0x28db77f523047d84, 0x32caab7b40c72493, 0x3c9ebe0a15c9bebc, 0x431d67c49c100d4c,
     0x4cc5d4becb3e42b6, 0x597f299cfc657e2a, 0x5fcb6fab3ad6faec, 0x6c44198c4a475817]
  big0 := (28, 34, 39)
  big1 := (14, 18, 41)
  small0 := (1, 8, 7)
  small1 := (19, 61, 6)

/-! ### The keyed hash -/

/-- The key as one block: a key that is too long is hashed, a short one is
    filled with zeros. -/
def blockKey (key : List UInt8) : List UInt8 :=
  let k := if sha256.blockLength < key.length then sha256.digest key else key
  k ++ List.replicate (sha256.blockLength - k.length) 0

/-- The authentication code of a message under a key. -/
def hmac (key message : List UInt8) : List UInt8 :=
  let k := blockKey key
  let inner := sha256.digest (k.map (· ^^^ 0x36) ++ message)
  sha256.digest (k.map (· ^^^ 0x5c) ++ inner)

end HubAuth.Hash
