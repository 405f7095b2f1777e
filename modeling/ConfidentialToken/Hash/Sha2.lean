import ConfidentialToken.Bytes

/-!
# SHA-256 and SHA-512

The two hash functions are one construction over words of different sizes: pad the message to whole
blocks of sixteen words, extend each block to a schedule of words, and stir the schedule into eight
registers. `Design` records what the two members differ in, and `Design.digest` is the construction.
Nothing is established here about collisions; callers rely only on the digest being a function.
-/

namespace ConfidentialToken.Hash

/-- The eight words a block is stirred into. -/
structure Registers (w : Type) where
  a : w
  b : w
  c : w
  d : w
  e : w
  f : w
  g : w
  h : w

/-- What a member of the family fixes: the word, its size, the four mixing maps and the constants. -/
structure Design (w : Type) where
  /-- Bytes in a word. -/
  wordSize : Nat
  ofNat : Nat → w
  toNat : w → Nat
  add : w → w → w
  /-- Takes the second word where the first has a one, and the third where it has a zero. -/
  choose : w → w → w → w
  /-- Takes each bit from the majority of the three words. -/
  majority : w → w → w → w
  /-- Mixes register `a`. -/
  upperSigma0 : w → w
  /-- Mixes register `e`. -/
  upperSigma1 : w → w
  /-- Mixes the schedule word fifteen back. -/
  lowerSigma0 : w → w
  /-- Mixes the schedule word two back. -/
  lowerSigma1 : w → w
  initial : Registers w
  roundConstants : List w

namespace Design

variable {w : Type} (design : Design w)

/-- Bytes in a block: sixteen words. -/
def blockSize : Nat := 16 * design.wordSize

/-- The message, a one bit, as few zeros as complete a block, and the message's length in bits
over two words. -/
def pad (message : Bytes) : Bytes :=
  let size := message.length
  let lengthSize := 2 * design.wordSize
  let zeros := (2 * design.blockSize - 1 - lengthSize - size % design.blockSize) % design.blockSize
  message ++ 0x80 :: List.replicate zeros 0 ++ Bytes.bigEndian lengthSize (8 * size)

/-- Cuts a byte string into words, highest byte first. -/
def words : (count : Nat) → Bytes → List w
  | 0, _ => []
  | count + 1, bytes =>
    design.ofNat (Bytes.toNatBigEndian (bytes.take design.wordSize)) ::
      words count (bytes.drop design.wordSize)

/-- Adds `count` words to a schedule that is held newest first. -/
def extend : (count : Nat) → List w → List w
  | 0, newest => newest
  | count + 1, newest =>
    let word (back : Nat) := newest.getD (back - 1) (design.ofNat 0)
    let next := design.add (design.add (design.lowerSigma1 (word 2)) (word 7))
      (design.add (design.lowerSigma0 (word 15)) (word 16))
    extend count (next :: newest)

/-- The schedule of a block: its sixteen words, then one word for each further round. -/
def schedule (block : Bytes) : List w :=
  (design.extend (design.roundConstants.length - 16) (design.words 16 block).reverse).reverse

/-- One round: the registers move down by one, and the two fresh ones take in the round's constant
and schedule word. -/
def round (r : Registers w) (input : w × w) : Registers w :=
  let t1 := design.add (design.add r.h (design.upperSigma1 r.e))
    (design.add (design.choose r.e r.f r.g) (design.add input.1 input.2))
  let t2 := design.add (design.upperSigma0 r.a) (design.majority r.a r.b r.c)
  ⟨design.add t1 t2, r.a, r.b, r.c, design.add r.d t1, r.e, r.f, r.g⟩

/-- Stirs one block into the registers. -/
def compress (r : Registers w) (block : Bytes) : Registers w :=
  let s := (design.roundConstants.zip (design.schedule block)).foldl design.round r
  ⟨design.add r.a s.a, design.add r.b s.b, design.add r.c s.c, design.add r.d s.d,
    design.add r.e s.e, design.add r.f s.f, design.add r.g s.g, design.add r.h s.h⟩

/-- Stirs `count` blocks into the registers. -/
def compressAll : (count : Nat) → Registers w → Bytes → Registers w
  | 0, r, _ => r
  | count + 1, r, bytes =>
    let (block, rest) := bytes.splitAt design.blockSize
    compressAll count (design.compress r block) rest

/-- The digest of a message. -/
def digest (message : Bytes) : Bytes :=
  let padded := design.pad message
  let r := design.compressAll (padded.length / design.blockSize) design.initial padded
  [r.a, r.b, r.c, r.d, r.e, r.f, r.g, r.h].flatMap fun x =>
    Bytes.bigEndian design.wordSize (design.toNat x)

theorem length_digest (message : Bytes) :
    (design.digest message).length = 8 * design.wordSize := by
  simp [digest, Bytes.bigEndian]
  omega

end Design

/-! ## The 32-bit member -/

/-- Turns a 32-bit word right. -/
def rotateRight32 (x : UInt32) (n : UInt32) : UInt32 :=
  (x >>> n) ||| (x <<< (32 - n))

/-- The design of SHA-256. -/
def design256 : Design UInt32 where
  wordSize := 4
  ofNat := UInt32.ofNat
  toNat := UInt32.toNat
  add := (· + ·)
  choose x y z := (x &&& y) ^^^ (~~~x &&& z)
  majority x y z := (x &&& y) ^^^ (x &&& z) ^^^ (y &&& z)
  upperSigma0 x := rotateRight32 x 2 ^^^ rotateRight32 x 13 ^^^ rotateRight32 x 22
  upperSigma1 x := rotateRight32 x 6 ^^^ rotateRight32 x 11 ^^^ rotateRight32 x 25
  lowerSigma0 x := rotateRight32 x 7 ^^^ rotateRight32 x 18 ^^^ (x >>> 3)
  lowerSigma1 x := rotateRight32 x 17 ^^^ rotateRight32 x 19 ^^^ (x >>> 10)
  initial := ⟨0x6a09e667, 0xbb67ae85, 0x3c6ef372, 0xa54ff53a,
    0x510e527f, 0x9b05688c, 0x1f83d9ab, 0x5be0cd19⟩
  roundConstants :=
  [0x428a2f98, 0x71374491, 0xb5c0fbcf, 0xe9b5dba5, 0x3956c25b, 0x59f111f1, 0x923f82a4, 0xab1c5ed5,
   0xd807aa98, 0x12835b01, 0x243185be, 0x550c7dc3, 0x72be5d74, 0x80deb1fe, 0x9bdc06a7, 0xc19bf174,
   0xe49b69c1, 0xefbe4786, 0x0fc19dc6, 0x240ca1cc, 0x2de92c6f, 0x4a7484aa, 0x5cb0a9dc, 0x76f988da,
   0x983e5152, 0xa831c66d, 0xb00327c8, 0xbf597fc7, 0xc6e00bf3, 0xd5a79147, 0x06ca6351, 0x14292967,
   0x27b70a85, 0x2e1b2138, 0x4d2c6dfc, 0x53380d13, 0x650a7354, 0x766a0abb, 0x81c2c92e, 0x92722c85,
   0xa2bfe8a1, 0xa81a664b, 0xc24b8b70, 0xc76c51a3, 0xd192e819, 0xd6990624, 0xf40e3585, 0x106aa070,
   0x19a4c116, 0x1e376c08, 0x2748774c, 0x34b0bcb5, 0x391c0cb3, 0x4ed8aa4a, 0x5b9cca4f, 0x682e6ff3,
   0x748f82ee, 0x78a5636f, 0x84c87814, 0x8cc70208, 0x90befffa, 0xa4506ceb, 0xbef9a3f7, 0xc67178f2]

/-- The SHA-256 digest of a message, 32 bytes. -/
def sha256 (message : Bytes) : Bytes := design256.digest message

@[simp] theorem length_sha256 (message : Bytes) : (sha256 message).length = 32 :=
  design256.length_digest message

/-! ## The 64-bit member -/

/-- Turns a 64-bit word right. -/
def rotateRight64 (x : UInt64) (n : UInt64) : UInt64 :=
  (x >>> n) ||| (x <<< (64 - n))

/-- The design of SHA-512. -/
def design512 : Design UInt64 where
  wordSize := 8
  ofNat := UInt64.ofNat
  toNat := UInt64.toNat
  add := (· + ·)
  choose x y z := (x &&& y) ^^^ (~~~x &&& z)
  majority x y z := (x &&& y) ^^^ (x &&& z) ^^^ (y &&& z)
  upperSigma0 x := rotateRight64 x 28 ^^^ rotateRight64 x 34 ^^^ rotateRight64 x 39
  upperSigma1 x := rotateRight64 x 14 ^^^ rotateRight64 x 18 ^^^ rotateRight64 x 41
  lowerSigma0 x := rotateRight64 x 1 ^^^ rotateRight64 x 8 ^^^ (x >>> 7)
  lowerSigma1 x := rotateRight64 x 19 ^^^ rotateRight64 x 61 ^^^ (x >>> 6)
  initial := ⟨0x6a09e667f3bcc908, 0xbb67ae8584caa73b, 0x3c6ef372fe94f82b, 0xa54ff53a5f1d36f1,
    0x510e527fade682d1, 0x9b05688c2b3e6c1f, 0x1f83d9abfb41bd6b, 0x5be0cd19137e2179⟩
  roundConstants :=
  [0x428a2f98d728ae22, 0x7137449123ef65cd, 0xb5c0fbcfec4d3b2f, 0xe9b5dba58189dbbc,
   0x3956c25bf348b538, 0x59f111f1b605d019, 0x923f82a4af194f9b, 0xab1c5ed5da6d8118,
   0xd807aa98a3030242, 0x12835b0145706fbe, 0x243185be4ee4b28c, 0x550c7dc3d5ffb4e2,
   0x72be5d74f27b896f, 0x80deb1fe3b1696b1, 0x9bdc06a725c71235, 0xc19bf174cf692694,
   0xe49b69c19ef14ad2, 0xefbe4786384f25e3, 0x0fc19dc68b8cd5b5, 0x240ca1cc77ac9c65,
   0x2de92c6f592b0275, 0x4a7484aa6ea6e483, 0x5cb0a9dcbd41fbd4, 0x76f988da831153b5,
   0x983e5152ee66dfab, 0xa831c66d2db43210, 0xb00327c898fb213f, 0xbf597fc7beef0ee4,
   0xc6e00bf33da88fc2, 0xd5a79147930aa725, 0x06ca6351e003826f, 0x142929670a0e6e70,
   0x27b70a8546d22ffc, 0x2e1b21385c26c926, 0x4d2c6dfc5ac42aed, 0x53380d139d95b3df,
   0x650a73548baf63de, 0x766a0abb3c77b2a8, 0x81c2c92e47edaee6, 0x92722c851482353b,
   0xa2bfe8a14cf10364, 0xa81a664bbc423001, 0xc24b8b70d0f89791, 0xc76c51a30654be30,
   0xd192e819d6ef5218, 0xd69906245565a910, 0xf40e35855771202a, 0x106aa07032bbd1b8,
   0x19a4c116b8d2d0c8, 0x1e376c085141ab53, 0x2748774cdf8eeb99, 0x34b0bcb5e19b48a8,
   0x391c0cb3c5c95a63, 0x4ed8aa4ae3418acb, 0x5b9cca4f7763e373, 0x682e6ff3d6b2b8a3,
   0x748f82ee5defb2fc, 0x78a5636f43172f60, 0x84c87814a1f0ab72, 0x8cc702081a6439ec,
   0x90befffa23631e28, 0xa4506cebde82bde9, 0xbef9a3f7b2c67915, 0xc67178f2e372532b,
   0xca273eceea26619c, 0xd186b8c721c0c207, 0xeada7dd6cde0eb1e, 0xf57d4f7fee6ed178,
   0x06f067aa72176fba, 0x0a637dc5a2c898a6, 0x113f9804bef90dae, 0x1b710b35131c471b,
   0x28db77f523047d84, 0x32caab7b40c72493, 0x3c9ebe0a15c9bebc, 0x431d67c49c100d4c,
   0x4cc5d4becb3e42b6, 0x597f299cfc657e2a, 0x5fcb6fab3ad6faec, 0x6c44198c4a475817]

/-- The SHA-512 digest of a message, 64 bytes. -/
def sha512 (message : Bytes) : Bytes := design512.digest message

@[simp] theorem length_sha512 (message : Bytes) : (sha512 message).length = 64 :=
  design512.length_digest message

end ConfidentialToken.Hash
