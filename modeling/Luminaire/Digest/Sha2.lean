/-
The SHA-2 family of hash functions (FIPS 180-4), written once for both
word sizes: `Sha2 W` collects what differs between them, and `digest` is
the Merkle–Damgård chain over it. `sha256` serves records, cookies and
key derivation; `sha512` serves signatures.
-/
import Luminaire.Bytes

namespace Luminaire

/-- What one member of the family fixes: its words, the four bit mixing
functions, the starting chain and the round constants. -/
structure Sha2 (W : Type) where
  wordLength : Nat
  wordOf : Bytes → W
  bytesOf : W → Bytes
  bigSigma0 : W → W
  bigSigma1 : W → W
  smallSigma0 : W → W
  smallSigma1 : W → W
  initial : List W
  constants : List W

namespace Sha2

/-- The eight words carried from block to block. -/
structure Chain (W : Type) where
  a : W
  b : W
  c : W
  d : W
  e : W
  f : W
  g : W
  h : W

variable {W : Type} [Add W] [AndOp W] [XorOp W] [Complement W] [Inhabited W]

/-- The chain spelled by a list of eight words. -/
def Chain.ofList (words : List W) : Chain W :=
  let word (i : Nat) : W := words.getD i default
  ⟨word 0, word 1, word 2, word 3, word 4, word 5, word 6, word 7⟩

def Chain.toList (chain : Chain W) : List W :=
  [chain.a, chain.b, chain.c, chain.d, chain.e, chain.f, chain.g, chain.h]

/-- The message schedule grown by one word. -/
def extend (family : Sha2 W) (words : Array W) : Array W :=
  let back (i : Nat) : W := words.getD (words.size - i) default
  words.push (family.smallSigma1 (back 2) + back 7 + family.smallSigma0 (back 15) + back 16)

/-- The words a block spells. -/
def wordsOf (family : Sha2 W) : (count : Nat) → Bytes → List W
  | 0, _ => []
  | count + 1, bytes =>
      family.wordOf (bytes.take family.wordLength)
        :: family.wordsOf count (bytes.drop family.wordLength)

/-- One word per round: the block's sixteen, then the recurrence. -/
def schedule (family : Sha2 W) (block : Bytes) : Array W :=
  (List.range (family.constants.length - 16)).foldl (fun words _ => family.extend words)
    (family.wordsOf 16 block).toArray

/-- One round of the compression function. -/
def round (family : Sha2 W) (chain : Chain W) (constant word : W) : Chain W :=
  let choice := (chain.e &&& chain.f) ^^^ (~~~chain.e &&& chain.g)
  let majority := (chain.a &&& chain.b) ^^^ (chain.a &&& chain.c) ^^^ (chain.b &&& chain.c)
  let first := chain.h + family.bigSigma1 chain.e + choice + constant + word
  let second := family.bigSigma0 chain.a + majority
  ⟨first + second, chain.a, chain.b, chain.c, chain.d + first, chain.e, chain.f, chain.g⟩

/-- The chain after one block. -/
def compress (family : Sha2 W) (chain : Chain W) (block : Bytes) : Chain W :=
  let rounds := family.constants.zip (family.schedule block).toList
  let mixed := rounds.foldl (fun chain (constant, word) => family.round chain constant word) chain
  Chain.ofList (List.zipWith (· + ·) chain.toList mixed.toList)

/-- Sixteen words to a block. -/
def blockLength (family : Sha2 W) : Nat := 16 * family.wordLength

/-- The message closed by a one bit, zeros and its length in bits, so that
whole blocks result. -/
def pad (family : Sha2 W) (message : Bytes) : Bytes :=
  let block := family.blockLength
  let closing := 1 + 2 * family.wordLength
  let zeros := (block - (message.length + closing) % block) % block
  message ++ 0x80 :: (List.replicate zeros 0
    ++ bigEndianBytes (2 * family.wordLength) (8 * message.length))

/-- Runs the compression function over `count` blocks. -/
def absorb (family : Sha2 W) : (count : Nat) → Bytes → Chain W → Chain W
  | 0, _, chain => chain
  | count + 1, bytes, chain =>
      family.absorb count (bytes.drop family.blockLength)
        (family.compress chain (bytes.take family.blockLength))

/-- The hash of a message. -/
def digest (family : Sha2 W) (message : Bytes) : Bytes :=
  let padded := family.pad message
  let chain := family.absorb (padded.length / family.blockLength) padded
    (Chain.ofList family.initial)
  chain.toList.flatMap family.bytesOf

end Sha2

-- ========================================================== SHA-256

private def rotateRight32 (word : UInt32) (count : UInt32) : UInt32 :=
  (word >>> count) ||| (word <<< (32 - count))

/-- SHA-256: words of four bytes, sixty-four rounds. -/
def Sha2.narrow : Sha2 UInt32 where
  wordLength := 4
  wordOf bytes := (bigEndian bytes).toUInt32
  bytesOf word := bigEndianBytes 4 word.toNat
  bigSigma0 x := rotateRight32 x 2 ^^^ rotateRight32 x 13 ^^^ rotateRight32 x 22
  bigSigma1 x := rotateRight32 x 6 ^^^ rotateRight32 x 11 ^^^ rotateRight32 x 25
  smallSigma0 x := rotateRight32 x 7 ^^^ rotateRight32 x 18 ^^^ (x >>> 3)
  smallSigma1 x := rotateRight32 x 17 ^^^ rotateRight32 x 19 ^^^ (x >>> 10)
  initial := [0x6a09e667, 0xbb67ae85, 0x3c6ef372, 0xa54ff53a,
    0x510e527f, 0x9b05688c, 0x1f83d9ab, 0x5be0cd19]
  constants := [
    0x428a2f98, 0x71374491, 0xb5c0fbcf, 0xe9b5dba5, 0x3956c25b, 0x59f111f1, 0x923f82a4, 0xab1c5ed5,
    0xd807aa98, 0x12835b01, 0x243185be, 0x550c7dc3, 0x72be5d74, 0x80deb1fe, 0x9bdc06a7, 0xc19bf174,
    0xe49b69c1, 0xefbe4786, 0x0fc19dc6, 0x240ca1cc, 0x2de92c6f, 0x4a7484aa, 0x5cb0a9dc, 0x76f988da,
    0x983e5152, 0xa831c66d, 0xb00327c8, 0xbf597fc7, 0xc6e00bf3, 0xd5a79147, 0x06ca6351, 0x14292967,
    0x27b70a85, 0x2e1b2138, 0x4d2c6dfc, 0x53380d13, 0x650a7354, 0x766a0abb, 0x81c2c92e, 0x92722c85,
    0xa2bfe8a1, 0xa81a664b, 0xc24b8b70, 0xc76c51a3, 0xd192e819, 0xd6990624, 0xf40e3585, 0x106aa070,
    0x19a4c116, 0x1e376c08, 0x2748774c, 0x34b0bcb5, 0x391c0cb3, 0x4ed8aa4a, 0x5b9cca4f, 0x682e6ff3,
    0x748f82ee, 0x78a5636f, 0x84c87814, 0x8cc70208, 0x90befffa, 0xa4506ceb, 0xbef9a3f7, 0xc67178f2]

/-- The 32-byte hash of a message. -/
def sha256 (message : Bytes) : Bytes := Sha2.narrow.digest message

/-- Every SHA-256 hash is 32 bytes long. -/
@[simp] theorem length_sha256 (message : Bytes) : (sha256 message).length = 32 := by
  simp [sha256, Sha2.digest, Sha2.Chain.toList, Sha2.narrow]

-- ========================================================== SHA-512

private def rotateRight64 (word : UInt64) (count : UInt64) : UInt64 :=
  (word >>> count) ||| (word <<< (64 - count))

/-- SHA-512: words of eight bytes, eighty rounds. -/
def Sha2.wide : Sha2 UInt64 where
  wordLength := 8
  wordOf bytes := (bigEndian bytes).toUInt64
  bytesOf word := bigEndianBytes 8 word.toNat
  bigSigma0 x := rotateRight64 x 28 ^^^ rotateRight64 x 34 ^^^ rotateRight64 x 39
  bigSigma1 x := rotateRight64 x 14 ^^^ rotateRight64 x 18 ^^^ rotateRight64 x 41
  smallSigma0 x := rotateRight64 x 1 ^^^ rotateRight64 x 8 ^^^ (x >>> 7)
  smallSigma1 x := rotateRight64 x 19 ^^^ rotateRight64 x 61 ^^^ (x >>> 6)
  initial := [0x6a09e667f3bcc908, 0xbb67ae8584caa73b, 0x3c6ef372fe94f82b, 0xa54ff53a5f1d36f1,
    0x510e527fade682d1, 0x9b05688c2b3e6c1f, 0x1f83d9abfb41bd6b, 0x5be0cd19137e2179]
  constants := [
    0x428a2f98d728ae22, 0x7137449123ef65cd, 0xb5c0fbcfec4d3b2f, 0xe9b5dba58189dbbc,
    0x3956c25bf348b538, 0x59f111f1b605d019, 0x923f82a4af194f9b, 0xab1c5ed5da6d8118,
    0xd807aa98a3030242, 0x12835b0145706fbe, 0x243185be4ee4b28c, 0x550c7dc3d5ffb4e2,
    0x72be5d74f27b896f, 0x80deb1fe3b1696b1, 0x9bdc06a725c71235, 0xc19bf174cf692694,
    0xe49b69c19ef14ad2, 0xefbe4786384f25e3, 0x0fc19dc68b8cd5b5, 0x240ca1cc77ac9c65,
    0x2de92c6f592b0275, 0x4a7484aa6ea6e483, 0x5cb0a9dcbd41fbd4, 0x76f988da831153b5,
    0x983e5152ee66dfab, 0xa831c66d2db43210, 0xb00327c898fb213f, 0xbf597fc7beef0ee4,
    0xc6e00bf33da88fc2, 0xd5a79147930aa725, 0x06ca6351e003826f, 0x142929670a0e6e70,
    0x27b70a8546d22ffc, 0x2e1b21385c26c926, 0x4d2c6dfc5ac42aed, 0x53380d139d95b3df,
    0x650a73548baf63de, 0x766a0abb3c77b2a8, 0x81c2c92e47edaee6, 0x92722c851482353b,
    0xa2bfe8a14cf10364, 0xa81a664bbc423001, 0xc24b8b70d0f89791, 0xc76c51a30654be30,
    0xd192e819d6ef5218, 0xd69906245565a910, 0xf40e35855771202a, 0x106aa07032bbd1b8,
    0x19a4c116b8d2d0c8, 0x1e376c085141ab53, 0x2748774cdf8eeb99, 0x34b0bcb5e19b48a8,
    0x391c0cb3c5c95a63, 0x4ed8aa4ae3418acb, 0x5b9cca4f7763e373, 0x682e6ff3d6b2b8a3,
    0x748f82ee5defb2fc, 0x78a5636f43172f60, 0x84c87814a1f0ab72, 0x8cc702081a6439ec,
    0x90befffa23631e28, 0xa4506cebde82bde9, 0xbef9a3f7b2c67915, 0xc67178f2e372532b,
    0xca273eceea26619c, 0xd186b8c721c0c207, 0xeada7dd6cde0eb1e, 0xf57d4f7fee6ed178,
    0x06f067aa72176fba, 0x0a637dc5a2c898a6, 0x113f9804bef90dae, 0x1b710b35131c471b,
    0x28db77f523047d84, 0x32caab7b40c72493, 0x3c9ebe0a15c9bebc, 0x431d67c49c100d4c,
    0x4cc5d4becb3e42b6, 0x597f299cfc657e2a, 0x5fcb6fab3ad6faec, 0x6c44198c4a475817]

/-- The 64-byte hash of a message. -/
def sha512 (message : Bytes) : Bytes := Sha2.wide.digest message

end Luminaire
