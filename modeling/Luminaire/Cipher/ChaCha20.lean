/-
The ChaCha20 stream cipher (RFC 8439) and its nonce-extending variant
HChaCha20.

The sixteen words of state are kept as four rows of four. A column round
then mixes the rows lane by lane, and a diagonal round is the same mixing
between turning the rows and turning them back.

Masking with the key stream is its own inverse (`mask_mask`):
that is all the authenticated ciphers need to know about it.
-/
import Luminaire.Bytes

namespace Luminaire.ChaCha20

/-- Four words, mixed lane by lane. -/
structure Row where
  w0 : UInt32
  w1 : UInt32
  w2 : UInt32
  w3 : UInt32

namespace Row

def add (x y : Row) : Row := ⟨x.w0 + y.w0, x.w1 + y.w1, x.w2 + y.w2, x.w3 + y.w3⟩

def rotateWord (count word : UInt32) : UInt32 := (word <<< count) ||| (word >>> (32 - count))

/-- Exclusive or, then each word rotated left by `count` bits. -/
def xorRotate (count : UInt32) (x y : Row) : Row :=
  ⟨rotateWord count (x.w0 ^^^ y.w0), rotateWord count (x.w1 ^^^ y.w1),
    rotateWord count (x.w2 ^^^ y.w2), rotateWord count (x.w3 ^^^ y.w3)⟩

/-- The words turned by one place to the left. -/
def turn (x : Row) : Row := ⟨x.w1, x.w2, x.w3, x.w0⟩

/-- The row spelled by sixteen little endian bytes. -/
def ofBytes (bytes : Bytes) : Row :=
  let word (i : Nat) : UInt32 := (littleEndian ((bytes.drop (4 * i)).take 4)).toUInt32
  ⟨word 0, word 1, word 2, word 3⟩

def toBytes (x : Row) : Bytes :=
  [x.w0, x.w1, x.w2, x.w3].flatMap fun word => littleEndianBytes 4 word.toNat

@[simp] theorem length_toBytes (x : Row) : x.toBytes.length = 16 := by
  simp [toBytes]

end Row

/-- The cipher's state. -/
structure State where
  a : Row
  b : Row
  c : Row
  d : Row

/-- The quarter round in all four columns at once. -/
def State.mixColumns (s : State) : State :=
  let a := s.a.add s.b
  let d := Row.xorRotate 16 s.d a
  let c := s.c.add d
  let b := Row.xorRotate 12 s.b c
  let a := a.add b
  let d := Row.xorRotate 8 d a
  let c := c.add d
  let b := Row.xorRotate 7 b c
  ⟨a, b, c, d⟩

/-- A column round and a diagonal round. -/
def State.doubleRound (s : State) : State :=
  let s := s.mixColumns
  let s := State.mixColumns ⟨s.a, s.b.turn, s.c.turn.turn, s.d.turn.turn.turn⟩
  ⟨s.a, s.b.turn.turn.turn, s.c.turn.turn, s.d.turn⟩

/-- Ten double rounds. -/
def State.permute (s : State) : State :=
  (List.range 10).foldl (fun s _ => s.doubleRound) s

/-- "expand 32-byte k", the fixed first row. -/
def constants : Row := ⟨0x61707865, 0x3320646e, 0x79622d32, 0x6b206574⟩

/-- The state for a 32-byte key and the sixteen bytes of counter and nonce. -/
def start (key tail : Bytes) : State :=
  ⟨constants, .ofBytes (key.take 16), .ofBytes (key.drop 16), .ofBytes tail⟩

/-- The block of key stream at a counter. -/
def block (key nonce : Bytes) (counter : Nat) : Bytes :=
  let s := start key (littleEndianBytes 4 counter ++ nonce)
  let mixed := s.permute
  (s.a.add mixed.a).toBytes ++ (s.b.add mixed.b).toBytes
    ++ (s.c.add mixed.c).toBytes ++ (s.d.add mixed.d).toBytes

@[simp] theorem length_block (key nonce : Bytes) (counter : Nat) :
    (block key nonce counter).length = 64 := by
  simp [block]

/-- `count` blocks of key stream, the first at `counter`. -/
def keystream (key nonce : Bytes) (counter count : Nat) : Bytes :=
  (List.range count).flatMap fun i => block key nonce (counter + i)

theorem length_keystream (key nonce : Bytes) (counter count : Nat) :
    (keystream key nonce counter count).length = 64 * count := by
  induction count with
  | zero => rfl
  | succ count ih =>
      rw [keystream] at ih ⊢
      rw [List.range_succ, List.flatMap_append, List.length_append, ih]
      simp [Nat.mul_succ]

/-- A text masked with the key stream from block `counter` on. -/
def mask (key nonce : Bytes) (counter : Nat) (text : Bytes) : Bytes :=
  xorBytes text (keystream key nonce counter ((text.length + 63) / 64))

@[simp] theorem length_mask (key nonce : Bytes) (counter : Nat) (text : Bytes) :
    (mask key nonce counter text).length = text.length := by
  rw [mask, length_xorBytes, length_keystream]
  omega

/-- Masking undoes itself. -/
theorem mask_mask (key nonce : Bytes) (counter : Nat) (text : Bytes) :
    mask key nonce counter (mask key nonce counter text) = text := by
  have same := length_mask key nonce counter text
  unfold mask at same ⊢
  rw [same]
  apply xorBytes_xorBytes
  rw [length_keystream]
  omega

/-- The key HChaCha20 derives from a key and sixteen bytes of nonce. -/
def subkey (key nonce : Bytes) : Bytes :=
  let mixed := (start key nonce).permute
  mixed.a.toBytes ++ mixed.d.toBytes

end Luminaire.ChaCha20
