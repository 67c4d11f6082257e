/-
The Poly1305 one-time authenticator (RFC 8439): the message's blocks are
the coefficients of a polynomial, evaluated at the clamped half of the
key modulo the prime 2^130 - 5.
-/
import Luminaire.Bytes

namespace Luminaire.Poly1305

def prime : Nat := (1 <<< 130) - 5

/-- The point of evaluation: twenty-two bits of the key's first half are
cleared. -/
def clamp (r : Nat) : Nat := r &&& 0x0ffffffc0ffffffc0ffffffc0fffffff

/-- Folds `count` blocks of up to sixteen bytes, each closed by a one. -/
def accumulate (r : Nat) : (count : Nat) → Bytes → Nat → Nat
  | 0, _, total => total
  | count + 1, bytes, total =>
      accumulate r count (bytes.drop 16)
        ((total + littleEndian (bytes.take 16 ++ [1])) * r % prime)

/-- The tag of a message under a 32-byte one-time key. -/
def tag (key message : Bytes) : Bytes :=
  let r := clamp (littleEndian (key.take 16))
  let total := accumulate r ((message.length + 15) / 16) message 0
  littleEndianBytes 16 (total + littleEndian (key.drop 16))

@[simp] theorem length_tag (key message : Bytes) : (tag key message).length = 16 := by
  simp [tag]

end Luminaire.Poly1305
