/-
The X25519 key exchange (RFC 7748).
-/
import Luminaire.Curve.Field

namespace Luminaire.X25519

open Curve

/-- A secret as a scalar: the lowest three bits and the top bit cleared,
the second highest set. -/
def scalar (secret : Bytes) : Nat :=
  (littleEndian secret &&& ((1 <<< 254) - 8)) ||| (1 <<< 254)

/-- The pair of projective points the ladder keeps: a multiple and the
multiple after it. -/
structure Ladder where
  x2 : Nat
  z2 : Nat
  x3 : Nat
  z3 : Nat

/-- Exchanges the two points. -/
def Ladder.swap (s : Ladder) : Ladder := ⟨s.x3, s.z3, s.x2, s.z2⟩

/-- Doubles the first point and adds the two. -/
def Ladder.step (u : Nat) (s : Ladder) : Ladder :=
  let a := Field.add s.x2 s.z2
  let b := Field.sub s.x2 s.z2
  let aa := Field.mul a a
  let bb := Field.mul b b
  let e := Field.sub aa bb
  let da := Field.mul (Field.sub s.x3 s.z3) a
  let cb := Field.mul (Field.add s.x3 s.z3) b
  let sum := Field.add da cb
  let difference := Field.sub da cb
  ⟨Field.mul aa bb, Field.mul e (Field.add aa (Field.mul 121665 e)),
    Field.mul sum sum, Field.mul u (Field.mul difference difference)⟩

/-- The multiple of the point `u` by a secret. -/
def exchange (secret point : Bytes) : Bytes :=
  let u := littleEndian point % (1 <<< 255) % prime
  let k := scalar secret
  let last := (List.range 255).foldr (fun i s =>
    if k.testBit i then (Ladder.step u s.swap).swap else Ladder.step u s) ⟨1, 0, u, 1⟩
  littleEndianBytes 32 (Field.mul last.x2 (Field.inv last.z2))

@[simp] theorem length_exchange (secret point : Bytes) : (exchange secret point).length = 32 := by
  simp [exchange]

/-- The public share of a secret: its multiple of the base point. -/
def share (secret : Bytes) : Bytes := exchange secret (littleEndianBytes 32 9)

@[simp] theorem length_share (secret : Bytes) : (share secret).length = 32 :=
  length_exchange ..

/-- An exchange contributes nothing when its outcome is the zero point:
the other side sent a point of small order. -/
def contributory (shared : Bytes) : Bool := shared != littleEndianBytes 32 0

end Luminaire.X25519
