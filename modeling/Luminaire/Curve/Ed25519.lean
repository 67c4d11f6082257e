/-
Ed25519 signatures (RFC 8032).

Verification is the equation without the cofactor: the point behind the
signature's first half is recomputed and compared as bytes. The scalar
half must be below the group order; keys of small order are not refused.
-/
import Luminaire.Curve.Field
import Luminaire.Digest.Sha2

namespace Luminaire.Ed25519

open Curve

/-- The order of the base point. -/
def order : Nat := (1 <<< 252) + 27742317777372353535851937790883648493

/-- The curve's constant, -121665 / 121666. -/
def d : Nat := 37095705934669439343138083508754565189542113879843219016388785533085940283555

/-- A square root of -1. -/
def rootMinusOne : Nat :=
  19681161376707505956807079304988542015446066515923890162744021073123829784752

/-- A point in extended coordinates: `x / z`, `y / z` and `x * y / z`. -/
structure Point where
  x : Nat
  y : Nat
  z : Nat
  t : Nat

namespace Point

def zero : Point := ⟨0, 1, 1, 0⟩

def base : Point :=
  let x := 15112221349535400772501151409588531511454012693041857206046113283949847762202
  let y := 46316835694926478169428394003475163141307993866256225615783033603165251855960
  ⟨x, y, 1, Field.mul x y⟩

/-- The complete addition law. -/
def add (p q : Point) : Point :=
  let a := Field.mul (Field.sub p.y p.x) (Field.sub q.y q.x)
  let b := Field.mul (Field.add p.y p.x) (Field.add q.y q.x)
  let c := Field.mul (Field.mul p.t q.t) (Field.mul 2 d)
  let z := Field.mul (Field.mul p.z q.z) 2
  let e := Field.sub b a
  let f := Field.sub z c
  let g := Field.add z c
  let h := Field.add b a
  ⟨Field.mul e f, Field.mul g h, Field.mul f g, Field.mul e h⟩

def neg (p : Point) : Point := ⟨Field.neg p.x, p.y, p.z, Field.neg p.t⟩

/-- The multiple by a scalar below 2^256. -/
def smul (scalar : Nat) (p : Point) : Point :=
  (List.range 256).foldr (fun i result =>
    let doubled := add result result
    if scalar.testBit i then add doubled p else doubled) zero

/-- The 32-byte form: `y`, with the lowest bit of `x` in the top bit. -/
def compress (p : Point) : Bytes :=
  let inverse := Field.inv p.z
  let x := Field.mul p.x inverse
  let y := Field.mul p.y inverse
  littleEndianBytes 32 (y + x % 2 * (1 <<< 255))

@[simp] theorem length_compress (p : Point) : p.compress.length = 32 := by
  simp [compress]

/-- The point with a 32-byte form, if there is one. `y` need not be
reduced, and the sign bit of a zero `x` has no effect. -/
def decompress? (bytes : Bytes) : Option Point :=
  if bytes.length = 32 then
    let value := littleEndian bytes
    let y := value % (1 <<< 255) % prime
    let yy := Field.mul y y
    let u := Field.sub yy 1
    let v := Field.add (Field.mul d yy) 1
    let v3 := Field.mul v (Field.mul v v)
    let v7 := Field.mul v (Field.mul v3 v3)
    let root := Field.mul (Field.mul u v3) (Field.pow (Field.mul u v7) ((prime - 5) / 8))
    let check := Field.mul v (Field.mul root root)
    let x? : Option Nat :=
      if check = u % prime then some root
      else if check = Field.neg u then some (Field.mul root rootMinusOne)
      else none
    x?.map fun x =>
      let x := if (x % 2 == 1) == value.testBit 255 then x else Field.neg x
      ⟨x, y, 1, Field.mul x y⟩
  else
    none

end Point

/-- The two halves of a hashed seed: the signing scalar and the prefix
that makes nonces. -/
def expand (seed : Bytes) : Nat × Bytes :=
  let digest := sha512 seed
  ((littleEndian (digest.take 32) &&& ((1 <<< 254) - 8)) ||| (1 <<< 254), digest.drop 32)

/-- The public key of a seed. -/
def publicKey (seed : Bytes) : Bytes := (Point.smul (expand seed).1 .base).compress

@[simp] theorem length_publicKey (seed : Bytes) : (publicKey seed).length = 32 :=
  Point.length_compress _

private def hashScalar (bytes : Bytes) : Nat := littleEndian (sha512 bytes) % order

/-- The signature of a message under a seed. -/
def sign (seed message : Bytes) : Bytes :=
  let (secret, nonceKey) := expand seed
  let nonce := hashScalar (nonceKey ++ message)
  let commitment := (Point.smul nonce .base).compress
  let challenge := hashScalar (commitment ++ publicKey seed ++ message)
  commitment ++ littleEndianBytes 32 ((nonce + challenge * secret) % order)

@[simp] theorem length_sign (seed message : Bytes) : (sign seed message).length = 64 := by
  simp [sign]

/-- Whether bytes are the public key of some point. -/
def isKey (key : Bytes) : Bool := (Point.decompress? key).isSome

/-- Whether `signature` signs `message` under a public key. -/
def verifies (key message signature : Bytes) : Bool :=
  match Point.decompress? key with
  | none => false
  | some point =>
      let commitment := signature.take 32
      let scalar := littleEndian (signature.drop 32)
      signature.length = 64 && scalar < order &&
        let challenge := hashScalar (commitment ++ key ++ message)
        ((Point.smul scalar .base).add (Point.smul challenge point.neg)).compress == commitment

end Luminaire.Ed25519
