/-
Arithmetic modulo the prime 2^255 - 19, the field that the key exchange
and the signatures share.
-/
import Luminaire.Bytes

namespace Luminaire.Curve

/-- The prime of the field. -/
def prime : Nat := (1 <<< 255) - 19

namespace Field

def add (x y : Nat) : Nat := (x + y) % prime

def sub (x y : Nat) : Nat := (x + (prime - y % prime)) % prime

def mul (x y : Nat) : Nat := x * y % prime

def neg (x : Nat) : Nat := sub 0 x

/-- `base ^ exponent`, by squaring along the exponent's binary digits. -/
def pow (base exponent : Nat) : Nat :=
  (List.range 256).foldr (fun i result =>
    let squared := mul result result
    if exponent.testBit i then mul squared base else squared) 1

/-- The inverse by Fermat's little theorem; zero goes to zero. -/
def inv (x : Nat) : Nat := pow x (prime - 2)

end Field

end Luminaire.Curve
