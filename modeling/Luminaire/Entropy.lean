/-
Randomness as a value.

Whatever draws random bytes takes them from the front of a stream and
hands on what is left, so a run is determined by its stream. A draw the
stream cannot serve in full takes nothing.
-/
import Luminaire.Bytes

namespace Luminaire

/-- The random bytes still to be drawn. -/
abbrev Entropy := Bytes

/-- The next `count` bytes and the stream behind them. -/
def Entropy.draw? (entropy : Entropy) (count : Nat) : Option (Bytes × Entropy) :=
  split? count entropy

theorem Entropy.draw?_eq_some_iff {entropy rest : Entropy} {count : Nat} {bytes : Bytes} :
    entropy.draw? count = some (bytes, rest) ↔ entropy = bytes ++ rest ∧ bytes.length = count :=
  split?_eq_some_iff

/-- What a draw of random bytes was for, as its failure reports it. -/
inductive Purpose where
  | handshake
  | decoySecret
  | challenge
  | cookieSecret
  | groupKey
  deriving DecidableEq, Repr

/-- The words a failed draw puts before its cause. -/
def Purpose.label : Purpose → String
  | .handshake | .decoySecret => ""
  | .challenge => "auth challenge: "
  | .cookieSecret => "cookie secret: "
  | .groupKey => "multicast key material: "

end Luminaire
