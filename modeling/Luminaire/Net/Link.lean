/-
What the network does with a datagram handed to it.
-/
import Luminaire.Bytes

namespace Luminaire

/-- A path to a peer: it takes datagrams, or it refuses them all. -/
inductive Link where
  | up
  | down
  deriving DecidableEq, Repr

namespace Link

/-- The largest datagram any path takes. -/
def largestDatagram : Nat := 65507

/-- Whether a datagram of this length is taken. -/
def takes (link : Link) (datagram : Bytes) : Bool :=
  link == .up && datagram.length ≤ largestDatagram

/-- What can only be done over a path that is up. -/
def whenUp {α : Type} (link : Link) (value : Unit → Option α) : Option α :=
  match link with
  | .up => value ()
  | .down => none

end Link

end Luminaire
