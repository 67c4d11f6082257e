/-
The keys of the group: the current one, and as many superseded ones as
the ring is deep.

A new key is drawn with its initial value and then an identifier, which
is drawn again while it is zero or names a key still on the ring. When
the ring is full the oldest key goes. A draw that fails leaves the ring
as it was; the randomness it took is gone.
-/
import Luminaire.CryptoError

namespace Luminaire

/-- One generation of key material. -/
structure GroupKey where
  id : UInt32
  key : Bytes
  iv : Bytes
  deriving DecidableEq, Repr

structure KeyRing where
  /-- How many keys are kept; at least one. -/
  depth : Nat
  /-- The keys, oldest first. -/
  keys : List GroupKey
  deriving DecidableEq, Repr

namespace KeyRing

/-- A ring without keys. -/
def new (depth : Nat) : KeyRing := ⟨max depth 1, []⟩

/-- From this depth on a ring finds no room. Room is set aside for all its
keys at once, in a table that doubles in size and is at most seven eighths
full; a slot takes eighty bytes, so a table beyond `1 <<< 56` slots cannot
be addressed. -/
def depthLimit : Nat := 7 <<< 53

/-- A ring without keys, if there is room for it. -/
def new? (depth : Nat) : Option KeyRing := if depth < depthLimit then some (new depth) else none

def size (ring : KeyRing) : Nat := ring.keys.length

/-- The key in use. -/
def current? (ring : KeyRing) : Option GroupKey := ring.keys.getLast?

def currentId? (ring : KeyRing) : Option UInt32 := ring.current?.map GroupKey.id

/-- The key with an identifier. -/
def get? (ring : KeyRing) (id : UInt32) : Option GroupKey :=
  ring.keys.find? fun key => key.id == id

def contains (ring : KeyRing) (id : UInt32) : Bool := (ring.get? id).isSome

/-- The identifiers on the ring, oldest first. -/
def ids (ring : KeyRing) : List UInt32 := ring.keys.map GroupKey.id

/-- Adds a key as the current one; the oldest go as the depth demands. -/
def push (ring : KeyRing) (key : GroupKey) : KeyRing :=
  let keys := ring.keys ++ [key]
  { ring with keys := keys.drop (keys.length - ring.depth) }

/-- Draws identifiers until one is neither zero nor taken. -/
def drawId (ring : KeyRing) : Entropy → Option UInt32 × Entropy
  | a :: b :: c :: d :: rest =>
      let id := (bigEndian [a, b, c, d]).toUInt32
      if id ≠ 0 ∧ ring.contains id = false then (some id, rest) else ring.drawId rest
  | short => (none, short)

/-- Draws the material of a new key. -/
def drawKey (ring : KeyRing) (entropy : Entropy) : Except CryptoError GroupKey × Entropy :=
  match entropy.draw? 32 with
  | none => (.error (.entropy .groupKey), entropy)
  | some (key, entropy) =>
      match entropy.draw? 16 with
      | none => (.error (.entropy .groupKey), entropy)
      | some (iv, entropy) =>
          match ring.drawId entropy with
          | (none, entropy) => (.error (.entropy .groupKey), entropy)
          | (some id, entropy) => (.ok ⟨id, key, iv⟩, entropy)

/-- Issues a new key. -/
def generate (ring : KeyRing) (entropy : Entropy) :
    Except CryptoError GroupKey × KeyRing × Entropy :=
  match ring.drawKey entropy with
  | (.error fault, entropy) => (.error fault, ring, entropy)
  | (.ok key, entropy) => (.ok key, ring.push key, entropy)

end KeyRing

end Luminaire
