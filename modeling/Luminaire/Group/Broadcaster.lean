/-
The broadcaster owns the group's keys and says when a frame is done.

Requests wait in a queue and are worked off one at a time; rotations may
also happen on their own in between. The frame notes are numbered without
gaps through all rotations. Ending it takes effect behind everything that
was accepted before; nothing is accepted afterwards.
-/
import Luminaire.Group.Broadcast
import Luminaire.Group.KeyRing
import Luminaire.Net.Link
import Luminaire.Observers
import Luminaire.Started

namespace Luminaire

/-- A request that waits its turn. -/
inductive GroupRequest where
  | note (frame : UInt64)
  | rotate
  | stop
  deriving DecidableEq, Repr

/-- Observers of type `ω` are told about new keys. -/
structure Broadcaster (ω : Type) where
  config : GroupConfig
  link : Link
  ring : KeyRing
  /-- Keyed with the current key of the ring. -/
  cipher : GroupCipher
  observers : Observers ω
  requests : List GroupRequest
  /-- Number of the next note. -/
  sequence : UInt64
  /-- Tag of the next note. -/
  tag : UInt8
  /-- Whether it has been told to end. -/
  terminated : Bool
  /-- Whether it still works off requests. -/
  running : Bool

namespace Broadcaster

variable {ω : Type}

-- ========================================================= starting

/-- Whether the number of hops can be set; all ones stands for the
system's own choice. -/
def hopsAllowed (ttl : UInt32) : Bool := ttl.toNat ≤ 255 || ttl.toNat = UInt32.size - 1

/-- Whether the socket can be told which interface to use. A path that is
down has none but the unspecified one; the choice is made for IPv4 only. -/
def interfaceAllowed (link : Link) (target : IpAddress) (interface : Option IpAddress) : Bool :=
  match target, interface with
  | .v4 _, some (.v4 octets) => link == .up || IpAddress.v4 octets == .anyV4
  | _, _ => true

/-- Draws the next key and loads it. On failure nothing changes but the
randomness. -/
def rotateKeys (ring : KeyRing) (cipher : GroupCipher) (entropy : Entropy) :
    Except CryptoError GroupKey × KeyRing × GroupCipher × Entropy :=
  match ring.generate entropy with
  | (.error fault, ring, entropy) => (.error fault, ring, cipher, entropy)
  | (.ok key, ring, entropy) =>
      match GroupCipher.load key.key with
      | (.error fault, cipher) => (.error fault, ring, cipher, entropy)
      | (.ok (), cipher) => (.ok key, ring, cipher, entropy)

/-- Starts broadcasting to `target`, under a first key. -/
def start (config : GroupConfig) (link : Link) (target : IpAddress) (entropy : Entropy) :
    Started GroupError (Broadcaster ω × Entropy) :=
  match config.validate with
  | .error fault => .failed (.config fault)
  | .ok () =>
      if hopsAllowed config.ttl && interfaceAllowed link target config.interface then
        match KeyRing.new? config.keyHistory.toNat with
        | none => .crashed
        | some ring =>
            match rotateKeys ring .empty entropy with
            | (.error fault, _, _, _) => .failed (.crypto fault)
            | (.ok _, ring, cipher, entropy) =>
                .running ({
                  config, link, ring, cipher
                  observers := .empty
                  requests := []
                  sequence := 0
                  tag := 0
                  terminated := false
                  running := true }, entropy)
      else .failed .socket

-- ============================================================= keys

/-- The identifier of the key in use. -/
def currentId (broadcaster : Broadcaster ω) : UInt32 := broadcaster.ring.currentId?.getD 0

/-- Key and initial value under an identifier. -/
def material? (broadcaster : Broadcaster ω) (id : UInt32) : Option (Bytes × Bytes) :=
  (broadcaster.ring.get? id).map fun key => (key.key, key.iv)

/-- Opens a broadcast with the key its header names. -/
def reopen (broadcaster : Broadcaster ω) (datagram : Bytes) :
    Except GroupError (GroupHeader × SyncOutput) :=
  match readHeader (H := GroupHeader) datagram with
  | .error fault => .error (.frame fault)
  | .ok header =>
      match broadcaster.material? header.keyId with
      | none => .error (.crypto .noKey)
      | some (key, iv) => Broadcast.read datagram key iv

/-- Rotates the keys. -/
def rotate (broadcaster : Broadcaster ω) (entropy : Entropy) :
    Except CryptoError GroupKey × Broadcaster ω × Entropy :=
  let (result, ring, cipher, entropy) := rotateKeys broadcaster.ring broadcaster.cipher entropy
  (result, { broadcaster with ring, cipher }, entropy)

def observe (broadcaster : Broadcaster ω) (observer : ω) : Token × Broadcaster ω :=
  let (token, observers) := broadcaster.observers.insert observer
  (token, { broadcaster with observers })

/-- Ends a registration. -/
def unobserve (broadcaster : Broadcaster ω) (token : Token) : Broadcaster ω :=
  { broadcaster with observers := broadcaster.observers.erase token }

-- ============================================================ notes

/-- The type of a note that a frame is done. -/
def noteType : UInt8 := Message.messageType SyncOutput

/-- Seals a note under the current key. Its number is taken even if that
fails, its tag only once it is sealed. -/
def note (broadcaster : Broadcaster ω) (now frameNumber : UInt64) :
    Except GroupError Bytes × Broadcaster ω :=
  let text := Cbor.encode (SyncOutput.mk frameNumber now)
  let sequence := broadcaster.sequence
  let broadcaster := { broadcaster with sequence := sequence + 1 }
  match broadcaster.ring.current? with
  | none => (.error (.crypto .noKey), broadcaster)
  | some key =>
      match broadcaster.cipher.encrypt text (Broadcast.iv key.iv sequence) with
      | .error fault => (.error (.crypto fault), broadcaster)
      | .ok sealed =>
          let header := GroupHeader.new noteType broadcaster.tag key.id
          let broadcaster := { broadcaster with tag := broadcaster.tag + 1 }
          match frame header (Broadcast.payload sequence sealed) with
          | .error fault => (.error (.frame fault), broadcaster)
          | .ok datagram =>
              if broadcaster.link.takes datagram then (.ok datagram, broadcaster)
              else (.error .socket, broadcaster)

-- ========================================================= requests

/-- Accepts a request, unless it has been told to end. -/
def request (broadcaster : Broadcaster ω) (item : GroupRequest) : Bool × Broadcaster ω :=
  if broadcaster.terminated then (false, broadcaster)
  else (true, { broadcaster with requests := broadcaster.requests ++ [item] })

/-- Tells it to end. -/
def terminate (broadcaster : Broadcaster ω) : Broadcaster ω :=
  if broadcaster.terminated then broadcaster
  else { broadcaster with terminated := true, requests := broadcaster.requests ++ [.stop] }

/-- What came of one piece of work. -/
inductive Work where
  | idle
  | sent (datagram : Bytes)
  | unsent (fault : GroupError)
  | rotated (key : GroupKey)
  | unrotated (fault : CryptoError)
  | stopped

/-- Rotates the keys, and says what came of it. -/
def renew (broadcaster : Broadcaster ω) (entropy : Entropy) : Work × Broadcaster ω × Entropy :=
  match broadcaster.rotate entropy with
  | (.ok key, broadcaster, entropy) => (.rotated key, broadcaster, entropy)
  | (.error fault, broadcaster, entropy) => (.unrotated fault, broadcaster, entropy)

/-- Works off the oldest request. -/
def work (broadcaster : Broadcaster ω) (now : UInt64) (entropy : Entropy) :
    Work × Broadcaster ω × Entropy :=
  match broadcaster.running, broadcaster.requests with
  | true, .note frameNumber :: requests =>
      match { broadcaster with requests }.note now frameNumber with
      | (.ok datagram, broadcaster) => (.sent datagram, broadcaster, entropy)
      | (.error fault, broadcaster) => (.unsent fault, broadcaster, entropy)
  | true, .rotate :: requests => { broadcaster with requests }.renew entropy
  | true, .stop :: requests =>
      (.stopped, { broadcaster with requests, running := false }, entropy)
  | _, _ => (.idle, broadcaster, entropy)

/-- The time between two rotations has passed: the keys rotate on their own,
as long as requests are worked off at all. -/
def elapse (broadcaster : Broadcaster ω) (entropy : Entropy) : Work × Broadcaster ω × Entropy :=
  if broadcaster.running then broadcaster.renew entropy else (.idle, broadcaster, entropy)

/-- The broadcaster as text. -/
def debugText (broadcaster : Broadcaster ω) : String :=
  "Syncer \x7b group: " ++ broadcaster.config.address.toString
    ++ s!", key_id: {broadcaster.currentId.toNat}, terminated: {broadcaster.terminated} \x7d"

end Broadcaster

end Luminaire
