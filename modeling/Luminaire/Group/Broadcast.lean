/-
Broadcasts to the group: a header that names the key, a sequence number,
and a sealed note of which frame is done.

The sequence number is folded into the key's initial value, so every
broadcast under a key is sealed with a value of its own.
-/
import Luminaire.Config.Basic
import Luminaire.Group.Cipher
import Luminaire.Message.Payloads
import Luminaire.Record.Protection
import Luminaire.Wire.Frame

namespace Luminaire

inductive GroupError where
  | config (fault : ConfigError)
  /-- The socket could not be set up, or refused a datagram. -/
  | socket
  | crypto (fault : CryptoError)
  | frame (fault : FrameError)
  /-- What was sealed does not decode. -/
  | undecodable
  deriving DecidableEq, Repr

/-- The error's wording, where it has a fixed one. -/
def GroupError.message? : GroupError → Option String
  | .config fault => fault.message?
  | .socket | .undecodable => none
  | .crypto fault => fault.message?
  | .frame fault => some fault.message

namespace Broadcast

/-- The initial value of one broadcast. -/
def iv (base : Bytes) (sequence : UInt64) : Bytes := sequenceNonce base sequence

/-- The payload of a broadcast: the sequence number and the sealed text. -/
def payload (sequence : UInt64) (sealed : Bytes) : Bytes :=
  bigEndianBytes 8 sequence.toNat ++ sealed

/-- The datagram that carries a text under a key. -/
def write (header : GroupHeader) (key base : Bytes) (sequence : UInt64) (text : Bytes) :
    Except GroupError Bytes :=
  match GroupCipher.load key with
  | (.error fault, _) => .error (.crypto fault)
  | (.ok (), cipher) =>
      match cipher.encrypt text (iv base sequence) with
      | .error fault => .error (.crypto fault)
      | .ok sealed =>
          match frame header (payload sequence sealed) with
          | .error fault => .error (.frame fault)
          | .ok datagram => .ok datagram

/-- Header and note of a broadcast sealed under this key. -/
def read (datagram key base : Bytes) : Except GroupError (GroupHeader × SyncOutput) :=
  match unframe (H := GroupHeader) datagram with
  | .error fault => .error (.frame fault)
  | .ok (header, payload) =>
      match split? 8 payload with
      | none => .error (.frame (.truncated 8 payload.length))
      | some (sequence, sealed) =>
          match GroupCipher.load key with
          | (.error fault, _) => .error (.crypto fault)
          | (.ok (), cipher) =>
              match cipher.decrypt sealed (iv base (bigEndian sequence).toUInt64) with
              | .error fault => .error (.crypto fault)
              | .ok text =>
                  match Cbor.decode? (α := SyncOutput) text with
                  | none => .error .undecodable
                  | some output => .ok (header, output)

end Broadcast

end Luminaire
