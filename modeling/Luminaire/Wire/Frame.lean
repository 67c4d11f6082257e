/-
Framing: a fixed header in front of a payload.

A unicast message has six bytes of header, a broadcast ten, which add the
id of the key the payload is sealed with. Both start with the protocol
version and carry the payload's length in sixteen bits, so framing is
written once, for any header that can be laid out that way (`Framed`).

A frame may be followed by other bytes in its datagram; they are ignored.
-/
import Luminaire.Bytes
import Luminaire.Text.Hex
import Luminaire.Wire.Endpoint

namespace Luminaire

/-- The version every header must carry. -/
def protocolVersion : UInt8 := 1

/-- The longest payload the sixteen-bit length can describe. -/
def maxPayloadLength : Nat := 65535

inductive FrameError where
  | truncated (needed actual : Nat)
  | versionMismatch (version : UInt8)
  | payloadTooLarge (length : Nat)
  deriving DecidableEq, Repr

namespace FrameError

def message : FrameError → String
  | .truncated needed actual => s!"message truncated: need {needed} bytes, have {actual}"
  | .versionMismatch version => "unsupported protocol version " ++ prefixedHex version
  | .payloadTooLarge length => s!"payload of {length} bytes exceeds the 16-bit length field"

/-- A foreign version ends a connection; any other fault costs one message. -/
def isFatal : FrameError → Bool
  | .versionMismatch _ => true
  | _ => false

end FrameError

-- ========================================================== headers

/-- A header that can stand in front of a payload. -/
class Framed (H : Type) where
  /-- Its length in bytes. -/
  size : Nat
  toBytes : H → Bytes
  /-- Reads the leading `size` bytes, if there are so many. -/
  ofBytes? : Bytes → Option H
  version : H → UInt8
  length : H → UInt16
  withLength : H → UInt16 → H

/-- Header of a message on a connection. -/
structure Header where
  version : UInt8
  endpoint : UInt8
  messageType : UInt8
  tag : UInt8
  length : UInt16
  deriving DecidableEq, Repr

/-- Header of a broadcast to the group. -/
structure GroupHeader where
  version : UInt8
  endpoint : UInt8
  messageType : UInt8
  tag : UInt8
  length : UInt16
  /-- Names the key the payload is sealed with. -/
  keyId : UInt32
  deriving DecidableEq, Repr

namespace Header

/-- The header of a fresh message; its length is filled in by framing. -/
def new (endpoint : Endpoint) (messageType tag : UInt8) : Header :=
  ⟨protocolVersion, endpoint.code, messageType, tag, 0⟩

/-- The header of an answer: same endpoint and tag, another type. -/
def reply (request : Header) (messageType : UInt8) : Header :=
  ⟨protocolVersion, request.endpoint, messageType, request.tag, 0⟩

instance : Framed Header where
  size := 6
  toBytes h := [h.version, h.endpoint, h.messageType, h.tag] ++ bigEndianBytes 2 h.length.toNat
  ofBytes?
    | version :: endpoint :: messageType :: tag :: l1 :: l0 :: _ =>
        some ⟨version, endpoint, messageType, tag, (bigEndian [l1, l0]).toUInt16⟩
    | _ => none
  version := Header.version
  length := Header.length
  withLength h length := { h with length }

end Header

namespace GroupHeader

/-- The header of a fresh broadcast. -/
def new (messageType tag : UInt8) (keyId : UInt32) : GroupHeader :=
  ⟨protocolVersion, Endpoint.multicastData.code, messageType, tag, 0, keyId⟩

instance : Framed GroupHeader where
  size := 10
  toBytes h :=
    [h.version, h.endpoint, h.messageType, h.tag] ++ bigEndianBytes 2 h.length.toNat
      ++ bigEndianBytes 4 h.keyId.toNat
  ofBytes?
    | version :: endpoint :: messageType :: tag :: l1 :: l0 :: k3 :: k2 :: k1 :: k0 :: _ =>
        some ⟨version, endpoint, messageType, tag, (bigEndian [l1, l0]).toUInt16,
          (bigEndian [k3, k2, k1, k0]).toUInt32⟩
    | _ => none
  version := GroupHeader.version
  length := GroupHeader.length
  withLength h length := { h with length }

end GroupHeader

-- =========================================================== frames

variable {H : Type} [Framed H]

/-- Reads a header. A short datagram is reported before a foreign version. -/
def readHeader (bytes : Bytes) : Except FrameError H :=
  match Framed.ofBytes? bytes with
  | none => .error (.truncated (Framed.size H) bytes.length)
  | some header =>
      if Framed.version header = protocolVersion then .ok header
      else .error (.versionMismatch (Framed.version header))

/-- The header, with the payload's length filled in, and the payload. -/
def frame (header : H) (payload : Bytes) : Except FrameError Bytes :=
  if payload.length ≤ maxPayloadLength then
    .ok (Framed.toBytes (Framed.withLength header payload.length.toUInt16) ++ payload)
  else
    .error (.payloadTooLarge payload.length)

/-- Splits a datagram into its header and exactly the payload it announces. -/
def unframe (datagram : Bytes) : Except FrameError (H × Bytes) :=
  match readHeader (H := H) datagram with
  | .error fault => .error fault
  | .ok header =>
      let stop := Framed.size H + (Framed.length header).toNat
      if datagram.length < stop then
        .error (.truncated stop datagram.length)
      else
        .ok (header, (datagram.take stop).drop (Framed.size H))

end Luminaire
