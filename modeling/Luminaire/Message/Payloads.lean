/-
The payloads that nodes and controller exchange, endpoint by endpoint,
with the type byte each travels under and its form in CBOR.
-/
import Luminaire.Message.Status
import Luminaire.Message.Uuid
import Luminaire.Wire.Endpoint

namespace Luminaire

open Cbor

/-- A payload with a message type of its own. -/
class Message (α : Type) extends Payload α where
  messageType : UInt8

/-- The type of a refusal, on every endpoint. -/
def nackType : UInt8 := 0xff

/-- Refuses a request whose type is unknown, or which has no answer of its
own to carry a status. -/
structure Nack where
  messageType : UInt8
  status : Status
  deriving DecidableEq, Repr

instance : Message Nack where
  messageType := nackType
  codec := .record (.field "message_type" .word8 <| .field "status" Status.codec .nil)
    (fun m => (m.messageType, m.status, ())) (fun (messageType, status, _) => ⟨messageType, status⟩)

-- ======================================================== liveness

structure Ping where
  timestampMs : UInt64
  deriving DecidableEq, Repr

structure Pong where
  timestampMs : UInt64
  serverTimeMs : UInt64
  authenticated : Bool
  deriving DecidableEq, Repr

instance : Message Ping where
  messageType := 0x01
  codec := .record (.field "timestamp_ms" .word64 .nil)
    (fun m => (m.timestampMs, ())) (fun (timestampMs, _) => ⟨timestampMs⟩)

instance : Message Pong where
  messageType := 0x02
  codec := .record
    (.field "timestamp_ms" .word64 <| .field "server_time_ms" .word64 <|
      .field "authenticated" .flag .nil)
    (fun m => (m.timestampMs, m.serverTimeMs, m.authenticated, ()))
    (fun (timestampMs, serverTimeMs, authenticated, _) => ⟨timestampMs, serverTimeMs, authenticated⟩)

-- ================================================== authentication

/-- A node names itself and the challenge methods it knows. -/
structure AuthRequest where
  nodeId : Uuid
  methods : List String
  deriving DecidableEq

/-- The method chosen and the controller's challenge. -/
structure AuthChallenge where
  status : Status
  method : Option String
  nonce : Bytes
  random : Bytes
  deriving DecidableEq, Repr

structure AuthResponse where
  proof : Bytes
  deriving DecidableEq, Repr

structure AuthResult where
  status : Status
  deriving DecidableEq, Repr

instance : Message AuthRequest where
  messageType := 0x01
  codec := .record (.field "node_id" Uuid.codec <| .field "methods" (.list .text) .nil)
    (fun m => (m.nodeId, m.methods, ())) (fun (nodeId, methods, _) => ⟨nodeId, methods⟩)

instance : Message AuthChallenge where
  messageType := 0x02
  codec := .record
    (.field "status" Status.codec <| .field "method" (.optional .text) <|
      .field "nonce" .bytes <| .field "random" .bytes .nil)
    (fun m => (m.status, m.method, m.nonce, m.random, ()))
    (fun (status, method, nonce, random, _) => ⟨status, method, nonce, random⟩)

instance : Message AuthResponse where
  messageType := 0x03
  codec := .record (.field "proof" .bytes .nil) (fun m => (m.proof, ())) (fun (proof, _) => ⟨proof⟩)

instance : Message AuthResult where
  messageType := 0x04
  codec := .record (.field "status" Status.codec .nil)
    (fun m => (m.status, ())) (fun (status, _) => ⟨status⟩)

-- ====================================================== pixel data

/-- Asks for a run of one channel's pixels. The format stays a raw code,
so that unknown ones are answered with a status. -/
structure Subscribe where
  channel : UInt32
  start : UInt32
  length : UInt32
  format : UInt8
  deriving DecidableEq, Repr

structure SubscribeAck where
  status : Status
  channel : UInt32
  deriving DecidableEq, Repr

/-- Gives up one channel, or all of them. -/
structure Unsubscribe where
  channel : Option UInt32
  deriving DecidableEq, Repr

structure UnsubscribeAck where
  status : Status
  removed : UInt32
  deriving DecidableEq, Repr

/-- A subscribed region's pixels, pushed when a frame completes it. -/
structure ChannelData where
  channel : UInt32
  offset : UInt32
  format : UInt8
  frame : UInt64
  pixels : Bytes
  deriving DecidableEq, Repr

/-- What the CBOR form of channel data adds to its pixel bytes, at most. -/
def channelDataOverhead : Nat := 64

instance : Message Subscribe where
  messageType := 0x01
  codec := .record
    (.field "channel" .word32 <| .field "start" .word32 <| .field "length" .word32 <|
      .field "format" .word8 .nil)
    (fun m => (m.channel, m.start, m.length, m.format, ()))
    (fun (channel, start, length, format, _) => ⟨channel, start, length, format⟩)

instance : Message SubscribeAck where
  messageType := 0x02
  codec := .record (.field "status" Status.codec <| .field "channel" .word32 .nil)
    (fun m => (m.status, m.channel, ())) (fun (status, channel, _) => ⟨status, channel⟩)

instance : Message Unsubscribe where
  messageType := 0x03
  codec := .record (.field "channel" (.optional .word32) .nil)
    (fun m => (m.channel, ())) (fun (channel, _) => ⟨channel⟩)

instance : Message UnsubscribeAck where
  messageType := 0x04
  codec := .record (.field "status" Status.codec <| .field "removed" .word32 .nil)
    (fun m => (m.status, m.removed, ())) (fun (status, removed, _) => ⟨status, removed⟩)

instance : Message ChannelData where
  messageType := 0x05
  codec := .record
    (.field "channel" .word32 <| .field "offset" .word32 <| .field "format" .word8 <|
      .field "frame" .word64 <| .field "pixels" .bytes .nil)
    (fun m => (m.channel, m.offset, m.format, m.frame, m.pixels, ()))
    (fun (channel, offset, format, frame, pixels, _) => ⟨channel, offset, format, frame, pixels⟩)

-- =============================================== group keys and sync

/-- The type of a request for group information; it carries no payload. -/
def getInfoType : UInt8 := 0x01

/-- Where the group is and which key it uses. -/
structure Info where
  status : Status
  group : String
  port : UInt16
  keyId : UInt32
  deriving DecidableEq, Repr

structure GetKey where
  keyId : UInt32
  deriving DecidableEq, Repr

structure KeyData where
  status : Status
  keyId : UInt32
  key : Bytes
  iv : Bytes
  deriving DecidableEq, Repr

/-- The new key, pushed after every rotation. -/
structure RekeyNotice where
  keyId : UInt32
  key : Bytes
  iv : Bytes
  deriving DecidableEq, Repr

/-- What a broadcast says once it is opened. -/
structure SyncOutput where
  frame : UInt64
  timestampMs : UInt64
  deriving DecidableEq, Repr

instance : Message Info where
  messageType := 0x02
  codec := .record
    (.field "status" Status.codec <| .field "group" .text <| .field "port" .word16 <|
      .field "key_id" .word32 .nil)
    (fun m => (m.status, m.group, m.port, m.keyId, ()))
    (fun (status, group, port, keyId, _) => ⟨status, group, port, keyId⟩)

instance : Message GetKey where
  messageType := 0x03
  codec := .record (.field "key_id" .word32 .nil) (fun m => (m.keyId, ())) (fun (keyId, _) => ⟨keyId⟩)

instance : Message KeyData where
  messageType := 0x04
  codec := .record
    (.field "status" Status.codec <| .field "key_id" .word32 <| .field "key" .bytes <|
      .field "iv" .bytes .nil)
    (fun m => (m.status, m.keyId, m.key, m.iv, ()))
    (fun (status, keyId, key, iv, _) => ⟨status, keyId, key, iv⟩)

instance : Message RekeyNotice where
  messageType := 0x05
  codec := .record
    (.field "key_id" .word32 <| .field "key" .bytes <| .field "iv" .bytes .nil)
    (fun m => (m.keyId, m.key, m.iv, ())) (fun (keyId, key, iv, _) => ⟨keyId, key, iv⟩)

instance : Message SyncOutput where
  messageType := 0x01
  codec := .record (.field "frame" .word64 <| .field "timestamp_ms" .word64 .nil)
    (fun m => (m.frame, m.timestampMs, ())) (fun (frame, timestampMs, _) => ⟨frame, timestampMs⟩)

end Luminaire
