/-
Payloads as JSON documents, type by type, and between documents and the
bytes they travel as.
-/
import Luminaire.Document.Value
import Luminaire.Message.Payloads

namespace Luminaire

open Json

/-- How the payloads of one type are read from and written to both forms. -/
structure PayloadForm where
  /-- The document for some bytes, and the bytes the value travels as. -/
  decode? : Bytes → Option (Json × Bytes)
  /-- The bytes for a document. -/
  encode? : Json → Option Bytes

namespace PayloadForm

def make (α : Type) [Cbor.Payload α] (toJson : α → Json) (ofJson? : Json → Option α) :
    PayloadForm where
  decode? bytes := (Cbor.decode? (α := α) bytes).map fun value => (toJson value, Cbor.encode value)
  encode? document := (ofJson? document).map Cbor.encode

def bytesIn (document : Json) (key : String) : Option Bytes := (document.field key).bytesAt "bytes"

def statusToJson (status : Status) : Json := .whole status.code.toNat

def statusIn (document : Json) (key : String) : Option Status :=
  (document.word8 key).bind Status.ofCode?

def authentication : List (String × PayloadForm) := [
  ("AuthRequest", make AuthRequest
    (fun m => .ofPairs [("node_id", .ofText m.nodeId.toString),
      ("methods", .array (m.methods.map .ofText))])
    (fun j => do some ⟨← Uuid.ofJson? (j.field "node_id"), ← (j.itemsAt "methods").mapM text?⟩)),
  ("AuthChallenge", make AuthChallenge
    (fun m => .ofPairs [("status", statusToJson m.status), ("method", .orNull .ofText m.method),
      ("nonce", bytesToJson m.nonce), ("random", bytesToJson m.random)])
    (fun j => do
      some ⟨← statusIn j "status", ← j.ifGiven "method" text?, ← bytesIn j "nonce",
        ← bytesIn j "random"⟩)),
  ("AuthResponse", make AuthResponse
    (fun m => .ofPairs [("proof", bytesToJson m.proof)])
    (fun j => do some ⟨← bytesIn j "proof"⟩)),
  ("AuthResult", make AuthResult
    (fun m => .ofPairs [("status", statusToJson m.status)])
    (fun j => do some ⟨← statusIn j "status"⟩))]

def control : List (String × PayloadForm) := [
  ("Ping", make Ping
    (fun m => .ofPairs [("timestamp_ms", .ofWord64 m.timestampMs)])
    (fun j => do some ⟨← j.word64 "timestamp_ms"⟩)),
  ("Pong", make Pong
    (fun m => .ofPairs [("timestamp_ms", .ofWord64 m.timestampMs),
      ("server_time_ms", .ofWord64 m.serverTimeMs), ("authenticated", .bool m.authenticated)])
    (fun j => do
      some ⟨← j.word64 "timestamp_ms", ← j.word64 "server_time_ms",
        (j.field "authenticated").isTrue⟩)),
  ("Nack", make Nack
    (fun m => .ofPairs [("message_type", .whole m.messageType.toNat),
      ("status", statusToJson m.status)])
    (fun j => do some ⟨← j.word8 "message_type", ← statusIn j "status"⟩)),
  ("Status", make Status statusToJson
    (fun j => j.number?.bind fun code => Status.ofCode? code.toUInt8))]

def group : List (String × PayloadForm) := [
  ("Info", make Info
    (fun m => .ofPairs [("status", statusToJson m.status), ("group", .ofText m.group),
      ("port", .whole m.port.toNat), ("key_id", .ofWord32 m.keyId)])
    (fun j => do
      some ⟨← statusIn j "status", ← j.textAt "group", ← j.word16 "port", ← j.word32 "key_id"⟩)),
  ("GetKey", make GetKey
    (fun m => .ofPairs [("key_id", .ofWord32 m.keyId)])
    (fun j => do some ⟨← j.word32 "key_id"⟩)),
  ("KeyData", make KeyData
    (fun m => .ofPairs [("status", statusToJson m.status), ("key_id", .ofWord32 m.keyId),
      ("key", bytesToJson m.key), ("iv", bytesToJson m.iv)])
    (fun j => do
      some ⟨← statusIn j "status", ← j.word32 "key_id", ← bytesIn j "key", ← bytesIn j "iv"⟩)),
  ("RekeyNotice", make RekeyNotice
    (fun m => .ofPairs [("key_id", .ofWord32 m.keyId), ("key", bytesToJson m.key),
      ("iv", bytesToJson m.iv)])
    (fun j => do some ⟨← j.word32 "key_id", ← bytesIn j "key", ← bytesIn j "iv"⟩)),
  ("SyncOutput", make SyncOutput
    (fun m => .ofPairs [("frame", .ofWord64 m.frame), ("timestamp_ms", .ofWord64 m.timestampMs)])
    (fun j => do some ⟨← j.word64 "frame", ← j.word64 "timestamp_ms"⟩))]

def pixelData : List (String × PayloadForm) := [
  ("Subscribe", make Subscribe
    (fun m => .ofPairs [("channel", .ofWord32 m.channel), ("start", .ofWord32 m.start),
      ("length", .ofWord32 m.length), ("format", .whole m.format.toNat)])
    (fun j => do
      some ⟨← j.word32 "channel", ← j.word32 "start", ← j.word32 "length", ← j.word8 "format"⟩)),
  ("SubscribeAck", make SubscribeAck
    (fun m => .ofPairs [("status", statusToJson m.status), ("channel", .ofWord32 m.channel)])
    (fun j => do some ⟨← statusIn j "status", ← j.word32 "channel"⟩)),
  ("Unsubscribe", make Unsubscribe
    (fun m => .ofPairs [("channel", .orNull .ofWord32 m.channel)])
    (fun j => do some ⟨← j.ifGiven "channel" fun c => c.number?.map Nat.toUInt32⟩)),
  ("UnsubscribeAck", make UnsubscribeAck
    (fun m => .ofPairs [("status", statusToJson m.status), ("removed", .ofWord32 m.removed)])
    (fun j => do some ⟨← statusIn j "status", ← j.word32 "removed"⟩)),
  ("ChannelData", make ChannelData
    (fun m => .ofPairs [("channel", .ofWord32 m.channel), ("offset", .ofWord32 m.offset),
      ("format", .whole m.format.toNat), ("frame", .ofWord64 m.frame),
      ("pixels", bytesToJson m.pixels)])
    (fun j => do
      some ⟨← j.word32 "channel", ← j.word32 "offset", ← j.word8 "format", ← j.word64 "frame",
        ← bytesIn j "pixels"⟩))]

/-- The forms of all types, by name. -/
def all : List (String × PayloadForm) := authentication ++ control ++ group ++ pixelData

end PayloadForm

end Luminaire
