/-
Scripts for handshakes with one scripted side, and for single messages on
their way over a path.
-/
import Luminaire.Document.Fault
import Luminaire.Document.Value
import Luminaire.Rehearsal.Handshake
import Luminaire.Rehearsal.Script.Basic

namespace Luminaire.Rehearsal.Script

open Json

-- ========================================================= messages

/-- The message a document describes. -/
def messageOf (document : Json) : Option HandshakeMessage := do
  if document.given "client_hello" then
    some (.clientHello (← ClientHello.ofJson? (document.field "client_hello")))
  else if document.given "server_hello" then
    let hello := document.field "server_hello"
    some (.serverHello ⟨← hello.bytesAt "body", ← hello.bytesAt "signature"⟩)
  else some (.helloVerifyRequest ⟨← document.bytesAt "cookie"⟩)

/-- What is sent for a message, or for the body of a server hello, which
needs no path. -/
def handshakeEncode (link : Link) (document : Json) : Option Json := do
  if document.given "body" then
    let body ← ServerHelloBody.ofJson? (document.field "body")
    some (.ofPairs [("encoded", .ofBlob (Cbor.encode body))])
  else
    let datagram := Cbor.encode (← messageOf document)
    link.whenUp fun () =>
      some (if link.takes datagram then .ofPairs [("encoded", .ofBlob datagram)]
        else HandshakeError.transport.toJson)

/-- What is made of a datagram, or of the body of a server hello. -/
def handshakeDecode (link : Link) (document : Json) : Option Json := do
  let data ← document.bytesAt "data"
  if (← document.textAt "type") = "message" then
    link.whenUp fun () =>
      match HandshakeMessage.ofDatagram? data with
      | none => some (HandshakeError.protocol .undecodable).toJson
      | some (message, raw) =>
          some (.ofPairs [("message", message.toJson), ("raw_len", .whole raw.length),
            ("encoded", .ofBlob (Cbor.encode message))])
  else
    match Cbor.decode? (α := ServerHelloBody) data with
    | none => some (faultJson "Decode" none [])
    | some body =>
        some (.ofPairs [("value", body.toJson), ("encoded", .ofBlob (Cbor.encode body))])

-- ========================================================== closing

def finishedFormOf (document : Json) : Option FinishedForm := do
  match ← document.text? with
  | "good" => some .good
  | "zero_seq" => some .zeroSequence
  | "bad_mac" => some .badCode
  | "short_mac" => some .shortCode
  | "empty" => some .empty
  | "wrong_label" => some .wrongLabel
  | "wrong_direction" => some .wrongDirection
  | "other_key" => some .otherKey
  | "application_data" => some .applicationData
  | "alert" => some .alert
  | "garbage" => some .garbage
  | "plain" => some .plain
  | _ => none

def finishedFormsOf (document : Json) : Option (List FinishedForm) :=
  (document.itemsAt "finished").mapM finishedFormOf

/-- A closing record and what is found in it. -/
def closingToJson (agreement : Option Agreement) (sender : Role) (record : Bytes) : Json :=
  let opened := agreement.bind fun agreement => agreement.inspect? sender record
  .ofPairs [("record", .ofHex record),
    ("opened", .orNull (fun (content, sequence, isRight) =>
      .ofPairs [("content", .ofText (ContentType.name content)), ("sequence", .ofWord64 sequence),
        ("matches", .bool isRight)]) opened)]

def verdictToJson : Except HandshakeError Session → Json
  | .ok session => .ofPairs [("established", session.suite.toJson)]
  | .error fault => fault.toJson

-- ======================================================= controller

def nodePartOf (document : Json) : Option NodePart := do
  let secret ← document.bytesAt "secret"
  let given := document.field "hello"
  let hello ← ClientHello.ofJson? given
  let hello := if given.given "public_key" then hello
    else { hello with publicKey := X25519.share secret }
  let raw := (← document.ifGiven "raw" bytes?).getD
    (Cbor.encode (HandshakeMessage.clientHello hello))
  some ⟨hello, raw, secret, ← finishedFormsOf document⟩

/-- The protocol of a controller that answers a scripted node. -/
def handshakeServer (link : Link) (document : Json) : Option Json := do
  let server : ServerHandshake := {
    identity := ⟨← document.fixedBytesAt "identity" 32, ← (document.itemsAt "certificates").mapM bytes?⟩
    suites := ← CipherSuite.listOfJson? document "suites" }
  let run ← controllerRun server link (← nodePartOf document) (← document.bytesAt "entropy")
  let sent := run.sent.toList.map fun datagram => ("server_hello", Json.ofBlob datagram)
  let read := match run.agreement with
    | none => []
    | some (hello, body, agreement) => [
        ("body", .ofBlob hello.body), ("suite", body.suite.toJson),
        ("transcript", .ofHex agreement.transcript),
        ("signature_valid", .bool (Ed25519.verifies server.identity.verifyingKey
          agreement.transcript hello.signature))]
  let closing := run.closing.toList.map fun record =>
    ("server_finished", closingToJson (run.agreement.map fun read => read.2.2) .server record)
  some (.ofPairs ([("suites", .array (server.suites.map CipherSuite.toJson)),
    ("result", verdictToJson run.verdict), ("entropy_left", .whole run.entropy.length)]
    ++ sent ++ read ++ closing))

-- ============================================================= node

def signingOf (document : Json) : Option Signing :=
  (document.textAt "sign").map fun
    | "flip" => .flipped
    | "short" => .short
    | "none" => .unsigned
    | _ => .honest

def helloPartOf (document : Json) : Option HelloPart := do
  some {
    random := ← document.bytesAt "random"
    secret := ← document.bytesAt "secret"
    suite := ← CipherSuite.ofJson? (document.field "suite")
    version := ← versionOfJson? document
    certificates := ← (document.itemsAt "certificates").mapM bytes?
    publicKey := ← document.ifGiven "public_key" bytes?
    body := ← document.ifGiven "body" bytes?
    signing := ← signingOf document }

def replyOf (document : Json) : Option Reply := do
  match ← document.textAt "reply" with
  | "verify" => some (.verify (← document.bytesAt "cookie") ((← document.textAt "from") = "other"))
  | "client_hello" => some .echo
  | "raw" => some (.raw (← document.bytesAt "data"))
  | "hello" => some (.hello (← helloPartOf document))
  | _ => none

/-- The protocol of a node that connects to a scripted controller. -/
def handshakeClient (link : Link) (document : Json) : Option Json := do
  let identity : Identity := ⟨← document.fixedBytesAt "identity" 32, []⟩
  let pinned ← document.ifGiven "pinned" bytes?
  let terms : ConnectTerms := {
    server := controllerAddress
    suites := ← if document.given "suites" then CipherSuite.listOfJson? document "suites"
      else some CipherSuite.all
    retries := (← document.ifGiven "retries" number?).getD 3
    pinned := pinned.map Ed25519.publicKey }
  let rounds ← (document.itemsAt "rounds").mapM fun round => round.items.mapM replyOf
  let (run, entropy) := NodeRun.connect identity terms rounds (← finishedFormsOf document) link
    (← document.bytesAt "entropy")
  let closing := run.closing.toList.map fun record =>
    ("client_finished", closingToJson run.agreement .client record)
  let result ← match run.node with
    | .established peer session =>
        some [("peer_is_per_client_socket", .bool (peer = clientPathAddress)),
          ("result", verdictToJson (.ok session))]
    | .failed fault => some [("result", fault.toJson)]
    | _ => none
  some (.ofPairs ([("hellos", .array (run.hellos.map .ofBlob)),
    ("entropy_left", .whole entropy.length)] ++ closing ++ result))

end Luminaire.Rehearsal.Script
