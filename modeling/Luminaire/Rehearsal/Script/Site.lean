/-
Scripts for a whole controller.
-/
import Luminaire.Rehearsal.Machine
import Luminaire.Rehearsal.Script.Group
import Luminaire.Rehearsal.Script.Handshake
import Luminaire.Rehearsal.Script.Pair
import Luminaire.Rehearsal.Site

namespace Luminaire.Rehearsal.Script

open Json

/-- A site, and what was last copied from its framebuffer. -/
structure Visit where
  site : Site
  copied : List Pixel

-- ======================================================= connecting

/-- The key a node pins: the controller's, that of a stranger, or none. -/
def pinnedOf (site : Site) (step : Json) : Option (Option Bytes) :=
  (step.textAt "pin").map fun
    | "server" => some site.app.verifyingKey
    | "stranger" => some (Ed25519.publicKey (List.replicate 32 0x42))
    | _ => none

/-- The node of a step connects; nothing is shown if it breaks down. -/
def connectStep (site : Site) (step : Json) : Option (Json × Site) := do
  let suites ← if step.given "suites" then CipherSuite.listOfJson? step "suites"
    else some CipherSuite.all
  let retries := (← step.ifGiven "retries" number?).getD 3
  match site.connect ⟨controllerAddress, suites, retries, ← pinnedOf site step⟩ with
  | (.established path session, site) =>
      some (.ofPairs [("established", session.suite.toJson),
        ("moved", .bool (path ≠ controllerAddress))], site)
  | (.failed fault, site) => some (fault.toJson, site)
  | _ => none

-- ========================================================== visitor

/-- The datagram the visitor sends for a step. -/
def helloOf (site : Site) (step : Json) : Option Bytes := do
  if step.given "raw" then step.bytesAt "raw"
  else
    let hello ← ClientHello.ofJson? (step.field "hello")
    let flip ← step.ifGiven "flip" number?
    let cookie := if (step.field "echo").isTrue then site.cookie else hello.cookie
    let cookie := match flip with
      | some position => cookie.map fun cookie => flipByte cookie position 0x80
      | none => cookie
    some (Cbor.encode (HandshakeMessage.clientHello { hello with cookie }))

/-- What is to be seen of an answer to the visitor, and the cookie in it. -/
def answerToJson (site : Site) (source : SocketAddress) :
    HandshakeMessage → List (String × Json) × Option Bytes
  | .helloVerifyRequest request =>
      ([("message", .ofText "HelloVerifyRequest"), ("cookie_len", .whole request.cookie.length),
        ("same_cookie", .bool (site.cookie = some request.cookie)),
        ("from_listener", .bool (source = controllerAddress))], some request.cookie)
  | .serverHello _ =>
      ([("message", .ofText "ServerHello"), ("from_listener", .bool (source = controllerAddress))],
        site.cookie)
  | .clientHello _ => ([("message", .ofText "ClientHello")], site.cookie)

/-- The visitor says hello and waits for an answer, so a hello that gets
none ends the script. One that is meant to be ignored is followed by a
plain one. -/
def helloStep (site : Site) (step : Json) : Option (Json × Site) := do
  let silent := (step.field "silent").isTrue
  let (answers, site) := site.visit (← helloOf site step)
  let (more, site) := if silent then
      site.visit (Cbor.encode (HandshakeMessage.clientHello Site.plainHello))
    else ([], site)
  match answers ++ more with
  | [] => none
  | (source, message) :: rest =>
      let (shown, cookie) := answerToJson site source message
      let extra := if silent then [("more", Json.bool (!rest.isEmpty))] else []
      some (.ofPairs (shown ++ extra), { site with cookie })

-- ============================================================ steps

/-- A step of a controller and its nodes. -/
def siteStep (site : Site) (step : Json) : Option (Json × Site) := do
  match ← step.textAt "do" with
  | "connect" => connectStep site step
  | "send" =>
      let number ← step.numberAt "client"
      let (result, site) := site.send number (← site.clients[number]?) (← step.bytesAt "data")
      some (sessionResult result, site)
  | "close" =>
      let number ← step.numberAt "client"
      some (.ok, site.leave number (← site.clients[number]?))
  | "hello" => helloStep site step
  | "frame" =>
      let (shown, _, stage) ← noteStep site.stage (← step.word64 "frame")
      some (shown, site.withStage stage)
  | "notify" =>
      let (note, stage) := site.stage.note (← step.word64 "frame")
      let queued := match note with
        | .refused => false
        | _ => true
      some (.ofPairs [("queued", .bool queued)], site.withStage stage)
  | "rekey" =>
      let (rotation, stage) := site.stage.rekey
      some (.ofPairs (rotationToJson rotation (currentId stage)), site.withStage stage)
  | "terminate" =>
      some (.ofPairs [("verifying_key", .ofHex site.app.verifyingKey)], site.terminate)
  | _ => none

def clientToJson (client : Client) : Json :=
  if client.left then .null
  else
    .ofPairs [("received", .array (client.peer.received.map .ofBlob)),
      ("closed", .bool client.peer.isOver)]

/-- A step, with what came of it. -/
def visitStep (visit : Visit) (step : Json) : Option (Json × Visit) := do
  let (result, visit) ← match siteStep visit.site step with
    | some (result, site) => some (result, { visit with site })
    | none =>
        (stageStep ⟨visit.site.stage, visit.copied⟩ step).map fun (result, shown) =>
          (result, ⟨visit.site.withStage shown.stage, shown.copied⟩)
  let site := visit.site.followUp
  let listener := site.app.listener
  let forgotten := site.clients.map fun client =>
    { client with peer := { client.peer with received := [] } }
  some (.ofPairs [("result", result), ("clients", .array (site.clients.map clientToJson)),
    ("connections", .whole listener.connectionCount),
    ("state", .ofText (Lifecycle.name listener.state)),
    ("authenticated", .whole listener.authenticatedCount),
    ("region_observers", .whole listener.rig.venue.framebuffer.observers.size)],
    { visit with site := { site with clients := forgotten } })

-- ========================================================= starting

/-- Where a script's key file and certificate file lie. -/
def keyFilePath : String := "key.pem"

def certificateFilePath : String := "cert.pem"

/-- The files a script brings along, on the machine of the rehearsals. -/
def filesOf (document : Json) : Option (String → File) := do
  let key ← document.ifGiven "key_pem" text?
  let certificate ← document.ifGiven "cert_pem" text?
  some fun path =>
    let found := if path = keyFilePath then key
      else if path = certificateFilePath then certificate else none
    match found with
    | some content => ⟨some path, .ok (utf8 content)⟩
    | none => .find path

/-- The settings of a script with its own address, timeouts and files. -/
def settingsOf (document : Json) (config : ServerConfig) : Option ServerConfig := do
  let depth ← document.ifGiven "key_history" number?
  let config := { config with
    listenAddress := some .loopback
    port := 0
    acceptTimeout := 20
    clientReadTimeout := 20
    gcInterval := 20
    multicast := { config.multicast with
      keyHistory := (depth.map Nat.toUInt64).getD config.multicast.keyHistory } }
  some (if document.given "key_pem" then
      { config with
        keyPath := some keyFilePath
        certificatePath := if document.given "cert_pem" then some certificateFilePath else none }
    else config)

/-- What a script's controller starts with, unless its broadcaster fails. -/
def startSite (link : Link) (document : Json) (config : ServerConfig) :
    Option (Except Json (Started AppError App)) := do
  let furniture ← furnitureOf document
  let entropy ← document.bytesAt "entropy"
  let find ← filesOf document
  let config ← settingsOf document config
  if (document.field "own_syncer").isTrue then
    some (.ok (App.start config furniture.directory furniture.framebuffer furniture.now entropy
      link find))
  else
    match ← broadcasterOf (document.field "multicast") link entropy with
    | .crashed => none
    | .failed fault => some (.error fault.toJson)
    | .running (group, entropy) =>
        some (.ok (App.startWith config group furniture.directory furniture.framebuffer
          furniture.now entropy link find))

/-- The protocol of a script for a controller, or why it did not start. -/
def site (link : Link) (document : Json) : Option Json := do
  match ServerConfig.ofText (← document.textAt "config") with
  | .error fault => some fault.toJson
  | .ok config =>
      match ← startSite link document config with
      | .error shown => some shown
      | .ok (.failed fault) => some fault.toJson
      | .ok .crashed => none
      | .ok (.running app) => play document ⟨.ofApp app, []⟩ visitStep

end Luminaire.Rehearsal.Script
