/-
Scripts for one connection on the bench.
-/
import Luminaire.Document.Payload
import Luminaire.Rehearsal.Script.Group

namespace Luminaire.Rehearsal.Script

open Json

/-- The payload of a step: bytes or a number, as they travel. -/
def payloadOf (step : Json) : Option Bytes :=
  if step.given "bytes" then
    (step.bytesAt "bytes").map fun bytes => (Cbor.Codec.bytes.write bytes).print
  else (step.word64 "value").map fun value => (Cbor.Codec.word64.write value).print

def headerOf (step : Json) : Option Header := do
  some ⟨protocolVersion, ← step.word8 "endpoint", ← step.word8 "type", ← step.word8 "tag", 0⟩

def handlerResult : Except HandlerError Unit → Json := outcomeJson HandlerError.toJson

/-- What became of a message; nothing is shown when a handler broke down. -/
def outcomeToJson : Option Outcome → Option Json
  | none => some (.ofText "no handler")
  | some .done => some .ok
  | some (.failed error) => some error.toJson
  | some .crashed => none

/-- The endpoint a step names. -/
def endpointNamed? (name : String) : Option Endpoint :=
  [Endpoint.default, .authentication, .pixelData, .multicastControl].find? (·.name = name)

/-- A step of the connection itself. -/
def connectionStep (bench : Bench) (step : Json) : Option (Json × Bench) := do
  let connection := bench.connection
  match ← step.textAt "do" with
  | "msg" =>
      let (outcome, bench) := bench.take (← headerOf step) (← step.bytesAt "payload")
      some (← outcomeToJson outcome, bench)
  | "auth" =>
      let node ← Node.ofJson? (step.field "node")
      some (.ok, bench.withConnection (connection.authenticate node))
  | "require_auth" =>
      match connection.requireNode with
      | .ok node => some (node.toJson, bench)
      | .error error => some (error.toJson, bench)
  | "push" =>
      let endpoint ← Endpoint.ofCode? (← step.word8 "endpoint")
      let messageType ← step.word8 "type"
      let payload ← payloadOf step
      let (result, bench) := bench.act fun connection => connection.push endpoint messageType payload
      some (handlerResult result, bench)
  | "reply" =>
      let header ← headerOf step
      let payload ← payloadOf step
      let (result, bench) := bench.act fun connection =>
        connection.reply header header.messageType payload
      some (handlerResult result, bench)
  | "nack" =>
      let header ← headerOf step
      let status ← PayloadForm.statusIn step "status"
      let (result, bench) := bench.act fun connection => connection.refuse header status
      some (handlerResult result, bench)
  | "proof" =>
      let proof := Challenge.proof (← step.bytesAt "secret") (← step.bytesAt "nonce")
        (← step.bytesAt "random")
      some (.ofPairs [("proof", .ofHex proof)], bench)
  | "sink" => some (.ok, bench.refuse ((← step.textAt "mode") = "closed"))
  | "drop" => some (.ok, bench.drop (← endpointNamed? (← step.textAt "handler")))
  | "ambush" =>
      let channel ← step.ifGiven "channel" fun c => c.number?.map Nat.toUInt32
      let habit := match channel with
        | some channel => .unsubscribe benchId channel
        | none => .dropPixels benchId
      some (.ok, (bench.observe ⟨none, habit⟩ (← Region.ofJson? step)).2)
  | "rekey" =>
      let (rotation, bench) := bench.rekey
      some (.ofPairs (rotationToJson rotation (currentId bench)), bench)
  | "key" => some (← keyStep bench step, bench)
  | "clock" => some (.ok, bench.withNow (← nowOf step))
  | "debug" => some (.ofText connection.debugText, bench)
  | _ => none

/-- What is to be seen of the connection behind a step. -/
def connectionToJson (bench : Bench) (sent : List Bytes) : List (String × Json) :=
  let station := bench.station?
  [("sent", .array (sent.map .ofBlob)),
    ("auth_state", .orNull (fun s => .ofText (AuthState.phase s).name)
      (station.bind Station.authState?)),
    ("node", .orNull (fun n => .ofWord32 (Node.id n)) bench.connection.node),
    ("subscriptions", .orNull (fun h => .whole (List.length h)) (station.bind Station.held?))]
    ++ watchersToJson bench

/-- A step of the connection or of its stage, with what was sent. -/
def benchStep (shown : Shown Recorder) (step : Json) : Option (Json × Shown Recorder) := do
  let (result, shown) ← match connectionStep shown.stage step with
    | some (result, stage) => some (result, { shown with stage })
    | none => stageStep shown step
  let (sent, bench) := Bench.heard shown.stage
  some (.ofPairs (("result", result) :: connectionToJson bench sent), { shown with stage := bench })

/-- The protocol of a script for a connection, or why its broadcaster did
not start. -/
def connection (link : Link) (document : Json) : Option Json := do
  let methods ← document.ifGiven "methods" fun names => names.items.mapM text?
  match ← optionalBroadcasterOf document link (← document.bytesAt "entropy") with
  | .crashed => none
  | .failed fault => some fault.toJson
  | .running (group, entropy) =>
      let bench := Bench.start (← furnitureOf document) group entropy
        (methods.getD standardMethods)
      play document ⟨bench, []⟩ benchStep

end Luminaire.Rehearsal.Script
