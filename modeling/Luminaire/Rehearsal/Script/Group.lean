/-
Scripts for the broadcaster and its keys.
-/
import Luminaire.Config.Document
import Luminaire.Json.Reader
import Luminaire.Rehearsal.Script.Stage

namespace Luminaire.Rehearsal.Script

open Json

/-- The group settings of a script. The keys rotate hourly unless it says
otherwise, so that no rotation comes by surprise. -/
def groupConfigOf (document : Json) : Option GroupConfig :=
  let settings := match document with
    | .object entries => entries
    | _ => []
  let hourly := [(some "rekey_interval", Json.whole 3600000)]
  GroupConfig.ofJson? (.object (if document.given "rekey_interval" then settings
    else settings ++ hourly))

/-- A broadcaster that sends to a receiver on the loopback address. -/
def broadcasterOf (document : Json) (link : Link) (entropy : Entropy) :
    Option (Started GroupError (Broadcaster KeyWatcher × Entropy)) :=
  (groupConfigOf document).map fun config => Broadcaster.start config link .loopback entropy

/-- The broadcaster a script asks for, if it asks for one. -/
def optionalBroadcasterOf (document : Json) (link : Link) (entropy : Entropy) :
    Option (Started GroupError (Option (Broadcaster KeyWatcher) × Entropy)) :=
  if document.given "multicast" then
    (broadcasterOf (document.field "multicast") link entropy).map fun started =>
      started.map fun (group, entropy) => (some group, entropy)
  else some (.running (none, entropy))

def noteToJson (note : GroupHeader × SyncOutput) : Json :=
  .ofPairs [("header", note.1.toJson), ("frame", .ofWord64 note.2.frame),
    ("timestamp_ms", .ofWord64 note.2.timestampMs)]

def rotationToJson (rotation : Stage.Rotation) (current : UInt32) : List (String × Json) :=
  [("queued", .bool rotation.queued), ("new_id", .orNull .ofWord32 rotation.id),
    ("current", .ofWord32 current)]

variable {κ : Type} [Sink κ]

def currentId (stage : Stage κ) : UInt32 := (stage.group?.map Broadcaster.currentId).getD 0

/-- What is known of a key. -/
def keyStep (stage : Stage κ) (step : Json) : Option Json := do
  let group ← stage.group?
  let id ← step.word32 "id"
  let material := group.material? id
  some (.ofPairs [("valid", .bool (group.ring.contains id)),
    ("key", .orNull (fun m => .ofHex (Prod.fst m)) material),
    ("iv", .orNull (fun m => .ofHex (Prod.snd m)) material),
    ("material", .bool material.isSome)])

/-- A note, the datagram that left and the stage afterwards. The receiver
waits for a note that was accepted, so one that is lost ends the script. -/
def noteStep (stage : Stage κ) (frameNumber : UInt64) : Option (Json × Bytes × Stage κ) :=
  match stage.note frameNumber with
  | (.refused, stage) => some (.ofPairs [("queued", .bool false)], [], stage)
  | (.lost, _) => none
  | (.sent datagram, stage) =>
      stage.group?.map fun group =>
        let opened := match group.reopen datagram with
          | .ok note => noteToJson note
          | .error fault => fault.toJson
        (.ofPairs [("queued", .bool true), ("datagram", .ofHex datagram), ("opened", opened)],
          datagram, stage)

/-- The datagrams of consecutive notes. -/
def noteRun : (count : Nat) → UInt64 → Stage κ → Option (List Bytes × Stage κ)
  | 0, _, stage => some ([], stage)
  | count + 1, first, stage => do
      let (_, datagram, stage) ← noteStep stage first
      let (datagrams, stage) ← noteRun count (first + 1) stage
      some (datagram :: datagrams, stage)

/-- A step of a broadcaster. -/
def groupStep (stage : Stage κ) (step : Json) : Option (Json × Stage κ) := do
  let group ← stage.group?
  let watching (stage : Stage κ) : String × Json :=
    ("observers", .orNull (fun g => .whole (Broadcaster.observers g).size) stage.group?)
  match ← step.textAt "do" with
  | "info" =>
      some (.ofPairs [("group", .ofText group.config.group.toString),
        ("port", .whole group.config.port.toNat), ("current", .ofWord32 group.currentId),
        ("debug", .ofText group.debugText)], stage)
  | "rekey" =>
      let (rotation, stage) := stage.rekey
      let (heard, stage) := stage.keysHeard
      some (.ofPairs (heardToJson .ofWord32 heard :: rotationToJson rotation (currentId stage)),
        stage)
  | "frame" =>
      let (shown, _, stage) ← noteStep stage (← step.word64 "frame")
      some (shown, stage)
  | "frames" =>
      let (datagrams, stage) ← noteRun (← step.numberAt "count") (← step.word64 "frame") stage
      some (.ofPairs [("datagrams", .ofBlob datagrams.flatten)], stage)
  | "clock" => some (.ok, stage.withNow (← nowOf step))
  | "key" => some (← keyStep stage step, stage)
  | "observe" =>
      let stage := stage.observeKeys (← spectatorOf step)
      some (.ofPairs [watching stage], stage)
  | "unobserve" =>
      let (removed, stage) := stage.unobserveKeys (← step.textAt "label")
      some (.ofPairs [("removed", .orNull .bool removed), watching stage], stage)
  | "terminate" => some (.ok, stage.terminate)
  | "run_out" =>
      let stage := stage.exhaust
      some (.ofPairs [("current", .ofWord32 (currentId stage))], stage)
  | _ => none

/-- The protocol of a script for a broadcaster, or why it did not start. -/
def group (link : Link) (document : Json) : Option Json := do
  match ← broadcasterOf (document.field "config") link (← document.bytesAt "entropy") with
  | .crashed => none
  | .failed fault => some fault.toJson
  | .running (group, entropy) =>
      let rig : Rig Recorder :=
        Furniture.rig ⟨[], [], .dark 0, ← nowOf document⟩ (some group) entropy
      play document (Stage.empty rig) groupStep

end Luminaire.Rehearsal.Script
