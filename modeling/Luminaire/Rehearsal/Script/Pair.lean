/-
Scripts for a pair of sessions.
-/
import Luminaire.Document.Fault
import Luminaire.Document.Value
import Luminaire.Rehearsal.Pair
import Luminaire.Rehearsal.Script.Basic

namespace Luminaire.Rehearsal.Script

open Json

/-- The datagram a step wants delivered: one that was taken, or its own
bytes, perhaps with a byte changed. -/
def deliveryOf (pair : Pair) (step : Json) : Option Bytes := do
  let datagram ← if step.given "data" then step.bytesAt "data"
    else pair.taken[← step.numberAt "nth"]?
  match (step.itemsAt "flip").mapM number? with
  | some [position, bits] => some (flipByte datagram position bits.toUInt8)
  | _ => some datagram

def sessionResult : Except SessionError Unit → Json := outcomeJson SessionError.toJson

/-- A step of a pair. -/
def pairStep (pair : Pair) (step : Json) : Option (Json × Pair) := do
  let role ← Role.ofJson? step
  match ← step.textAt "do" with
  | "send" | "send_datagram" =>
      let (result, pair) := pair.send role .applicationData (← step.bytesAt "data")
      some (sessionResult result, pair)
  | "send_record" =>
      let (result, pair) := pair.send role (← ContentType.ofJson? step) (← step.bytesAt "data")
      some (sessionResult result, pair)
  | "close" =>
      let pair := pair.close role
      some (.ofPairs [("closed", .bool (pair.side role).session.closed)], pair)
  | "recv" =>
      match pair.receive role with
      | (.ok data, pair) => some (.ofPairs [("data", .orNull .ofBlob data)], pair)
      | (.error fault, pair) => some (fault.toJson, pair)
  | "recv_record" =>
      match pair.receiveRecord role with
      | (.ok record, pair) =>
          some (.ofPairs [("content", .orNull (fun r => .ofText (ContentType.name (Prod.fst r))) record),
            ("data", .orNull (fun r => .ofBlob (Prod.snd r)) record)], pair)
      | (.error fault, pair) => some (fault.toJson, pair)
  | "take" =>
      let (record, pair) := pair.take role
      some (.ofPairs [("record", .orNull .ofBlob record)], pair)
  | "deliver" => some (.ok, pair.deliver role (← deliveryOf pair step))
  | "state" =>
      let session := (pair.side role).session
      some (.ofPairs [("closed", .bool session.closed), ("suite", session.suite.toJson)], pair)
  | _ => none

/-- The protocol of a script for a pair. -/
def pair (link : Link) (document : Json) : Option Json := do
  let suite ← CipherSuite.ofJson? (document.field "suite")
  play document (← Pair.start link suite (← SessionKeys.ofJson? document suite.name)) pairStep

end Luminaire.Rehearsal.Script
