/-
Scripts for one worker and its client.
-/
import Luminaire.Rehearsal.Script.Group
import Luminaire.Rehearsal.Script.Pair
import Luminaire.Rehearsal.Worker

namespace Luminaire.Rehearsal.Script

open Json

/-- A worker on its stage, and what was last copied there. -/
structure Shift where
  attendance : Attendance
  copied : List Pixel

def probeOf (document : Json) : Option (String × Endpoint) := do
  some (← document.textAt "name", ← Endpoint.ofCode? (← document.word8 "endpoint"))

/-- A step of the client or of the worker. -/
def attendanceStep (attendance : Attendance) (step : Json) : Option (Json × Attendance) := do
  match ← step.textAt "do" with
  | "send" =>
      let (result, attendance) := attendance.send .applicationData (← step.bytesAt "data")
      some (sessionResult result, attendance)
  | "record" =>
      let (result, attendance) := attendance.send (← ContentType.ofJson? step)
        (← step.bytesAt "data")
      some (sessionResult result, attendance)
  | "raw" => some (.ok, attendance.deliver (← step.bytesAt "data"))
  | "close" => some (.ok, attendance.close)
  | "signal" => some (.ok, attendance.step .signal)
  | "drop" => some (.ok, attendance.step .drop)
  | "rekey" =>
      let (rotation, stage) := attendance.stage.rekey
      some (.ofPairs (rotationToJson rotation (currentId stage)), { attendance with stage })
  | "clock" =>
      some (.ok, { attendance with stage := attendance.stage.withNow (← nowOf step) })
  | _ => none

def causeToJson (cause : ShutdownCause) : Json :=
  .ofText (cause.name ++ "/" ++ toString cause.isCollectable)

/-- What is to be seen of a worker, until it is dropped. -/
def workerToJson (attendance : Attendance) : Json :=
  let worker := attendance.worker
  let node := (attendance.stage.rig.station? worker.id).bind fun station => station.connection.node
  if worker.dropped then .null
  else
    .ofPairs [("id", .whole worker.id), ("state", .ofText (Lifecycle.name worker.state)),
      ("authenticated", .bool node.isSome), ("finished", .bool worker.isFinished),
      ("node", .orNull (fun n => .ofWord32 (Node.id n)) node)]

/-- A step, with what came of it on both sides. -/
def shiftStep (shift : Shift) (step : Json) : Option (Json × Shift) := do
  let (result, shift) ← match attendanceStep shift.attendance step with
    | some (result, attendance) => some (result, { shift with attendance })
    | none =>
        (stageStep ⟨shift.attendance.stage, shift.copied⟩ step).map fun (result, shown) =>
          (result, ⟨{ shift.attendance with stage := shown.stage }, shown.copied⟩)
  let (received, attendance) := shift.attendance.hear
  some (.ofPairs ([("result", result), ("received", .array (received.map .ofBlob)),
    ("connection_over", .bool attendance.client.isOver), ("worker", workerToJson attendance),
    ("causes", .array (attendance.worker.heard.map causeToJson))]
    ++ watchersToJson attendance.stage), { shift with attendance })

/-- The protocol of a script for a worker, or why its broadcaster did not
start. In the end the worker is dropped, and with it all probes. -/
def worker (link : Link) (document : Json) : Option Json := do
  let suite ← CipherSuite.ofJson? (document.field "suite")
  let keys ← SessionKeys.ofJson? document suite.name
  let probes ← (document.itemsAt "probes").mapM probeOf
  let callbacks := (← document.ifGiven "callbacks" number?).getD 1
  match ← optionalBroadcasterOf document link (← document.bytesAt "entropy") with
  | .crashed => none
  | .failed fault => some fault.toJson
  | .running (group, entropy) =>
      let rig : Rig Outlet := (← furnitureOf document).rig group entropy
      let (attendance, registry, flags, dropped) ←
        Attendance.start link suite keys rig probes callbacks
      let (shown, shift) ← walk shiftStep ⟨attendance, []⟩ (document.itemsAt "steps")
      let attendance := shift.attendance.step .drop
      some (.ofPairs [("registered", .array (flags.map .bool)),
        ("names", .array (registry.names.map .ofText)),
        ("dropped_at_start", .array (dropped.map .ofText)), ("steps", .array shown),
        ("causes", .array (attendance.worker.heard.map causeToJson)),
        ("dropped", .array ((attendance.probes.mergeSort fun a b => decide (a ≤ b)).map .ofText)),
        ("region_observers", .whole attendance.stage.framebuffer.observers.size)])

end Luminaire.Rehearsal.Script
