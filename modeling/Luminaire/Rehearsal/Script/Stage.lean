/-
Scripts that play on a stage: steps on its framebuffer and its directory.
-/
import Luminaire.Document.Fault
import Luminaire.Document.Value
import Luminaire.Rehearsal.Bench
import Luminaire.Rehearsal.Script.Basic

namespace Luminaire.Rehearsal.Script

open Json

/-- A stage, and what was last copied from its framebuffer. -/
structure Shown (κ : Type) where
  stage : Stage κ
  copied : List Pixel

/-- What a spectator of a script does when it is told. -/
def habitOf (step : Json) : Option Habit :=
  (step.textAt "on_fire").map fun
    | "remove" => .withdraw
    | "add" => .recruit
    | _ => .watch

def spectatorOf (step : Json) : Option Spectator := do
  some ⟨some (← step.textAt "label"), ← habitOf step⟩

def heardToJson {ν : Type} (toJson : ν → Json) (heard : List (String × ν)) : String × Json :=
  ("fired", .array (heard.map fun (label, news) => .array [.ofText label, toJson news]))

variable {κ : Type} [Sink κ]

/-- Finishes a region and shows who was told. -/
def finishStep (stage : Stage κ) (region : Region) (frameNumber : UInt64) : Json × Stage κ :=
  let (count, stage) := stage.finish region frameNumber
  let (heard, stage) := stage.framesHeard
  (.ofPairs [("hits", .whole count), heardToJson .ofWord64 heard], stage)

/-- A step on the framebuffer. -/
def framebufferStep (shown : Shown κ) (step : Json) : Option (Json × Shown κ) := do
  let framebuffer := shown.stage.framebuffer
  let showing (stage : Stage κ) : Shown κ := { shown with stage }
  match ← step.textAt "do" with
  | "write" =>
      match framebuffer.write (← step.word32 "start") (← pixelsOfJson? (step.field "pixels")) with
      | .ok framebuffer => some (.ok, showing (shown.stage.withFramebuffer framebuffer))
      | .error fault => some (fault.toJson, shown)
  | "fill" =>
      let pixel ← Pixel.ofJson? (step.field "pixel")
      some (.ok, showing (shown.stage.withFramebuffer (framebuffer.fill pixel)))
  | "copy" =>
      let (result, copied) := framebuffer.copyOut (← Region.ofJson? step) shown.copied
      some (.ofPairs [("result", outcomeJson FramebufferError.toJson result),
        ("out", pixelsToJson copied)], { shown with copied })
  | "complete" =>
      let (result, stage) := finishStep shown.stage (← Region.ofJson? step) (← step.word64 "frame")
      some (result, showing stage)
  | "complete_frame" =>
      let (result, stage) := finishStep shown.stage framebuffer.whole (← step.word64 "frame")
      some (result, showing stage)
  | "observe" =>
      let (token, stage) := shown.stage.observe (← spectatorOf step) (← Region.ofJson? step)
      some (.ofPairs [("token", .whole token)], showing stage)
  | "unobserve" =>
      let (removed, stage) := shown.stage.unobserve (← step.textAt "label")
      some (.ofPairs [("removed", .orNull .bool removed)], showing stage)
  | "fb" =>
      some (.ofPairs [("len", .whole framebuffer.size), ("empty", .bool framebuffer.pixels.isEmpty),
        ("observers", .whole framebuffer.observers.size),
        ("debug", .ofText framebuffer.debugText)], shown)
  | _ => none

/-- A step on the directory. -/
def directoryStep (directory : Directory) (step : Json) : Option (Json × Directory) := do
  match ← step.textAt "do" with
  | "node" => some (.ok, directory.insertNode (← Node.ofJson? (step.field "node")))
  | "channel" => some (.ok, directory.insertChannel (← NodeChannel.ofJson? (step.field "channel")))
  | "remove_node" =>
      let (removed, directory) := directory.removeNode (← Uuid.ofJson? (step.field "uuid"))
      some (.ofPairs [("removed", .orNull Node.toJson removed)], directory)
  | "find" =>
      let found := directory.find? (← Uuid.ofJson? (step.field "uuid"))
      some (.ofPairs [("node", .orNull Node.toJson found)], directory)
  | "channels" =>
      let found := directory.channelsOf (← step.word32 "node_id")
      some (.ofPairs [("channels", .array (found.map NodeChannel.toJson))], directory)
  | "debug_node" =>
      let node ← Node.ofJson? (step.field "node")
      some (.ofPairs [("debug", .ofText node.debugText)], directory)
  | _ => none

/-- A step on either. -/
def stageStep (shown : Shown κ) (step : Json) : Option (Json × Shown κ) :=
  match directoryStep shown.stage.rig.venue.directory step with
  | some (result, directory) =>
      some (result, { shown with stage := shown.stage.withDirectory directory })
  | none => framebufferStep shown step

/-- The furniture a script asks for. -/
def furnitureOf (document : Json) : Option Furniture := do
  some {
    nodes := ← (document.itemsAt "nodes").mapM Node.ofJson?
    channels := ← (document.itemsAt "channels").mapM NodeChannel.ofJson?
    framebuffer := ← Framebuffer.dark? (← document.numberAt "framebuffer")
    now := ← nowOf document }

/-- How many watch regions and keys. -/
def watchersToJson (stage : Stage κ) : List (String × Json) :=
  [("region_observers", .whole stage.framebuffer.observers.size),
    ("key_observers", .orNull (fun g => .whole (Broadcaster.observers g).size) stage.group?)]

/-- The protocol of a script on a framebuffer alone. -/
def framebuffer (document : Json) : Option Json := do
  let pixels ← Framebuffer.dark? (← document.numberAt "len")
  let rig : Rig Recorder := Furniture.rig ⟨[], [], pixels, 0⟩ none []
  play document ⟨.empty rig, []⟩ framebufferStep

/-- The protocol of a script on a directory alone. -/
def directory (document : Json) : Option Json := play document Directory.empty directoryStep

end Luminaire.Rehearsal.Script
