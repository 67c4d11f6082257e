/-
The directory of nodes: who they are, the secret each shares with the
controller, and the channels that map their pixels onto the framebuffer.
-/
import Luminaire.Message.Uuid
import Luminaire.Pixel
import Luminaire.Text.Quoted

namespace Luminaire

structure Node where
  id : UInt32
  uuid : Uuid
  secret : Bytes
  label : String
  deriving DecidableEq

/-- The node as text; its secret never shows. -/
def Node.debugText (node : Node) : String :=
  s!"Node \x7b id: {node.id.toNat}, uuid: " ++ node.uuid.toString ++ ", label: "
    ++ quoted node.label ++ ", .. \x7d"

/-- One output of a node: a run of its pixels and where they lie in the
framebuffer. -/
structure NodeChannel where
  nodeId : UInt32
  index : UInt32
  pixelCount : UInt32
  /-- The framebuffer index of the channel's first pixel. -/
  offset : UInt32
  format : PixelFormat
  deriving DecidableEq, Repr

structure Directory where
  nodes : List Node
  /-- Channels in order of their index. -/
  channels : List NodeChannel
  deriving DecidableEq

namespace Directory

def empty : Directory := ⟨[], []⟩

/-- The node with an identifier. -/
def find? (directory : Directory) (uuid : Uuid) : Option Node :=
  directory.nodes.find? fun node => node.uuid == uuid

/-- The channels of a node, in order of their index. -/
def channelsOf (directory : Directory) (nodeId : UInt32) : List NodeChannel :=
  directory.channels.filter fun channel => channel.nodeId == nodeId

/-- Adds a node; another with its identifier goes. -/
def insertNode (directory : Directory) (node : Node) : Directory :=
  { directory with nodes := node :: directory.nodes.filter fun other => other.uuid != node.uuid }

/-- Puts a channel behind those of smaller index. -/
def placeChannel (channel : NodeChannel) (channels : List NodeChannel) : List NodeChannel :=
  channels.takeWhile (·.index < channel.index)
    ++ channel :: channels.dropWhile (·.index < channel.index)

/-- Adds a channel; another of the same node and index goes. -/
def insertChannel (directory : Directory) (channel : NodeChannel) : Directory :=
  { directory with
    channels := placeChannel channel (directory.channels.filter fun other =>
      other.nodeId != channel.nodeId || other.index != channel.index) }

/-- Takes a node out, with the channels of its number. -/
def removeNode (directory : Directory) (uuid : Uuid) : Option Node × Directory :=
  match directory.find? uuid with
  | none => (none, directory)
  | some node =>
      (some node, {
        nodes := directory.nodes.filter fun other => other.uuid != uuid
        channels := directory.channels.filter fun channel => channel.nodeId != node.id })

end Directory

end Luminaire
