/-
What all connections share: the directory, the framebuffer, the group's
broadcaster, the clock and the source of randomness.

Regions and keys have observers. Some of them belong to connections; the
others, known here by a number only, belong to whoever else watches the
framebuffer or the keys.
-/
import Luminaire.Directory
import Luminaire.Framebuffer
import Luminaire.Group.Broadcaster

namespace Luminaire

/-- Names a connection, as a word of 64 bits does while fewer connections than
there are words have been numbered. -/
abbrev ConnectionId := Nat

/-- What has to be sent when a region is finished. -/
structure Delivery where
  connection : ConnectionId
  channel : UInt32
  /-- The pixels in the framebuffer. -/
  region : Region
  /-- Where they lie in the channel. -/
  offset : UInt32
  format : PixelFormat
  deriving DecidableEq, Repr

/-- Who is told that a region is finished. -/
inductive Watcher where
  | delivery (delivery : Delivery)
  | outsider (number : Nat)
  deriving DecidableEq, Repr

/-- Who is told about a new key. -/
inductive KeyWatcher where
  | connection (id : ConnectionId)
  | outsider (number : Nat)
  deriving DecidableEq, Repr

structure Venue where
  directory : Directory
  framebuffer : Framebuffer Watcher
  /-- None where no group is broadcast to. -/
  group : Option (Broadcaster KeyWatcher)
  /-- Milliseconds on the clock. -/
  now : UInt64
  entropy : Entropy

end Luminaire
