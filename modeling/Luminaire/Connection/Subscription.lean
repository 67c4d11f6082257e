/-
Subscriptions: a node asks for a run of one of its channels and is sent
the pixels whenever the renderer has finished a range that touches them.

A subscription is an observer of the framebuffer, and the handler's list
of channels with their observers' tokens is the other half of it. An
observer that is told after its channel was given up sends nothing.
-/
import Luminaire.Connection.Basic
import Luminaire.Connection.Venue

namespace Luminaire

/-- A subscribed channel and the token of its observer. -/
structure Subscription where
  channel : UInt32
  token : Token
  deriving DecidableEq, Repr

/-- The most pixel bytes one message can carry: it has to fit the frame's
length field and, sealed, a datagram. -/
def maxChannelBytes : Nat :=
  min (maxRecordContent - Framed.size Header) maxPayloadLength - channelDataOverhead

/-- The sum of two numbers, unless it is too large. -/
def checkedAdd? (left right : UInt32) : Option UInt32 :=
  if left.toNat + right.toNat < UInt32.size then some (left + right) else none

/-- Whether a wish to give up means a channel: it names that one, or none at
all. -/
def Unsubscribe.means (request : Unsubscribe) (channel : UInt32) : Bool :=
  request.channel.all fun meant => meant == channel

namespace Subscription

/-- The channel list of a handler. -/
abbrev Held := List Subscription

def holds (held : Held) (channel : UInt32) : Bool :=
  held.any fun subscription => subscription.channel == channel

/-- The framebuffer index of a run's first pixel, if the run's end is an
index too. -/
def firstPixel? (offset start length : UInt32) : Option UInt32 :=
  (checkedAdd? offset start).filter fun first => (checkedAdd? first length).isSome

/-- Format and first pixel of a request that can be granted; the status
names the first thing wrong with any other. -/
def check (channels : List NodeChannel) (held : Held) (request : Subscribe) :
    Except Status (PixelFormat × UInt32) :=
  match channels.find? fun channel => channel.index == request.channel with
  | none => .error .invalidChannel
  | some channel =>
      if channel.pixelCount ≤ request.start then .error .invalidOffset
      else if request.length = 0
          ∨ channel.pixelCount.toNat < request.start.toNat + request.length.toNat then
        .error .invalidLength
      else
        match PixelFormat.ofCode? request.format with
        | none => .error .invalidFormat
        | some format =>
            if maxChannelBytes < request.length.toNat * format.bytesPerPixel then
              .error .invalidLength
            else
              match firstPixel? channel.offset request.start request.length with
              | none => .error .invalidOffset
              | some first =>
                  if holds held request.channel then .error .alreadySubscribed
                  else .ok (format, first)

/-- What a message about subscriptions leads to. -/
structure Turn (κ : Type) where
  result : Except HandlerError Unit
  held : Held
  framebuffer : Framebuffer Watcher
  connection : Connection κ

variable {κ : Type} [Sink κ]

/-- Takes in a request for a channel. A granted one is on the books before
the answer is sent. -/
def subscribe (id : ConnectionId) (directory : Directory) (held : Held)
    (framebuffer : Framebuffer Watcher) (connection : Connection κ) (header : Header)
    (payload : Bytes) : Turn κ :=
  match Cbor.decode? (α := Subscribe) payload with
  | none =>
      let (result, connection) := connection.answer header (SubscribeAck.mk .malformed 0)
        (.error (.malformed .pixelData))
      ⟨result, held, framebuffer, connection⟩
  | some request =>
      match connection.requireNode with
      | .error fault =>
          let (result, connection) := connection.answer header
            (SubscribeAck.mk .notAuthenticated request.channel) (.error fault)
          ⟨result, held, framebuffer, connection⟩
      | .ok node =>
          match check (directory.channelsOf node.id) held request with
          | .error status =>
              let (result, connection) := connection.replyWith header
                (SubscribeAck.mk status request.channel)
              ⟨result, held, framebuffer, connection⟩
          | .ok (format, first) =>
              let region : Region := ⟨first, request.length⟩
              let (token, framebuffer) := framebuffer.observe region
                (.delivery ⟨id, request.channel, region, request.start, format⟩)
              let (result, connection) := connection.replyWith header
                (SubscribeAck.mk .success request.channel)
              ⟨result, ⟨request.channel, token⟩ :: held, framebuffer, connection⟩

/-- Gives up the subscriptions that are meant. -/
def release (meant : Subscription → Bool) (held : Held) (framebuffer : Framebuffer Watcher) :
    Held × Framebuffer Watcher :=
  (held.filter fun subscription => !meant subscription,
    (held.filter meant).foldl (fun framebuffer subscription =>
      framebuffer.unobserve subscription.token) framebuffer)

/-- Gives up what a node wants to give up. -/
def honour (request : Unsubscribe) (held : Held) (framebuffer : Framebuffer Watcher) :
    Held × Framebuffer Watcher :=
  release (fun subscription => request.means subscription.channel) held framebuffer

/-- Takes in a wish to give up subscriptions. -/
def unsubscribe (held : Held) (framebuffer : Framebuffer Watcher) (connection : Connection κ)
    (header : Header) (payload : Bytes) : Turn κ :=
  match Cbor.decode? (α := Unsubscribe) payload with
  | none =>
      let (result, connection) := connection.answer header (UnsubscribeAck.mk .malformed 0)
        (.error (.malformed .pixelData))
      ⟨result, held, framebuffer, connection⟩
  | some request =>
      match connection.requireNode with
      | .error fault =>
          let (result, connection) := connection.answer header
            (UnsubscribeAck.mk .notAuthenticated 0) (.error fault)
          ⟨result, held, framebuffer, connection⟩
      | .ok _ =>
          let (kept, framebuffer) := honour request held framebuffer
          let removed := held.length - kept.length
          let (result, connection) := connection.replyWith header
            (UnsubscribeAck.mk .success removed.toUInt32)
          ⟨result, kept, framebuffer, connection⟩

/-- Takes in a message about subscriptions. -/
def handle (id : ConnectionId) (directory : Directory) (held : Held)
    (framebuffer : Framebuffer Watcher) (connection : Connection κ) (header : Header)
    (payload : Bytes) : Turn κ :=
  if header.messageType = Message.messageType Subscribe then
    subscribe id directory held framebuffer connection header payload
  else if header.messageType = Message.messageType Unsubscribe then
    unsubscribe held framebuffer connection header payload
  else
    ⟨.error (.unknownMessageType .pixelData header.messageType), held, framebuffer, connection⟩

-- ========================================================= delivery

/-- Whether an observer still stands for a subscription. -/
def isLive (held : Held) (token : Token) (delivery : Delivery) : Bool :=
  held.any fun subscription =>
    subscription.channel == delivery.channel && subscription.token == token

/-- The message that carries a delivery's pixels. -/
def channelData (delivery : Delivery) (frameNumber : UInt64) (pixels : List Pixel) : ChannelData :=
  ⟨delivery.channel, delivery.offset, delivery.format.code, frameNumber,
    encodePixels delivery.format pixels⟩

/-- Sends the pixels of a subscription that is still held. A region beyond
the framebuffer is not sent; whether a message left makes no difference. -/
def deliver (held : Held) (framebuffer : Framebuffer Watcher) (connection : Connection κ)
    (frameNumber : UInt64) (token : Token) (delivery : Delivery) : Connection κ :=
  if isLive held token delivery then
    match framebuffer.copy delivery.region with
    | .error _ => connection
    | .ok pixels => (connection.pushWith .pixelData (channelData delivery frameNumber pixels)).2
  else connection

end Subscription

end Luminaire
