/-
The handlers of a connection, one for each endpoint it serves.

Four kinds come with the library; others can be plugged in. A handler
registers its observers when it is attached or while it works, and takes
all of them back when it is detached.
-/
import Luminaire.Connection.Authentication
import Luminaire.Connection.GroupKeys
import Luminaire.Connection.Liveness
import Luminaire.Connection.Subscription

namespace Luminaire

/-- What a plugged-in handler does with a message. -/
inductive PluginResponse where
  | reply (messageType : UInt8) (payload : Bytes)
  | failed (error : HandlerError)
  /-- It breaks down over the message. -/
  | crashed
  deriving DecidableEq, Repr

/-- A handler that keeps nothing between messages. -/
structure Plugin where
  endpoint : Endpoint
  respond : (messageType : UInt8) → (payload : Bytes) → PluginResponse

/-- What kind of handler to attach. -/
inductive HandlerKind where
  | liveness
  | authentication (methods : List String)
  | pixelData
  | groupControl
  | plugin (plugin : Plugin)

/-- A handler at work. -/
inductive Handler where
  | liveness
  | authentication (methods : List String) (state : AuthState)
  | pixelData (held : Subscription.Held)
  | groupControl (token : Token)
  | plugin (plugin : Plugin)

/-- What became of a message. -/
inductive Outcome where
  | done
  | failed (error : HandlerError)
  | crashed
  deriving DecidableEq, Repr

/-- The outcome of work that cannot break down. -/
def Outcome.of : Except HandlerError Unit → Outcome
  | .ok () => .done
  | .error fault => .failed fault

/-- What a message leads to. -/
structure HandlerTurn (κ : Type) where
  outcome : Outcome
  handler : Handler
  connection : Connection κ
  venue : Venue

namespace Handler

/-- The endpoint a handler serves. -/
def endpoint : Handler → Endpoint
  | .liveness => .default
  | .authentication _ _ => .authentication
  | .pixelData _ => .pixelData
  | .groupControl _ => .multicastControl
  | .plugin supplied => supplied.endpoint

/-- A fresh handler for a connection. Group control needs a group. -/
def attach? (kind : HandlerKind) (id : ConnectionId) (venue : Venue) : Option (Handler × Venue) :=
  match kind with
  | .liveness => some (.liveness, venue)
  | .authentication methods => some (.authentication methods .idle, venue)
  | .pixelData => some (.pixelData [], venue)
  | .groupControl =>
      venue.group.map fun group =>
        let (token, group) := group.observe (.connection id)
        (.groupControl token, { venue with group := some group })
  | .plugin supplied => some (.plugin supplied, venue)

/-- Takes a handler's observers back. -/
def detach (handler : Handler) (venue : Venue) : Venue :=
  match handler with
  | .pixelData held =>
      { venue with
        framebuffer := (Subscription.release (fun _ => true) held venue.framebuffer).2 }
  | .groupControl token => { venue with group := venue.group.map (·.unobserve token) }
  | _ => venue

variable {κ : Type} [Sink κ]

/-- Takes in a message for this handler. -/
def handle (handler : Handler) (id : ConnectionId) (connection : Connection κ) (venue : Venue)
    (header : Header) (payload : Bytes) : HandlerTurn κ :=
  match handler with
  | .liveness =>
      let (result, connection) := Liveness.handle connection venue.now header payload
      ⟨.of result, .liveness, connection, venue⟩
  | .authentication methods state =>
      let turn := state.handle methods venue.directory connection venue.entropy header payload
      ⟨.of turn.result, .authentication methods turn.state, turn.connection,
        { venue with entropy := turn.entropy }⟩
  | .pixelData held =>
      let turn := Subscription.handle id venue.directory held venue.framebuffer connection header
        payload
      ⟨.of turn.result, .pixelData turn.held, turn.connection,
        { venue with framebuffer := turn.framebuffer }⟩
  | .groupControl token =>
      match venue.group with
      | none => ⟨.done, .groupControl token, connection, venue⟩
      | some group =>
          let (result, connection) := GroupKeys.handle connection group header payload
          ⟨.of result, .groupControl token, connection, venue⟩
  | .plugin supplied =>
      match supplied.respond header.messageType payload with
      | .reply messageType payload =>
          let (result, connection) := connection.reply header messageType payload
          ⟨.of result, .plugin supplied, connection, venue⟩
      | .failed error => ⟨.failed error, .plugin supplied, connection, venue⟩
      | .crashed => ⟨.crashed, .plugin supplied, connection, venue⟩

end Handler

end Luminaire
