/-
Liveness: a ping is answered with both clocks. Any connection may ask.
-/
import Luminaire.Connection.Basic

namespace Luminaire.Liveness

variable {κ : Type} [Sink κ]

/-- Takes in a liveness message. -/
def handle (connection : Connection κ) (now : UInt64) (header : Header) (payload : Bytes) :
    Except HandlerError Unit × Connection κ :=
  if header.messageType = Message.messageType Ping then
    match Cbor.decode? (α := Ping) payload with
    | none =>
        match connection.refuse header .malformed with
        | (.error fault, connection) => (.error fault, connection)
        | (.ok (), connection) => (.error (.malformed .default), connection)
    | some ping =>
        connection.replyWith header
          (Pong.mk ping.timestampMs now connection.isAuthenticated)
  else (.error (.unknownMessageType .default header.messageType), connection)

end Luminaire.Liveness
