/-
One connection as its handlers see it: the peer, the node it turned out
to be, and a way to send.

Answers repeat the tag of the request. What is sent unasked carries tags
counted up for the connection; a tag is taken even if the sending fails.

Anything that takes messages can stand behind a connection (`Sink`), and
it may refuse any of them.
-/
import Luminaire.Connection.Error
import Luminaire.Directory
import Luminaire.Message.Payloads
import Luminaire.Net.Address

namespace Luminaire

/-- What takes messages for a peer. -/
class Sink (κ : Type) where
  /-- Hands over one message. -/
  put : κ → Bytes → Except SessionError Unit × κ

structure Connection (κ : Type) where
  peer : SocketAddress
  sink : κ
  /-- The node at the other end, once it is authenticated. -/
  node : Option Node
  nextTag : UInt8
  deriving DecidableEq

namespace Connection

variable {κ : Type} [Sink κ]

/-- A fresh connection. -/
def new (peer : SocketAddress) (sink : κ) : Connection κ := ⟨peer, sink, none, 0⟩

def isAuthenticated (connection : Connection κ) : Bool := connection.node.isSome

/-- The node, for what only nodes may do. -/
def requireNode (connection : Connection κ) : Except HandlerError Node :=
  match connection.node with
  | some node => .ok node
  | none => .error .notAuthenticated

/-- Says which node this is. -/
def authenticate (connection : Connection κ) (node : Node) : Connection κ :=
  { connection with node := some node }

-- ========================================================== sending

/-- Sends a payload behind a header. -/
def send (connection : Connection κ) (header : Header) (payload : Bytes) :
    Except HandlerError Unit × Connection κ :=
  match frame header payload with
  | .error fault => (.error (.frame fault), connection)
  | .ok datagram =>
      match Sink.put connection.sink datagram with
      | (.error fault, sink) => (.error (.session fault), { connection with sink })
      | (.ok (), sink) => (.ok (), { connection with sink })

/-- Answers a request. -/
def reply (connection : Connection κ) (request : Header) (messageType : UInt8) (payload : Bytes) :
    Except HandlerError Unit × Connection κ :=
  connection.send (request.reply messageType) payload

/-- Answers a request with a message. -/
def replyWith {α : Type} [Message α] (connection : Connection κ) (request : Header) (message : α) :
    Except HandlerError Unit × Connection κ :=
  connection.reply request (Message.messageType α) (Cbor.encode message)

/-- Answers a request with a message; the outcome is then what the caller
says, unless the answer could not be sent. -/
def answer {α : Type} [Message α] (connection : Connection κ) (request : Header) (message : α)
    (outcome : Except HandlerError Unit) : Except HandlerError Unit × Connection κ :=
  match connection.replyWith request message with
  | (.error fault, connection) => (.error fault, connection)
  | (.ok (), connection) => (outcome, connection)

/-- Refuses a request. -/
def refuse (connection : Connection κ) (request : Header) (status : Status) :
    Except HandlerError Unit × Connection κ :=
  connection.replyWith request (Nack.mk request.messageType status)

/-- Sends a payload unasked, under the next tag. -/
def push (connection : Connection κ) (endpoint : Endpoint) (messageType : UInt8) (payload : Bytes) :
    Except HandlerError Unit × Connection κ :=
  { connection with nextTag := connection.nextTag + 1 }.send
    (.new endpoint messageType connection.nextTag) payload

/-- Sends a message unasked, under the next tag. -/
def pushWith {α : Type} [Message α] (connection : Connection κ) (endpoint : Endpoint)
    (message : α) : Except HandlerError Unit × Connection κ :=
  connection.push endpoint (Message.messageType α) (Cbor.encode message)

/-- The connection as text. -/
def debugText (connection : Connection κ) : String :=
  let node := match connection.node with
    | none => "None"
    | some node => "Some(" ++ node.debugText ++ ")"
  "ConnectionContext \x7b peer: " ++ connection.peer.toString ++ ", node: " ++ node ++ ", .. \x7d"

end Connection

end Luminaire
