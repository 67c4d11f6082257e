/-
The closing of a handshake: each side proves, in a protected record, that
it holds the keys and has seen the same two hellos.

Whoever waits takes in datagrams one by one. What does not open is passed
over; the first record that opens decides. So a session comes out only
behind the peer's own closing code, and the controller sends its code
only then.
-/
import Luminaire.Handshake.Error
import Luminaire.Handshake.Transcript
import Luminaire.Session

namespace Luminaire

/-- A session whose peer has not yet closed the handshake. -/
structure Unconfirmed where
  /-- The side that waits. -/
  role : Role
  session : Session
  keys : SessionKeys
  transcript : Bytes
  deriving DecidableEq, Repr

/-- What has become of a wait. -/
inductive Verdict where
  | waiting (unconfirmed : Unconfirmed)
  | failed (error : HandshakeError)
  /-- The session, and the closing record that left with the decision. -/
  | established (session : Session) (sent : Option Bytes)
  deriving DecidableEq, Repr

namespace Unconfirmed

/-- What the wait is for. -/
def awaited (unconfirmed : Unconfirmed) : Awaited := .finished unconfirmed.role.peer

/-- Sends this side's closing code. -/
def sendFinished (unconfirmed : Unconfirmed) (session : Session) :
    Except SessionError Bytes × Session :=
  session.sendRecord .handshake
    (finishedCode unconfirmed.keys unconfirmed.role unconfirmed.transcript)

/-- The peer's code was right: the node is done, the controller sends its
own code first. -/
def conclude (unconfirmed : Unconfirmed) (session : Session) : Verdict :=
  match unconfirmed.role with
  | .client => .established session none
  | .server =>
      match unconfirmed.sendFinished session with
      | (.ok record, session) => .established session (some record)
      | (.error _, _) => .failed .transport

/-- Takes in one datagram. -/
def take (unconfirmed : Unconfirmed) (datagram : Bytes) : Verdict :=
  match unconfirmed.session.receiveRecord (some datagram) with
  | (.ok none, session) => .waiting { unconfirmed with session }
  | (.ok (some (.handshake, code)), session) =>
      if finishedVerifies unconfirmed.keys unconfirmed.role.peer unconfirmed.transcript code then
        unconfirmed.conclude session
      else .failed (.authentication (.finished unconfirmed.role.peer))
  | (.ok (some (.alert, _)), _) => .failed (.protocol (.abortedBefore unconfirmed.awaited))
  | (.ok (some (.applicationData, _)), _) => .failed (.protocol (.dataBefore unconfirmed.awaited))
  | (.error _, _) => .failed .transport

/-- The wait took too long. -/
def expire (unconfirmed : Unconfirmed) : HandshakeError := .timeout unconfirmed.awaited

/-- Takes in datagrams until one decides or the wait is over. -/
def takeAll (unconfirmed : Unconfirmed) : List Bytes → Verdict
  | [] => .failed unconfirmed.expire
  | datagram :: datagrams =>
      match unconfirmed.take datagram with
      | .waiting unconfirmed => unconfirmed.takeAll datagrams
      | verdict => verdict

end Unconfirmed

end Luminaire
