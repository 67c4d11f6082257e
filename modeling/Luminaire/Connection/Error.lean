/-
Why a handler did not do what a message asked.

Some faults end the connection, the rest cost one message.
-/
import Luminaire.Session
import Luminaire.Wire.Frame

namespace Luminaire

/-- The states of an authentication. -/
inductive AuthPhase where
  | idle
  | challenged
  | authenticated
  | failed
  deriving DecidableEq, Repr

def AuthPhase.name : AuthPhase → String
  | .idle => "idle"
  | .challenged => "handle_response"
  | .authenticated => "authenticated"
  | .failed => "failed"

/-- What a peer may not do, or what it cannot be given. -/
inductive Violation where
  /-- An authentication message that does not fit the phase. -/
  | outOfTurn (messageType : UInt8) (phase : AuthPhase)
  /-- A challenge could not be drawn. -/
  | entropy (purpose : Purpose)
  | stated (reason : String)
  deriving DecidableEq, Repr

def Violation.text : Violation → String
  | .outOfTurn messageType phase =>
      "authentication message " ++ prefixedHex messageType ++ " in state " ++ phase.name
  | .entropy purpose => "entropy source: " ++ purpose.label ++ "entropy exhausted"
  | .stated reason => reason

inductive HandlerError where
  | malformed (endpoint : Endpoint)
  | unknownMessageType (endpoint : Endpoint) (messageType : UInt8)
  | notAuthenticated
  | protocolViolation (violation : Violation)
  | authenticationFailed
  | frame (fault : FrameError)
  /-- A payload does not decode. -/
  | undecodable
  | session (fault : SessionError)
  deriving DecidableEq, Repr

namespace HandlerError

/-- The error's wording, where it has a fixed one. -/
def message? : HandlerError → Option String
  | .malformed _ | .undecodable => none
  | .unknownMessageType endpoint messageType =>
      some ("unknown message type " ++ prefixedHex messageType ++ " on " ++ endpoint.name)
  | .notAuthenticated => some "not authenticated"
  | .protocolViolation violation => some ("protocol violation: " ++ violation.text)
  | .authenticationFailed => some "authentication failed"
  | .frame fault => some fault.message
  | .session fault => fault.message?

/-- Whether the connection ends with it. -/
def isFatal : HandlerError → Bool
  | .protocolViolation _ | .authenticationFailed => true
  | .frame fault => fault.isFatal
  | _ => false

end HandlerError

end Luminaire
