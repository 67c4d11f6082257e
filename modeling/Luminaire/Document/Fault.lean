/-
Errors as JSON documents: the kind of the innermost cause, its wording
where it has a fixed one, and whatever else the error says.
-/
import Luminaire.App
import Luminaire.Connection.Error
import Luminaire.Document.Basic
import Luminaire.Framebuffer
import Luminaire.Group.Broadcast
import Luminaire.Handshake.Error

namespace Luminaire

/-- A document that reports an error. -/
def faultJson (kind : String) (message : Option String) (more : List (String × Json)) : Json :=
  .ofPairs (("error", .ofText kind) :: (message.map fun text => ("message", .ofText text)).toList
    ++ more)

/-- Success, or the error. -/
def outcomeJson {ε : Type} (report : ε → Json) : Except ε Unit → Json
  | .ok () => .ok
  | .error fault => report fault

def FrameError.kind : FrameError → String
  | .truncated _ _ => "Truncated"
  | .versionMismatch _ => "VersionMismatch"
  | .payloadTooLarge _ => "PayloadTooLarge"

def FrameError.toJson (fault : FrameError) : Json :=
  faultJson fault.kind fault.message [("fatal", .bool fault.isFatal)]

def CryptoError.kind : CryptoError → String
  | .noKey => "NoKey"
  | .invalidKeyLength _ => "InvalidKeyLength"
  | .invalidIvLength _ => "InvalidIvLength"
  | .emptyPlaintext => "EmptyPlaintext"
  | .sealFailed => "Seal"
  | .openFailed => "Open"
  | .identity _ => "Identity"
  | .entropy _ => "Entropy"

def CryptoError.toJson (fault : CryptoError) : Json := faultJson fault.kind fault.message? []

def FramebufferError.toJson (fault : FramebufferError) : Json :=
  faultJson "OutOfRange" fault.message []

def SessionError.kind : SessionError → String
  | .io => "Io"
  | .closed => "Closed"
  | .peerClosed => "PeerClosed"
  | .tooLarge _ => "TooLarge"
  | .crypto fault => fault.kind

def SessionError.toJson (fault : SessionError) : Json := faultJson fault.kind fault.message? []

def HandshakeError.kind : HandshakeError → String
  | .transport => "Transport"
  | .timeout _ => "Timeout"
  | .protocol _ => "Protocol"
  | .noCommonSuite => "NoCommonSuite"
  | .authentication _ => "Authentication"
  | .crypto fault => fault.kind

def HandshakeError.toJson (fault : HandshakeError) : Json := faultJson fault.kind fault.message? []

def ConfigError.kind : ConfigError → String
  | .file _ _ => "Io"
  | .malformed => "Parse"
  | .invalid _ => "Invalid"

def ConfigError.toJson (fault : ConfigError) : Json := faultJson fault.kind fault.message? []

def GroupError.kind : GroupError → String
  | .config fault => fault.kind
  | .socket => "Socket"
  | .crypto fault => fault.kind
  | .frame fault => fault.kind
  | .undecodable => "Decode"

def GroupError.toJson : GroupError → Json
  | .frame fault => fault.toJson
  | fault => faultJson fault.kind fault.message? []

def HandlerError.kind : HandlerError → String
  | .malformed _ => "Malformed"
  | .unknownMessageType _ _ => "UnknownMessageType"
  | .notAuthenticated => "NotAuthenticated"
  | .protocolViolation _ => "ProtocolViolation"
  | .authenticationFailed => "AuthenticationFailed"
  | .frame fault => fault.kind
  | .undecodable => "Decode"
  | .session fault => fault.kind

def HandlerError.toJson (error : HandlerError) : Json :=
  let place := match error with
    | .malformed endpoint => [("endpoint", Json.ofText endpoint.name)]
    | _ => []
  faultJson error.kind error.message? (("fatal", .bool error.isFatal) :: place)

def ListenerError.kind : ListenerError → String
  | .config fault => fault.kind
  | .crypto fault => fault.kind

/-- The part of a controller that did not start. -/
def AppError.layer : AppError → String
  | .config _ => "config"
  | .listener _ => "listener"
  | .group _ => "syncer"

def AppError.kind : AppError → String
  | .config fault => fault.kind
  | .listener fault => fault.kind
  | .group fault => fault.kind

def AppError.toJson (fault : AppError) : Json :=
  faultJson fault.kind fault.message? [("layer", .ofText fault.layer)]

end Luminaire
