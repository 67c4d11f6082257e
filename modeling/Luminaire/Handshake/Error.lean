/-
How a handshake can fail.
-/
import Luminaire.Handshake.Message
import Luminaire.Record.Keys

namespace Luminaire

/-- What one side was waiting for. -/
inductive Awaited where
  | serverHello
  /-- The closing message of the given side. -/
  | finished (sender : Role)
  deriving DecidableEq, Repr

def Awaited.name : Awaited → String
  | .serverHello => "server hello"
  | .finished sender => sender.name ++ " finished"

/-- What was wrong with a message. -/
inductive ProtocolFault where
  | version (found : UInt8)
  | randomLength
  | shareLength
  | serverHelloLength
  | unofferedSuite (suite : CipherSuite)
  /-- The signed body does not decode. -/
  | undecodable
  | abortedBefore (awaited : Awaited)
  | dataBefore (awaited : Awaited)
  deriving DecidableEq, Repr

/-- The fault's wording, where it has a fixed one. -/
def ProtocolFault.text? : ProtocolFault → Option String
  | .version found => some s!"unsupported handshake version {found.toNat}"
  | .randomLength => some "client random has wrong length"
  | .shareLength => some "client key share has wrong length"
  | .serverHelloLength => some "server hello field has wrong length"
  | .unofferedSuite suite => some ("server chose unoffered suite " ++ suite.name)
  | .undecodable => none
  | .abortedBefore awaited => some ("peer aborted before " ++ awaited.name)
  | .dataBefore awaited => some ("application data before " ++ awaited.name)

/-- What a peer failed to prove. -/
inductive AuthenticationFault where
  | signature
  /-- The share of the given side is a point of small order. -/
  | share (sender : Role)
  | finished (sender : Role)
  deriving DecidableEq, Repr

def AuthenticationFault.text : AuthenticationFault → String
  | .signature => "server hello signature invalid"
  | .share sender => sender.name ++ " key share is not contributory"
  | .finished sender => sender.name ++ " finished mismatch"

inductive HandshakeError where
  /-- The network refused a datagram. -/
  | transport
  | timeout (awaited : Awaited)
  | protocol (fault : ProtocolFault)
  | noCommonSuite
  | authentication (fault : AuthenticationFault)
  | crypto (fault : CryptoError)
  deriving DecidableEq, Repr

/-- The error's wording, where it has a fixed one. -/
def HandshakeError.message? : HandshakeError → Option String
  | .transport => none
  | .timeout awaited => some ("timed out waiting for " ++ awaited.name)
  | .protocol fault => fault.text?.map ("protocol error: " ++ ·)
  | .noCommonSuite => some "no common cipher suite"
  | .authentication fault => some ("authentication error: " ++ fault.text)
  | .crypto fault => fault.message?

/-- The checks on a hello that come before anything is done for its sender. -/
def ClientHello.validate (hello : ClientHello) : Except HandshakeError Unit :=
  if hello.version ≠ handshakeVersion then .error (.protocol (.version hello.version))
  else if hello.random.length ≠ randomLength then .error (.protocol .randomLength)
  else if hello.publicKey.length ≠ shareLength then .error (.protocol .shareLength)
  else .ok ()

/-- A hello passes exactly if it has the version of the handshake and a random and a
share of full length. -/
theorem ClientHello.validate_eq_ok_iff {hello : ClientHello} :
    hello.validate = .ok () ↔ hello.version = handshakeVersion
      ∧ hello.random.length = randomLength ∧ hello.publicKey.length = shareLength := by
  unfold validate
  constructor
  · intro hvalid
    split at hvalid
    · cases hvalid
    next hversion =>
      split at hvalid
      · cases hvalid
      next hrandom =>
        split at hvalid
        · cases hvalid
        next hshare =>
          exact ⟨Decidable.not_not.1 hversion, Decidable.not_not.1 hrandom,
            Decidable.not_not.1 hshare⟩
  · rintro ⟨hversion, hrandom, hshare⟩
    rw [if_neg (not_not_intro hversion), if_neg (not_not_intro hrandom),
      if_neg (not_not_intro hshare)]

end Luminaire
