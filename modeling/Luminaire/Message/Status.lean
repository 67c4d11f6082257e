/-
Result codes of acknowledgements. Every endpoint answers from a range of
its own; the first few are shared.
-/
import Luminaire.Cbor.Record
import Luminaire.Text.Hex

namespace Luminaire

inductive Status where
  | success
  | malformed
  | notAuthenticated
  | unsupported
  | noCommonMethod
  | authenticationFailed
  | invalidChannel
  | invalidOffset
  | invalidLength
  | invalidFormat
  | alreadySubscribed
  | invalidKeyId
  deriving DecidableEq, Repr

namespace Status

def code : Status → UInt8
  | .success => 0x00
  | .malformed => 0x01
  | .notAuthenticated => 0x02
  | .unsupported => 0x03
  | .noCommonMethod => 0x10
  | .authenticationFailed => 0x11
  | .invalidChannel => 0x20
  | .invalidOffset => 0x21
  | .invalidLength => 0x22
  | .invalidFormat => 0x23
  | .alreadySubscribed => 0x24
  | .invalidKeyId => 0x30

def all : List Status :=
  [.success, .malformed, .notAuthenticated, .unsupported, .noCommonMethod,
    .authenticationFailed, .invalidChannel, .invalidOffset, .invalidLength, .invalidFormat,
    .alreadySubscribed, .invalidKeyId]

/-- The status with a code, if it is known. -/
def ofCode? (code : UInt8) : Option Status := all.find? fun status => status.code == code

theorem ofCode?_code (status : Status) : ofCode? status.code = some status := by
  cases status <;> rfl

def name : Status → String
  | .success => "Success"
  | .malformed => "Malformed"
  | .notAuthenticated => "NotAuthenticated"
  | .unsupported => "Unsupported"
  | .noCommonMethod => "NoCommonMethod"
  | .authenticationFailed => "AuthenticationFailed"
  | .invalidChannel => "InvalidChannel"
  | .invalidOffset => "InvalidOffset"
  | .invalidLength => "InvalidLength"
  | .invalidFormat => "InvalidFormat"
  | .alreadySubscribed => "AlreadySubscribed"
  | .invalidKeyId => "InvalidKeyId"

/-- What is said of a code that no status has. -/
def unknownText (code : UInt8) : String := "unknown status code " ++ prefixedHex code

/-- A status travels as its code. -/
def codec : Cbor.Codec Status := .refine .word8 Status.code Status.ofCode?

theorem codec_lawful : codec.Lawful :=
  Cbor.Codec.refine_lawful Cbor.Codec.word8_lawful ofCode?_code

instance : Cbor.Payload Status := ⟨codec⟩

end Status

end Luminaire
