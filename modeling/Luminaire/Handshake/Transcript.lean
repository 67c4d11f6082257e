/-
What both sides of a handshake agree on: a hash over the exact bytes of
the two hellos, and the codes that close the handshake under it.
-/
import Luminaire.Record.Keys

namespace Luminaire

/-- Bytes behind their length. -/
def lengthPrefixed (bytes : Bytes) : Bytes := bigEndianBytes 4 bytes.length ++ bytes

/-- What the transcript hash is computed over. -/
def transcriptInput (clientHello serverHelloBody : Bytes) : Bytes :=
  utf8 "pixelnet handshake v1" ++ lengthPrefixed clientHello ++ lengthPrefixed serverHelloBody

/-- Binds the client's hello to the server's answer. -/
def transcriptHash (clientHello serverHelloBody : Bytes) : Bytes :=
  sha256 (transcriptInput clientHello serverHelloBody)

/-- The label of a side's closing code. -/
def finishedLabel (sender : Role) : Bytes := utf8 (sender.name ++ " finished")

/-- The code that closes the handshake for a side. -/
def finishedCode (keys : SessionKeys) (sender : Role) (transcript : Bytes) : Bytes :=
  hmac (keys.outgoing sender).finished (finishedLabel sender ++ transcript)

/-- Whether a received code closes the handshake for its sender. -/
def finishedVerifies (keys : SessionKeys) (sender : Role) (transcript received : Bytes) : Bool :=
  hmacVerifies (keys.outgoing sender).finished (finishedLabel sender ++ transcript) received

theorem finishedVerifies_iff (keys : SessionKeys) (sender : Role) (transcript received : Bytes) :
    finishedVerifies keys sender transcript received = true
      ↔ received = finishedCode keys sender transcript :=
  hmacVerifies_iff ..

end Luminaire
