/-
Nothing is lost on the way through bytes, for any payload of any endpoint
and for the messages of the handshake.

All of them are written by faithful codecs, so one argument serves them
all (`Lossless.of_faithful`): what was printed is read back from the front
of any bytes that begin with it, which gives the value when nothing is
left over and a refusal when something is. What differs between the types
is their fields, and those are looked at where each is shown faithful.
-/
import Luminaire.Proofs.Handshake.Messages
import Luminaire.Proofs.Message.Payloads

namespace Luminaire

open Cbor

/-- A value decodes from the bytes it is encoded as, and nothing decodes
from these with more behind them. The bytes are as many as a machine can
count: the head of a longer string or list would not announce its length. -/
def Lossless (α : Type) [Payload α] : Prop :=
  ∀ value : α, (encode value).length < 2 ^ 64 →
    decode? (encode value) = some value
      ∧ ∀ suffix : Bytes, suffix ≠ [] → decode? (α := α) (encode value ++ suffix) = none

theorem Lossless.of_faithful {α : Type} [Payload α]
    (hfaithful : (Payload.codec (α := α)).Faithful depthLimit) : Lossless α := by
  intro value hshort
  constructor
  · exact decode?_encode hfaithful hshort
  · intro suffix hsuffix
    exact decode?_encode_append hfaithful hshort hsuffix

/-- Every payload, a status alone, the messages of the handshake and the
body that is signed in them arrive as they were sent, and never with
anything behind them. -/
theorem payloads_lossless :
    (Lossless AuthRequest ∧ Lossless AuthChallenge ∧ Lossless AuthResponse ∧ Lossless AuthResult)
      ∧ (Lossless Ping ∧ Lossless Pong)
      ∧ (Lossless Info ∧ Lossless GetKey ∧ Lossless KeyData ∧ Lossless RekeyNotice
        ∧ Lossless SyncOutput)
      ∧ (Lossless Subscribe ∧ Lossless SubscribeAck ∧ Lossless Unsubscribe
        ∧ Lossless UnsubscribeAck ∧ Lossless ChannelData)
      ∧ (Lossless Nack ∧ Lossless Status)
      ∧ Lossless HandshakeMessage ∧ Lossless ServerHelloBody := by
  refine ⟨⟨?_, ?_, ?_, ?_⟩, ⟨?_, ?_⟩, ⟨?_, ?_, ?_, ?_, ?_⟩, ⟨?_, ?_, ?_, ?_, ?_⟩,
    ⟨?_, ?_⟩, ?_, ?_⟩
  · exact .of_faithful AuthRequest.faithful
  · exact .of_faithful AuthChallenge.faithful
  · exact .of_faithful AuthResponse.faithful
  · exact .of_faithful AuthResult.faithful
  · exact .of_faithful Ping.faithful
  · exact .of_faithful Pong.faithful
  · exact .of_faithful Info.faithful
  · exact .of_faithful GetKey.faithful
  · exact .of_faithful KeyData.faithful
  · exact .of_faithful RekeyNotice.faithful
  · exact .of_faithful SyncOutput.faithful
  · exact .of_faithful Subscribe.faithful
  · exact .of_faithful SubscribeAck.faithful
  · exact .of_faithful Unsubscribe.faithful
  · exact .of_faithful UnsubscribeAck.faithful
  · exact .of_faithful ChannelData.faithful
  · exact .of_faithful Nack.faithful
  · exact .of_faithful Status.codec_faithful
  · exact .of_faithful HandshakeMessage.faithful
  · exact .of_faithful ServerHelloBody.faithful

/-- A refusal that names no method is not one that names an empty text, and
a hello with no cookie is not one with an empty cookie. -/
theorem payloads_lossless_in_example :
    let refusal : AuthChallenge := ⟨.noCommonMethod, none, [], []⟩
    let hello := HandshakeMessage.clientHello
      ⟨handshakeVersion, List.replicate 24 7, none, [1, 2, 3], [.chacha, .xchacha]⟩
    ((encode refusal).length < 2 ^ 64 ∧ decode? (encode refusal) = some refusal
      ∧ decode? (α := AuthChallenge) (encode refusal ++ [0xf6]) = none)
    ∧ ((encode hello).length < 2 ^ 64 ∧ decode? (encode hello) = some hello
      ∧ decode? (α := HandshakeMessage) (encode hello ++ [0xff]) = none) := by
  intro refusal hello
  obtain ⟨⟨-, hchallenge, -⟩, -, -, -, -, hmessage, -⟩ := payloads_lossless
  have hrefusal : (encode refusal).length < 2 ^ 64 := by decide
  have hhello : (encode hello).length < 2 ^ 64 := by decide +kernel
  refine ⟨⟨hrefusal, ?_, ?_⟩, hhello, ?_, ?_⟩
  · exact (hchallenge refusal hrefusal).1
  · exact (hchallenge refusal hrefusal).2 [0xf6] (by decide)
  · exact (hmessage hello hhello).1
  · exact (hmessage hello hhello).2 [0xff] (by decide)

end Luminaire
