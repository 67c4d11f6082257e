/-
The controller's half of the handshake, run for a hello that carried a
good cookie.

It checks the hello, picks a suite, opens a path of its own to the node,
draws its random and its secret, and answers with a signed hello. From
then on it waits for the node's closing code (`Unconfirmed`).

A random that cannot be drawn is an error; a secret that cannot be drawn
takes the whole attempt down with it (`crashed`).
-/
import Luminaire.Curve.X25519
import Luminaire.Handshake.Confirmation
import Luminaire.Identity

namespace Luminaire

/-- What the controller brings to every handshake. -/
structure ServerHandshake where
  identity : Identity
  /-- Suites in order of preference. -/
  suites : List CipherSuite
  deriving DecidableEq, Repr

/-- How far an answer got. -/
inductive Answering where
  | failed (error : HandshakeError)
  | crashed
  | awaiting (unconfirmed : Unconfirmed)
  deriving DecidableEq, Repr

/-- What came of a hello. -/
structure Answer where
  progress : Answering
  /-- The server hello, if it left. -/
  sent : Option Bytes
  entropy : Entropy
  deriving DecidableEq, Repr

namespace ServerHandshake

/-- The signed part of the answer. -/
def body (server : ServerHandshake) (suite : CipherSuite) (random secret : Bytes) :
    ServerHelloBody :=
  ⟨handshakeVersion, random, X25519.share secret, suite, server.identity.certificates⟩

/-- The answer to a client hello that arrived as `raw`. -/
def serverHello (server : ServerHandshake) (raw : Bytes) (suite : CipherSuite)
    (random secret : Bytes) : ServerHello :=
  let body := Cbor.encode (server.body suite random secret)
  ⟨body, server.identity.sign (transcriptHash raw body)⟩

/-- What is waited for once the answer has left. -/
def unconfirmed (server : ServerHandshake) (link : Link) (hello : ClientHello) (raw : Bytes)
    (suite : CipherSuite) (random secret : Bytes) : Unconfirmed :=
  let keys := SessionKeys.derive (X25519.exchange secret hello.publicKey) hello.random random
    suite.name
  { role := .server
    session := .establish link suite .server keys
    keys := keys
    transcript := transcriptHash raw (Cbor.encode (server.body suite random secret)) }

/-- Answers a hello, once the suite is agreed on and a path is open. -/
def answerUnder (server : ServerHandshake) (link : Link) (hello : ClientHello) (raw : Bytes)
    (suite : CipherSuite) (entropy : Entropy) : Answer :=
  match entropy.draw? randomLength with
  | none => ⟨.failed (.crypto (.entropy .handshake)), none, entropy⟩
  | some (random, entropy) =>
      match entropy.draw? 32 with
      | none => ⟨.crashed, none, entropy⟩
      | some (secret, entropy) =>
          let datagram := Cbor.encode
            (HandshakeMessage.serverHello (server.serverHello raw suite random secret))
          if !link.takes datagram then ⟨.failed .transport, none, entropy⟩
          else if !X25519.contributory (X25519.exchange secret hello.publicKey) then
            ⟨.failed (.authentication (.share .client)), some datagram, entropy⟩
          else
            ⟨.awaiting (server.unconfirmed link hello raw suite random secret), some datagram,
              entropy⟩

/-- Answers a hello that arrived as `raw`. -/
def answer (server : ServerHandshake) (link : Link) (hello : ClientHello) (raw : Bytes)
    (entropy : Entropy) : Answer :=
  match hello.validate with
  | .error fault => ⟨.failed fault, none, entropy⟩
  | .ok () =>
      match CipherSuite.negotiate server.suites hello.suites with
      | none => ⟨.failed .noCommonSuite, none, entropy⟩
      | some suite =>
          if link = .down then ⟨.failed .transport, none, entropy⟩
          else server.answerUnder link hello raw suite entropy

end ServerHandshake

end Luminaire
