/-
The messages of the handshake.

A node greets with its random, its key share and the suites it offers.
The controller first asks for a cookie, which only a peer at the claimed
address can return, and then answers with its own random and share, the
suite it chose and its certificates, signed as the exact bytes that were
sent.
-/
import Luminaire.Record.Suite

namespace Luminaire

open Cbor

/-- The version of the handshake. -/
def handshakeVersion : UInt8 := 1

/-- Length of each side's random. -/
def randomLength : Nat := 32

/-- Length of each side's key share. -/
def shareLength : Nat := 32

structure ClientHello where
  version : UInt8
  random : Bytes
  cookie : Option Bytes
  publicKey : Bytes
  suites : List CipherSuite
  deriving DecidableEq, Repr

/-- Asks the peer to greet again with this cookie. -/
structure HelloVerifyRequest where
  cookie : Bytes
  deriving DecidableEq, Repr

/-- The part of the server's hello that is signed. -/
structure ServerHelloBody where
  version : UInt8
  random : Bytes
  publicKey : Bytes
  suite : CipherSuite
  certificates : List Bytes
  deriving DecidableEq, Repr

/-- A body, as the bytes that were signed, and the signature. -/
structure ServerHello where
  body : Bytes
  signature : Bytes
  deriving DecidableEq, Repr

inductive HandshakeMessage where
  | clientHello (hello : ClientHello)
  | helloVerifyRequest (request : HelloVerifyRequest)
  | serverHello (hello : ServerHello)
  deriving DecidableEq, Repr

-- ========================================================= encoding

def ClientHello.codec : Codec ClientHello :=
  .record
    (.field "version" .word8 <| .field "random" .bytes <| .field "cookie" (.optional .bytes) <|
      .field "public_key" .bytes <| .field "suites" (.list CipherSuite.codec) .nil)
    (fun m => (m.version, m.random, m.cookie, m.publicKey, m.suites, ()))
    (fun (version, random, cookie, publicKey, suites, _) =>
      ⟨version, random, cookie, publicKey, suites⟩)

def HelloVerifyRequest.codec : Codec HelloVerifyRequest :=
  .record (.field "cookie" .bytes .nil) (fun m => (m.cookie, ())) (fun (cookie, _) => ⟨cookie⟩)

instance : Payload ServerHelloBody where
  codec := .record
    (.field "version" .word8 <| .field "random" .bytes <| .field "public_key" .bytes <|
      .field "suite" CipherSuite.codec <| .field "certificates" (.list .bytes) .nil)
    (fun m => (m.version, m.random, m.publicKey, m.suite, m.certificates, ()))
    (fun (version, random, publicKey, suite, certificates, _) =>
      ⟨version, random, publicKey, suite, certificates⟩)

def ServerHello.codec : Codec ServerHello :=
  .record (.field "body" .bytes <| .field "signature" .bytes .nil)
    (fun m => (m.body, m.signature, ())) (fun (body, signature, _) => ⟨body, signature⟩)

namespace HandshakeMessage

/-- The names that tell the messages apart. -/
def names : List String := ["ClientHello", "HelloVerifyRequest", "ServerHello"]

instance : Payload HandshakeMessage where
  codec := {
    write
      | .clientHello hello => .mapOf [(.text "ClientHello", ClientHello.codec.write hello)]
      | .helloVerifyRequest request =>
          .mapOf [(.text "HelloVerifyRequest", HelloVerifyRequest.codec.write request)]
      | .serverHello hello => .mapOf [(.text "ServerHello", ServerHello.codec.write hello)]
    read item :=
      match Codec.carried? names item with
      | some (0, item) => (ClientHello.codec.read item).map .clientHello
      | some (1, item) => (HelloVerifyRequest.codec.read item).map .helloVerifyRequest
      | some (2, item) => (ServerHello.codec.read item).map .serverHello
      | _ => none
    absent := none }

/-- The longest handshake datagram that is taken in; more of it is cut off. -/
def maxDatagram : Nat := 8192

/-- The message in an arriving datagram, with the bytes that were read. -/
def ofDatagram? (datagram : Bytes) : Option (HandshakeMessage × Bytes) :=
  let raw := datagram.take maxDatagram
  (decode? raw).map (·, raw)

end HandshakeMessage

end Luminaire
