/-
Handshakes with one side played from a script.

The scripted side knows every key, so its closing messages can be wrong in
each of the ways a peer can be wrong (`FinishedForm`). What the other side
does with them is left to it: a node is driven by what arrives and by
waits that run out when nothing does.
-/
import Luminaire.Handshake.Client
import Luminaire.Handshake.Server

namespace Luminaire.Rehearsal

-- ========================================================== closing

/-- Ways to close a handshake. -/
inductive FinishedForm where
  | good
  /-- Good, but numbered zero. -/
  | zeroSequence
  | badCode
  | shortCode
  | empty
  /-- The code under the other side's label. -/
  | wrongLabel
  /-- Sealed with the keys of the other direction. -/
  | wrongDirection
  /-- The code under the other direction's key. -/
  | otherKey
  | applicationData
  | alert
  | garbage
  /-- The code without protection. -/
  | plain
  deriving DecidableEq, Repr

/-- What a scripted side knows once the hellos have been exchanged. -/
structure Agreement where
  suite : CipherSuite
  keys : SessionKeys
  transcript : Bytes
  deriving DecidableEq, Repr

namespace Agreement

/-- What is agreed between a hello and the answer to it, as the side with
this secret and the peer's share sees it. -/
def reach (secret peerShare : Bytes) (hello : ClientHello) (raw body serverRandom : Bytes)
    (suite : CipherSuite) : Agreement where
  suite := suite
  keys := .derive (X25519.exchange secret peerShare) hello.random serverRandom suite.name
  transcript := transcriptHash raw body

/-- A closing message of one side, as the datagram with this number. -/
def finished (agreement : Agreement) (sender : Role) (form : FinishedForm) (number : Nat) : Bytes :=
  let own := agreement.keys.outgoing sender
  let other := agreement.keys.incoming sender
  let code := finishedCode agreement.keys sender agreement.transcript
  let sealed (keys : DirectionKeys) (content : ContentType) (sequence : Nat) (plain : Bytes) :
      Bytes :=
    match (Protection.mk agreement.suite keys).sealRecord content sequence.toUInt64 plain with
    | .ok record => record
    | .error _ => []
  match form with
  | .good => sealed own .handshake number code
  | .zeroSequence => sealed own .handshake 0 code
  | .badCode => sealed own .handshake number (code.modify (code.length - 1) (· ^^^ 1))
  | .shortCode => sealed own .handshake number (code.take 16)
  | .empty => sealed own .handshake number []
  | .wrongLabel =>
      sealed own .handshake number
        (hmac own.finished (finishedLabel sender.peer ++ agreement.transcript))
  | .wrongDirection => sealed other .handshake number code
  | .otherKey =>
      sealed own .handshake number
        (hmac other.finished (finishedLabel sender ++ agreement.transcript))
  | .applicationData => sealed own .applicationData number code
  | .alert => sealed own .alert number code
  | .garbage => [0x16, 0x00, 0x01, 0x02, 0x03]
  | .plain => code

/-- Closing messages in order. -/
def finishedAll (agreement : Agreement) (sender : Role) (forms : List FinishedForm) : List Bytes :=
  forms.zipIdx.map fun (form, number) => agreement.finished sender form number

/-- What is found in a closing record of one side: its content type, its
number and whether its code is right. -/
def inspect? (agreement : Agreement) (sender : Role) (record : Bytes) :
    Option (ContentType × UInt64 × Bool) :=
  match (Protection.mk agreement.suite (agreement.keys.outgoing sender)).openRecord record with
  | .ok (content, sequence, code) =>
      some (content, sequence,
        finishedVerifies agreement.keys sender agreement.transcript code)
  | .error _ => none

end Agreement

-- ======================================================= controller

/-- A node's part in a handshake with a controller. -/
structure NodePart where
  hello : ClientHello
  /-- The hello as it is said to have arrived. -/
  raw : Bytes
  secret : Bytes
  finished : List FinishedForm

/-- What a controller did in a handshake. -/
structure ControllerRun where
  /-- The server hello, if it left. -/
  sent : Option Bytes
  /-- What the node makes of it. -/
  agreement : Option (ServerHello × ServerHelloBody × Agreement)
  verdict : Except HandshakeError Session
  /-- The controller's closing record. -/
  closing : Option Bytes
  entropy : Entropy

/-- What a node with a hello and a secret makes of a server hello. -/
def NodePart.read (part : NodePart) (datagram : Bytes) :
    Option (ServerHello × ServerHelloBody × Agreement) := do
  match ← HandshakeMessage.ofDatagram? datagram with
  | (.serverHello hello, _) =>
      let body ← Cbor.decode? (α := ServerHelloBody) hello.body
      some (hello, body,
        .reach part.secret body.publicKey part.hello part.raw hello.body body.random body.suite)
  | _ => none

/-- A controller answers a scripted node; nothing comes of it if it breaks
down. -/
def controllerRun (server : ServerHandshake) (link : Link) (part : NodePart) (entropy : Entropy) :
    Option ControllerRun :=
  let answer := server.answer link part.hello part.raw entropy
  let agreement := answer.sent.bind part.read
  match answer.progress with
  | .crashed => none
  | .failed fault => some ⟨answer.sent, agreement, .error fault, none, answer.entropy⟩
  | .awaiting unconfirmed =>
      let datagrams := match agreement with
        | some (_, _, agreement) => agreement.finishedAll .client part.finished
        | none => []
      match unconfirmed.takeAll datagrams with
      | .established session sent =>
          some ⟨answer.sent, agreement, .ok session, sent, answer.entropy⟩
      | .failed fault => some ⟨answer.sent, agreement, .error fault, none, answer.entropy⟩
      | .waiting unconfirmed =>
          some ⟨answer.sent, agreement, .error unconfirmed.expire, none, answer.entropy⟩

-- ============================================================= node

/-- How a scripted controller signs its hello. -/
inductive Signing where
  | honest
  /-- One bit is wrong. -/
  | flipped
  /-- Cut to forty bytes. -/
  | short
  | unsigned
  deriving DecidableEq, Repr

/-- A server hello that is to be sent. -/
structure HelloPart where
  random : Bytes
  secret : Bytes
  suite : CipherSuite
  version : UInt8
  certificates : List Bytes
  /-- The share to show; its own unless given. -/
  publicKey : Option Bytes
  /-- The body to send in place of the right one. -/
  body : Option Bytes
  signing : Signing
  deriving DecidableEq, Repr

/-- What a scripted controller sends for a hello. -/
inductive Reply where
  | verify (cookie : Bytes) (elsewhere : Bool)
  /-- Returns the hello. -/
  | echo
  | raw (datagram : Bytes)
  | hello (part : HelloPart)
  deriving DecidableEq, Repr

/-- Where a scripted controller listens, and the other ports it sends from. -/
def controllerAddress : SocketAddress := ⟨.loopback, 7250⟩

def clientPathAddress : SocketAddress := ⟨.loopback, 40001⟩

def otherAddress : SocketAddress := ⟨.loopback, 40002⟩

/-- The bytes of the body of a server hello. -/
def HelloPart.bodyBytes (part : HelloPart) : Bytes :=
  part.body.getD (Cbor.encode (ServerHelloBody.mk part.version part.random
    (part.publicKey.getD (X25519.share part.secret)) part.suite part.certificates))

/-- The signature under a server hello. -/
def HelloPart.signature (part : HelloPart) (identity : Identity) (transcript : Bytes) : Bytes :=
  match part.signing with
  | .honest => identity.sign transcript
  | .flipped => (identity.sign transcript).modify 5 (· ^^^ 4)
  | .short => (identity.sign transcript).take 40
  | .unsigned => []

/-- A scripted controller and a node that connects to it. -/
structure NodeRun where
  identity : Identity
  node : Connecting
  /-- Replies to the hellos to come. -/
  rounds : List (List Reply)
  /-- Closing messages, sent once the node has sent its own. -/
  finished : List FinishedForm
  /-- Datagrams on their way to the node. -/
  arrivals : List (SocketAddress × Bytes)
  /-- The node's hellos, oldest first. -/
  hellos : List Bytes
  /-- What the controller agreed to with its latest hello. -/
  agreement : Option Agreement
  /-- The node's closing record. -/
  closing : Option Bytes

namespace NodeRun

/-- The controller sends one reply to a hello. -/
def reply (run : NodeRun) (raw : Bytes) (hello : ClientHello) (reply : Reply) : NodeRun :=
  let send (run : NodeRun) (address : SocketAddress) (datagram : Bytes) : NodeRun :=
    { run with arrivals := run.arrivals ++ [(address, datagram)] }
  match reply with
  | .verify cookie elsewhere =>
      send run (if elsewhere then otherAddress else controllerAddress)
        (Cbor.encode (HandshakeMessage.helloVerifyRequest ⟨cookie⟩))
  | .echo => send run controllerAddress raw
  | .raw datagram => send run controllerAddress datagram
  | .hello part =>
      let body := part.bodyBytes
      let agreement := Agreement.reach part.secret hello.publicKey hello raw body part.random
        part.suite
      let datagram := Cbor.encode (HandshakeMessage.serverHello
        ⟨body, part.signature run.identity agreement.transcript⟩)
      send { run with
        agreement := some agreement
        rounds := if hello.cookie.isSome then [] else run.rounds } clientPathAddress datagram

/-- The controller takes in what the node sent: a hello uses up a round,
and the closing record is answered with the closing messages. -/
def sent (run : NodeRun) (datagram : Bytes) : NodeRun :=
  match HandshakeMessage.ofDatagram? datagram with
  | some (.clientHello hello, _) =>
      let run := { run with hellos := run.hellos ++ [datagram] }
      match run.rounds with
      | [] => run
      | replies :: rounds =>
          replies.foldl (fun run => run.reply datagram hello) { run with rounds }
  | _ =>
      { run with
        closing := some datagram
        arrivals := run.arrivals ++ match run.agreement with
          | none => []
          | some agreement =>
              (agreement.finishedAll .server run.finished).map (clientPathAddress, ·) }

/-- The node does what it does, and the controller answers. -/
def next (run : NodeRun) (turn : Connecting × Option Bytes) : NodeRun :=
  let run := { run with node := turn.1 }
  match turn.2 with
  | none => run
  | some datagram => run.sent datagram

/-- The next arrival is taken in, or a wait runs out. -/
def step (run : NodeRun) : NodeRun :=
  match run.arrivals with
  | (address, datagram) :: arrivals =>
      { run with arrivals }.next (run.node.arrive address datagram)
  | [] => run.next run.node.expire

/-- Steps until the node is done, at most `limit` of them. -/
def run : (limit : Nat) → NodeRun → NodeRun
  | 0, run => run
  | limit + 1, now => if now.node.isOver then now else run limit now.step

/-- A node connects to a scripted controller. Every step takes in one of
the scripted datagrams or lets one of the waits run out. -/
def connect (identity : Identity) (terms : ConnectTerms) (rounds : List (List Reply))
    (finished : List FinishedForm) (link : Link) (entropy : Entropy) : NodeRun × Entropy :=
  let (turn, entropy) := Connecting.start terms link entropy
  let start : NodeRun := ⟨identity, turn.1, rounds, finished, [], [], none, none⟩
  let limit := rounds.flatten.length + finished.length + terms.retries + 2
  (run limit (start.next turn), entropy)

end NodeRun

end Luminaire.Rehearsal
