/-
Established sessions.

A session seals what its side sends under consecutive sequence numbers
and opens what arrives, each record at most once. A datagram that does
not open, or whose number is not fresh, is dropped without a trace.
Closing sends one notice, and nothing after it.
-/
import Luminaire.Net.Link
import Luminaire.Record.Protection
import Luminaire.Record.Window

namespace Luminaire

/-- The longest content whose record still fits one datagram. -/
def maxRecordContent : Nat := Link.largestDatagram - recordHeaderLength - Aead.tagLength

inductive SessionError where
  /-- The network refused the datagram. -/
  | io
  | closed
  | peerClosed
  | tooLarge (length : Nat)
  | crypto (fault : CryptoError)
  deriving DecidableEq, Repr

/-- The error's wording, where it has a fixed one. -/
def SessionError.message? : SessionError → Option String
  | .io => none
  | .closed => some "session closed"
  | .peerClosed => some "peer closed the session"
  | .tooLarge length => some s!"record of {length} bytes exceeds the datagram limit"
  | .crypto fault => fault.message?

structure Session where
  link : Link
  outgoing : Protection
  incoming : Protection
  window : ReplayWindow
  nextSequence : UInt64
  closed : Bool
  deriving DecidableEq, Repr

namespace Session

/-- One side's session under freshly agreed keys. -/
def establish (link : Link) (suite : CipherSuite) (role : Role) (keys : SessionKeys) : Session where
  link := link
  outgoing := ⟨suite, keys.outgoing role⟩
  incoming := ⟨suite, keys.incoming role⟩
  window := .empty
  nextSequence := 0
  closed := false

def suite (session : Session) : CipherSuite := session.outgoing.suite

-- ========================================================= sending

/-- Seals a content; the record is what leaves. A refused call takes no
sequence number, a record the network refuses does. -/
def sendRecord (session : Session) (content : ContentType) (plain : Bytes) :
    Except SessionError Bytes × Session :=
  if session.closed then (.error .closed, session)
  else if maxRecordContent < plain.length then (.error (.tooLarge plain.length), session)
  else
    let next := { session with nextSequence := session.nextSequence + 1 }
    match session.outgoing.sealRecord content session.nextSequence plain with
    | .error fault => (.error (.crypto fault), next)
    | .ok record => if session.link.takes record then (.ok record, next) else (.error .io, next)

/-- Sends application data. -/
def send (session : Session) (plain : Bytes) : Except SessionError Bytes × Session :=
  session.sendRecord .applicationData plain

/-- What the closing notice holds. -/
def closeNotice : Bytes := [0]

/-- Closes the session. The notice leaves, if it can, the first time. -/
def close (session : Session) : Option Bytes × Session :=
  if session.closed then (none, session)
  else
    let (sent, session) := session.sendRecord .alert closeNotice
    (sent.toOption, { session with closed := true })

-- ======================================================= receiving

/-- Takes in one datagram, or the news that none came. Nothing is returned
for a datagram that was dropped. -/
def receiveRecord (session : Session) (arrival : Option Bytes) :
    Except SessionError (Option (ContentType × Bytes)) × Session :=
  if session.closed then (.error .closed, session)
  else
    match arrival with
    | none => (.ok none, session)
    | some datagram =>
        match session.incoming.openRecord datagram with
        | .error _ => (.ok none, session)
        | .ok (content, sequence, plain) =>
            if session.window.isFresh sequence then
              (.ok (some (content, plain)), { session with window := session.window.mark sequence })
            else (.ok none, session)

/-- Takes in one datagram for its application data. An alert says that the
peer closed the session; stray handshake records are passed over. -/
def receive (session : Session) (arrival : Option Bytes) :
    Except SessionError (Option Bytes) × Session :=
  match session.receiveRecord arrival with
  | (.ok (some (.applicationData, plain)), session) => (.ok (some plain), session)
  | (.ok (some (.alert, _)), session) => (.error .peerClosed, session)
  | (.ok (some (.handshake, _)), session) => (.ok none, session)
  | (.ok none, session) => (.ok none, session)
  | (.error fault, session) => (.error fault, session)

end Session

end Luminaire
