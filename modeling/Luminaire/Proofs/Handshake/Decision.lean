/-
What decides a wait for the closing code.

A wait begins on a session that has taken nothing (`Fresh`). A datagram
that does not open leaves it as it was, and the first one that opens, the
first genuine record, is judged: the peer's closing code ends the wait
well, anything else ends it badly (`take_of_genuine`). So of all that is
delivered while a side waits, one record counts (`takeAll_eq`), and
whoever can make no record that opens can only make the wait run out.
-/
import Luminaire.Proofs.Handshake.Confirmation

namespace Luminaire

/-- Type, number and content of the first datagram that opens. -/
def Protection.firstGenuine (incoming : Protection) (datagrams : List Bytes) :
    Option (ContentType × UInt64 × Bytes) :=
  datagrams.findSome? fun datagram => (incoming.openRecord datagram).toOption

namespace Protection

variable {incoming : Protection} {datagram : Bytes}

theorem firstGenuine_of_error {fault : CryptoError}
    (hrecord : incoming.openRecord datagram = .error fault) (datagrams : List Bytes) :
    incoming.firstGenuine (datagram :: datagrams) = incoming.firstGenuine datagrams := by
  unfold firstGenuine
  rw [List.findSome?_cons, hrecord]
  rfl

theorem firstGenuine_of_ok {opened : ContentType × UInt64 × Bytes}
    (hrecord : incoming.openRecord datagram = .ok opened) (datagrams : List Bytes) :
    incoming.firstGenuine (datagram :: datagrams) = some opened := by
  unfold firstGenuine
  rw [List.findSome?_cons, hrecord]
  rfl

end Protection

namespace Unconfirmed

variable {unconfirmed : Unconfirmed} {content : ContentType} {sequence : UInt64} {plain : Bytes}

/-- The session that is waited on is open and has taken nothing yet. -/
structure Fresh (unconfirmed : Unconfirmed) : Prop where
  isOpen : unconfirmed.session.closed = false
  window : unconfirmed.session.window = .empty

/-- The closing code that is waited for. -/
def code (unconfirmed : Unconfirmed) : Bytes :=
  finishedCode unconfirmed.keys unconfirmed.role.peer unconfirmed.transcript

/-- The first genuine record is the one that is waited for. -/
def Closes (unconfirmed : Unconfirmed) (content : ContentType) (plain : Bytes) : Prop :=
  content = .handshake ∧ plain = unconfirmed.code

/-- What a wait makes of the first genuine record. -/
def judge (unconfirmed : Unconfirmed) (content : ContentType) (sequence : UInt64)
    (plain : Bytes) : Verdict :=
  match content with
  | .handshake =>
      if plain = unconfirmed.code then
        unconfirmed.conclude { unconfirmed.session with
          window := unconfirmed.session.window.mark sequence }
      else .failed (.authentication (.finished unconfirmed.role.peer))
  | .alert => .failed (.protocol (.abortedBefore unconfirmed.awaited))
  | .applicationData => .failed (.protocol (.dataBefore unconfirmed.awaited))

-- =========================================================== one datagram

/-- A datagram that opens is judged, whatever its number. -/
theorem take_of_genuine (hfresh : unconfirmed.Fresh) {datagram : Bytes}
    (hrecord : unconfirmed.session.incoming.openRecord datagram
      = .ok (content, sequence, plain)) :
    unconfirmed.take datagram = unconfirmed.judge content sequence plain := by
  have hnew : unconfirmed.session.window.isFresh sequence = true := by
    rw [hfresh.window]
    rfl
  have hreceive : unconfirmed.session.receiveRecord (some datagram)
      = (.ok (some (content, plain)), { unconfirmed.session with
        window := unconfirmed.session.window.mark sequence }) := by
    unfold Session.receiveRecord
    simp only [hfresh.isOpen, hrecord, hnew, Bool.false_eq_true, if_false, if_true]
  unfold take judge
  rw [hreceive]
  cases content with
  | alert => rfl
  | applicationData => rfl
  | handshake =>
      simp only [finishedVerifies_iff]
      rfl

/-- A session comes out only behind the code that is waited for. -/
theorem closes_of_judge {session : Session} {sent : Option Bytes}
    (hjudge : unconfirmed.judge content sequence plain = .established session sent) :
    unconfirmed.Closes content plain
      ∧ unconfirmed.conclude { unconfirmed.session with
          window := unconfirmed.session.window.mark sequence } = .established session sent := by
  unfold judge at hjudge
  split at hjudge
  · split at hjudge
    next hcode => exact ⟨⟨rfl, hcode⟩, hjudge⟩
    · cases hjudge
  · cases hjudge
  · cases hjudge

/-- Any other record is an error. -/
theorem failed_of_judge (hother : ¬ unconfirmed.Closes content plain) :
    ∃ error, unconfirmed.judge content sequence plain = .failed error := by
  unfold judge
  split
  · split
    next hcode => exact absurd ⟨rfl, hcode⟩ hother
    · exact ⟨_, rfl⟩
  · exact ⟨_, rfl⟩
  · exact ⟨_, rfl⟩

/-- The right code is either the end of the wait or, where this side's own code
cannot leave, its failure. -/
theorem conclude_cases (unconfirmed : Unconfirmed) (session : Session) :
    (∃ after sent, unconfirmed.conclude session = .established after sent)
      ∨ ∃ error, unconfirmed.conclude session = .failed error := by
  unfold conclude
  split
  · exact .inl ⟨_, _, rfl⟩
  · split
    · exact .inl ⟨_, _, rfl⟩
    · exact .inr ⟨_, rfl⟩

/-- Nothing is waited for once a record has been judged. -/
theorem judge_cases (unconfirmed : Unconfirmed) (content : ContentType) (sequence : UInt64)
    (plain : Bytes) :
    (∃ session sent, unconfirmed.judge content sequence plain = .established session sent)
      ∨ ∃ error, unconfirmed.judge content sequence plain = .failed error := by
  by_cases hcloses : unconfirmed.Closes content plain
  · obtain ⟨rfl, hcode⟩ := hcloses
    unfold judge
    simp only [hcode, if_true]
    exact unconfirmed.conclude_cases _
  · exact .inr (failed_of_judge hcloses)

/-- A side's own code takes a number, whether it leaves or not. -/
theorem sendFinished_snd (unconfirmed : Unconfirmed) {session : Session}
    (hopen : session.closed = false) :
    (unconfirmed.sendFinished session).2
      = { session with nextSequence := session.nextSequence + 1 } := by
  refine Session.sendRecord_snd_of_fits hopen .handshake ?_
  rw [finishedCode, length_hmac]
  decide

/-- The controller's own code leaves with the session, and not otherwise. -/
theorem sent_of_conclude (hserver : unconfirmed.role = .server) {before session : Session}
    {sent : Option Bytes} (hconclude : unconfirmed.conclude before = .established session sent) :
    ∃ record, sent = some record
      ∧ before.outgoing.openRecord record = .ok (.handshake, before.nextSequence,
        finishedCode unconfirmed.keys .server unconfirmed.transcript) := by
  unfold conclude at hconclude
  rw [hserver] at hconclude
  simp only at hconclude
  split at hconclude
  next record after hsent =>
    cases hconclude
    refine ⟨record, rfl, ?_⟩
    unfold sendFinished at hsent
    rw [hserver] at hsent
    exact Session.openRecord_of_sendRecord (congrArg Prod.fst hsent)
  · cases hconclude

-- ======================================================== all datagrams

/-- Of all that is delivered, the first genuine record decides. -/
theorem takeAll_eq (hfresh : unconfirmed.Fresh) (datagrams : List Bytes) :
    unconfirmed.takeAll datagrams
      = match unconfirmed.session.incoming.firstGenuine datagrams with
        | none => .failed unconfirmed.expire
        | some (content, sequence, plain) => unconfirmed.judge content sequence plain := by
  induction datagrams with
  | nil => rfl
  | cons datagram datagrams ih =>
      cases hrecord : unconfirmed.session.incoming.openRecord datagram with
      | error fault =>
          have hignores : unconfirmed.session.Ignores datagram := by
            intro opened hopened
            rw [hrecord] at hopened
            cases hopened
          rw [Protection.firstGenuine_of_error hrecord, takeAll,
            take_of_ignores hfresh.isOpen hignores]
          exact ih
      | ok opened =>
          obtain ⟨content, sequence, plain⟩ := opened
          rw [Protection.firstGenuine_of_ok hrecord, takeAll, take_of_genuine hfresh hrecord]
          rcases unconfirmed.judge_cases content sequence plain with
            ⟨session, sent, hjudge⟩ | ⟨error, hjudge⟩
          · simp only [hjudge]
          · simp only [hjudge]

/-- Without the closing code in front there is no session. -/
theorem closes_of_takeAll (hfresh : unconfirmed.Fresh) {datagrams : List Bytes}
    {session : Session} {sent : Option Bytes}
    (htaken : unconfirmed.takeAll datagrams = .established session sent) :
    ∃ sequence, unconfirmed.session.incoming.firstGenuine datagrams
          = some (.handshake, sequence, unconfirmed.code)
      ∧ unconfirmed.conclude { unconfirmed.session with
          window := unconfirmed.session.window.mark sequence } = .established session sent := by
  rw [takeAll_eq hfresh] at htaken
  split at htaken
  · cases htaken
  next content sequence plain hfirst =>
    obtain ⟨⟨rfl, rfl⟩, hconclude⟩ := closes_of_judge htaken
    exact ⟨sequence, hfirst, hconclude⟩

/-- With anything else in front the wait ends in an error. -/
theorem failed_of_takeAll (hfresh : unconfirmed.Fresh) {datagrams : List Bytes}
    (hfirst : unconfirmed.session.incoming.firstGenuine datagrams
      = some (content, sequence, plain))
    (hother : ¬ unconfirmed.Closes content plain) :
    ∃ error, unconfirmed.takeAll datagrams = .failed error := by
  rw [takeAll_eq hfresh, hfirst]
  exact failed_of_judge hother

end Unconfirmed

end Luminaire
