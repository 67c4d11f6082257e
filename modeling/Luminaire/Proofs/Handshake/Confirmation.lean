/-
How a wait for the closing code ends.

What does not open leaves a wait as it was (`take_of_ignores`), and the
peer's closing code, in the first record that opens, ends it
(`take_of_finished`). Either side has then sent one record and taken one,
so the two sessions are `Session.confirmed` under the same keys: whatever
leaves one of them opens at the other (`opens_after_handshake`), and over
a path that neither loses nor reorders anything all of it is heard in turn
(`heard_after_handshake`).
-/
import Luminaire.Handshake.Confirmation
import Luminaire.Proofs.Session.Delivery

namespace Luminaire

-- ================================================ confirmed sessions

namespace Session

/-- A session after the handshake: one record has left it, the closing code
of its side, and one was taken, that of the peer. -/
def confirmed (link : Link) (suite : CipherSuite) (role : Role) (keys : SessionKeys) : Session :=
  { establish link suite role keys with window := ReplayWindow.empty.mark 0, nextSequence := 1 }

variable {link peerLink : Link} {suite : CipherSuite} {role : Role} {keys : SessionKeys}
  {calls : List Event}

theorem accepting_confirmed : (confirmed link suite role keys).Accepting [0] :=
  ⟨rfl, ReplayWindow.tracks_empty.mark 0⟩

/-- Whatever leaves one side after the handshake opens at the other. -/
theorem opens_after_handshake {departure : Departure}
    (hleft : departure ∈ (confirmed link suite role keys).departures calls) :
    (confirmed peerLink suite role.peer keys).incoming.openRecord departure.record
      = .ok (departure.content, departure.number, departure.plain) := by
  have hkeys : (confirmed peerLink suite role.peer keys).incoming
      = (confirmed link suite role keys).outgoing :=
    incoming_establish_peer link peerLink suite role keys
  rw [hkeys]
  exact openRecord_of_departures hleft

/-- What has arrived makes no difference to what leaves. -/
theorem departures_window (session : Session) (window : ReplayWindow) (events : List Event) :
    departures { session with window } events = session.departures events := by
  induction events generalizing session window with
  | nil => rfl
  | cons event events ih =>
      cases event with
      | send content plain =>
          have hsend : ({ session with window } : Session).sendRecord content plain
              = ((session.sendRecord content plain).1,
                { (session.sendRecord content plain).2 with window }) := by
            unfold sendRecord
            simp only
            split
            · rfl
            · split
              · rfl
              · split
                · rfl
                · split
                  · rfl
                  · rfl
          rw [departures, departures, act_send, act_send, departure?, departure?, hsend, ih]
      | arrive datagram =>
          obtain ⟨window', hwindow'⟩ := receiveRecord_snd { session with window } (some datagram)
          obtain ⟨window'', hwindow''⟩ := session.receiveRecord_snd (some datagram)
          rw [departures, departures, act_arrive, act_arrive, hwindow', hwindow'']
          exact congrArg _ ((ih session window').trans (ih session window'').symm)
      | path link => exact ih { session with link } window

/-- An application is told what the receiver of record answers. -/
theorem receiveEach_of_accepting {session : Session} {accepted : List UInt64}
    (haccepting : session.Accepting accepted) (datagrams : List Bytes) :
    session.receiveEach datagrams
      = (judged session.incoming accepted datagrams).map fun answer => surfaced (.ok answer) := by
  rw [receiveEach_eq, answers_run haccepting, arrivals_arrive, List.map_map]
  rfl

/-- Over a path that neither loses nor reorders anything, what leaves one side
after the handshake is heard by the other in turn. -/
theorem heard_after_handshake (hfew : (fitting calls).length < 2 ^ 64) :
    (confirmed peerLink suite role.peer keys).receiveEach
        (((confirmed link suite role keys).departures calls).map Departure.record)
      = ((confirmed link suite role keys).departures calls).map Departure.outcome := by
  -- a handshake record stands in front of the calls; it is what the peer has taken
  have hopen : (establish .up suite role keys).closed = false := rfl
  obtain ⟨record, hsend⟩ := sendRecord_of_up hopen rfl .handshake
    (show ([] : Bytes).length ≤ maxRecordContent from Nat.zero_le _)
  have hdepartures : (establish .up suite role keys).departures
      (.send .handshake [] :: .path link :: calls)
      = ⟨.handshake, [], 0, record⟩ :: (confirmed link suite role keys).departures calls := by
    rw [departures, departure?, act_send, hsend]
    exact congrArg (List.cons _) (departures_window
      { establish link suite role keys with nextSequence := 1 } _ calls).symm
  have hheard := @receiveEach_departures .up peerLink suite role keys
    (.send .handshake [] :: .path link :: calls) hfew
  have hrecord : (establish peerLink suite role.peer keys).incoming.openRecord record
      = .ok (.handshake, 0, []) := by
    have hleft : (⟨.handshake, [], 0, record⟩ : Departure)
        ∈ (establish .up suite role keys).departures
          (.send .handshake [] :: .path link :: calls) := by
      rw [hdepartures]
      exact List.mem_cons_self
    exact opens_at_peer hleft
  rw [hdepartures, List.map_cons, List.map_cons,
    receiveEach_of_accepting (accepting_establish peerLink suite role.peer keys), judged,
    accept?, hrecord] at hheard
  rw [receiveEach_of_accepting accepting_confirmed]
  exact (List.cons.inj hheard).2

/-- A datagram that does not open under the keys of the session. -/
def Ignores (session : Session) (datagram : Bytes) : Prop :=
  ∀ opened, session.incoming.openRecord datagram ≠ .ok opened

end Session

-- ============================================================== waits

namespace Unconfirmed

variable {unconfirmed : Unconfirmed}

/-- What does not open leaves the wait as it was. -/
theorem take_of_ignores (hopen : unconfirmed.session.closed = false) {datagram : Bytes}
    (hignores : unconfirmed.session.Ignores datagram) :
    unconfirmed.take datagram = .waiting unconfirmed := by
  have hreceive : unconfirmed.session.receiveRecord (some datagram)
      = (.ok none, unconfirmed.session) := by
    unfold Session.receiveRecord
    simp only [hopen, Bool.false_eq_true, if_false]
    cases hrecord : unconfirmed.session.incoming.openRecord datagram with
    | error fault => rfl
    | ok opened => exact absurd hrecord (hignores opened)
  unfold take
  simp only [hreceive]

/-- The peer's closing code, under a number that is new, ends the wait. -/
theorem take_of_finished (hopen : unconfirmed.session.closed = false) {sequence : UInt64}
    (hfresh : unconfirmed.session.window.isFresh sequence = true) {record : Bytes}
    (hrecord : unconfirmed.session.incoming.openRecord record = .ok (.handshake, sequence,
      finishedCode unconfirmed.keys unconfirmed.role.peer unconfirmed.transcript)) :
    unconfirmed.take record
      = unconfirmed.conclude { unconfirmed.session with
        window := unconfirmed.session.window.mark sequence } := by
  have hverifies := (finishedVerifies_iff unconfirmed.keys unconfirmed.role.peer
    unconfirmed.transcript _).2 rfl
  unfold take Session.receiveRecord
  simp only [hopen, hrecord, hfresh, hverifies, Bool.false_eq_true, if_false, if_true]

/-- Over a path that is up the closing code leaves, in a record that opens to
it. -/
theorem exists_sendFinished (unconfirmed : Unconfirmed) {session : Session}
    (hopen : session.closed = false) (hup : session.link = .up) :
    ∃ record, unconfirmed.sendFinished session
        = (.ok record, { session with nextSequence := session.nextSequence + 1 })
      ∧ session.outgoing.openRecord record = .ok (.handshake, session.nextSequence,
        finishedCode unconfirmed.keys unconfirmed.role unconfirmed.transcript) := by
  have hfits : (finishedCode unconfirmed.keys unconfirmed.role unconfirmed.transcript).length
      ≤ maxRecordContent := by
    rw [finishedCode, length_hmac]
    decide
  obtain ⟨record, hsend⟩ := Session.sendRecord_of_up hopen hup .handshake hfits
  exact ⟨record, hsend, Session.openRecord_of_sendRecord (congrArg Prod.fst hsend)⟩

end Unconfirmed

end Luminaire
