/-
What single calls do to a session, and runs of them.

Sending takes a number at most and receiving moves the window at most, so
a session keeps its keys, and stays open until it is closed (`run_snd`).
Over a path that is up a content that fits always leaves
(`sendRecord_of_up`), and what leaves opens to what was sent
(`openRecord_of_sendRecord`).

A run is a list of events in any order, sends, arrivals and changes of the
path, so that any send may be refused by the network. The trace of a run
has every event with what was reported for it.
-/
import Mathlib.Data.List.Basic
import Luminaire.Proofs.Record.Sealing

namespace Luminaire.Session

-- ============================================================= sending

/-- Sending takes a number at most. -/
theorem sendRecord_snd (session : Session) (content : ContentType) (plain : Bytes) :
    (session.sendRecord content plain).2 = session
      ∨ (session.sendRecord content plain).2
          = { session with nextSequence := session.nextSequence + 1 } := by
  unfold sendRecord
  split
  · exact .inl rfl
  · split
    · exact .inl rfl
    · right
      simp only
      split
      · rfl
      · split
        · rfl
        · rfl

/-- Sending leaves a session its keys. -/
theorem outgoing_sendRecord (session : Session) (content : ContentType)
    (plain : Bytes) :
    (session.sendRecord content plain).2.outgoing = session.outgoing := by
  rcases session.sendRecord_snd content plain with hsame | hnext
  · rw [hsame]
  · rw [hnext]

/-- A content that fits is sealed under the next number, and leaves if the network
takes its record. -/
theorem sendRecord_of_fits {session : Session} (hopen : session.closed = false)
    (content : ContentType) {plain : Bytes} (hfits : plain.length ≤ maxRecordContent) :
    ∃ record, session.outgoing.sealRecord content session.nextSequence plain = .ok record
      ∧ record.length ≤ Link.largestDatagram
      ∧ session.sendRecord content plain
        = (if session.link.takes record then .ok record else .error .io,
            { session with nextSequence := session.nextSequence + 1 }) := by
  obtain ⟨record, hsealed, hshort⟩ :=
    session.outgoing.exists_sealRecord content session.nextSequence hfits
  refine ⟨record, hsealed, hshort, ?_⟩
  unfold sendRecord
  simp only [hopen, Nat.not_lt.2 hfits, hsealed, Bool.false_eq_true, if_false]
  split
  · rfl
  · rfl

/-- A content that fits takes the next number, whether it leaves or not. -/
theorem sendRecord_snd_of_fits {session : Session} (hopen : session.closed = false)
    (content : ContentType) {plain : Bytes} (hfits : plain.length ≤ maxRecordContent) :
    (session.sendRecord content plain).2
      = { session with nextSequence := session.nextSequence + 1 } := by
  obtain ⟨_, -, -, hsend⟩ := sendRecord_of_fits hopen content hfits
  rw [hsend]

/-- A path that is up takes what fits one datagram. -/
theorem takes_of_up {session : Session} (hup : session.link = .up) {record : Bytes}
    (hshort : record.length ≤ Link.largestDatagram) : session.link.takes record = true := by
  rw [hup]
  exact decide_eq_true hshort

/-- Over a path that is up, a content that fits leaves. -/
theorem sendRecord_of_up {session : Session} (hopen : session.closed = false)
    (hup : session.link = .up) (content : ContentType) {plain : Bytes}
    (hfits : plain.length ≤ maxRecordContent) :
    ∃ record, session.sendRecord content plain
      = (.ok record, { session with nextSequence := session.nextSequence + 1 }) := by
  obtain ⟨record, -, hshort, hsend⟩ := sendRecord_of_fits hopen content hfits
  rw [takes_of_up hup hshort, if_pos rfl] at hsend
  exact ⟨record, hsend⟩

/-- A content that does not fit is refused, and takes no number. -/
theorem sendRecord_of_too_large {session : Session} (hopen : session.closed = false)
    (content : ContentType) {plain : Bytes} (hlarge : maxRecordContent < plain.length) :
    session.sendRecord content plain = (.error (.tooLarge plain.length), session) := by
  unfold sendRecord
  simp only [hopen, hlarge, Bool.false_eq_true, if_false, if_true]

/-- A record that left opens to the content it was sent for. -/
theorem openRecord_of_sendRecord {session : Session} {content : ContentType}
    {plain record : Bytes}
    (hsend : (session.sendRecord content plain).1 = .ok record) :
    session.outgoing.openRecord record = .ok (content, session.nextSequence, plain) := by
  unfold sendRecord at hsend
  split at hsend
  · cases hsend
  · split at hsend
    · cases hsend
    · simp only at hsend
      split at hsend
      · cases hsend
      next hsealed =>
        split at hsend
        · cases hsend
          exact Protection.openRecord_sealRecord hsealed
        · cases hsend

-- =========================================================== receiving

/-- An arrival changes the window and nothing else. -/
theorem receiveRecord_snd (session : Session) (arrival : Option Bytes) :
    ∃ window, (session.receiveRecord arrival).2 = { session with window := window } := by
  unfold receiveRecord
  split
  · exact ⟨session.window, rfl⟩
  · split
    · exact ⟨session.window, rfl⟩
    · split
      · exact ⟨session.window, rfl⟩
      · split
        · exact ⟨_, rfl⟩
        · exact ⟨session.window, rfl⟩

/-- What an application is told of an answer. -/
def surfaced : Except SessionError (Option (ContentType × Bytes)) →
    Except SessionError (Option Bytes)
  | .ok (some (.applicationData, plain)) => .ok (some plain)
  | .ok (some (.alert, _)) => .error .peerClosed
  | .ok (some (.handshake, _)) => .ok none
  | .ok none => .ok none
  | .error fault => .error fault

theorem receive_eq (session : Session) (arrival : Option Bytes) :
    session.receive arrival
      = (surfaced (session.receiveRecord arrival).1,
          (session.receiveRecord arrival).2) := by
  unfold receive
  split
  all_goals
    next hreceived =>
      rw [hreceived]
      rfl

-- ============================================================= traffic

/-- What happens to a session that is not closed. -/
inductive Event where
  | send (content : ContentType) (plain : Bytes)
  | arrive (datagram : Bytes)
  /-- The path to the peer comes up or goes down. -/
  | path (link : Link)
  deriving DecidableEq, Repr

/-- What a session reports for an event. -/
inductive Report where
  | sent (result : Except SessionError Bytes)
  | received (result : Except SessionError (Option (ContentType × Bytes)))
  | noted
  deriving DecidableEq

/-- One event. -/
def act (session : Session) : Event → Report × Session
  | .send content plain =>
      let (result, session) := session.sendRecord content plain
      (.sent result, session)
  | .arrive datagram =>
      let (result, session) := session.receiveRecord (some datagram)
      (.received result, session)
  | .path link => (.noted, { session with link := link })

theorem act_send (session : Session) (content : ContentType) (plain : Bytes) :
    session.act (.send content plain)
      = (.sent (session.sendRecord content plain).1,
          (session.sendRecord content plain).2) := rfl

theorem act_arrive (session : Session) (datagram : Bytes) :
    session.act (.arrive datagram)
      = (.received (session.receiveRecord (some datagram)).1,
          (session.receiveRecord (some datagram)).2) := rfl

/-- Events in order, each with its report, and the session after them. -/
def run (session : Session) : List Event → List (Event × Report) × Session
  | [] => ([], session)
  | event :: events =>
      let (report, session) := session.act event
      let (trace, session) := session.run events
      ((event, report) :: trace, session)

theorem run_cons (session : Session) (event : Event) (events : List Event) :
    session.run (event :: events)
      = ((event, (session.act event).1) :: ((session.act event).2.run events).1,
          ((session.act event).2.run events).2) := rfl

theorem run_append (session : Session) (earlier later : List Event) :
    session.run (earlier ++ later)
      = ((session.run earlier).1 ++ ((session.run earlier).2.run later).1,
          ((session.run earlier).2.run later).2) := by
  induction earlier generalizing session with
  | nil => rfl
  | cons event earlier ih =>
      rw [List.cons_append, run_cons, run_cons, ih]
      rfl

/-- An event changes the path, the window and the count of what was sent,
nothing else. -/
theorem act_snd (session : Session) (event : Event) :
    ∃ link window next, (session.act event).2
      = { session with link := link, window := window, nextSequence := next } := by
  cases event with
  | send content plain =>
      rw [act_send]
      rcases session.sendRecord_snd content plain with hsame | hnext
      · exact ⟨session.link, session.window, session.nextSequence, hsame⟩
      · exact ⟨session.link, session.window, session.nextSequence + 1, hnext⟩
  | arrive datagram =>
      obtain ⟨window, hwindow⟩ := session.receiveRecord_snd (some datagram)
      exact ⟨session.link, window, session.nextSequence, hwindow⟩
  | path link => exact ⟨link, session.window, session.nextSequence, rfl⟩

/-- What `act_snd` says of one event, of a whole run. -/
theorem run_snd (session : Session) (events : List Event) :
    ∃ link window next, (session.run events).2
      = { session with link := link, window := window, nextSequence := next } := by
  induction events generalizing session with
  | nil => exact ⟨session.link, session.window, session.nextSequence, rfl⟩
  | cons event events ih =>
      obtain ⟨link, window, next, hact⟩ := session.act_snd event
      obtain ⟨link', window', next', hrun⟩ := ih (session.act event).2
      refine ⟨link', window', next', ?_⟩
      rw [run_cons, hrun, hact]

end Luminaire.Session
