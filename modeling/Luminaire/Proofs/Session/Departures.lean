/-
What leaves a session.

Every content that fits takes a number, whether the network takes its
record or not, so the numbers of the departures are some of those of the
contents that fit, in order (`numbered_sublist`): up to 2^64 of them they
increase. The peer opens with the keys a record was sealed with, so each
departure opens there to its own content under its own number
(`opens_at_peer`). While the path stays up everything leaves that fits
(`messages_of_up`), and the closing notice is a departure like any other
(`departures_closing`).
-/
import Mathlib.Algebra.Group.Nat.Defs
import Mathlib.Data.List.Basic
import Luminaire.Proofs.Session.Traffic

namespace Luminaire.Session

/-- A content that left, with its number and the record it left in. -/
structure Departure where
  content : ContentType
  plain : Bytes
  number : UInt64
  record : Bytes
  deriving DecidableEq, Repr

/-- What the peer is to be told of a departure. -/
def Departure.message (departure : Departure) : ContentType × Bytes :=
  (departure.content, departure.plain)

/-- What leaves at an event. -/
def departure? (session : Session) : Event → Option Departure
  | .send content plain =>
      match (session.sendRecord content plain).1 with
      | .ok record => some ⟨content, plain, session.nextSequence, record⟩
      | .error _ => none
  | .arrive _ => none
  | .path _ => none

/-- What leaves during a run, in order. -/
def departures (session : Session) : List Event → List Departure
  | [] => []
  | event :: events =>
      (session.departure? event).toList ++ (session.act event).2.departures events

theorem departures_append (session : Session) (earlier later : List Event) :
    session.departures (earlier ++ later)
      = session.departures earlier ++ (session.run earlier).2.departures later := by
  induction earlier generalizing session with
  | nil => rfl
  | cons event earlier ih =>
      rw [List.cons_append, departures, ih, departures, List.append_assoc]
      rfl

-- ============================================================== records

theorem openRecord_of_departure? {session : Session} {event : Event}
    {departure : Departure} (hleft : session.departure? event = some departure) :
    session.outgoing.openRecord departure.record
      = .ok (departure.content, departure.number, departure.plain) := by
  unfold departure? at hleft
  split at hleft
  · split at hleft
    next hsend =>
      cases hleft
      exact openRecord_of_sendRecord hsend
    · cases hleft
  · cases hleft
  · cases hleft

/-- A departure opens to its own content under its own number. -/
theorem openRecord_of_departures {session : Session} {events : List Event}
    {departure : Departure} (hleft : departure ∈ session.departures events) :
    session.outgoing.openRecord departure.record
      = .ok (departure.content, departure.number, departure.plain) := by
  induction events generalizing session with
  | nil => cases hleft
  | cons event events ih =>
      rcases List.mem_append.1 hleft with hnow | hlater
      · exact openRecord_of_departure? (Option.mem_toList.1 hnow)
      · obtain ⟨link, window, next, hact⟩ := session.act_snd event
        have hopens := ih hlater
        rw [hact] at hopens
        exact hopens

/-- A side opens with what its peer seals with. -/
theorem incoming_establish_peer (link peerLink : Link) (suite : CipherSuite) (role : Role)
    (keys : SessionKeys) :
    (establish peerLink suite role.peer keys).incoming
      = (establish link suite role keys).outgoing := by
  cases role with
  | client => rfl
  | server => rfl

/-- The keys of the peer open what left. -/
theorem opens_at_peer {link peerLink : Link} {suite : CipherSuite} {role : Role}
    {keys : SessionKeys} {events : List Event} {departure : Departure}
    (hleft : departure ∈ (establish link suite role keys).departures events) :
    (establish peerLink suite role.peer keys).incoming.openRecord departure.record
      = .ok (departure.content, departure.number, departure.plain) := by
  rw [incoming_establish_peer link]
  exact openRecord_of_departures hleft

-- ============================================================== numbers

/-- The contents that a run sends, of those that fit. -/
def fitting (events : List Event) : List (ContentType × Bytes) :=
  events.filterMap fun
    | .send content plain =>
        if plain.length ≤ maxRecordContent then some (content, plain) else none
    | .arrive _ => none
    | .path _ => none

/-- The departures are some of the contents that fit, in order, and the
contents that fit are numbered without gaps. -/
theorem numbered_sublist {session : Session} (hopen : session.closed = false)
    {start : Nat} (hstart : session.nextSequence = start.toUInt64)
    (events : List Event) :
    ((session.departures events).map fun departure =>
        (departure.message, departure.number)).Sublist
      (((fitting events).zipIdx start).map (Prod.map id Nat.toUInt64)) := by
  induction events generalizing session start with
  | nil => exact List.Sublist.slnil
  | cons event events ih =>
      cases event with
      | arrive datagram =>
          obtain ⟨window, hwindow⟩ := session.receiveRecord_snd (some datagram)
          rw [departures, act_arrive, hwindow]
          exact @ih { session with window := window } hopen start hstart
      | path link => exact @ih { session with link := link } hopen start hstart
      | send content plain =>
          rw [departures, act_send, departure?, fitting, List.filterMap_cons]
          rcases Nat.lt_or_ge maxRecordContent plain.length with hlarge | hfits
          · rw [sendRecord_of_too_large hopen content hlarge]
            simp only [Nat.not_le.2 hlarge, if_false]
            exact ih hopen hstart
          · have hrest := @ih
              { session with nextSequence := session.nextSequence + 1 } hopen (start + 1)
              (by rw [hstart]; exact (UInt64.ofNat_add start 1).symm)
            have hfirst : Prod.map id Nat.toUInt64 ((content, plain), start)
                = ((content, plain), session.nextSequence) := by
              rw [hstart]
              rfl
            rw [sendRecord_snd_of_fits hopen content hfits]
            simp only [hfits, if_true, List.zipIdx_cons, List.map_cons, hfirst]
            cases (session.sendRecord content plain).1 with
            | error fault => exact hrest.cons _
            | ok record => exact hrest.cons_cons _

/-- Only what fits leaves, in the order in which it was sent. -/
theorem messages_sublist {session : Session} (hopen : session.closed = false)
    {start : Nat} (hstart : session.nextSequence = start.toUInt64)
    (events : List Event) :
    ((session.departures events).map Departure.message).Sublist (fitting events) := by
  have hmap := (numbered_sublist hopen hstart events).map Prod.fst
  rw [List.map_map, List.map_map] at hmap
  have hfst : ((fitting events).zipIdx start).map
      (Prod.fst ∘ Prod.map id Nat.toUInt64) = fitting events :=
    List.zipIdx_map_fst start (fitting events)
  rw [hfst] at hmap
  exact hmap

/-- A number below 2^64 is its own sequence number. -/
theorem toNat_toUInt64 {i : Nat} (hi : i < 2 ^ 64) : i.toUInt64.toNat = i :=
  UInt64.toNat_ofNat_of_lt' hi

/-- Up to 2^64 of them the numbers of the departures increase. -/
theorem numbers_increase {link : Link} {suite : CipherSuite} {role : Role}
    {keys : SessionKeys} {events : List Event}
    (hfew : (fitting events).length ≤ 2 ^ 64) :
    ((establish link suite role keys).departures events).Pairwise
      (·.number < ·.number) := by
  have hmap := (@numbered_sublist (establish link suite role keys) rfl 0 rfl
    events).map Prod.snd
  rw [List.map_map, List.map_map] at hmap
  have hsnd : ((fitting events).zipIdx 0).map (Prod.snd ∘ Prod.map id Nat.toUInt64)
      = (List.range (fitting events).length).map Nat.toUInt64 := by
    rw [List.range_eq_range', ← List.zipIdx_map_snd 0 (fitting events), List.map_map]
    rfl
  rw [hsnd] at hmap
  have hrange : ((List.range (fitting events).length).map Nat.toUInt64).Pairwise
      (· < ·) := by
    rw [List.pairwise_map]
    refine List.pairwise_lt_range.imp_of_mem ?_
    intro i j hi hj hlt
    rw [List.mem_range] at hi hj
    rw [UInt64.lt_iff_toNat_lt, toNat_toUInt64 (by omega), toNat_toUInt64 (by omega)]
    exact hlt
  exact List.pairwise_map.1 (hrange.sublist hmap)

-- =================================================== while the path is up

/-- While the path stays up everything leaves that fits. -/
theorem messages_of_up {session : Session} (hopen : session.closed = false)
    (hup : session.link = .up) {events : List Event} (hstays : .path .down ∉ events) :
    (session.departures events).map Departure.message = fitting events := by
  induction events generalizing session with
  | nil => rfl
  | cons event events ih =>
      have hlater : Event.path .down ∉ events :=
        fun hmem => hstays (List.mem_cons_of_mem _ hmem)
      cases event with
      | arrive datagram =>
          obtain ⟨window, hwindow⟩ := session.receiveRecord_snd (some datagram)
          rw [departures, act_arrive, hwindow]
          exact @ih { session with window := window } hopen hup hlater
      | path link =>
          cases link with
          | up => exact @ih { session with link := .up } hopen rfl hlater
          | down => exact absurd List.mem_cons_self hstays
      | send content plain =>
          rw [departures, act_send, departure?, fitting, List.filterMap_cons]
          rcases Nat.lt_or_ge maxRecordContent plain.length with hlarge | hfits
          · rw [sendRecord_of_too_large hopen content hlarge]
            simp only [Nat.not_le.2 hlarge, if_false]
            exact ih hopen hup hlater
          · obtain ⟨record, hsend⟩ := sendRecord_of_up hopen hup content hfits
            rw [hsend]
            simp only [hfits, if_true]
            exact congrArg (List.cons (content, plain))
              (@ih { session with nextSequence := session.nextSequence + 1 } hopen hup
                hlater)

/-- The closing notice leaves like any other content. -/
theorem departures_closing {session : Session} (hopen : session.closed = false)
    {calls : List Event} (hup : (session.run calls).2.link = .up) :
    ∃ last, (session.run calls).2.close.1 = some last.record ∧ last.content = .alert
      ∧ session.departures (calls ++ [.send .alert closeNotice])
        = session.departures calls ++ [last] := by
  obtain ⟨link, window, next, hrun⟩ := session.run_snd calls
  have hopen' : (session.run calls).2.closed = false := by
    rw [hrun]
    exact hopen
  obtain ⟨notice, hsend⟩ := sendRecord_of_up hopen' hup .alert
    (show closeNotice.length ≤ maxRecordContent by decide)
  refine ⟨⟨.alert, closeNotice, (session.run calls).2.nextSequence, notice⟩,
    ?_, rfl, ?_⟩
  · unfold close
    simp only [hopen', hsend, Bool.false_eq_true, if_false]
    rfl
  · rw [departures_append, departures, departure?, hsend]
    rfl

end Luminaire.Session
