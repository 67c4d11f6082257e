/-
What leaves through an outlet.

Everything an outlet sends is sealed under the session's own keys, so
opening a record of its history with those keys gives back what was handed
over. `Reticent` says of a history that nothing in it is a push; answers
keep it so, and so does closing.
-/
import Luminaire.Proofs.Connection.Strangers
import Luminaire.Proofs.Session.Traffic
import Luminaire.Proofs.Wire.Framing
import Luminaire.Server.Worker

namespace Luminaire

namespace Outlet

/-- The outlet seals with these keys, and nothing that left opens to a
push under them. -/
structure Reticent (outlet : Outlet) (keys : Protection) : Prop where
  outgoing : outlet.session.outgoing = keys
  quiet : ∀ record ∈ outlet.sent, ∀ sequence plain header payload,
    keys.openRecord record = .ok (.applicationData, sequence, plain) →
      unframe (H := Header) plain = .ok (header, payload) → ¬ header.isPush

/-- An outlet takes a message without keeping anything, or keeps a record
that opens to it. -/
theorem put_cases (outlet : Outlet) (message : Bytes) :
    (Sink.put outlet message).2.session.outgoing = outlet.session.outgoing
      ∧ ((Sink.put outlet message).2.sent = outlet.sent
        ∨ ∃ record sequence, (Sink.put outlet message).2.sent = outlet.sent ++ [record]
          ∧ outlet.session.outgoing.openRecord record
            = .ok (.applicationData, sequence, message)) := by
  have hkeys := outlet.session.outgoing_sendRecord .applicationData message
  cases hsend : outlet.session.sendRecord .applicationData message with
  | mk result session =>
      rw [hsend] at hkeys
      cases result with
      | error fault =>
          have hput : Sink.put outlet message = (.error fault, ⟨session, outlet.sent⟩) := by
            simp only [Sink.put, Session.send, hsend]
          rw [hput]
          exact ⟨hkeys, .inl rfl⟩
      | ok record =>
          have hput : Sink.put outlet message
              = (.ok (), ⟨session, outlet.sent ++ [record]⟩) := by
            simp only [Sink.put, Session.send, hsend]
          rw [hput]
          exact ⟨hkeys, .inr ⟨record, outlet.session.nextSequence, rfl,
            Session.openRecord_of_sendRecord (congrArg Prod.fst hsend)⟩⟩

/-- Over an open session and a path that is up, what fits one record leaves. -/
theorem put_of_fits {outlet : Outlet} (hopen : outlet.session.closed = false)
    (hup : outlet.session.link = .up) {message : Bytes}
    (hfits : message.length ≤ maxRecordContent) :
    ∃ record, Sink.put outlet message
        = (.ok (), ⟨{ outlet.session with nextSequence := outlet.session.nextSequence + 1 },
          outlet.sent ++ [record]⟩)
      ∧ record.length ≤ Link.largestDatagram
      ∧ outlet.session.outgoing.openRecord record
        = .ok (.applicationData, outlet.session.nextSequence, message) := by
  obtain ⟨record, hsealed, hshort, hsend⟩ :=
    Session.sendRecord_of_fits hopen .applicationData hfits
  rw [if_pos (Session.takes_of_up hup hshort)] at hsend
  refine ⟨record, ?_, hshort, Protection.openRecord_sealRecord hsealed⟩
  simp only [Sink.put, Session.send, hsend]

variable {outlet after : Outlet} {keys : Protection}

/-- A history without pushes stays one when something is added that is no
push. -/
theorem Reticent.of_snoc (hreticent : outlet.Reticent keys)
    (hkeys : after.session.outgoing = outlet.session.outgoing) {record : Bytes}
    (hsent : after.sent = outlet.sent ++ [record])
    (hrecord : ∀ sequence plain header payload,
      outlet.session.outgoing.openRecord record = .ok (.applicationData, sequence, plain) →
        unframe (H := Header) plain = .ok (header, payload) → ¬ header.isPush) :
    after.Reticent keys := by
  refine ⟨hkeys.trans hreticent.outgoing, fun other hother => ?_⟩
  rw [hsent, List.mem_append, List.mem_singleton] at hother
  rw [hreticent.outgoing] at hrecord
  rcases hother with hother | rfl
  · exact hreticent.quiet other hother
  · exact hrecord

theorem Reticent.of_same (hreticent : outlet.Reticent keys)
    (hkeys : after.session.outgoing = outlet.session.outgoing)
    (hsent : after.sent = outlet.sent) : after.Reticent keys := by
  refine ⟨hkeys.trans hreticent.outgoing, fun record hrecord => ?_⟩
  rw [hsent] at hrecord
  exact hreticent.quiet record hrecord

/-- Closing sends no push. -/
theorem Reticent.close (hreticent : outlet.Reticent keys) :
    outlet.close.Reticent keys := by
  have hkeys := outlet.session.outgoing_sendRecord .alert Session.closeNotice
  by_cases hclosed : outlet.session.closed = true
  · have hclose : outlet.session.close = (none, outlet.session) := by
      rw [Session.close, if_pos hclosed]
    unfold Outlet.close
    rw [hclose]
    exact hreticent.of_same rfl (List.append_nil outlet.sent)
  · unfold Outlet.close
    rw [Session.close, if_neg hclosed]
    cases hsend : outlet.session.sendRecord .alert Session.closeNotice with
    | mk result session =>
        rw [hsend] at hkeys
        cases result with
        | error fault => exact hreticent.of_same hkeys (List.append_nil outlet.sent)
        | ok record =>
            refine hreticent.of_snoc hkeys rfl ?_
            intro sequence plain header payload hopen
            rw [Session.openRecord_of_sendRecord (congrArg Prod.fst hsend)] at hopen
            cases hopen

/-- Receiving sends nothing. -/
theorem Reticent.receive (hreticent : outlet.Reticent keys) (arrival : Option Bytes) :
    Reticent { outlet with session := (outlet.session.receive arrival).2 } keys := by
  obtain ⟨window, hwindow⟩ := outlet.session.receiveRecord_snd arrival
  refine hreticent.of_same ?_ rfl
  rw [Session.receive_eq, hwindow]

end Outlet

/-- An answer adds no push to what was sent. -/
theorem Connection.Answers.reticent {before after : Connection Outlet} {keys : Protection}
    (hanswers : Answers before after) (hreticent : before.sink.Reticent keys) :
    after.sink.Reticent keys := by
  obtain ⟨node, rfl | ⟨header, payload, hpush, rfl⟩⟩ := hanswers
  · exact hreticent
  · unfold send
    cases hframe : frame header payload with
    | error fault => exact hreticent
    | ok datagram =>
        obtain ⟨hkeys, hsent⟩ := before.sink.put_cases datagram
        have hafter : (Sink.put before.sink datagram).2.Reticent keys := by
          rcases hsent with hsame | ⟨record, sequence, hsnoc, hopen⟩
          · exact hreticent.of_same hkeys hsame
          · refine hreticent.of_snoc hkeys hsnoc ?_
            intro number plain header' payload' hplain hread
            rw [hopen] at hplain
            cases hplain
            obtain ⟨hendpoint, htype⟩ := unframe_frame hframe hread
            unfold Header.isPush
            rw [hendpoint, htype]
            exact hpush
        simp only
        split
        next hput =>
          rw [hput] at hafter
          exact hafter
        next hput =>
          rw [hput] at hafter
          exact hafter

end Luminaire
