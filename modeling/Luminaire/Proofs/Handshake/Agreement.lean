/-
Honest handshakes agree.

Seven things are due at an honest meeting, one at a time: the hello
arrives, the request for a cookie, the hello with the cookie, the attempt
answers, the server hello arrives, the node's closing code and the
listener's (`settles_opening`). In whatever order the network delivers and
the attempt gets its turn, and whatever junk turns up, both sides come to
the sessions that they can use with each other
(`honest_handshakes_agree`).
-/
import Luminaire.Proofs.Handshake.Meeting

namespace Luminaire.Meeting

open Encounter

variable {meeting : Meeting}

namespace Honest

variable (honest : meeting.Honest)
include honest

theorem handles_succeeded (entropy : Entropy) :
    (meeting.succeeded entropy).Handles meeting.listener.attempts
      (meeting.attempt (.accepted (meeting.session .server))) :=
  ⟨rfl, (honest.handles entropy (.accepted (meeting.session .server))).alone⟩

/-- Once the node has its session nothing is due any more. -/
theorem settles_established (entropy : Entropy) :
    Settles meeting.network meeting.Met 0
      ⟨.established meeting.network.path (meeting.session .client), meeting.succeeded entropy,
        meeting.listener.nextId, []⟩ := by
  have hhandles := honest.handles_succeeded entropy
  have hanswer : (meeting.succeeded entropy).step (.answer meeting.listener.nextId)
      = (meeting.succeeded entropy, []) := hhandles.answer_of_ne nofun
  have hattempt : (meeting.succeeded entropy).attempt? meeting.listener.nextId
      = some (meeting.attempt (.accepted (meeting.session .server))) := hhandles.attempt?_eq
  refine .settled (calm_of trivial (hhandles.steady trivial)) rfl (step_answer_eq hanswer) ⟨rfl, ?_⟩
  exact congrArg (Option.map Attempt.phase) hattempt

/-- The closing codes are due. -/
theorem settles_confirming (entropy : Entropy) {finished : Bytes}
    (hopens : (meeting.wait .server).session.incoming.openRecord finished = .ok (.handshake, 0,
      finishedCode meeting.keys .client meeting.transcript)) :
    Settles meeting.network meeting.Met 2
      ⟨meeting.confirming, meeting.attempting entropy (.awaiting (meeting.wait .server)),
        meeting.listener.nextId,
        [.toListener meeting.network.node meeting.network.path finished]⟩ := by
  obtain ⟨closing, hconfirm, hcloses⟩ := honest.step_confirm entropy hopens
  have hnode : meeting.confirming.Steady := rfl
  have hwaiting := honest.handles entropy (.awaiting (meeting.wait .server))
  have hsucceeded := honest.handles_succeeded entropy
  have hanswer : (meeting.attempting entropy (.awaiting (meeting.wait .server))).step
      (.answer meeting.listener.nextId)
      = (meeting.attempting entropy (.awaiting (meeting.wait .server)), []) :=
    hwaiting.answer_of_ne nofun
  have hanswer' : (meeting.succeeded entropy).step (.answer meeting.listener.nextId)
      = (meeting.succeeded entropy, []) := hsucceeded.answer_of_ne nofun
  refine .toListener (arrive_toPath_eq ..) (calm_of hnode (hwaiting.steady rfl)) hanswer
    hconfirm ?_
  rw [Network.fromListener_own]
  refine .toNode (calm_of hnode (hsucceeded.steady trivial)) hanswer'
    (arrive_finished hcloses meeting.network.path) ?_
  rw [Network.fromNode_none]
  exact honest.settles_established entropy

/-- The attempt is to answer, and the closing codes are due behind it. -/
theorem settles_attempting {rest : Entropy}
    (hdrawn : meeting.listener.rig.venue.entropy = meeting.server.stream rest) :
    Settles meeting.network meeting.Met 4
      ⟨.greeting meeting.greeted, meeting.attempting meeting.listener.rig.venue.entropy .starting,
        meeting.listener.nextId, []⟩ := by
  obtain ⟨finished, hserverHello, hopens⟩ := honest.arrive_serverHello
  have hstarting := honest.handles meeting.listener.rig.venue.entropy .starting
  have hwaiting := honest.handles rest (.awaiting (meeting.wait .server))
  have hanswer : (meeting.attempting rest (.awaiting (meeting.wait .server))).step
      (.answer meeting.listener.nextId)
      = (meeting.attempting rest (.awaiting (meeting.wait .server)), []) :=
    hwaiting.answer_of_ne nofun
  refine .toAnswer (calm_of trivial (hstarting.steady trivial)) (honest.step_answer hdrawn) ?_
  rw [Network.fromListener_own]
  exact .toNode (calm_of trivial (hwaiting.steady rfl)) hanswer hserverHello
    (honest.settles_confirming rest hopens)

/-- Seven things are due when the first hello is under way. -/
theorem settles_opening (rest : Entropy) :
    Settles meeting.network meeting.Met 7 (meeting.opening rest) := by
  obtain ⟨left, hdrawn⟩ := honest.drawn
  have hnone := honest.numbered.attempt?_eq_none
  have hsteady := Listener.steady_of_none hnone
  have hanswer := Listener.answer_of_none hnone
  have hopening : meeting.opening rest
      = ⟨.greeting (meeting.greeting none (meeting.helloDatagram none)), meeting.listener,
        meeting.listener.nextId, [.toListener meeting.network.node meeting.network.server
          (meeting.helloDatagram none)]⟩ := by
    rw [opening, honest.start_eq]
    rfl
  rw [hopening]
  refine .toListener (arrive_toServer_eq ..) (calm_of trivial hsteady) hanswer
    honest.arrive_hello ?_
  rw [Network.fromListener_listening]
  refine .toNode (calm_of trivial hsteady) hanswer
    (honest.arrive_verifyRequest (meeting.helloDatagram none)) ?_
  exact .toListener (arrive_toServer_eq ..) (calm_of trivial hsteady) hanswer
    honest.arrive_helloAgain (honest.settles_attempting hdrawn)

end Honest

/-- An honest meeting, whatever junk turns up at it: once the network has had
its turn and the attempt has had its turn seven times, the node and the
listener have their sessions, of opposite roles, under the suite that was
negotiated and the same keys. Whatever leaves either of them from then on opens
at the other, and if nothing is lost or reordered it is heard there in turn. -/
theorem honest_handshakes_agree (honest : meeting.Honest) (rest : Entropy) :
    CipherSuite.negotiate meeting.listener.handshake.suites meeting.offered
        = some meeting.suite
      ∧ (∀ rounds : List (List Move), 7 ≤ rounds.length →
          (∀ round ∈ rounds, .deliver ∈ round ∧ .answer ∈ round) →
          (meeting.opening rest).Undisturbed meeting.network rounds.flatten →
          let after := (meeting.opening rest).run meeting.network rounds.flatten
          after.node = .established meeting.network.path (meeting.session .client)
            ∧ (after.listener.attempt? meeting.listener.nextId).map Attempt.phase
              = some (.accepted (meeting.session .server)))
      ∧ ∀ role calls,
          let sent := (meeting.session role).departures calls
          (∀ departure ∈ sent,
            (meeting.session role.peer).incoming.openRecord departure.record
              = .ok (departure.content, departure.number, departure.plain))
            ∧ ((Session.fitting calls).length < 2 ^ 64 →
              (meeting.session role.peer).receiveEach (sent.map Session.Departure.record)
                = sent.map Session.Departure.outcome) := by
  refine ⟨honest.agreed, fun rounds hmany hfair hjunk => ?_, fun role calls => ⟨?_, ?_⟩⟩
  · exact (honest.settles_opening rest).run_rounds hfair hmany hjunk
  · exact fun departure hleft => Session.opens_after_handshake hleft
  · exact Session.heard_after_handshake

/-- A node that prefers the first suite meets a listener that has only the
second. -/
def exampleMeeting : Meeting where
  network := ⟨⟨.loopback, 6000⟩, ⟨.loopback, 5000⟩, ⟨.loopback, 5001⟩, by decide⟩
  offered := [.chacha, .xchacha]
  retries := 3
  node := ⟨List.replicate 32 1, List.replicate 32 2, rfl, rfl⟩
  listener := .new ⟨⟨.empty, ⟨[], .empty⟩, none, 0, List.replicate 32 3 ++ List.replicate 32 4⟩, []⟩
    .up .empty ⟨List.replicate 32 5⟩ ⟨⟨List.replicate 32 6, [[7]]⟩, [.xchacha]⟩
  server := ⟨List.replicate 32 3, List.replicate 32 4, rfl, rfl⟩

/-- Its transcript hash, so that the signature is checked for plain bytes. -/
theorem transcript_exampleMeeting :
    exampleMeeting.transcript
      = [0, 129, 162, 214, 104, 231, 77, 105, 159, 197, 55, 157, 49, 54, 185, 70, 142, 52, 14, 143,
        211, 46, 205, 91, 110, 187, 163, 205, 127, 65, 67, 151] := by
  decide +kernel

theorem signed_exampleMeeting :
    Ed25519.verifies exampleMeeting.listener.handshake.identity.verifyingKey
      exampleMeeting.transcript
      (exampleMeeting.listener.handshake.identity.sign exampleMeeting.transcript) = true := by
  rw [transcript_exampleMeeting]
  decide +kernel

theorem honest_exampleMeeting : exampleMeeting.Honest where
  accepting := rfl
  up := rfl
  idle := List.not_mem_nil
  numbered := fun attempt hattempt => absurd hattempt List.not_mem_nil
  drawn := ⟨[], rfl⟩
  common := by decide
  helloShort := by decide +kernel
  serverHelloShort := by decide +kernel
  exchanged := by decide +kernel
  contributory := by decide +kernel
  signed := signed_exampleMeeting

/-- Seven rounds, and both have their sessions. -/
theorem handshake_in_example :
    exampleMeeting.suite = .xchacha
      ∧ exampleMeeting.Met ((exampleMeeting.opening []).run exampleMeeting.network
        (List.replicate 7 [Move.deliver, .answer]).flatten) := by
  have hmeets := (honest_handshakes_agree honest_exampleMeeting []).2.1
  have hfair : ∀ round ∈ List.replicate 7 [Move.deliver, .answer],
      .deliver ∈ round ∧ .answer ∈ round := by
    intro round hround
    rw [List.eq_of_mem_replicate hround]
    decide
  have hnone : ∀ move ∈ (List.replicate 7 [Move.deliver, .answer]).flatten,
      ∀ parcel, move ≠ .stray parcel := by
    rintro move hmove parcel rfl
    simp at hmove
  exact ⟨rfl, hmeets (List.replicate 7 [.deliver, .answer]) (Nat.le_refl 7) hfair
    (undisturbed_of_no_strays hnone)⟩

end Luminaire.Meeting
