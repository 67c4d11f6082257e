/-
What becomes of an honest handshake at the listener.

At an honest meeting the hello with the cookie, the answer and the closing
code of the node lead the listener to a session, and the attempt starts its
worker (`exists_welcomed`). So there are runs in which somebody is served,
and what is said about all runs can be seen at one of them.
-/
import Luminaire.Proofs.Handshake.Agreement
import Luminaire.Proofs.Server.Passages
import Luminaire.Proofs.Server.Reports

namespace Luminaire.Meeting

variable {meeting : Meeting}

/-- The steps of the listener at a meeting, up to the start of the worker. -/
def welcome (meeting : Meeting) (finished : Bytes) : List Listener.Step :=
  [.arrive meeting.network.node (meeting.helloDatagram (some meeting.cookie)) true,
    .answer meeting.listener.nextId, .confirm meeting.listener.nextId finished,
    .start meeting.listener.nextId true]

/-- The listener with the worker that serves the node. -/
def serving (meeting : Meeting) (entropy : Entropy) : Listener :=
  (meeting.succeeded entropy).startWorker
    (meeting.attempt (.accepted (meeting.session .server))) (meeting.session .server) true

theorem workers_serving (meeting : Meeting) (entropy : Entropy) :
    (meeting.serving entropy).workers.map Worker.id
      = meeting.listener.workers.map Worker.id ++ [meeting.listener.nextId] :=
  List.map_append

/-- The worker that serves the node reads, and has told nobody anything. -/
theorem exists_worker_serving (entropy : Entropy)
    (hfree : meeting.listener.worker? meeting.listener.nextId = none) :
    ∃ worker, (meeting.serving entropy).worker? meeting.listener.nextId = some worker
      ∧ worker.phase = .reading ∧ worker.state = .running
      ∧ worker.heard = [] ∧ worker.callbacks = 1 := by
  refine ⟨(Worker.start meeting.listener.nextId meeting.network.node (meeting.session .server)
    meeting.listener.registry 1 (meeting.succeeded entropy).rig).1, ?_, rfl, rfl, rfl, rfl⟩
  exact (List.find?_append.trans (congrArg (Option.or · _) hfree)).trans (Listener.find?_worker _)

namespace Honest

variable (honest : meeting.Honest)
include honest

/-- The attempt that has succeeded starts its worker. -/
theorem step_start (entropy : Entropy) :
    ((meeting.succeeded entropy).step (.start meeting.listener.nextId true)).1
      = meeting.serving entropy := by
  have hattempt : (meeting.succeeded entropy).attempt? meeting.listener.nextId
      = some (meeting.attempt (.accepted (meeting.session .server))) :=
    (honest.handles_succeeded entropy).attempt?_eq
  simp only [Listener.step, hattempt]
  rfl

/-- Then the attempt waits for its place in the table. -/
theorem attempt?_serving (entropy : Entropy) :
    (meeting.serving entropy).attempt? meeting.listener.nextId
      = some (meeting.attempt .started) := by
  have halone := (honest.handles entropy .starting).alone
  have hstarted : (meeting.serving entropy).attempts
      = meeting.listener.attempts ++ [meeting.attempt .started] := by
    have hhandles : Listener.Handles { meeting.succeeded entropy with
        rig := (meeting.serving entropy).rig
        workers := (meeting.serving entropy).workers } meeting.listener.attempts
        (meeting.attempt (.accepted (meeting.session .server))) := ⟨rfl, halone⟩
    exact congrArg Listener.attempts (hhandles.setPhase_eq .started)
  have hhandles : (meeting.serving entropy).Handles meeting.listener.attempts
      (meeting.attempt .started) := ⟨hstarted, halone⟩
  exact hhandles.attempt?_eq

/-- At an honest meeting the node comes to be served. -/
theorem exists_welcomed :
    ∃ finished entropy,
      (meeting.listener.run (meeting.welcome finished)).1 = meeting.serving entropy := by
  obtain ⟨rest, hdrawn⟩ := honest.drawn
  obtain ⟨finished, -, hopens⟩ := honest.arrive_serverHello
  obtain ⟨closing, hconfirm, -⟩ := honest.step_confirm rest hopens
  have harrive : (meeting.listener.step (.arrive meeting.network.node
      (meeting.helloDatagram (some meeting.cookie)) true)).1
      = meeting.attempting meeting.listener.rig.venue.entropy .starting :=
    congrArg Prod.fst honest.arrive_helloAgain
  refine ⟨finished, rest, ?_⟩
  unfold welcome
  rw [Listener.run_cons, harrive, Listener.run_cons, honest.step_answer hdrawn,
    Listener.run_cons, hconfirm, Listener.run_cons, honest.step_start]
  rfl

end Honest

end Luminaire.Meeting
