/-
What a worker reports, and when.

A worker keeps its number, and its callbacks hear a cause in one step
only, the last stage of the shutdown, all of them at once (`Told`). So
whoever has one callback reports once, and what it reports is what the
listener enters in its books (`stepWorker_of_some`).
-/
import Luminaire.Proofs.Server.Stages
import Luminaire.Server.Listener

namespace Luminaire

namespace Worker

/-- What a step of a worker lets its callbacks hear: nothing, or one cause, each
of them and for the last time. -/
inductive Told (before after : Worker) : Prop where
  | nothing (hid : after.id = before.id) (hcallbacks : after.callbacks = before.callbacks)
      (hheard : after.heard = before.heard) : Told before after
  | cause (cause : ShutdownCause) (hid : after.id = before.id) (hcallbacks : after.callbacks = 0)
      (hheard : after.heard = before.heard ++ List.replicate before.callbacks cause) :
      Told before after

variable {worker : Worker} {rig : Rig Outlet}

/-- Whoever enters the shutdown has not told anybody yet. -/
theorem silent_enter (worker : Worker) (cause : ShutdownCause) :
    (worker.enter cause).2.heard = worker.heard
      ∧ (worker.enter cause).2.callbacks = worker.callbacks := by
  rw [enter_eq]
  split
  · exact ⟨rfl, rfl⟩
  · exact ⟨rfl, rfl⟩

/-- Among all that a step does there is one thing that callbacks hear of. -/
theorem told_step (worker : Worker) (rig : Rig Outlet) (next : Step) :
    Told worker (worker.step rig next).1 := by
  have hdoes := worker.does_step rig next
  generalize (worker.step rig next).1 = after, worker.attempt? next = attempt at hdoes ⊢
  cases hdoes with
  | tells => exact .cause _ rfl rfl rfl
  | _ => exact .nothing rfl rfl rfl

theorem id_step (next : Step) : (worker.step rig next).1.id = worker.id := by
  cases worker.told_step rig next with
  | nothing hid => exact hid
  | cause _ hid => exact hid

end Worker

namespace Listener

variable {listener : Listener}

/-- The step of a worker that is there. -/
theorem stepWorker_of_some {id : ConnectionId} {worker : Worker}
    (hfound : listener.worker? id = some worker) (next : Worker.Step) :
    listener.stepWorker id next = { listener with
      rig := (worker.step listener.rig next).2
      workers := listener.workers.map fun other =>
        if other.id = id then (worker.step listener.rig next).1 else other
      finished := listener.finished
        ++ ((worker.step listener.rig next).1.heard.drop worker.heard.length).map
          fun cause => (id, cause) } := by
  unfold stepWorker
  rw [hfound]

theorem stepWorker_of_none {id : ConnectionId} (hnone : listener.worker? id = none)
    (next : Worker.Step) : listener.stepWorker id next = listener := by
  unfold stepWorker
  rw [hnone]

/-- A worker is found under its own number. -/
theorem find?_worker (worker : Worker) :
    [worker].find? (·.id == worker.id) = some worker :=
  List.find?_cons_of_pos (beq_self_eq_true worker.id)

theorem id_of_worker? {id : ConnectionId} {worker : Worker}
    (hfound : listener.worker? id = some worker) : worker.id = id := by
  simpa using List.find?_some hfound

/-- Workers keep their numbers. -/
theorem ids_stepWorker (listener : Listener) (id : ConnectionId) (next : Worker.Step) :
    (listener.stepWorker id next).workers.map Worker.id = listener.workers.map Worker.id := by
  cases hfound : listener.worker? id with
  | none => rw [stepWorker_of_none hfound]
  | some worker =>
      rw [stepWorker_of_some hfound, List.map_map]
      refine List.map_congr_left fun other _ => ?_
      show (if other.id = id then _ else other).id = other.id
      split
      next hid => rw [Worker.id_step, id_of_worker? hfound, hid]
      · rfl

end Listener

end Luminaire
