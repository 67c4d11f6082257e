/-
Whatever runs over a rig, its books agree.

Four machines do: a scene of connections on tape, a house with a worker for
every connection, a worker among whatever else goes on around it, and a
listener from its first datagram on. They differ in whom they serve and in
what they keep beside the rig. To the rig a step of any of them comes down
to the events that can happen at every rig (`Rig.Event`), and so does a
whole run. Hence what is settled before a run is settled after it
(`Rig.Evolves.settled`); of a listener that begins with nobody observing,
whatever arrives and however its workers end, it can be said that every
observer of a region stands for a subscription that is held
(`Listener.observers_are_held`).
-/
import Luminaire.Proofs.Server.Admission
import Luminaire.Proofs.Server.Neighbours
import Luminaire.Proofs.Server.Scene
import Luminaire.Proofs.Server.Shutdown

namespace Luminaire

-- ============================================================== scenes

theorem Scene.settled_after (venue : Venue) (cues : List Cue) : (after venue cues).rig.Settled :=
  (Rig.Evolves.foldl Scene.rig Scene.evolves_step cues (opening venue)).settled
    (Rig.settled_vacant venue)

-- ============================================================== houses

theorem House.settled_run {house : House} (hsettled : house.rig.Settled) (deeds : List Deed) :
    (house.run deeds).rig.Settled :=
  (Rig.Evolves.foldl House.rig evolves_occur deeds house).settled hsettled

-- =============================================================== hosts

namespace Host

variable {id : ConnectionId}

theorem evolves_happen (host : Host) (happening : Happening id) :
    host.rig.Evolves (host.happen happening).rig := by
  cases happening with
  | here occurrence =>
      cases occurrence with
      | step now entropy next =>
          exact (host.rig.evolves_tuned now entropy).trans (host.worker.evolves_step _ next)
      | apart event => exact host.rig.evolves_apart event
  | elsewhere worker _ now entropy next =>
      exact (host.rig.evolves_tuned now entropy).trans (worker.evolves_step _ next)
  | joined other _ peer session registry callbacks =>
      exact Worker.evolves_start other peer session registry callbacks host.rig

theorem settled_follow {host : Host} (hsettled : host.rig.Settled)
    (happenings : List (Happening id)) : (host.follow happenings).rig.Settled :=
  (Rig.Evolves.foldl Host.rig evolves_happen happenings host).settled hsettled

end Host

-- =========================================================== listeners

namespace Listener

theorem evolves_run (listener : Listener) (steps : List Step) :
    listener.rig.Evolves (listener.run steps).1.rig := by
  induction steps using List.reverseRecOn with
  | nil => exact .refl listener.rig
  | append_singleton steps next ih =>
      rw [run_snoc]
      exact ih.trans ((listener.run steps).1.staffing_step next).evolves

theorem settled_run {listener : Listener} (hsettled : listener.rig.Settled) (steps : List Step) :
    (listener.run steps).1.rig.Settled :=
  (listener.evolves_run steps).settled hsettled

/-- Whatever has happened at a listener, whoever observes a region does so for a
subscription that a connection holds. -/
theorem observers_are_held (venue : Venue) (link : Link) (registry : Registry HandlerKind)
    (cookies : CookieJar) (handshake : ServerHandshake) (steps : List Step) :
    let vacant : Venue := { venue with framebuffer := ⟨venue.framebuffer.pixels, .empty⟩ }
    let rig := ((new ⟨vacant, []⟩ link registry cookies handshake).run steps).1.rig
    ∀ entry ∈ rig.venue.framebuffer.observers.entries, ∃ delivery station,
      entry.2 = ⟨delivery.region, .delivery delivery⟩
        ∧ rig.station? delivery.connection = some station
        ∧ ⟨delivery.channel, entry.1⟩ ∈ station.held := by
  intro vacant rig entry hentry
  have hsettled : rig.Settled := settled_run (Rig.settled_vacant venue) steps
  obtain ⟨delivery, howned, hheld⟩ := hsettled.held_of_observer hentry
  cases hfound : rig.station? delivery.connection with
  | none =>
      rw [Rig.held_of_none hfound] at hheld
      cases hheld
  | some station =>
      rw [Rig.held_of_station? hfound] at hheld
      exact ⟨delivery, station, howned, hfound, hheld⟩

end Listener

end Luminaire
