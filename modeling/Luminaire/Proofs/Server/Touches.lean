/-
What a step of a worker does to the rig.

Three of the steps touch the rig at all: the read loop takes in what has
arrived (`Rig.Takes`), the shutdown closes the session, and the loop that is
over gives its handlers up (`Rig.Touches`). Whatever no worker is ever to
break is shown of these: the steps themselves are read here alone. What
comes with a new connection is likewise shown of each handler
(`Worker.attach_preserves`).
-/
import Luminaire.Server.Worker

namespace Luminaire

/-- What happens to the rig while a datagram is taken in for a connection. -/
inductive Rig.Takes (id : ConnectionId) : Rig Outlet → Rig Outlet → Prop where
  | nothing (rig : Rig Outlet) : Takes id rig rig
  /-- The session has read it. -/
  | received {rig : Rig Outlet} {station : Station Outlet}
      (hfound : rig.station? id = some station) (arrival : Option Bytes) :
      Takes id rig (rig.modify id fun station' =>
        { station' with
          connection := { station'.connection with
            sink := { station'.connection.sink with
              session := (station.connection.sink.session.receive arrival).2 } } })
  /-- A handler has had its turn. -/
  | handled {rig after : Rig Outlet} {position : Nat} {header : Header} {payload : Bytes}
      {outcome : Outcome}
      (hhandled : rig.handleAt id position header payload = some (outcome, after)) :
      Takes id rig after
  /-- The message is refused. -/
  | refused (rig : Rig Outlet) (header : Header) : Takes id rig (Worker.refuse rig id header)
  | andThen {rig middle after : Rig Outlet} (hfirst : Takes id rig middle)
      (hsecond : Takes id middle after) : Takes id rig after

/-- What a step of a connection's worker does to the rig. -/
inductive Rig.Touches (id : ConnectionId) (rig : Rig Outlet) : Rig Outlet → Prop where
  | takes {after : Rig Outlet} (htakes : rig.Takes id after) : Touches id rig after
  /-- The session is closed. -/
  | hushes : Touches id rig (Worker.hush rig id)
  /-- The handlers are given up. -/
  | releases : Touches id rig (rig.detachAll id)

namespace Worker

open Rig (Takes Touches)

variable (worker : Worker) (rig : Rig Outlet)

theorem takes_dispatch (message : Bytes) :
    rig.Takes worker.id (worker.dispatch rig message).2 := by
  unfold dispatch
  split
  · split
    · exact .nothing rig
    · exact .nothing rig
  · split
    · exact .nothing rig
    · split
      · exact .nothing rig
      next hhandled => exact .andThen (.handled hhandled) (.refused ..)
      next hhandled =>
        split
        · exact .handled hhandled
        · exact .handled hhandled
      next hhandled => exact .handled hhandled

theorem takes_read (arrival : Option Bytes) : rig.Takes worker.id (worker.read rig arrival).2 := by
  unfold read
  split
  · exact .nothing rig
  · split
    · exact .nothing rig
    · split
      · exact .nothing rig
      next station hfound =>
        have hreceived := Takes.received hfound arrival
        simp only
        split
        · exact hreceived
        · exact hreceived.andThen (takes_dispatch ..)
        · exact hreceived
        · exact hreceived
        · exact hreceived

/-- There is nothing else that a step does to the rig. -/
theorem touches_step (next : Step) : rig.Touches worker.id (worker.step rig next).2 := by
  cases next with
  | read arrival => exact .takes (worker.takes_read rig arrival)
  | release =>
      show rig.Touches worker.id (worker.release rig).2
      unfold release
      split
      · exact .releases
      · exact .takes (.nothing rig)
  | advance =>
      show rig.Touches worker.id (worker.advance rig).2
      unfold advance
      split
      · exact .takes (.nothing rig)
      · exact .hushes
      · exact .takes (.nothing rig)
      · exact .takes (.nothing rig)
  | _ => exact .takes (.nothing rig)

/-- Whatever no handler breaks when it comes or goes is not broken by the
handlers of a connection that is taken in. -/
theorem attach_preserves {id : ConnectionId} {P : Venue → Prop}
    (hattach : ∀ {kind handler venue after},
      Handler.attach? kind id venue = some (handler, after) → P venue → P after)
    (hdetach : ∀ (handler : Handler) {venue}, P venue → P (handler.detach venue))
    (kinds : List HandlerKind) (roster : Roster Handler) {venue : Venue} (hvenue : P venue) :
    P (attach id kinds roster venue).2.2 := by
  induction kinds generalizing roster venue with
  | nil => exact hvenue
  | cons kind kinds ih =>
      unfold attach
      split
      · exact ih roster hvenue
      next handler attached hhandler =>
        have hattached := hattach hhandler hvenue
        split
        · exact ih _ hattached
        · exact ih _ (hdetach handler hattached)

end Worker

end Luminaire
