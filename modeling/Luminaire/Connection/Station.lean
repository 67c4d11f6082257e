/-
A station is a connection with its handlers; the rig is all stations and
what they share.

Handling a message, finishing a region and rotating the keys are the
things that happen to a rig. Each is one step, and the deliveries of one
finished region are steps of their own: what a delivery sends depends on
what its station still holds when its turn comes.
-/
import Luminaire.Connection.Handler

namespace Luminaire

structure Station (κ : Type) where
  id : ConnectionId
  connection : Connection κ
  handlers : List Handler

namespace Station

variable {κ : Type} [Sink κ]

/-- Hands a message to the handler at a position. -/
def handleAt (station : Station κ) (venue : Venue) (position : Nat) (header : Header)
    (payload : Bytes) : Option (Outcome × Station κ × Venue) :=
  station.handlers[position]?.map fun handler =>
    let turn := handler.handle station.id station.connection venue header payload
    (turn.outcome,
      { station with
        connection := turn.connection
        handlers := station.handlers.set position turn.handler },
      turn.venue)

/-- Detaches all handlers. -/
def detachAll (station : Station κ) (venue : Venue) : Station κ × Venue :=
  ({ station with handlers := [] },
    station.handlers.foldl (fun venue handler => handler.detach venue) venue)

/-- Detaches the handlers of one endpoint. -/
def detach (station : Station κ) (endpoint : Endpoint) (venue : Venue) : Station κ × Venue :=
  ({ station with handlers := station.handlers.filter (·.endpoint ≠ endpoint) },
    (station.handlers.filter (·.endpoint = endpoint)).foldl
      (fun venue handler => handler.detach venue) venue)

/-- The subscriptions this station holds; none without their handler. -/
def held? (station : Station κ) : Option Subscription.Held :=
  station.handlers.findSome? fun
    | .pixelData held => some held
    | _ => none

/-- How far this station's authentication has come. -/
def authState? (station : Station κ) : Option AuthState :=
  station.handlers.findSome? fun
    | .authentication _ state => some state
    | _ => none

/-- Sends the pixels of a finished region. -/
def deliver (station : Station κ) (framebuffer : Framebuffer Watcher) (frameNumber : UInt64)
    (token : Token) (delivery : Delivery) : Station κ :=
  { station with
    connection := Subscription.deliver (station.held?.getD []) framebuffer station.connection
      frameNumber token delivery }

/-- Sends the notice of a new key. -/
def notice (station : Station κ) (group : Broadcaster KeyWatcher) (id : UInt32) : Station κ :=
  { station with connection := GroupKeys.notice station.connection group id }

end Station

-- =============================================================== rig

structure Rig (κ : Type) where
  venue : Venue
  stations : List (Station κ)

namespace Rig

variable {κ : Type} [Sink κ]

def station? (rig : Rig κ) (id : ConnectionId) : Option (Station κ) :=
  rig.stations.find? fun station => station.id == id

/-- Changes the station of one connection. -/
def modify (rig : Rig κ) (id : ConnectionId) (change : Station κ → Station κ) : Rig κ :=
  { rig with
    stations := rig.stations.map fun station => if station.id = id then change station else station }

/-- Hands a message to one station's handler. -/
def handleAt (rig : Rig κ) (id : ConnectionId) (position : Nat) (header : Header)
    (payload : Bytes) : Option (Outcome × Rig κ) :=
  match rig.station? id with
  | none => none
  | some station =>
      (station.handleAt rig.venue position header payload).map fun (outcome, station, venue) =>
        (outcome, { rig.modify id fun _ => station with venue })

/-- Detaches all handlers of one station. -/
def detachAll (rig : Rig κ) (id : ConnectionId) : Rig κ :=
  match rig.station? id with
  | none => rig
  | some station =>
      let (station, venue) := station.detachAll rig.venue
      { rig.modify id fun _ => station with venue }

/-- Detaches one station's handlers of an endpoint. -/
def detach (rig : Rig κ) (id : ConnectionId) (endpoint : Endpoint) : Rig κ :=
  match rig.station? id with
  | none => rig
  | some station =>
      let (station, venue) := station.detach endpoint rig.venue
      { rig.modify id fun _ => station with venue }

-- ====================================================== finished regions

/-- Tells one observer that a region is finished. -/
def tell (rig : Rig κ) (frameNumber : UInt64) (token : Token) (watcher : Watcher) : Rig κ :=
  match watcher with
  | .outsider _ => rig
  | .delivery delivery =>
      rig.modify delivery.connection fun station =>
        station.deliver rig.venue.framebuffer frameNumber token delivery

/-- The renderer has finished a region: tells everyone who is due, and
counts them. -/
def finish (rig : Rig κ) (region : Region) (frameNumber : UInt64) : Nat × Rig κ :=
  let due := rig.venue.framebuffer.due region
  (due.length, due.foldl (fun rig entry => rig.tell frameNumber entry.1 entry.2.observer) rig)

-- ============================================================= keys

/-- Tells one observer about a new key. -/
def tellKey (rig : Rig κ) (group : Broadcaster KeyWatcher) (id : UInt32) : KeyWatcher → Rig κ
  | .outsider _ => rig
  | .connection connection => rig.modify connection fun station => station.notice group id

/-- Tells everyone about a new key. -/
def announce (rig : Rig κ) (id : UInt32) : Rig κ :=
  match rig.venue.group with
  | none => rig
  | some group =>
      group.observers.toList.foldl (fun rig watcher => rig.tellKey group id watcher) rig

/-- Takes over what the broadcaster did, and tells everyone if there is a new
key. -/
def takeOver (rig : Rig κ) (done : Broadcaster.Work × Broadcaster KeyWatcher × Entropy) :
    Broadcaster.Work × Rig κ :=
  let (work, group, entropy) := done
  let rig := { rig with venue := { rig.venue with group := some group, entropy } }
  match work with
  | .rotated key => (work, rig.announce key.id)
  | _ => (work, rig)

/-- The keys rotate on their own. -/
def rotate (rig : Rig κ) : Broadcaster.Work × Rig κ :=
  match rig.venue.group with
  | none => (.idle, rig)
  | some group => rig.takeOver (group.elapse rig.venue.entropy)

/-- Works off the broadcaster's oldest request. -/
def work (rig : Rig κ) : Broadcaster.Work × Rig κ :=
  match rig.venue.group with
  | none => (.idle, rig)
  | some group => rig.takeOver (group.work rig.venue.now rig.venue.entropy)

end Rig

end Luminaire
