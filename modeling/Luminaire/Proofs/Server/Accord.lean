/-
Rigs whose books agree.

Several machines run over a rig: scenes of connections on tape, houses with
their workers, listeners. What they do to it comes down to the same few
events (`Rig.Event`): something is done for one connection (`Rig.Act`), a
connection is taken in, or what all share changes behind the connections'
backs, the observers of regions apart.

The invariant is stated of the rig, whoever runs over it (`Rig.Settled`):
the handlers of every connection hold what the framebuffer has the
connection down for, and no channel twice. Each event keeps it, so it holds
wherever events lead (`Rig.Evolves.settled`), and the observers follow those
from before (`Rig.Evolves.follows`). What is done for one connection also
leaves the others their stations and what they are owed (`Rig.Minds`). A
machine only has to show that its steps are such events.
-/
import Mathlib.Logic.Relation
import Luminaire.Proofs.Server.Hosting
import Luminaire.Proofs.Server.Rosters

namespace Luminaire

open Subscription (Held Moves)

-- ========================================================== stations

namespace Station

variable {κ : Type}

/-- The station after one of its handlers had its turn. -/
def afterTurn (station : Station κ) (position : Nat) (turn : HandlerTurn κ) : Station κ :=
  { station with
    connection := turn.connection
    handlers := station.handlers.set position turn.handler }

theorem id_afterTurn (station : Station κ) (position : Nat) (turn : HandlerTurn κ) :
    (station.afterTurn position turn).id = station.id := rfl

theorem id_detach (station : Station κ) (endpoint : Endpoint) (venue : Venue) :
    (station.detach endpoint venue).1.id = station.id := rfl

theorem id_detachAll (station : Station κ) (venue : Venue) :
    (station.detachAll venue).1.id = station.id := rfl

/-- No two of the handlers serve one endpoint. -/
def Distinct (station : Station κ) : Prop := (station.handlers.map Handler.endpoint).Nodup

/-- The handler for pixels holds what the station holds. -/
theorem Distinct.held_of_getElem? {station : Station κ} (hdistinct : station.Distinct)
    {position : Nat} {held : Held}
    (hhandler : station.handlers[position]? = some (.pixelData held)) : station.held = held := by
  unfold Station.held
  rw [findSome?_held?_of_getElem? hdistinct hhandler]
  rfl

/-- A message moves the books of its station, if it moves any. -/
theorem Distinct.moves_handle [Sink κ] {station : Station κ} (hdistinct : station.Distinct)
    {position : Nat} {handler : Handler} (hhandler : station.handlers[position]? = some handler)
    (venue : Venue) (header : Header) (payload : Bytes) :
    let turn := handler.handle station.id station.connection venue header payload
    let after := station.afterTurn position turn
    after.Distinct
      ∧ Moves station.id station.held venue.framebuffer after.held turn.venue.framebuffer := by
  intro turn after
  have hafter : after.Distinct := by
    show ((station.handlers.set position turn.handler).map Handler.endpoint).Nodup
    rw [map_endpoint_set hhandler (handler.endpoint_handle ..)]
    exact hdistinct
  refine ⟨hafter, ?_⟩
  cases hheld : handler.held? with
  | some held =>
      obtain rfl : handler = .pixelData held := by
        cases handler with
        | pixelData other => exact congrArg Handler.pixelData (Option.some.inj hheld)
        | _ => cases hheld
      obtain ⟨-, -, hmoves⟩ := (Handler.pixelData held).moves_handle station.id
        station.connection venue header payload
      have hplace : after.handlers[position]? = some turn.handler :=
        List.getElem?_set_self (List.getElem?_eq_some_iff.1 hhandler).1
      rw [hdistinct.held_of_getElem? hhandler, hafter.held_of_getElem? hplace]
      exact hmoves
  | none =>
      obtain ⟨hnone, hframebuffer⟩ := Handler.framebuffer_handle hheld station.id
        station.connection venue header payload
      have hsame : after.held = station.held :=
        congrArg (Option.getD · []) (findSome?_held?_set hhandler hheld hnone)
      rw [hsame]
      exact hframebuffer ▸ .same

/-- So does the departure of the handler of one endpoint. -/
theorem Distinct.moves_detach {station : Station κ} (hdistinct : station.Distinct)
    (endpoint : Endpoint) (venue : Venue) :
    let after := station.detach endpoint venue
    after.1.Distinct
      ∧ Moves station.id station.held venue.framebuffer after.1.held after.2.framebuffer := by
  intro after
  obtain ⟨-, -, hsublist, hbooks⟩ := Station.detach_cases hdistinct endpoint venue
  refine ⟨hdistinct.sublist (hsublist.map _), ?_⟩
  by_cases hpixels : endpoint = .pixelData
  · rw [if_pos hpixels] at hbooks
    obtain ⟨hheld, hframebuffer⟩ := Prod.mk.inj hbooks
    rw [hheld, hframebuffer]
    exact .released _
  · rw [if_neg hpixels] at hbooks
    obtain ⟨hheld, hframebuffer⟩ := Prod.mk.inj hbooks
    rw [hheld, hframebuffer]
    exact .same

/-- And that of all of them. -/
theorem Distinct.moves_detachAll {station : Station κ} (hdistinct : station.Distinct)
    (venue : Venue) :
    let after := station.detachAll venue
    after.1.Distinct
      ∧ Moves station.id station.held venue.framebuffer after.1.held after.2.framebuffer := by
  intro after
  obtain ⟨-, -, hsublist, hbooks⟩ := Station.detachAll_cases hdistinct venue
  obtain ⟨hheld, hframebuffer⟩ := Prod.mk.inj hbooks
  refine ⟨hdistinct.sublist (hsublist.map _), ?_⟩
  rw [hheld, hframebuffer]
  exact .released _

end Station

-- ============================================================ venues

/-- Handlers that go change nothing about a venue but its observers. -/
theorem Venue.ground_detachAll (handlers : List Handler) (venue : Venue) :
    (handlers.foldl (fun venue handler => handler.detach venue) venue).ground
      = venue.ground := by
  induction handlers generalizing venue with
  | nil => rfl
  | cons handler handlers ih => exact (ih _).trans (handler.ground_detach venue)

-- ========================================================= invariant

namespace Rig

variable {κ : Type}

/-- What a connection's handler for pixels holds. -/
def held (rig : Rig κ) (id : ConnectionId) : Held :=
  ((rig.station? id).map Station.held).getD []

/-- Every connection has handlers for different endpoints, they hold what the
framebuffer has it down for, and no channel twice. -/
structure Settled (rig : Rig κ) : Prop where
  distinct : ∀ id station, rig.station? id = some station → station.Distinct
  agrees : ∀ id, rig.venue.framebuffer.Agrees id (rig.held id)
  channels : ∀ id, ((rig.held id).map Subscription.channel).Nodup

variable {rig middle later : Rig κ} {id : ConnectionId} {station after : Station κ}

theorem held_of_station? (hfound : rig.station? id = some station) :
    rig.held id = station.held := by
  unfold held
  rw [hfound]
  rfl

theorem held_of_none (hnone : rig.station? id = none) : rig.held id = [] := by
  unfold held
  rw [hnone]
  rfl

/-- Nobody is there yet, and no region is observed. -/
theorem settled_vacant (venue : Venue) :
    Settled (κ := κ)
      ⟨{ venue with framebuffer := ⟨venue.framebuffer.pixels, .empty⟩ }, []⟩ where
  distinct := nofun
  agrees _ := ⟨⟨0, nofun, List.nodup_nil, nofun⟩, rfl⟩
  channels _ := List.nodup_nil

theorem Settled.agrees_of_getElem? (hsettled : rig.Settled)
    (hfound : rig.station? id = some station) {position : Nat} {held : Held}
    (hhandler : station.handlers[position]? = some (.pixelData held)) :
    rig.venue.framebuffer.Agrees id held := by
  have hagrees := hsettled.agrees id
  rw [held_of_station? hfound,
    (hsettled.distinct id station hfound).held_of_getElem? hhandler] at hagrees
  exact hagrees

/-- Whoever observes a region does so for a subscription that is held. -/
theorem Settled.held_of_observer (hsettled : rig.Settled) {entry : Token × RegionObserver Watcher}
    (hentry : entry ∈ rig.venue.framebuffer.observers.entries) :
    ∃ delivery, entry.2 = ⟨delivery.region, .delivery delivery⟩
      ∧ ⟨delivery.channel, entry.1⟩ ∈ rig.held delivery.connection := by
  obtain ⟨count, horderly⟩ := (hsettled.agrees 0).orderly
  obtain ⟨delivery, howned, -, -⟩ := horderly.owned entry hentry
  refine ⟨delivery, howned, ?_⟩
  rw [(hsettled.agrees delivery.connection).books, List.mem_reverse]
  exact Framebuffer.mem_booked_iff.2 ⟨entry, hentry, Subscription.behind?_eq_some_iff.2
    ⟨delivery, congrArg RegionObserver.observer howned, rfl, rfl⟩⟩

/-- The venue changes, and not the observers. -/
theorem Settled.of_venue (hsettled : rig.Settled) {venue : Venue}
    (hsame : venue.framebuffer.observers = rig.venue.framebuffer.observers) :
    Settled { rig with venue } := by
  refine ⟨hsettled.distinct, fun id => ?_, hsettled.channels⟩
  obtain ⟨⟨count, horderly⟩, hbooks⟩ := hsettled.agrees id
  refine ⟨⟨count, horderly.of_observers hsame⟩, hbooks.trans ?_⟩
  exact congrArg List.reverse (Framebuffer.booked_of_observers hsame id).symm

-- =============================================================== acts

/-- What is done for a connection keeps a rig settled and leaves every other one
its station and what it is owed; observers that are new have new tokens, and
nothing else about the venue changes. -/
structure Minds (id : ConnectionId) (before after : Rig κ) : Prop where
  settled : before.Settled → after.Settled
  others : before.Settled → ∀ other, other ≠ id →
    after.station? other = before.station? other
      ∧ after.venue.framebuffer.owed other = before.venue.framebuffer.owed other
  follows : before.Settled → after.venue.framebuffer.Follows before.venue.framebuffer
  ground : after.venue.ground = before.venue.ground

/-- The rig after a handler had its turn. -/
def afterTurn (rig : Rig κ) (station : Station κ) (position : Nat) (turn : HandlerTurn κ) :
    Rig κ :=
  rig.put station.id (station.afterTurn position turn) turn.venue

theorem handleAt_of_station? [Sink κ] (hfound : rig.station? id = some station)
    (position : Nat) (header : Header) (payload : Bytes) :
    rig.handleAt id position header payload = station.handlers[position]?.map fun handler =>
      let turn := handler.handle id station.connection rig.venue header payload
      (turn.outcome, rig.afterTurn station position turn) := by
  obtain ⟨-, rfl⟩ := mem_of_station? hfound
  unfold handleAt
  rw [hfound]
  exact Option.map_map ..

theorem detach_of_station? (hfound : rig.station? id = some station) (endpoint : Endpoint) :
    rig.detach id endpoint
      = rig.put id (station.detach endpoint rig.venue).1 (station.detach endpoint rig.venue).2 := by
  unfold detach
  rw [hfound]
  rfl

theorem detachAll_of_station? (hfound : rig.station? id = some station) :
    rig.detachAll id
      = rig.put id (station.detachAll rig.venue).1 (station.detachAll rig.venue).2 := by
  unfold detachAll
  rw [hfound]
  rfl

theorem station?_detachAll (hfound : rig.station? id = some station) :
    (rig.detachAll id).station? id = some { station with handlers := [] } := by
  rw [detachAll_of_station? hfound]
  exact station?_put hfound
    ((station.id_detachAll rig.venue).trans (mem_of_station? hfound).2) _

/-- Without handlers a connection is owed nothing. -/
theorem Settled.owed_detachAll (hsettled : rig.Settled) (hfound : rig.station? id = some station) :
    (rig.detachAll id).venue.framebuffer.owed id = [] := by
  have hagrees := hsettled.agrees id
  rw [held_of_station? hfound] at hagrees
  obtain ⟨-, -, -, hbooks⟩ :=
    Station.detachAll_cases (hsettled.distinct id station hfound) rig.venue
  rw [detachAll_of_station? hfound]
  have hframebuffer : (rig.put id (station.detachAll rig.venue).1
      (station.detachAll rig.venue).2).venue.framebuffer
        = (Subscription.release (fun _ => true) station.held rig.venue.framebuffer).2 :=
    congrArg Prod.snd hbooks
  rw [hframebuffer, hagrees.owed_release (fun _ => true) fun _ => rfl]
  exact List.filter_eq_nil_iff.2 fun _ _ => Bool.false_ne_true

namespace Minds

theorem refl (id : ConnectionId) (rig : Rig κ) : Minds id rig rig :=
  ⟨fun hsettled => hsettled, fun _ _ _ => ⟨rfl, rfl⟩, fun _ => .of_observers rfl, rfl⟩

theorem trans (hfirst : Minds id rig middle) (hsecond : Minds id middle later) :
    Minds id rig later := by
  refine ⟨fun hsettled => hsecond.settled (hfirst.settled hsettled), fun hsettled other hne => ?_,
    fun hsettled => ?_, hsecond.ground.trans hfirst.ground⟩
  · obtain ⟨hstation, howed⟩ := hfirst.others hsettled other hne
    obtain ⟨hstation', howed'⟩ := hsecond.others (hfirst.settled hsettled) other hne
    exact ⟨hstation'.trans hstation, howed'.trans howed⟩
  · exact (hsecond.follows (hfirst.settled hsettled)).trans (hfirst.follows hsettled)

/-- It is enough that the books of the connection move. -/
theorem of_moves (hlater : later.station? id = some after)
    (hothers : ∀ other, other ≠ id → later.station? other = rig.station? other)
    (hafter : rig.Settled → after.Distinct ∧ Moves id (rig.held id) rig.venue.framebuffer
      after.held later.venue.framebuffer)
    (hground : later.venue.ground = rig.venue.ground) : Minds id rig later := by
  have hheld : ∀ other, other ≠ id → later.held other = rig.held other := by
    intro other hne
    unfold held
    rw [hothers other hne]
  refine ⟨fun hsettled => ⟨fun other found hfound => ?distinct, fun other => ?agrees,
      fun other => ?channels⟩,
    fun hsettled other hne => ⟨hothers other hne, ?owed⟩, fun hsettled => ?follows, hground⟩
  case distinct =>
    by_cases hne : other = id
    · subst hne
      rw [hlater] at hfound
      cases hfound
      exact (hafter hsettled).1
    · rw [hothers other hne] at hfound
      exact hsettled.distinct other found hfound
  case agrees =>
    obtain ⟨-, hmoves⟩ := hafter hsettled
    have hagrees := hsettled.agrees id
    by_cases hne : other = id
    · subst hne
      rw [held_of_station? hlater]
      exact hmoves.agrees hagrees
    · obtain ⟨count, horderly⟩ := hagrees.orderly
      refine ⟨(hmoves.agrees hagrees).orderly, ?_⟩
      rw [hheld other hne, hmoves.booked_of_ne horderly hagrees.books hne]
      exact (hsettled.agrees other).books
  case channels =>
    by_cases hne : other = id
    · subst hne
      rw [held_of_station? hlater]
      exact (hafter hsettled).2.channels (hsettled.channels other)
    · rw [hheld other hne]
      exact hsettled.channels other
  case owed =>
    obtain ⟨-, hmoves⟩ := hafter hsettled
    exact hmoves.owed_of_ne (hsettled.agrees id) hne
  case follows => exact (hafter hsettled).2.follows

/-- The station of the connection changes, and the venue with it. -/
theorem put (hfound : rig.station? id = some station) (hid : after.id = id) {venue : Venue}
    (hafter : station.Distinct → after.Distinct
      ∧ Moves id station.held rig.venue.framebuffer after.held venue.framebuffer)
    (hground : venue.ground = rig.venue.ground) : Minds id rig (rig.put id after venue) := by
  refine of_moves (station?_put hfound hid venue)
    (fun other hne => rig.station?_put_of_ne hne hid venue) (fun hsettled => ?_) hground
  rw [held_of_station? hfound]
  exact hafter (hsettled.distinct id station hfound)

/-- A connection changes, and keeps its handlers. -/
theorem modify (rig : Rig κ) (id : ConnectionId) (change : Station κ → Connection κ) :
    Minds id rig (rig.modify id fun station => { station with connection := change station }) := by
  cases hfound : rig.station? id with
  | none =>
      rw [modify_of_none hfound]
      exact refl id rig
  | some station =>
      refine of_moves (station?_modify hfound fun _ hid => hid)
        (fun other hne => rig.station?_modify_of_ne hne.symm fun _ hid => hid)
        (fun hsettled => ?_) rfl
      rw [held_of_station? hfound]
      have hdistinct : station.Distinct := hsettled.distinct id station hfound
      exact ⟨hdistinct, .same⟩

/-- A message is handed to one of the handlers. -/
theorem handleAt [Sink κ] {position : Nat} {header : Header} {payload : Bytes} {outcome : Outcome}
    (hhandle : rig.handleAt id position header payload = some (outcome, later)) :
    Minds id rig later := by
  cases hfound : rig.station? id with
  | none =>
      unfold Rig.handleAt at hhandle
      rw [hfound] at hhandle
      cases hhandle
  | some station =>
      rw [handleAt_of_station? hfound] at hhandle
      obtain ⟨handler, hhandler, hturn⟩ := Option.map_eq_some_iff.1 hhandle
      obtain ⟨-, rfl⟩ := mem_of_station? hfound
      cases hturn
      exact put hfound (station.id_afterTurn ..)
        (fun hdistinct => hdistinct.moves_handle hhandler rig.venue header payload)
        (handler.ground_handle ..)

/-- The handler of an endpoint is taken away. -/
theorem detach (rig : Rig κ) (id : ConnectionId) (endpoint : Endpoint) :
    Minds id rig (rig.detach id endpoint) := by
  cases hfound : rig.station? id with
  | none =>
      unfold Rig.detach
      rw [hfound]
      exact refl id rig
  | some station =>
      obtain ⟨-, rfl⟩ := mem_of_station? hfound
      rw [detach_of_station? hfound]
      exact put hfound (station.id_detach endpoint rig.venue)
        (fun hdistinct => hdistinct.moves_detach endpoint rig.venue)
        (Venue.ground_detachAll _ rig.venue)

/-- All handlers are taken away. -/
theorem detachAll (rig : Rig κ) (id : ConnectionId) : Minds id rig (rig.detachAll id) := by
  cases hfound : rig.station? id with
  | none =>
      unfold Rig.detachAll
      rw [hfound]
      exact refl id rig
  | some station =>
      obtain ⟨-, rfl⟩ := mem_of_station? hfound
      rw [detachAll_of_station? hfound]
      exact put hfound (station.id_detachAll rig.venue)
        (fun hdistinct => hdistinct.moves_detachAll rig.venue)
        (Venue.ground_detachAll station.handlers rig.venue)

end Minds

/-- Something that is done for one connection. -/
inductive Act [Sink κ] (id : ConnectionId) (rig : Rig κ) : Rig κ → Prop where
  /-- The connection changes, and keeps its handlers. -/
  | changes (change : Station κ → Connection κ) :
      Act id rig (rig.modify id fun station => { station with connection := change station })
  /-- A message is handed to one of its handlers. -/
  | handled {position : Nat} {header : Header} {payload : Bytes} {outcome : Outcome}
      {after : Rig κ} (hhandle : rig.handleAt id position header payload = some (outcome, after)) :
      Act id rig after
  /-- The handler of an endpoint is taken away. -/
  | detaches (endpoint : Endpoint) : Act id rig (rig.detach id endpoint)
  /-- All its handlers are taken away. -/
  | leaves : Act id rig (rig.detachAll id)

theorem Act.minds [Sink κ] (hact : rig.Act id later) : Minds id rig later := by
  cases hact with
  | changes change => exact .modify rig id change
  | handled hhandle => exact .handleAt hhandle
  | detaches endpoint => exact .detach rig id endpoint
  | leaves => exact .detachAll rig id

/-- Things that are done for one connection, one behind the other. -/
def Acts [Sink κ] (id : ConnectionId) : Rig κ → Rig κ → Prop := Relation.ReflTransGen (Act id)

theorem Acts.minds [Sink κ] (hacts : rig.Acts id later) : Minds id rig later := by
  induction hacts with
  | refl => exact .refl id rig
  | tail _ hact ih => exact ih.trans hact.minds

-- ============================================================= events

/-- A connection is taken in behind everyone else, with the handlers that these
entries give it. -/
def adjoin (rig : Rig κ) (id : ConnectionId) (kinds : List HandlerKind)
    (connection : Connection κ) : Rig κ :=
  let attached := Worker.attach id kinds .empty rig.venue
  { venue := attached.2.2
    stations := rig.stations ++ [⟨id, connection, attached.1.handlers⟩] }

/-- Whoever was there is found first. -/
theorem station?_adjoin (rig : Rig κ) (id other : ConnectionId) (kinds : List HandlerKind)
    (connection : Connection κ) :
    (rig.adjoin id kinds connection).station? other = (rig.station? other).or
      (if id = other then
        some ⟨id, connection, (Worker.attach id kinds .empty rig.venue).1.handlers⟩
      else none) := by
  show (rig.stations ++ [(_ : Station κ)]).find? (·.id == other) = _
  rw [List.find?_append, List.find?_singleton]
  by_cases hid : id = other
  · rw [if_pos hid, if_pos (beq_iff_eq.2 hid)]
    rfl
  · rw [if_neg hid, if_neg (mt beq_iff_eq.1 hid)]
    rfl

theorem Minds.adjoin (rig : Rig κ) (id : ConnectionId) (kinds : List HandlerKind)
    (connection : Connection κ) : Minds id rig (rig.adjoin id kinds connection) := by
  have hgiven := Worker.given_attach id kinds rig.venue
  have hothers : ∀ other, other ≠ id →
      (rig.adjoin id kinds connection).station? other = rig.station? other := by
    intro other hne
    rw [station?_adjoin, if_neg hne.symm, Option.or_none]
  cases hfound : rig.station? id with
  | none =>
      have hlater := rig.station?_adjoin id id kinds connection
      rw [hfound, Option.none_or, if_pos rfl] at hlater
      refine of_moves hlater hothers (fun _ => ⟨hgiven.indexed.distinct, ?_⟩) hgiven.ground
      rw [Station.held_of_fresh hgiven.fresh, held_of_none hfound]
      exact hgiven.framebuffer ▸ .same
  | some station =>
      have hlater := rig.station?_adjoin id id kinds connection
      rw [hfound, Option.some_or] at hlater
      refine of_moves hlater hothers
        (fun hsettled => ⟨hsettled.distinct id station hfound, ?_⟩) hgiven.ground
      rw [held_of_station? hfound]
      exact hgiven.framebuffer ▸ .same

/-- What can happen at a rig, whoever runs over it. -/
inductive Event [Sink κ] (rig : Rig κ) : Rig κ → Prop where
  | acts {id : ConnectionId} {after : Rig κ} (hact : rig.Act id after) : Event rig after
  /-- A connection is taken in. -/
  | joins (id : ConnectionId) (kinds : List HandlerKind) (connection : Connection κ) :
      Event rig (rig.adjoin id kinds connection)
  /-- What all share changes behind the connections' backs. -/
  | turns {venue : Venue}
      (hsame : venue.framebuffer.observers = rig.venue.framebuffer.observers) :
      Event rig { rig with venue }

/-- A rig becomes another, event by event. -/
def Evolves [Sink κ] : Rig κ → Rig κ → Prop := Relation.ReflTransGen Event

namespace Evolves

variable [Sink κ]

theorem refl (rig : Rig κ) : rig.Evolves rig := Relation.ReflTransGen.refl

theorem trans (hfirst : rig.Evolves middle) (hsecond : middle.Evolves later) :
    rig.Evolves later := Relation.ReflTransGen.trans hfirst hsecond

theorem single (hevent : rig.Event later) : rig.Evolves later :=
  Relation.ReflTransGen.single hevent

theorem of_acts (hacts : rig.Acts id later) : rig.Evolves later := by
  induction hacts with
  | refl => exact refl rig
  | tail _ hact ih => exact ih.trans (single (.acts hact))

/-- A machine that runs over a rig: what every item comes to is something that can
happen at the rig, and so is what they all come to. -/
theorem foldl {σ ι : Type} (rig : σ → Rig κ) {step : σ → ι → σ}
    (hstep : ∀ (state : σ) (item : ι), (rig state).Evolves (rig (step state item)))
    (items : List ι) (state : σ) : (rig state).Evolves (rig (items.foldl step state)) := by
  induction items generalizing state with
  | nil => exact refl (rig state)
  | cons item items ih => exact (hstep state item).trans (ih (step state item))

/-- Whatever happens keeps the books, and the observers follow those from before. -/
theorem keeps (hevolves : rig.Evolves later) (hsettled : rig.Settled) :
    later.Settled ∧ later.venue.framebuffer.Follows rig.venue.framebuffer := by
  induction hevolves with
  | refl => exact ⟨hsettled, .of_observers rfl⟩
  | @tail middle later _ hevent ih =>
      obtain ⟨hsettled, hfollows⟩ := ih
      cases hevent with
      | acts hact =>
          exact ⟨hact.minds.settled hsettled, (hact.minds.follows hsettled).trans hfollows⟩
      | joins id kinds connection =>
          have hminds := Minds.adjoin middle id kinds connection
          exact ⟨hminds.settled hsettled, (hminds.follows hsettled).trans hfollows⟩
      | turns hsame =>
          exact ⟨hsettled.of_venue hsame, (Framebuffer.Follows.of_observers hsame).trans hfollows⟩

theorem settled (hevolves : rig.Evolves later) (hsettled : rig.Settled) : later.Settled :=
  (hevolves.keeps hsettled).1

theorem follows (hevolves : rig.Evolves later) (hsettled : rig.Settled) :
    later.venue.framebuffer.Follows rig.venue.framebuffer :=
  (hevolves.keeps hsettled).2

end Evolves

-- ========================================================= backstage

section Backstage

variable [Sink κ] (rig : Rig κ)

theorem evolves_tuned (now : UInt64) (entropy : Entropy) : rig.Evolves (rig.tuned now entropy) :=
  .single (.turns rfl)

/-- One observer is told that a region is finished. -/
theorem evolves_tell (frameNumber : UInt64) (token : Token) (watcher : Watcher) :
    rig.Evolves (rig.tell frameNumber token watcher) := by
  cases watcher with
  | outsider number => exact .refl rig
  | delivery delivery => exact .single (.acts (.changes _))

/-- It is a connection's business only. -/
theorem venue_tell (frameNumber : UInt64) (token : Token) (watcher : Watcher) :
    (rig.tell frameNumber token watcher).venue = rig.venue := by
  cases watcher with
  | outsider number => rfl
  | delivery delivery => rfl

theorem venue_finish (region : Region) (frameNumber : UInt64) :
    (rig.finish region frameNumber).2.venue = rig.venue := by
  show ((rig.venue.framebuffer.due region).foldl _ rig).venue = rig.venue
  generalize rig.venue.framebuffer.due region = due
  induction due generalizing rig with
  | nil => rfl
  | cons entry due ih => exact (ih _).trans (rig.venue_tell frameNumber entry.1 entry.2.observer)

theorem evolves_finish (region : Region) (frameNumber : UInt64) :
    rig.Evolves (rig.finish region frameNumber).2 :=
  .foldl id (fun rig (entry : Token × RegionObserver Watcher) =>
    rig.evolves_tell frameNumber entry.1 entry.2.observer) (rig.venue.framebuffer.due region) rig

theorem evolves_announce (key : UInt32) : rig.Evolves (rig.announce key) := by
  unfold announce
  split
  · exact .refl rig
  · refine Evolves.foldl id (fun rig watcher => ?_) _ rig
    cases watcher with
    | outsider number => exact .refl rig
    | connection id => exact .single (.acts (.changes _))

theorem evolves_takeOver (done : Broadcaster.Work × Broadcaster KeyWatcher × Entropy) :
    rig.Evolves (rig.takeOver done).2 := by
  obtain ⟨work, group, entropy⟩ := done
  have htaken : rig.Evolves
      { rig with venue := { rig.venue with group := some group, entropy } } := .single (.turns rfl)
  cases work with
  | rotated key => exact htaken.trans (evolves_announce _ key.id)
  | _ => exact htaken

theorem evolves_rotate : rig.Evolves rig.rotate.2 := by
  unfold rotate
  split
  · exact .refl rig
  · exact rig.evolves_takeOver _

theorem evolves_work : rig.Evolves rig.work.2 := by
  unfold work
  split
  · exact .refl rig
  · exact rig.evolves_takeOver _

/-- So does all that goes on backstage. -/
theorem evolves_apart (event : Backstage) : rig.Evolves (rig.apart event) := by
  cases event with
  | rotate entropy => exact (rig.evolves_tuned _ entropy).trans (evolves_rotate _)
  | request item => exact .single (.turns rfl)
  | work now entropy => exact (rig.evolves_tuned now entropy).trans (evolves_work _)
  | rewire channels => exact .single (.turns rfl)
  | draw start pixels =>
      unfold apart
      simp only
      split
      · exact .refl rig
      next framebuffer hwrite => exact .single (.turns (Framebuffer.observers_of_write hwrite))
  | finish region frameNumber => exact rig.evolves_finish region frameNumber

end Backstage

end Rig

-- =========================================================== workers

namespace Worker

/-- What has arrived for a connection is done for that connection. -/
theorem acts_takes {id : ConnectionId} {rig after : Rig Outlet} (htakes : rig.Takes id after) :
    rig.Acts id after := by
  induction htakes with
  | nothing rig => exact .refl
  | received => exact .single (.changes _)
  | handled hhandled => exact .single (.handled hhandled)
  | refused rig header => exact .single (.changes _)
  | andThen _ _ hfirst hsecond => exact Relation.ReflTransGen.trans hfirst hsecond

/-- A step of a worker is done for its own connection. -/
theorem acts_step (worker : Worker) (rig : Rig Outlet) (next : Step) :
    rig.Acts worker.id (worker.step rig next).2 := by
  have htouches := worker.touches_step rig next
  generalize (worker.step rig next).2 = after at htouches ⊢
  cases htouches with
  | takes htakes => exact acts_takes htakes
  | hushes => exact .single (.changes _)
  | releases => exact .single .leaves

theorem evolves_step (worker : Worker) (rig : Rig Outlet) (next : Step) :
    rig.Evolves (worker.step rig next).2 :=
  .of_acts (worker.acts_step rig next)

/-- A worker that starts is that of a connection that is taken in. -/
theorem evolves_start (id : ConnectionId) (peer : SocketAddress) (session : Session)
    (registry : Registry HandlerKind) (callbacks : Nat) (rig : Rig Outlet) :
    rig.Evolves (start id peer session registry callbacks rig).2.2 :=
  .single (.joins id (registry.entries.map Prod.snd) (.new peer (Outlet.mk session [])))

end Worker

end Luminaire
