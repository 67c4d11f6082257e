/-
How a rig looks to one connection.

What is done for another connection leaves a connection its station and
what it is owed (`Rig.Minds`). It is only in the tokens that they come to
know of each other.

Two rigs may look alike to a connection (`Rig.Alike`): its handlers are the
same but for tokens, it is owed the same, and so is what is common to all.
A message on the connection then comes out the same at both
(`Rig.Alike.handleAt`), and so does the departure of its handlers.
-/
import Luminaire.Proofs.Server.Accord

namespace Luminaire

open Subscription (Held Moves)

-- ========================================================== stations

namespace Station

variable {κ : Type}

/-- A station without what its handlers keep about their observers. -/
def bare (station : Station κ) : Station κ :=
  { station with handlers := station.handlers.map Handler.bare }

theorem bare_afterTurn (station : Station κ) (position : Nat) (turn : HandlerTurn κ) :
    (station.afterTurn position turn).bare
      = ⟨station.id, turn.connection,
        (station.handlers.map Handler.bare).set position turn.handler.bare⟩ :=
  congrArg (Station.mk station.id turn.connection) List.map_set

theorem authState?_bare (station : Station κ) : station.bare.authState? = station.authState? := by
  show (station.handlers.map Handler.bare).findSome? _ = station.handlers.findSome? _
  rw [List.findSome?_map]
  refine congrArg (station.handlers.findSome? ·) (funext fun handler => ?_)
  cases handler with
  | _ => rfl

end Station

/-- Which handlers a connection is given depends on whether there is a group. -/
theorem Worker.attach_standard_alike (id : ConnectionId) {left right : Venue}
    (hground : left.ground = right.ground) :
    let mine := attach id (standardRegistry.entries.map Prod.snd) .empty left
    let yours := attach id (standardRegistry.entries.map Prod.snd) .empty right
    mine.1.slots = yours.1.slots
      ∧ mine.1.handlers.map Handler.bare = yours.1.handlers.map Handler.bare := by
  obtain ⟨-, -, hgroup⟩ := Venue.Ground.mk.inj hground
  obtain ⟨directory, framebuffer, group, now, entropy⟩ := left
  obtain ⟨directory', framebuffer', group', now', entropy'⟩ := right
  cases group with
  | none =>
      cases group' with
      | none => exact ⟨rfl, rfl⟩
      | some group' => cases hgroup
  | some group =>
      cases group' with
      | none => cases hgroup
      | some group' => exact ⟨rfl, rfl⟩

-- ============================================================== rigs

namespace Rig

-- ============================================================= alike

/-- Two rigs that look the same to a connection. -/
structure Alike (id : ConnectionId) (left right : Rig Outlet) : Prop where
  station : (left.station? id).map Station.bare = (right.station? id).map Station.bare
  venue : left.venue.Alike id right.venue

namespace Alike

variable {rig : Rig Outlet} {id : ConnectionId}

/-- Turns that come to the same leave rigs alike. -/
theorem of_turns {left right : Rig Outlet} {mine yours : Station Outlet}
    {turn turn' : HandlerTurn Outlet} (hmine : left.station? id = some mine)
    (hyours : right.station? id = some yours) (hbare : mine.bare = yours.bare)
    (hturn : turn.Alike id turn') (position : Nat) :
    (left.afterTurn mine position turn).Alike id (right.afterTurn yours position turn') := by
  obtain ⟨-, rfl⟩ := mem_of_station? hmine
  obtain ⟨hid, -, hhandlers⟩ := Station.mk.inj hbare
  have hmine' : (left.afterTurn mine position turn).station? mine.id
      = some (mine.afterTurn position turn) := station?_put hmine (mine.id_afterTurn ..) _
  have hyours' : (right.afterTurn yours position turn').station? mine.id
      = some (yours.afterTurn position turn') := by
    rw [hid] at hyours ⊢
    exact station?_put hyours (yours.id_afterTurn ..) _
  refine ⟨?_, hturn.venue⟩
  rw [hmine', hyours', Option.map_some, Option.map_some, Station.bare_afterTurn,
    Station.bare_afterTurn, hid, hhandlers, hturn.connection, hturn.handler]

variable {left right : Rig Outlet} (halike : left.Alike id right)
include halike

/-- Both have a station for the connection, or neither has. -/
theorem stations :
    left.station? id = none ∧ right.station? id = none
      ∨ ∃ mine yours, left.station? id = some mine ∧ right.station? id = some yours
        ∧ mine.bare = yours.bare := by
  have hstation := halike.station
  cases hmine : left.station? id with
  | none =>
      rw [hmine, Option.map_none] at hstation
      exact .inl ⟨rfl, Option.map_eq_none_iff.1 hstation.symm⟩
  | some mine =>
      rw [hmine, Option.map_some] at hstation
      obtain ⟨yours, hyours, hbare⟩ := Option.map_eq_some_iff.1 hstation.symm
      exact .inr ⟨mine, yours, rfl, hyours, hbare.symm⟩

/-- What another connection does at one of them makes no difference. -/
theorem of_minds {other : ConnectionId} (hsettled : left.Settled) {later : Rig Outlet}
    (hminds : Minds other left later) (hne : id ≠ other) : later.Alike id right := by
  obtain ⟨hstation, howed⟩ := hminds.others hsettled id hne
  refine ⟨?_, howed.trans halike.venue.owed, hminds.ground.trans halike.venue.ground⟩
  rw [hstation]
  exact halike.station

/-- The connection itself changes, at both. -/
theorem modify (change : Connection Outlet → Connection Outlet) :
    (left.modify id fun station => { station with connection := change station.connection }).Alike
      id (right.modify id fun station =>
        { station with connection := change station.connection }) := by
  let changed (station : Station Outlet) : Station Outlet :=
    { station with connection := change station.connection }
  have hid : ∀ station : Station Outlet, station.id = id → (changed station).id = id :=
    fun _ hid => hid
  have hmap : ∀ rig : Rig Outlet, ((rig.modify id changed).station? id).map Station.bare
      = ((rig.station? id).map Station.bare).map changed := by
    intro rig
    rw [rig.station?_modify_self hid, Option.map_map, Option.map_map]
    rfl
  exact ⟨(hmap left).trans ((congrArg _ halike.station).trans (hmap right).symm), halike.venue⟩

/-- A message on the connection comes out the same at both. -/
theorem handleAt (hleft : left.Settled) (hright : right.Settled)
    (hnow : left.venue.now = right.venue.now)
    (hentropy : left.venue.entropy = right.venue.entropy) (position : Nat) (header : Header)
    (payload : Bytes) :
    left.handleAt id position header payload = none
        ∧ right.handleAt id position header payload = none
      ∨ ∃ outcome left' right', left.handleAt id position header payload = some (outcome, left')
        ∧ right.handleAt id position header payload = some (outcome, right')
        ∧ left'.Alike id right' := by
  obtain ⟨hmine, hyours⟩ | ⟨mine, yours, hmine, hyours, hbare⟩ := halike.stations
  · unfold Rig.handleAt
    rw [hmine, hyours]
    exact .inl ⟨rfl, rfl⟩
  · obtain ⟨hid, hconnection, hhandlers⟩ := Station.mk.inj hbare
    rw [handleAt_of_station? hmine, handleAt_of_station? hyours, ← hconnection]
    have hsame := congrArg (·[position]?) hhandlers
    simp only [List.getElem?_map] at hsame
    cases hhandler : mine.handlers[position]? with
    | none =>
        rw [hhandler, Option.map_none] at hsame
        rw [Option.map_eq_none_iff.1 hsame.symm]
        exact .inl ⟨rfl, rfl⟩
    | some handler =>
        rw [hhandler, Option.map_some] at hsame
        obtain ⟨other, hother, hsame⟩ := Option.map_eq_some_iff.1 hsame.symm
        rw [hother]
        have hturn := Handler.handle_alike hsame.symm halike.venue hnow hentropy
          (fun held hheld => hleft.agrees_of_getElem? hmine (hheld ▸ hhandler))
          (fun held hheld => hright.agrees_of_getElem? hyours (hheld ▸ hother)) mine.connection
          header payload
        refine .inr ⟨_, _, _, rfl, ?_, of_turns hmine hyours hbare hturn position⟩
        rw [hturn.outcome]
        rfl

/-- The handlers of the connection are taken away, at both. -/
theorem detachAll (hleft : left.Settled) (hright : right.Settled) :
    (left.detachAll id).Alike id (right.detachAll id) := by
  obtain ⟨hmine, hyours⟩ | ⟨mine, yours, hmine, hyours, hbare⟩ := halike.stations
  · unfold Rig.detachAll
    rw [hmine, hyours]
    exact halike
  · obtain ⟨hid, hconnection, -⟩ := Station.mk.inj hbare
    refine ⟨?_, ?_, ?_⟩
    · rw [station?_detachAll hmine, station?_detachAll hyours]
      exact congrArg some (congrArg₂ (Station.mk · · []) hid hconnection)
    · rw [hleft.owed_detachAll hmine, hright.owed_detachAll hyours]
    · exact (Minds.detachAll left id).ground.trans
        (halike.venue.ground.trans (Minds.detachAll right id).ground.symm)

end Alike

end Rig

-- ========================================================= rendering

/-- Sends the pixels of a delivery. -/
def Delivery.push (pixels : List Pixel) (frameNumber : UInt64) (connection : Connection Outlet)
    (delivery : Delivery) : Connection Outlet :=
  match (⟨pixels, .empty⟩ : Framebuffer Watcher).copy delivery.region with
  | .error _ => connection
  | .ok pixels =>
      (connection.pushWith .pixelData
        (Subscription.channelData delivery frameNumber pixels)).2

/-- What is held is sent. -/
theorem Subscription.deliver_of_mem {held : Held} {token : Token} {delivery : Delivery}
    (hheld : ⟨delivery.channel, token⟩ ∈ held) (framebuffer : Framebuffer Watcher)
    (connection : Connection Outlet) (frameNumber : UInt64) :
    deliver held framebuffer connection frameNumber token delivery
      = delivery.push framebuffer.pixels frameNumber connection :=
  if_pos (isLive_iff.2 hheld)

/-- The deliveries that are due are those owed whose regions meet the one that
is finished. -/
theorem Framebuffer.Orderly.owed_due {framebuffer : Framebuffer Watcher} {count : Nat}
    (horderly : framebuffer.Orderly count) (id : ConnectionId) (region : Region) :
    (framebuffer.due region).filterMap (Delivery.behind? id)
      = (framebuffer.owed id).filter fun delivery => delivery.region.overlaps region := by
  show (framebuffer.observers.entries.filter _).filterMap _ = _
  unfold owed
  rw [List.filterMap_filter, List.filter_filterMap]
  refine List.filterMap_congr fun entry hentry => ?_
  obtain ⟨token, observer⟩ := entry
  obtain ⟨delivery, rfl : observer = _, -⟩ := horderly.owned _ hentry
  rw [Delivery.behind?_delivery]
  by_cases hid : delivery.connection = id
  · rw [if_pos hid]
    rfl
  · rw [if_neg hid]
    exact ite_self none

namespace Rig

variable {rig left right : Rig Outlet} {id : ConnectionId}

/-- Whoever has an observer holds what it stands for, and is sent its pixels. -/
theorem Settled.station?_tell_self (hsettled : rig.Settled) {token : Token} {delivery : Delivery}
    (hentry : (token, ⟨delivery.region, .delivery delivery⟩)
      ∈ rig.venue.framebuffer.observers.entries) (frameNumber : UInt64) :
    (rig.tell frameNumber token (.delivery delivery)).station? delivery.connection
      = (rig.station? delivery.connection).map fun station => { station with
          connection := delivery.push rig.venue.framebuffer.pixels frameNumber
            station.connection } := by
  have hid : ∀ station : Station Outlet, station.id = delivery.connection →
      (station.deliver rig.venue.framebuffer frameNumber token delivery).id
        = delivery.connection := fun _ hid => hid
  refine (rig.station?_modify_self hid).trans (Option.map_congr fun station hfound => ?_)
  have hheld : ⟨delivery.channel, token⟩ ∈ station.held?.getD [] := by
    have hbooks := (hsettled.agrees delivery.connection).books
    rw [held_of_station? hfound] at hbooks
    rw [← Station.held_eq, hbooks, List.mem_reverse, Framebuffer.mem_booked_iff]
    exact ⟨_, hentry, if_pos rfl⟩
  exact congrArg (Station.mk station.id · station.handlers)
    (Subscription.deliver_of_mem hheld rig.venue.framebuffer station.connection frameNumber)

/-- Telling observers sends a connection what it is owed by them, in order. -/
theorem Settled.station?_foldl_tell (hsettled : rig.Settled) (frameNumber : UInt64)
    {due : List (Token × RegionObserver Watcher)}
    (hdue : ∀ entry ∈ due, entry ∈ rig.venue.framebuffer.observers.entries) :
    (due.foldl (fun rig entry => rig.tell frameNumber entry.1 entry.2.observer) rig).station? id
      = (rig.station? id).map fun station => { station with
          connection := (due.filterMap (Delivery.behind? id)).foldl
            (Delivery.push rig.venue.framebuffer.pixels frameNumber) station.connection } := by
  induction due generalizing rig with
  | nil => exact (Option.map_id' ..).symm
  | cons entry due ih =>
      obtain ⟨hentry, hrest⟩ := List.forall_mem_cons.1 hdue
      have hvenue := rig.venue_tell frameNumber entry.1 entry.2.observer
      have htold := (rig.evolves_tell frameNumber entry.1 entry.2.observer).settled hsettled
      rw [List.foldl_cons, ih htold (hvenue ▸ hrest), hvenue]
      obtain ⟨token, observer⟩ := entry
      obtain ⟨count, horderly⟩ := (hsettled.agrees id).orderly
      obtain ⟨delivery, rfl : observer = _, -⟩ := horderly.owned _ hentry
      have howed := Delivery.behind?_delivery id token delivery
      by_cases hid : delivery.connection = id
      · subst hid
        rw [if_pos rfl] at howed
        rw [List.filterMap_cons_some howed, hsettled.station?_tell_self hentry, Option.map_map]
        rfl
      · rw [if_neg hid] at howed
        rw [List.filterMap_cons_none howed]
        exact congrArg (Option.map _) (rig.station?_modify_of_ne hid fun _ hsame => hsame)

/-- The renderer has finished a region. -/
theorem Settled.station?_finish (hsettled : rig.Settled) (id : ConnectionId) (region : Region)
    (frameNumber : UInt64) :
    (rig.finish region frameNumber).2.station? id
      = (rig.station? id).map fun station => { station with
          connection := ((rig.venue.framebuffer.owed id).filter fun delivery =>
            delivery.region.overlaps region).foldl
              (Delivery.push rig.venue.framebuffer.pixels frameNumber) station.connection } := by
  obtain ⟨count, horderly⟩ := (hsettled.agrees id).orderly
  rw [← horderly.owed_due id region]
  exact hsettled.station?_foldl_tell frameNumber fun entry hentry => (List.mem_filter.1 hentry).1

/-- Who looks the same is sent the same pixels. -/
theorem Alike.finish (halike : left.Alike id right) (hleft : left.Settled)
    (hright : right.Settled) (region : Region) (frameNumber : UInt64) :
    (left.finish region frameNumber).2.Alike id (right.finish region frameNumber).2 := by
  have hpixels : left.venue.framebuffer.pixels = right.venue.framebuffer.pixels :=
    congrArg Venue.Ground.pixels halike.venue.ground
  refine ⟨?_, ?_⟩
  · rw [hleft.station?_finish, hright.station?_finish, ← halike.venue.owed, ← hpixels,
      Option.map_map, Option.map_map]
    -- what is sent leaves the handlers alone, so it may as well be sent afterwards
    let sent (station : Station Outlet) : Station Outlet := { station with
      connection := ((left.venue.framebuffer.owed id).filter fun delivery =>
        delivery.region.overlaps region).foldl
          (Delivery.push left.venue.framebuffer.pixels frameNumber) station.connection }
    have hafter := congrArg (Option.map sent) halike.station
    rw [Option.map_map, Option.map_map] at hafter
    exact hafter
  · rw [venue_finish, venue_finish]
    exact halike.venue

/-- What the renderer draws depends on the pixels alone. -/
theorem apart_draw (rig : Rig Outlet) (start : UInt32) (pixels : List Pixel) :
    rig.apart (.draw start pixels) = { rig with venue := { rig.venue with
      framebuffer := { rig.venue.framebuffer with
        pixels := if Region.stop ⟨start, pixels.length.toUInt32⟩
              ≤ rig.venue.framebuffer.pixels.length then
            rig.venue.framebuffer.pixels.take start.toNat ++ pixels
              ++ rig.venue.framebuffer.pixels.drop (start.toNat + pixels.length)
          else rig.venue.framebuffer.pixels } } } := by
  by_cases hfits : Region.stop ⟨start, pixels.length.toUInt32⟩
      ≤ rig.venue.framebuffer.pixels.length
  · have hcheck : rig.venue.framebuffer.check ⟨start, pixels.length.toUInt32⟩ = .ok () :=
      if_pos hfits
    simp only [apart, Framebuffer.write, hcheck]
    rw [if_pos hfits]
  · have hcheck : rig.venue.framebuffer.check ⟨start, pixels.length.toUInt32⟩ = .error _ :=
      if_neg hfits
    simp only [apart, Framebuffer.write, hcheck]
    rw [if_neg hfits]

theorem Alike.draw (halike : left.Alike id right) (start : UInt32) (pixels : List Pixel) :
    (left.apart (.draw start pixels)).Alike id (right.apart (.draw start pixels)) := by
  obtain ⟨hpixels, hdirectory, hgroup⟩ := Venue.Ground.mk.inj halike.venue.ground
  rw [apart_draw, apart_draw, hpixels]
  exact ⟨halike.station, halike.venue.owed, congrArg₂ (Venue.Ground.mk _) hdirectory hgroup⟩

end Rig

end Luminaire
