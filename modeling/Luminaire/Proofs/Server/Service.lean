/-
What a rig holds for a connection while its worker goes through its steps.

`Rig.Serves` says of which endpoints a connection has handlers, that they
account for every observer that belongs to it, and whether its session is
closed. A message leaves all that as it is, the release takes the handlers
away, and the shutdown closes the session (`Worker.IsServed.step`). What
goes on elsewhere makes no difference (`Rig.Serves.of_spares`).
-/
import Luminaire.Proofs.Connection.Standing
import Luminaire.Proofs.Server.Elsewhere
import Luminaire.Proofs.Server.Stages

namespace Luminaire

-- =============================================================== rigs

/-- A connection has handlers of these endpoints, on whose lists are all
observers that belong to it; its session is closed, or it is not. -/
structure Rig.Serves (rig : Rig Outlet) (id : ConnectionId) (endpoints : List Endpoint)
    (closed : Bool) : Prop where
  staff : ∃ handlers, rig.handlers? id = some handlers
    ∧ handlers.map Handler.endpoint = endpoints ∧ rig.venue.Accounts id handlers
  session : rig.closed? id = some closed

namespace Rig.Serves

variable {rig after : Rig Outlet} {id : ConnectionId} {endpoints : List Endpoint}
  {closed : Bool}

theorem of_station {station : Station Outlet} (hfound : rig.station? id = some station)
    (haccounts : rig.venue.Accounts id station.handlers) :
    rig.Serves id (station.handlers.map Handler.endpoint) station.connection.isClosed := by
  refine ⟨⟨station.handlers, ?_, rfl, haccounts⟩, ?_⟩
  · unfold handlers?
    rw [hfound]
    rfl
  · unfold closed? line?
    rw [hfound]
    rfl

theorem exists_station (hserves : rig.Serves id endpoints closed) :
    ∃ station, rig.station? id = some station
      ∧ station.handlers.map Handler.endpoint = endpoints
      ∧ rig.venue.Accounts id station.handlers ∧ station.connection.isClosed = closed := by
  obtain ⟨handlers, hhandlers, hendpoints, haccounts⟩ := hserves.staff
  obtain ⟨station, hfound, rfl⟩ := Option.map_eq_some_iff.1 hhandlers
  have hclosed := hserves.session
  unfold closed? line? at hclosed
  rw [hfound] at hclosed
  exact ⟨station, hfound, hendpoints, haccounts, Option.some.inj hclosed⟩

/-- What goes on elsewhere makes no difference. -/
theorem of_spares (hserves : rig.Serves id endpoints closed) (hspares : Spares id rig after) :
    after.Serves id endpoints closed := by
  obtain ⟨handlers, hhandlers, hendpoints, haccounts⟩ := hserves.staff
  exact ⟨⟨handlers, hspares.handlers.trans hhandlers, hendpoints,
      haccounts.of_spares hspares.venue⟩,
    hspares.closed.trans hserves.session⟩

/-- Another station stands where one stood, at a venue that it accounts for. -/
theorem of_replaced {old : Station Outlet} (hfound : rig.station? id = some old)
    (station : Station Outlet) (hid : station.id = id) {venue : Venue} (haccounts : venue.Accounts id station.handlers) :
    Serves { rig.modify id fun _ => station with venue } id
      (station.handlers.map Handler.endpoint) station.connection.isClosed := by
  have hstation : (rig.modify id fun _ => station).station? id = some station :=
    station?_modify hfound fun _ _ => hid
  exact of_station hstation haccounts

/-- A message to one of the handlers leaves the handlers where they are. -/
theorem handleAt (hserves : rig.Serves id endpoints closed) {position : Nat} {header : Header}
    {payload : Bytes} {outcome : Outcome}
    (hhandled : rig.handleAt id position header payload = some (outcome, after)) :
    after.Serves id endpoints closed := by
  obtain ⟨station, hfound, hendpoints, haccounts, hclosed⟩ := hserves.exists_station
  obtain ⟨-, hid⟩ := mem_of_station? hfound
  subst hid
  unfold Rig.handleAt at hhandled
  rw [hfound] at hhandled
  unfold Station.handleAt at hhandled
  cases hhandler : station.handlers[position]? with
  | none =>
      simp only [hhandler, Option.map_none] at hhandled
      cases hhandled
  | some handler =>
      simp only [hhandler, Option.map_some, Option.some.injEq, Prod.mk.injEq] at hhandled
      obtain ⟨-, rfl⟩ := hhandled
      let turn := handler.handle station.id station.connection rig.venue header payload
      have haccounted : turn.venue.Accounts station.id
          (station.handlers.set position turn.handler) :=
        haccounts.handle hhandler station.connection header payload
      let later : Station Outlet :=
        ⟨station.id, turn.connection, station.handlers.set position turn.handler⟩
      have hlater : Serves { rig.modify station.id fun _ => later with venue := turn.venue }
          station.id (later.handlers.map Handler.endpoint) later.connection.isClosed :=
        of_replaced hfound later rfl haccounted
      have hsame : later.handlers.map Handler.endpoint = endpoints := by
        rw [← hendpoints]
        exact Station.map_endpoint_set hhandler (handler.endpoint_handle ..)
      have hopen : later.connection.isClosed = closed :=
        (congrArg Session.Line.closed (handler.line_handle ..)).trans hclosed
      rw [hsame, hopen] at hlater
      exact hlater

/-- The release takes the handlers away, and what belonged to the connection with
them. -/
theorem detachAll (hserves : rig.Serves id endpoints closed) :
    (rig.detachAll id).Serves id [] closed := by
  obtain ⟨station, hfound, -, haccounts, rfl⟩ := hserves.exists_station
  obtain ⟨-, hid⟩ := mem_of_station? hfound
  unfold Rig.detachAll
  rw [hfound]
  let later : Station Outlet := { station with handlers := [] }
  have haccounted : Venue.Accounts _ id later.handlers := haccounts.detachAll
  exact of_replaced hfound later hid haccounted

/-- The shutdown closes the session. -/
theorem hush (hserves : rig.Serves id endpoints closed) :
    (Worker.hush rig id).Serves id endpoints true := by
  obtain ⟨station, hfound, rfl, haccounts, -⟩ := hserves.exists_station
  let later : Station Outlet :=
    { station with
      connection := { station.connection with sink := station.connection.sink.close } }
  have hlater : (Worker.hush rig id).station? id = some later :=
    station?_modify hfound fun _ hid => hid
  have hclosed : later.connection.isClosed = true := by
    show station.connection.sink.session.close.2.closed = true
    unfold Session.close
    split
    next hclosed => exact hclosed
    · rfl
  have hserved : (Worker.hush rig id).Serves id (later.handlers.map Handler.endpoint)
      later.connection.isClosed := of_station hlater haccounts
  rw [hclosed] at hserved
  exact hserved

end Rig.Serves

-- ============================================================= arrival

/-- No observer at a venue belongs to a connection. -/
structure Venue.Ignores (venue : Venue) (id : ConnectionId) : Prop where
  regions : venue.framebuffer.Ignores id
  keys : ∀ group, venue.group = some group →
    ∀ entry ∈ group.observers.entries, entry.2 ≠ .connection id

/-- Without handlers, there is no list that an observer could be on. -/
theorem Venue.accounts_nil_iff {venue : Venue} {id : ConnectionId} :
    venue.Accounts id [] ↔ venue.Ignores id := by
  constructor
  · intro haccounts
    refine ⟨?_, ?_⟩
    · intro entry hentry delivery hobserver hown
      obtain ⟨handler, hhandler, -⟩ := haccounts.regions entry hentry delivery hobserver hown
      cases hhandler
    · intro group hgroup entry hentry hown
      obtain ⟨handler, hhandler, -⟩ := haccounts.keys group hgroup entry hentry hown
      cases hhandler
  · intro hignores
    refine ⟨?_, ?_⟩
    · intro entry hentry delivery hobserver hown
      exact absurd hown (hignores.regions entry hentry delivery hobserver)
    · intro group hgroup entry hentry hown
      exact absurd hown (hignores.keys group hgroup entry hentry)

/-- A rig that has not had to do with a connection. -/
structure Rig.Fresh (rig : Rig Outlet) (id : ConnectionId) : Prop where
  station : rig.station? id = none
  ignored : rig.venue.Ignores id

namespace Worker

/-- The endpoints of the handlers that the loop still has. -/
def staff (worker : Worker) (endpoints : List Endpoint) : List Endpoint :=
  if worker.phase.isStaffed then endpoints else []

/-- A rig serves a worker's connection as the worker's phase and stage say. -/
def IsServed (worker : Worker) (rig : Rig Outlet) (endpoints : List Endpoint) : Prop :=
  rig.Serves worker.id (worker.staff endpoints) worker.isHushed

/-- The handlers that are taken on account for what they register, and those that
are turned away leave nothing behind. -/
theorem accounts_attach {id : ConnectionId} (kinds : List HandlerKind)
    {roster : Roster Handler} {venue : Venue} (haccounts : venue.Accounts id roster.handlers) :
    (attach id kinds roster venue).2.2.Accounts id
      (attach id kinds roster venue).1.handlers := by
  induction kinds generalizing roster venue with
  | nil => exact haccounts
  | cons kind kinds ih =>
      unfold attach
      split
      · exact ih haccounts
      next handler attached hattach =>
        have hattached := haccounts.attach? hattach
        unfold Roster.claim
        cases roster.slot? handler.endpoint.code with
        | some position => exact ih hattached.detach
        | none =>
            refine ih (hattached.mono ?_)
            intro other hother
            rcases List.mem_cons.1 hother with rfl | hother
            · exact List.mem_append_right roster.handlers List.mem_cons_self
            · exact List.mem_append_left _ hother

/-- A connection that is taken in has the handlers that were attached. -/
theorem station?_of_start {rig : Rig Outlet} {id : ConnectionId} (hfresh : rig.Fresh id)
    (peer : SocketAddress) (session : Session) (registry : Registry HandlerKind)
    (callbacks : Nat) :
    (start id peer session registry callbacks rig).2.2.station? id
      = some ⟨id, .new peer ⟨session, []⟩,
        (attach id (registry.entries.map Prod.snd) .empty rig.venue).1.handlers⟩ := by
  have hbefore : rig.stations.find? (·.id == id) = none := hfresh.station
  show (rig.stations ++ [(_ : Station Outlet)]).find? (·.id == id) = _
  rw [List.find?_append, hbefore, Option.none_or, List.find?_cons, beq_self_eq_true]

/-- They account for whatever of the connection's there is. -/
theorem serves_start {rig : Rig Outlet} {id : ConnectionId} (hfresh : rig.Fresh id)
    (peer : SocketAddress) (session : Session) (registry : Registry HandlerKind)
    (callbacks : Nat) :
    let after := (start id peer session registry callbacks rig).2.2
    after.Serves id (((after.handlers? id).getD []).map Handler.endpoint) session.closed := by
  intro after
  have hfound := station?_of_start hfresh peer session registry callbacks
  have hnobody : rig.venue.Accounts id Roster.empty.handlers :=
    Venue.accounts_nil_iff.2 hfresh.ignored
  have haccounts := accounts_attach (registry.entries.map Prod.snd) hnobody
  have hhandlers := congrArg (Option.map Station.handlers) hfound
  show after.Serves id (((after.handlers? id).getD []).map Handler.endpoint) session.closed
  rw [Rig.handlers?, hhandlers]
  exact .of_station hfound haccounts

variable {worker after : Worker} {rig : Rig Outlet} {endpoints : List Endpoint}

theorem IsServed.of_same (hserved : worker.IsServed rig endpoints) (hid : after.id = worker.id)
    (hstaffed : after.phase.isStaffed = worker.phase.isStaffed)
    (hhushed : after.isHushed = worker.isHushed) : after.IsServed rig endpoints := by
  unfold IsServed staff at hserved ⊢
  rw [hid, hstaffed, hhushed]
  exact hserved

/-- Messages are taken in, and everything stays in place. -/
theorem serves_takes {id : ConnectionId} {later : Rig Outlet} {closed : Bool}
    (htakes : rig.Takes id later) (hserves : rig.Serves id endpoints closed) :
    later.Serves id endpoints closed := by
  induction htakes with
  | nothing rig => exact hserves
  | received hfound arrival => exact hserves.of_spares (spares_received _ id hfound arrival)
  | handled hhandled => exact hserves.handleAt hhandled
  | refused rig header => exact hserves.of_spares (spares_refuse ..)
  | andThen _ _ hfirst hsecond => exact hsecond (hfirst hserves)

/-- Entering leaves the loop and the session alone. -/
theorem IsServed.enter {callbacks : Nat} (hserved : worker.IsServed rig endpoints)
    (hcoherent : worker.Coherent callbacks) (cause : ShutdownCause) :
    (worker.enter cause).2.IsServed rig endpoints := by
  rw [enter_eq]
  by_cases hstate : worker.state = .running
  · rw [if_pos hstate]
    refine hserved.of_same rfl rfl ?_
    rw [isHushed, isHushed, stage?, stage?, hcoherent.running.1 hstate]
    rfl
  · rw [if_neg hstate]
    exact hserved

/-- Every step of the worker leaves its connection served as its phase and stage
say. -/
theorem IsServed.step {callbacks : Nat} (hserved : worker.IsServed rig endpoints)
    (hcoherent : worker.Coherent callbacks) (next : Step) :
    (worker.step rig next).1.IsServed (worker.step rig next).2 endpoints := by
  cases next with
  | read arrival =>
      show (worker.read rig arrival).1.IsServed (worker.read rig arrival).2 endpoints
      have hnow : worker.IsServed (worker.read rig arrival).2 endpoints :=
        serves_takes (worker.takes_read rig arrival) hserved
      rcases worker.read_cases rig arrival with hsame | ⟨hreading, cause, hleft⟩
      · rw [hsame]
        exact hnow
      · rw [hleft]
        refine hnow.of_same rfl ?_ rfl
        rw [hreading]
        rfl
  | breakOff =>
      show worker.breakOff.IsServed rig endpoints
      unfold breakOff
      split
      next hreading =>
        refine hserved.of_same rfl ?_ rfl
        rw [hreading]
        rfl
      · exact hserved
  | release =>
      show (worker.release rig).1.IsServed (worker.release rig).2 endpoints
      unfold release
      split
      · exact Rig.Serves.detachAll hserved
      · exact hserved
  | report =>
      show worker.report.IsServed rig endpoints
      have hentered := fun cause => hserved.enter hcoherent cause
      unfold report
      split
      next cause hreleased =>
        have hgone : (worker.enter cause).2.phase.isStaffed = false := by
          rw [enter_eq]
          split
          · show worker.phase.isStaffed = false
            rw [hreleased]
            rfl
          · rw [hreleased]
            rfl
        have hserved := hentered cause
        split
        next hworker =>
          rw [hworker] at hserved hgone
          exact hserved.of_same rfl hgone.symm rfl
        next hworker =>
          rw [hworker] at hserved hgone
          exact hserved.of_same rfl hgone.symm rfl
      · exact hserved
  | signal => exact hserved.enter hcoherent .requested
  | drop => exact hserved.enter hcoherent .dropped
  | advance =>
      show (worker.advance rig).1.IsServed (worker.advance rig).2 endpoints
      unfold advance
      split
      next hshutdown =>
        refine hserved.of_same rfl rfl ?_
        rw [isHushed, isHushed, stage?, stage?, hshutdown]
        rfl
      · exact Rig.Serves.hush hserved
      next hshutdown =>
        refine hserved.of_same rfl rfl ?_
        rw [isHushed, isHushed, stage?, stage?, hshutdown]
        rfl
      · exact hserved
  | finish =>
      show worker.finish.IsServed rig endpoints
      unfold finish
      simp only
      split
      next hphase =>
        refine hserved.of_same rfl ?_ rfl
        rw [hphase]
        rfl
      next hphase _ =>
        refine hserved.of_same rfl ?_ rfl
        rw [hphase]
        rfl
      · exact hserved

end Worker

end Luminaire
