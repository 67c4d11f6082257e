/-
What goes on elsewhere leaves a connection alone.

Beside one connection there are the others at the rig, the renderer and
the broadcaster. They may send on the connection, and that is all they do
to it: its handlers stay, and so does the line of its session, and no
observer comes to belong to it (`Rig.Spares`). That is so of whatever can happen at a
rig, of the steps of other connections' workers (`Worker.spares_step`) and
of connections that are taken in (`Worker.spares_start`). What a
connection's own read loop does around the turn of a handler is of the
same kind.
-/
import Luminaire.Proofs.Connection.Belongings
import Luminaire.Proofs.Group.Trace
import Luminaire.Proofs.Server.Peers
import Luminaire.Proofs.Server.Uniform

namespace Luminaire

-- =========================================================== sending

namespace Session

/-- What neither sending nor receiving changes in a session. -/
structure Line where
  closed : Bool
  link : Link
  outgoing : Protection

def line (session : Session) : Line := ⟨session.closed, session.link, session.outgoing⟩

theorem line_receive (session : Session) (arrival : Option Bytes) :
    (session.receive arrival).2.line = session.line := by
  obtain ⟨window, hwindow⟩ := session.receiveRecord_snd arrival
  rw [receive_eq, hwindow]
  rfl

end Session

namespace Outlet

theorem line_put (outlet : Outlet) (message : Bytes) :
    (Sink.put outlet message).2.session.line = outlet.session.line := by
  have hsession : (Sink.put outlet message).2.session
      = (outlet.session.sendRecord .applicationData message).2 := by
    cases hsend : outlet.session.sendRecord .applicationData message with
    | mk result session =>
        cases result with
        | error fault => simp only [Sink.put, Session.send, hsend]
        | ok record => simp only [Sink.put, Session.send, hsend]
  rw [hsession]
  rcases outlet.session.sendRecord_snd .applicationData message with hsame | hnext
  · rw [hsame]
  · rw [hnext]
    rfl

end Outlet

namespace Connection

/-- The line of the session behind a connection. -/
def line (connection : Connection Outlet) : Session.Line := connection.sink.session.line

/-- Whether the session behind a connection is closed. -/
def isClosed (connection : Connection Outlet) : Bool := connection.line.closed

theorem line_send (connection : Connection Outlet) (header : Header) (payload : Bytes) :
    (connection.send header payload).2.line = connection.line := by
  unfold send
  split
  · rfl
  next datagram _ =>
    have hput := connection.sink.line_put datagram
    split
    next hresult =>
      rw [hresult] at hput
      exact hput
    next hresult =>
      rw [hresult] at hput
      exact hput

theorem Answers.line {before after : Connection Outlet} (hanswers : Answers before after) :
    after.line = before.line := by
  obtain ⟨node, rfl | ⟨header, payload, -, rfl⟩⟩ := hanswers
  · rfl
  · exact line_send ..

theorem line_pushWith {α : Type} [Message α] (connection : Connection Outlet)
    (endpoint : Endpoint) (message : α) :
    (connection.pushWith endpoint message).2.line = connection.line :=
  line_send { connection with nextTag := connection.nextTag + 1 } ..

end Connection

open Connection

/-- Messages about subscriptions are answered, if that. -/
theorem Subscription.answers_handle {κ : Type} [Sink κ] (id : ConnectionId)
    (directory : Directory) (held : Held) (framebuffer : Framebuffer Watcher)
    (connection : Connection κ) (header : Header) (payload : Bytes) :
    Answers connection
      (handle id directory held framebuffer connection header payload).connection := by
  unfold handle
  split
  · unfold subscribe
    split
    · exact connection.answers_answer header _ _ (by decide)
    · split
      · exact connection.answers_answer header _ _ (by decide)
      · split
        · exact connection.answers_replyWith header _ (by decide)
        · exact connection.answers_replyWith header _ (by decide)
  · split
    · unfold unsubscribe
      split
      · exact connection.answers_answer header _ _ (by decide)
      · split
        · exact connection.answers_answer header _ _ (by decide)
        · exact connection.answers_replyWith header _ (by decide)
    · exact connection.answers_refl

namespace Handler

/-- No handler does more to the session than to send on it. -/
theorem line_handle (handler : Handler) (id : ConnectionId)
    (connection : Connection Outlet) (venue : Venue) (header : Header) (payload : Bytes) :
    (handler.handle id connection venue header payload).connection.line
      = connection.line := by
  cases handler with
  | liveness => exact (Liveness.answers_handle ..).line
  | authentication methods state => exact (AuthState.answers_handle ..).line
  | pixelData held => exact (Subscription.answers_handle ..).line
  | groupControl token =>
      unfold handle
      simp only
      split
      · rfl
      · exact (GroupKeys.answers_handle ..).line
  | plugin supplied =>
      unfold handle
      simp only
      split
      · exact connection.line_send ..
      · rfl
      · rfl

end Handler

theorem Subscription.line_deliver (held : Held) (framebuffer : Framebuffer Watcher)
    (connection : Connection Outlet) (frameNumber : UInt64) (token : Token)
    (delivery : Delivery) :
    (deliver held framebuffer connection frameNumber token delivery).line
      = connection.line := by
  unfold deliver
  split
  · split
    · rfl
    · exact connection.line_pushWith ..
  · rfl

theorem GroupKeys.line_notice {ω : Type} (connection : Connection Outlet)
    (group : Broadcaster ω) (id : UInt32) :
    (notice connection group id).line = connection.line := by
  unfold notice
  split
  · split
    · rfl
    · exact connection.line_pushWith ..
  · rfl

-- ======================================================= broadcasters

namespace Broadcaster

variable {ω : Type}

/-- Nobody comes or goes while requests are worked off. -/
theorem observers_work (broadcaster : Broadcaster ω) (now : UInt64) (entropy : Entropy) :
    (broadcaster.work now entropy).2.1.observers = broadcaster.observers := by
  cases hrunning : broadcaster.running with
  | false => rw [work_of_idle (.inl hrunning)]
  | true =>
      cases hrequests : broadcaster.requests with
      | nil => rw [work_of_idle (.inr hrequests)]
      | cons item requests =>
          obtain ⟨ring, cipher, sequence, tag, hwork⟩ :=
            work_snd hrunning hrequests now entropy
          rw [hwork]

theorem observers_elapse (broadcaster : Broadcaster ω) (entropy : Entropy) :
    (broadcaster.elapse entropy).2.1.observers = broadcaster.observers := by
  obtain ⟨ring, cipher, helapse⟩ := broadcaster.elapse_snd entropy
  rw [helapse]

theorem observers_request (broadcaster : Broadcaster ω) (item : GroupRequest) :
    (broadcaster.request item).2.observers = broadcaster.observers := by
  unfold request
  split
  · rfl
  · rfl

end Broadcaster

-- =============================================================== rigs

namespace Rig

/-- The handlers of a connection. -/
def handlers? (rig : Rig Outlet) (id : ConnectionId) : Option (List Handler) :=
  (rig.station? id).map Station.handlers

/-- The line of a connection's session. -/
def line? (rig : Rig Outlet) (id : ConnectionId) : Option Session.Line :=
  (rig.station? id).map fun station => station.connection.line

/-- Whether the session of a connection is closed. -/
def closed? (rig : Rig Outlet) (id : ConnectionId) : Option Bool :=
  (rig.line? id).map Session.Line.closed

/-- A connection's handlers are what they were, and so is the line of its session;
no observer has come to belong to it. -/
structure Spares (id : ConnectionId) (before after : Rig Outlet) : Prop where
  handlers : after.handlers? id = before.handlers? id
  line : after.line? id = before.line? id
  venue : before.venue.Spares id after.venue

namespace Spares

variable {id : ConnectionId} {rig middle after : Rig Outlet}

theorem closed (hspares : Spares id rig after) : after.closed? id = rig.closed? id :=
  congrArg (Option.map Session.Line.closed) hspares.line

theorem of_station (hstation : after.station? id = rig.station? id)
    (hvenue : rig.venue.Spares id after.venue) : Spares id rig after := by
  refine ⟨?_, ?_, hvenue⟩
  · unfold handlers?
    rw [hstation]
  · unfold line?
    rw [hstation]

theorem of_observers (hstation : after.station? id = rig.station? id)
    (hregions : after.venue.framebuffer.observers = rig.venue.framebuffer.observers)
    (hkeys : after.venue.group.map Broadcaster.observers
      = rig.venue.group.map Broadcaster.observers) : Spares id rig after :=
  .of_station hstation (.of_observers hregions hkeys)

theorem refl (id : ConnectionId) (rig : Rig Outlet) : Spares id rig rig :=
  .of_observers rfl rfl rfl

theorem trans (hfirst : Spares id rig middle) (hsecond : Spares id middle after) :
    Spares id rig after :=
  ⟨hsecond.handlers.trans hfirst.handlers, hsecond.line.trans hfirst.line,
    hfirst.venue.trans hsecond.venue⟩

/-- A station whose handlers and line stay, or another one, changes. -/
theorem modify (rig : Rig Outlet) (id other : ConnectionId)
    {change : Station Outlet → Station Outlet}
    (hid : ∀ station, (change station).id = station.id)
    (hchange : ∀ station, rig.station? other = some station → other = id →
      (change station).handlers = station.handlers
        ∧ (change station).connection.line = station.connection.line) :
    Spares id rig (rig.modify other change) := by
  by_cases hother : other = id
  · subst hother
    cases hfound : rig.station? other with
    | none =>
        rw [modify_of_none hfound]
        exact .refl other rig
    | some station =>
        obtain ⟨hhandlers, hline⟩ := hchange station hfound rfl
        have hmodified := station?_modify hfound fun station hsame => (hid station).trans hsame
        refine ⟨?_, ?_, .refl other rig.venue⟩
        · unfold handlers?
          rw [hmodified, hfound]
          exact congrArg some hhandlers
        · unfold line?
          rw [hmodified, hfound]
          exact congrArg some hline
  · refine .of_observers (station?_modify_of_ne rig hother ?_) rfl rfl
    intro station hsame
    exact (hid station).trans hsame

/-- Another station changes, and the venue with it. -/
theorem modify_of_ne (rig : Rig Outlet) {id other : ConnectionId} (hne : other ≠ id)
    {station : Station Outlet} (hid : station.id = other) {venue : Venue}
    (hvenue : rig.venue.Spares id venue) :
    Spares id rig { rig.modify other fun _ => station with venue } := by
  refine .of_station ?_ hvenue
  exact station?_modify_of_ne rig hne fun _ _ => hid

/-- One thing after another is done, each of which spares the connection. -/
theorem foldl {α : Type} {step : Rig Outlet → α → Rig Outlet}
    (hstep : ∀ rig entry, Spares id rig (step rig entry)) (entries : List α)
    (rig : Rig Outlet) : Spares id rig (entries.foldl step rig) := by
  induction entries generalizing rig with
  | nil => exact .refl id rig
  | cons entry entries ih => exact (hstep rig entry).trans (ih (step rig entry))

end Spares

-- ========================================================== backstage

variable (id : ConnectionId) (rig : Rig Outlet)

theorem spares_tuned (now : UInt64) (entropy : Entropy) :
    Spares id rig (rig.tuned now entropy) :=
  .of_observers rfl rfl rfl

theorem spares_finish (region : Region) (frameNumber : UInt64) :
    Spares id rig (rig.finish region frameNumber).2 := by
  refine .foldl (fun rig entry => ?_) _ rig
  unfold tell
  split
  · exact .refl id rig
  · exact .modify rig id _ (fun _ => rfl) fun _ _ _ =>
      ⟨rfl, Subscription.line_deliver ..⟩

theorem spares_announce (key : UInt32) : Spares id rig (rig.announce key) := by
  unfold announce
  split
  · exact .refl id rig
  · refine .foldl (fun rig watcher => ?_) _ rig
    unfold tellKey
    split
    · exact .refl id rig
    · exact .modify rig id _ (fun _ => rfl) fun _ _ _ =>
        ⟨rfl, GroupKeys.line_notice ..⟩

/-- What the broadcaster did is announced, and nobody has come or gone. -/
theorem spares_takeOver {group : Broadcaster KeyWatcher} (hgroup : rig.venue.group = some group)
    (done : Broadcaster.Work × Broadcaster KeyWatcher × Entropy)
    (hobservers : done.2.1.observers = group.observers) :
    Spares id rig (rig.takeOver done).2 := by
  obtain ⟨work, later, entropy⟩ := done
  have htaken : Spares id rig
      { rig with venue := { rig.venue with group := some later, entropy } } := by
    refine .of_observers rfl rfl ?_
    rw [hgroup]
    exact congrArg some hobservers
  cases work with
  | rotated key => exact htaken.trans (spares_announce id _ key.id)
  | _ => exact htaken

/-- What goes on backstage spares every connection. -/
theorem spares_apart (event : Backstage) : Spares id rig (rig.apart event) := by
  cases event with
  | rotate entropy =>
      refine (spares_tuned id rig rig.venue.now entropy).trans ?_
      show Spares id _ (rig.tuned rig.venue.now entropy).rotate.2
      unfold rotate
      split
      · exact .refl id _
      next group hgroup =>
        exact spares_takeOver id _ hgroup _ (Broadcaster.observers_elapse ..)
  | request item =>
      refine .of_observers rfl rfl ?_
      show (rig.venue.group.map _).map _ = _
      rw [Option.map_map]
      exact congrFun (congrArg Option.map (funext fun group => group.observers_request item)) _
  | work now entropy =>
      refine (spares_tuned id rig now entropy).trans ?_
      show Spares id _ (rig.tuned now entropy).work.2
      unfold work
      split
      · exact .refl id _
      next group hgroup =>
        exact spares_takeOver id _ hgroup _ (Broadcaster.observers_work ..)
  | rewire channels => exact .of_observers rfl rfl rfl
  | draw start pixels =>
      unfold apart
      simp only
      split
      · exact .refl id rig
      next framebuffer hwrite =>
        exact .of_observers rfl (Framebuffer.observers_of_write hwrite) rfl
  | finish region frameNumber => exact spares_finish id rig region frameNumber

-- ================================================= other connections

variable {id rig}

theorem spares_handleAt {other : ConnectionId} (hne : other ≠ id) {position : Nat}
    {header : Header} {payload : Bytes} {outcome : Outcome} {after : Rig Outlet}
    (hhandled : rig.handleAt other position header payload = some (outcome, after)) :
    Spares id rig after := by
  unfold handleAt at hhandled
  split at hhandled
  · cases hhandled
  next station hfound =>
    obtain ⟨-, rfl⟩ := mem_of_station? hfound
    unfold Station.handleAt at hhandled
    cases hhandler : station.handlers[position]? with
    | none =>
        rw [hhandler] at hhandled
        cases hhandled
    | some handler =>
        rw [hhandler] at hhandled
        cases hhandled
        refine .modify_of_ne rig hne ?_ (.handle handler _ rig.venue header payload hne)
        exact rfl

theorem spares_detachAll {other : ConnectionId} (hne : other ≠ id) :
    Spares id rig (rig.detachAll other) := by
  unfold detachAll
  split
  · exact .refl id rig
  next station hfound =>
    obtain ⟨-, rfl⟩ := mem_of_station? hfound
    refine .modify_of_ne rig hne ?_ (.detachAll id station.handlers rig.venue)
    exact rfl

end Rig

-- ============================================================= workers

namespace Worker

open Rig

/-- Refusing a message closes nothing, on this connection or another. -/
theorem spares_refuse (rig : Rig Outlet) (id other : ConnectionId) (header : Header) :
    Spares id rig (refuse rig other header) := by
  refine .modify rig id other (fun _ => rfl) fun station _ _ => ⟨rfl, ?_⟩
  exact (station.connection.answers_replyWith header _ (by decide)).line

theorem spares_received (rig : Rig Outlet) (id : ConnectionId) {other : ConnectionId}
    {station : Station Outlet} (hfound : rig.station? other = some station)
    (arrival : Option Bytes) :
    Spares id rig (rig.modify other fun station' =>
      { station' with
        connection := { station'.connection with
          sink := { station'.connection.sink with
            session := (station.connection.sink.session.receive arrival).2 } } }) := by
  refine .modify rig id other (fun _ => rfl) fun found hsame _ => ⟨rfl, ?_⟩
  rw [hfound] at hsame
  cases hsame
  exact Session.line_receive ..

theorem spares_takes {id other : ConnectionId} (hne : other ≠ id) {rig after : Rig Outlet}
    (htakes : rig.Takes other after) : Spares id rig after := by
  induction htakes with
  | nothing rig => exact .refl id rig
  | received hfound arrival => exact spares_received _ id hfound arrival
  | handled hhandled => exact spares_handleAt hne hhandled
  | refused rig header => exact spares_refuse rig id other header
  | andThen _ _ hfirst hsecond => exact hfirst.trans hsecond

/-- Nothing that another connection's worker does touches this connection. -/
theorem spares_step {id : ConnectionId} {worker : Worker} (hne : worker.id ≠ id)
    (rig : Rig Outlet) (next : Step) : Spares id rig (worker.step rig next).2 := by
  have htouches := worker.touches_step rig next
  generalize (worker.step rig next).2 = after at htouches ⊢
  cases htouches with
  | takes htakes => exact spares_takes hne htakes
  | hushes => exact .modify rig id worker.id (fun _ => rfl) fun _ _ hsame => absurd hsame hne
  | releases => exact spares_detachAll hne

/-- Another connection's handlers register no observer for this one. -/
theorem spares_attach {id other : ConnectionId} (hne : other ≠ id) (kinds : List HandlerKind)
    (roster : Roster Handler) (venue : Venue) :
    venue.Spares id (attach other kinds roster venue).2.2 :=
  attach_preserves (fun hattach hspares => hspares.trans (.attach? hattach hne))
    (fun handler attached hspares => hspares.trans (.detach id handler attached)) kinds roster
    (.refl id venue)

/-- Another connection is taken in. -/
theorem spares_start {id other : ConnectionId} (hne : other ≠ id) (peer : SocketAddress)
    (session : Session) (registry : Registry HandlerKind) (callbacks : Nat)
    (rig : Rig Outlet) :
    Spares id rig (start other peer session registry callbacks rig).2.2 := by
  refine .of_station ?_ (spares_attach hne (registry.entries.map Prod.snd) .empty rig.venue)
  show (rig.stations ++ [_]).find? (·.id == id) = rig.stations.find? (·.id == id)
  rw [List.find?_append, List.find?_cons, List.find?_nil]
  simp only [beq_eq_false_iff_ne.2 hne, Option.or_none]

end Worker

end Luminaire
