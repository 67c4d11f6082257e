/-
Who is at the other end of a connection never changes.

Every handler works on the connection through sending, which moves its
sink and its node and leaves its peer (`Handler.peer_handle`). So nothing
that happens at a rig adds a station or changes the peer of one
(`Rig.Stays`), and nothing that happens to a worker does
(`Worker.stays_step`); only a worker that starts adds its own station.
-/
import Luminaire.Proofs.Connection.Standing
import Luminaire.Proofs.Server.Hosting
import Luminaire.Proofs.Server.Touches

namespace Luminaire

variable {κ : Type} [Sink κ]

-- ======================================================== connections

namespace Connection

@[simp] theorem peer_send (connection : Connection κ) (header : Header) (payload : Bytes) :
    (connection.send header payload).2.peer = connection.peer := by
  obtain ⟨sink, hsink⟩ := connection.exists_sink_send header payload
  rw [hsink]

theorem Answers.peer {before after : Connection κ} (hanswers : Answers before after) :
    after.peer = before.peer := by
  obtain ⟨node, rfl | ⟨header, payload, -, rfl⟩⟩ := hanswers
  · rfl
  · exact peer_send ..

theorem peer_replyWith {α : Type} [Message α] (connection : Connection κ) (request : Header)
    (message : α) : (connection.replyWith request message).2.peer = connection.peer :=
  peer_send ..

theorem peer_answer {α : Type} [Message α] (connection : Connection κ) (request : Header)
    (message : α) (outcome : Except HandlerError Unit) :
    (connection.answer request message outcome).2.peer = connection.peer := by
  rw [answer_snd]
  exact connection.peer_replyWith request message

end Connection

open Connection

theorem Subscription.peer_handle (id : ConnectionId) (directory : Directory) (held : Held)
    (framebuffer : Framebuffer Watcher) (connection : Connection κ) (header : Header)
    (payload : Bytes) :
    (handle id directory held framebuffer connection header payload).connection.peer
      = connection.peer := by
  unfold handle
  split
  · unfold subscribe
    split
    · exact connection.peer_answer ..
    · split
      · exact connection.peer_answer ..
      · split
        · exact connection.peer_replyWith ..
        · exact connection.peer_replyWith ..
  · split
    · unfold unsubscribe
      split
      · exact connection.peer_answer ..
      · split
        · exact connection.peer_answer ..
        · exact connection.peer_replyWith ..
    · rfl

/-- No handler changes who is at the other end. -/
theorem Handler.peer_handle (handler : Handler) (id : ConnectionId) (connection : Connection κ)
    (venue : Venue) (header : Header) (payload : Bytes) :
    (handler.handle id connection venue header payload).connection.peer = connection.peer := by
  cases handler with
  | liveness => exact (Liveness.answers_handle ..).peer
  | authentication methods state => exact (AuthState.answers_handle ..).peer
  | pixelData held => exact Subscription.peer_handle ..
  | groupControl token =>
      unfold handle
      simp only
      split
      · rfl
      · exact (GroupKeys.answers_handle ..).peer
  | plugin supplied =>
      unfold handle
      simp only
      split
      · exact connection.peer_send ..
      · rfl
      · rfl

theorem Subscription.peer_deliver (held : Held) (framebuffer : Framebuffer Watcher)
    (connection : Connection κ) (frameNumber : UInt64) (token : Token) (delivery : Delivery) :
    (deliver held framebuffer connection frameNumber token delivery).peer = connection.peer := by
  unfold deliver
  split
  · split
    · rfl
    · exact peer_send { connection with nextTag := connection.nextTag + 1 } ..
  · rfl

theorem GroupKeys.peer_notice {ω : Type} (connection : Connection κ) (group : Broadcaster ω)
    (id : UInt32) : (notice connection group id).peer = connection.peer := by
  unfold notice
  split
  · split
    · rfl
    · exact peer_send { connection with nextTag := connection.nextTag + 1 } ..
  · rfl

-- =============================================================== rigs

namespace Rig

omit [Sink κ] in
/-- The stations, by number, with who is at the other end. -/
def peers (rig : Rig κ) : List (ConnectionId × SocketAddress) :=
  rig.stations.map fun station => (station.id, station.connection.peer)

omit [Sink κ] in
theorem mem_peers {rig : Rig κ} {station : Station κ} (hmem : station ∈ rig.stations) :
    (station.id, station.connection.peer) ∈ rig.peers :=
  List.mem_map_of_mem hmem

/-- No station has come, gone or changed its peer. -/
structure Stays (before after : Rig κ) : Prop where
  ids : after.stations.map Station.id = before.stations.map Station.id
  peers : ∀ entry ∈ after.peers, entry ∈ before.peers

variable {rig middle after : Rig κ}

omit [Sink κ] in
theorem Stays.of_stations (hstations : after.stations = rig.stations) : rig.Stays after := by
  refine ⟨by rw [hstations], fun entry hentry => ?_⟩
  unfold Rig.peers at hentry ⊢
  rw [hstations] at hentry
  exact hentry

omit [Sink κ] in
theorem Stays.trans (hfirst : rig.Stays middle) (hsecond : middle.Stays after) :
    rig.Stays after :=
  ⟨hsecond.ids.trans hfirst.ids,
    fun entry hentry => hfirst.peers entry (hsecond.peers entry hentry)⟩

omit [Sink κ] in
/-- Changing a station leaves everyone's peer if the change comes from a station
that was there. -/
theorem Stays.modify {id : ConnectionId} {change : Station κ → Station κ} {venue : Venue}
    (hchange : ∀ station ∈ rig.stations, station.id = id →
      (change station).id = id
        ∧ ((change station).id, (change station).connection.peer) ∈ rig.peers) :
    rig.Stays { rig.modify id change with venue } := by
  refine ⟨?_, fun entry hentry => ?_⟩
  · show (rig.stations.map _).map Station.id = _
    rw [List.map_map]
    refine List.map_congr_left fun station hstation => ?_
    show (if station.id = id then change station else station).id = station.id
    split
    next hid => exact (hchange station hstation hid).1.trans hid.symm
    · rfl
  · obtain ⟨changed, hchanged, rfl⟩ := List.mem_map.1 hentry
    obtain ⟨station, hstation, rfl⟩ := List.mem_map.1 hchanged
    split
    next hid => exact (hchange station hstation hid).2
    · exact mem_peers hstation

omit [Sink κ] in
/-- In particular if it changes no peer. -/
theorem Stays.modify_same {id : ConnectionId} {change : Station κ → Station κ}
    (hchange : ∀ station : Station κ, (change station).id = station.id
      ∧ (change station).connection.peer = station.connection.peer) :
    rig.Stays (rig.modify id change) := by
  refine .modify fun station hstation hid => ⟨(hchange station).1.trans hid, ?_⟩
  rw [(hchange station).1, (hchange station).2]
  exact mem_peers hstation

theorem stays_handleAt {id : ConnectionId} {position : Nat} {header : Header} {payload : Bytes}
    {outcome : Outcome}
    (hhandled : rig.handleAt id position header payload = some (outcome, after)) :
    rig.Stays after := by
  unfold handleAt at hhandled
  split at hhandled
  · cases hhandled
  next station hfound =>
    obtain ⟨hmem, hid⟩ := mem_of_station? hfound
    unfold Station.handleAt at hhandled
    cases hhandler : station.handlers[position]? with
    | none =>
        rw [hhandler] at hhandled
        cases hhandled
    | some handler =>
        rw [hhandler] at hhandled
        cases hhandled
        refine .modify fun other _ _ => ⟨hid, ?_⟩
        simp only [Handler.peer_handle]
        exact mem_peers hmem

omit [Sink κ] in
theorem stays_detachAll (rig : Rig κ) (id : ConnectionId) : rig.Stays (rig.detachAll id) := by
  unfold detachAll
  split
  · exact .of_stations rfl
  next station hfound =>
    obtain ⟨hmem, hid⟩ := mem_of_station? hfound
    have hpeer := mem_peers hmem
    exact .modify fun other _ _ => ⟨hid, hpeer⟩

omit [Sink κ] in
theorem stays_foldl {α : Type} {step : Rig κ → α → Rig κ}
    (hstep : ∀ rig entry, Stays rig (step rig entry)) (entries : List α) (rig : Rig κ) :
    rig.Stays (entries.foldl step rig) := by
  induction entries generalizing rig with
  | nil => exact .of_stations rfl
  | cons entry entries ih => exact (hstep rig entry).trans (ih (step rig entry))

theorem stays_finish (rig : Rig κ) (region : Region) (frameNumber : UInt64) :
    rig.Stays (rig.finish region frameNumber).2 := by
  refine stays_foldl (fun rig entry => ?_) _ rig
  unfold tell
  split
  · exact .of_stations rfl
  · exact .modify_same fun station => ⟨rfl, Subscription.peer_deliver ..⟩

theorem stays_takeOver (rig : Rig κ) (done : Broadcaster.Work × Broadcaster KeyWatcher × Entropy) :
    rig.Stays (rig.takeOver done).2 := by
  unfold takeOver
  simp only
  split
  · unfold announce
    simp only
    refine Stays.trans ?_ (stays_foldl (fun rig watcher => ?_) done.2.1.observers.toList _)
    · exact .of_stations rfl
    · unfold tellKey
      split
      · exact .of_stations rfl
      · exact .modify_same fun station => ⟨rfl, GroupKeys.peer_notice ..⟩
  · exact .of_stations rfl

theorem stays_rotate (rig : Rig κ) : rig.Stays rig.rotate.2 := by
  unfold rotate
  split
  · exact .of_stations rfl
  · exact stays_takeOver ..

theorem stays_work (rig : Rig κ) : rig.Stays rig.work.2 := by
  unfold work
  split
  · exact .of_stations rfl
  · exact stays_takeOver ..

end Rig

-- ============================================================= workers

namespace Worker

open Rig

/-- Taking in what has arrived changes nobody's other end. -/
theorem stays_takes {id : ConnectionId} {rig after : Rig Outlet} (htakes : rig.Takes id after) :
    rig.Stays after := by
  induction htakes with
  | nothing rig => exact .of_stations rfl
  | received => exact .modify_same fun station => ⟨rfl, rfl⟩
  | handled hhandled => exact stays_handleAt hhandled
  | refused rig header =>
      exact .modify_same fun station => ⟨rfl, station.connection.peer_replyWith ..⟩
  | andThen _ _ hfirst hsecond => exact hfirst.trans hsecond

/-- Nothing that happens to a worker changes who is at the other end of any
connection. -/
theorem stays_step (worker : Worker) (rig : Rig Outlet) (next : Step) :
    rig.Stays (worker.step rig next).2 := by
  have htouches := worker.touches_step rig next
  generalize (worker.step rig next).2 = after at htouches ⊢
  cases htouches with
  | takes htakes => exact stays_takes htakes
  | hushes => exact .modify_same fun station => ⟨rfl, rfl⟩
  | releases => exact rig.stays_detachAll worker.id

end Worker

end Luminaire
