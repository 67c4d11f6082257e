/-
A worker that serves a connection whose node is not known.

`Uniform` says of something done with a worker and a rig that it comes out
the same at every rig that hosts the connection, with the same clock and
randomness: the worker, the connection and what is left of its handlers.
Every step of a worker is uniform (`uniform_step`). The read loop is the
one with an argument in it: the session of the connection decides what
arrives, the handlers answer as `Rig.Hosts.exists_handleAt` says, and what
their turn leads to depends on its outcome alone (`exists_heed`).
-/
import Luminaire.Proofs.Server.Hosting
import Luminaire.Proofs.Server.Outlet

namespace Luminaire

-- ========================================================= the worker

/-- What is done with a worker and a rig comes out the same at every rig
that hosts the connection, with this clock and randomness, and leaves it
hosted, with no push in what was sent. -/
def Uniform (keys : Protection) (nodes : List Node) (now : UInt64) (entropy : Entropy)
    (id : ConnectionId) (connection : Connection Outlet) (state : Option AuthState)
    (action : Rig Outlet → Worker × Rig Outlet) : Prop :=
  ∃ worker after state', worker.id = id ∧ after.sink.Reticent keys
    ∧ ∀ rig : Rig Outlet, rig.Hosts nodes id connection state → rig.venue.now = now →
      rig.venue.entropy = entropy →
        ∃ rig', action rig = (worker, rig') ∧ rig'.Hosts nodes id after state'

namespace Worker

variable {keys : Protection} {nodes : List Node} {now : UInt64} {entropy : Entropy}
  {id : ConnectionId} {connection : Connection Outlet} {state : Option AuthState}

/-- Nothing happens to a rig that hosts the connection. -/
theorem uniform_of_eq {action : Rig Outlet → Worker × Rig Outlet} (worker : Worker)
    (hid : worker.id = id) (hreticent : connection.sink.Reticent keys)
    (haction : ∀ rig : Rig Outlet, rig.Hosts nodes id connection state →
      action rig = (worker, rig)) :
    Uniform keys nodes now entropy id connection state action :=
  ⟨worker, connection, state, hid, hreticent,
    fun rig hhosts _ _ => ⟨rig, haction rig hhosts, hhosts⟩⟩

/-- What the read loop does once a handler has had its turn. -/
def heed (worker : Worker) (header : Header) (outcome : Outcome) (rig : Rig Outlet) :
    Worker × Rig Outlet :=
  match outcome with
  | .failed (.unknownMessageType _ _) => (worker, refuse rig worker.id header)
  | .failed error =>
      if error.isFatal then (worker.leave (.ofError error), rig) else (worker, rig)
  | _ => (worker, rig)

theorem dispatch_of_handleAt {worker : Worker} {rig rig' : Rig Outlet}
    {message payload : Bytes} {header : Header} {position : Nat} {outcome : Outcome}
    (hread : unframe (H := Header) message = .ok (header, payload))
    (hslot : worker.slots.lookup header.endpoint = some position)
    (hhandle : rig.handleAt worker.id position header payload = some (outcome, rig')) :
    worker.dispatch rig message = worker.heed header outcome rig' := by
  unfold dispatch heed
  simp only [hread, hslot, hhandle]
  cases outcome with
  | done => rfl
  | crashed => rfl
  | failed error => cases error <;> rfl

/-- An outcome has the same consequences everywhere. -/
theorem exists_heed (worker : Worker) (header : Header) (outcome : Outcome)
    (hreticent : connection.sink.Reticent keys) :
    ∃ worker' after, worker'.id = worker.id ∧ after.sink.Reticent keys
      ∧ ∀ rig : Rig Outlet, rig.Hosts nodes worker.id connection state →
        ∃ rig', worker.heed header outcome rig = (worker', rig')
          ∧ rig'.Hosts nodes worker.id after state := by
  have hstay : ∀ worker' : Worker, worker'.id = worker.id →
      (∀ rig, worker.heed header outcome rig = (worker', rig)) →
      ∃ worker' after, worker'.id = worker.id ∧ after.sink.Reticent keys
        ∧ ∀ rig : Rig Outlet, rig.Hosts nodes worker.id connection state →
          ∃ rig', worker.heed header outcome rig = (worker', rig')
            ∧ rig'.Hosts nodes worker.id after state :=
    fun worker' hid hheed =>
      ⟨worker', connection, hid, hreticent, fun rig hhosts => ⟨rig, hheed rig, hhosts⟩⟩
  cases outcome with
  | done => exact hstay worker rfl fun rig => rfl
  | crashed => exact hstay worker rfl fun rig => rfl
  | failed error =>
      by_cases hunknown : ∃ endpoint messageType,
          error = .unknownMessageType endpoint messageType
      · obtain ⟨endpoint, messageType, rfl⟩ := hunknown
        have hanswers : connection.Answers (connection.refuse header .unsupported).2 :=
          connection.answers_replyWith header _ (by decide)
        refine ⟨worker, (connection.refuse header .unsupported).2, rfl,
          hanswers.reticent hreticent, fun rig hhosts => ?_⟩
        exact ⟨refuse rig worker.id header, rfl,
          hhosts.modify fun connection => (connection.refuse header .unsupported).2⟩
      · have hheed : ∀ rig, worker.heed header (.failed error) rig
            = if error.isFatal then (worker.leave (.ofError error), rig)
              else (worker, rig) := by
          intro rig
          cases error with
          | unknownMessageType endpoint messageType =>
              exact absurd ⟨endpoint, messageType, rfl⟩ hunknown
          | _ => rfl
        by_cases hfatal : error.isFatal = true
        · exact hstay (worker.leave (.ofError error)) rfl fun rig => by
            rw [hheed, if_pos hfatal]
        · exact hstay worker rfl fun rig => by rw [hheed, if_neg hfatal]

/-- A stranger's message comes out the same everywhere. -/
theorem uniform_dispatch (worker : Worker) (hstranger : connection.node = none)
    (hreticent : connection.sink.Reticent keys) (message : Bytes) :
    Uniform keys nodes now entropy worker.id connection state
      fun rig => worker.dispatch rig message := by
  cases hread : unframe (H := Header) message with
  | error fault =>
      by_cases hfatal : fault.isFatal = true
      · exact uniform_of_eq (worker.leave .protocolViolation) rfl hreticent fun rig _ => by
          simp only [dispatch, hread, hfatal, if_true]
      · exact uniform_of_eq worker rfl hreticent fun rig _ => by
          simp only [dispatch, hread, hfatal, Bool.false_eq_true, if_false]
  | ok opened =>
      obtain ⟨header, payload⟩ := opened
      cases hslot : worker.slots.lookup header.endpoint with
      | none =>
          exact uniform_of_eq worker rfl hreticent fun rig _ => by
            simp only [dispatch, hread, hslot]
      | some position =>
          cases state with
          | none =>
              exact uniform_of_eq worker rfl hreticent fun rig hhosts => by
                simp only [dispatch, hread, hslot, hhosts.handleAt_of_detached]
          | some state =>
              rcases Nat.lt_or_ge position 4 with hposition | hposition
              · obtain ⟨outcome, answered, state', hanswers, hturn⟩ :=
                  Rig.Hosts.exists_handleAt hstranger nodes now entropy worker.id state
                    hposition header payload
                obtain ⟨worker', after, hid, hquiet, hheed⟩ :=
                  worker.exists_heed header outcome (hanswers.reticent hreticent)
                refine ⟨worker', after, some state', hid, hquiet,
                  fun rig hhosts hnow hentropy => ?_⟩
                obtain ⟨rig', hhandle, hhosts'⟩ := hturn rig hhosts hnow hentropy
                obtain ⟨rig'', hheeded, hhosts''⟩ := hheed rig' hhosts'
                refine ⟨rig'', ?_, hhosts''⟩
                exact (dispatch_of_handleAt hread hslot hhandle).trans hheeded
              · exact uniform_of_eq worker rfl hreticent fun rig hhosts => by
                  simp only [dispatch, hread, hslot, hhosts.handleAt_of_le hposition]

/-- What the read loop does with what the session received. -/
def takeIn (worker : Worker) (received : Except SessionError (Option Bytes))
    (rig : Rig Outlet) : Worker × Rig Outlet :=
  match received with
  | .ok none => (worker, rig)
  | .ok (some message) => worker.dispatch rig message
  | .error .peerClosed => (worker.leave .peerClosed, rig)
  | .error .closed => (worker.leave .requested, rig)
  | .error _ => (worker.leave .transport, rig)

/-- A connection whose session has moved on. -/
def resumed (session : Session) (connection : Connection Outlet) : Connection Outlet :=
  { connection with sink := { connection.sink with session } }

theorem read_of_station {worker : Worker} {rig : Rig Outlet} {station : Station Outlet}
    (hphase : worker.phase = .reading) (hstop : worker.stop = false)
    (hstation : rig.station? worker.id = some station) (arrival : Option Bytes) :
    worker.read rig arrival
      = worker.takeIn (station.connection.sink.session.receive arrival).1
          (rig.modify worker.id fun other => { other with
            connection := resumed (station.connection.sink.session.receive arrival).2
              other.connection }) := by
  unfold read takeIn
  rw [hphase, hstop, hstation]
  rfl

/-- A turn of the read loop comes out the same everywhere. -/
theorem uniform_read (worker : Worker) (hstranger : connection.node = none)
    (hreticent : connection.sink.Reticent keys) (arrival : Option Bytes) :
    Uniform keys nodes now entropy worker.id connection state
      fun rig => worker.read rig arrival := by
  by_cases hphase : worker.phase = .reading
  · cases hstop : worker.stop with
    | true =>
        exact uniform_of_eq (worker.leave .requested) rfl hreticent fun rig _ => by
          rw [read, if_neg (not_not_intro hphase), if_pos hstop]
    | false =>
        -- what the session makes of the datagram, and where that leaves it
        generalize hreceived : connection.sink.session.receive arrival = received
        have hquiet : (resumed received.2 connection).sink.Reticent keys := by
          rw [← hreceived]
          exact hreticent.receive arrival
        have htaken : Uniform keys nodes now entropy worker.id
            (resumed received.2 connection) state
            fun rig => worker.takeIn received.1 rig := by
          cases received.1 with
          | ok message =>
              cases message with
              | none => exact uniform_of_eq worker rfl hquiet fun rig _ => rfl
              | some message =>
                  have hunknown : (resumed received.2 connection).node = none := hstranger
                  exact worker.uniform_dispatch hunknown hquiet message
          | error fault =>
              cases fault with
              | peerClosed =>
                  exact uniform_of_eq (worker.leave .peerClosed) rfl hquiet fun rig _ => rfl
              | closed =>
                  exact uniform_of_eq (worker.leave .requested) rfl hquiet fun rig _ => rfl
              | _ =>
                  exact uniform_of_eq (worker.leave .transport) rfl hquiet fun rig _ => rfl
        obtain ⟨worker', after, state', hid, hdone, hrun⟩ := htaken
        refine ⟨worker', after, state', hid, hdone, fun rig hhosts hnow hentropy => ?_⟩
        obtain ⟨rig', htake, hhosts'⟩ :=
          hrun _ (hhosts.modify (resumed received.2)) hnow hentropy
        obtain ⟨token, hstood⟩ := hhosts.station
        refine ⟨rig', ?_, hhosts'⟩
        have hread := read_of_station hphase hstop hstood arrival
        rw [hreceived] at hread
        exact hread.trans htake
  · exact uniform_of_eq worker rfl hreticent fun rig _ => by rw [read, if_pos hphase]

/-- Releasing the handlers comes out the same everywhere. -/
theorem uniform_release (worker : Worker) (hreticent : connection.sink.Reticent keys) :
    Uniform keys nodes now entropy worker.id connection state
      fun rig => worker.release rig := by
  by_cases hleaving : ∃ cause, worker.phase = .leaving cause
  · obtain ⟨cause, hphase⟩ := hleaving
    refine ⟨{ worker with phase := .released cause }, connection, none, rfl, hreticent,
      fun rig hhosts _ _ => ⟨rig.detachAll worker.id, ?_, hhosts.detachAll⟩⟩
    simp only [release, hphase]
  · refine uniform_of_eq worker rfl hreticent fun rig _ => ?_
    unfold release
    split
    next cause hphase => exact absurd ⟨cause, hphase⟩ hleaving
    · rfl

/-- A stage of the shutdown comes out the same everywhere. -/
theorem uniform_advance (worker : Worker) (hreticent : connection.sink.Reticent keys) :
    Uniform keys nodes now entropy worker.id connection state
      fun rig => worker.advance rig := by
  cases hshutdown : worker.shutdown with
  | none =>
      exact uniform_of_eq worker rfl hreticent fun rig _ => by
        simp only [advance, hshutdown]
  | some entered =>
      obtain ⟨cause, stage⟩ := entered
      cases stage with
      | entered =>
          exact uniform_of_eq
            { worker with stop := true, shutdown := some (cause, .stopped) } rfl hreticent
            fun rig _ => by simp only [advance, hshutdown]
      | stopped =>
          refine ⟨{ worker with shutdown := some (cause, .silent) },
            { connection with sink := connection.sink.close }, state, rfl, hreticent.close,
            fun rig hhosts _ _ => ⟨hush rig worker.id, ?_, ?_⟩⟩
          · simp only [advance, hshutdown]
          · exact hhosts.modify fun connection =>
              { connection with sink := connection.sink.close }
      | silent =>
          exact uniform_of_eq
            { worker with
              shutdown := some (cause, .reported)
              heard := worker.heard ++ List.replicate worker.callbacks cause
              callbacks := 0 } rfl hreticent
            fun rig _ => by simp only [advance, hshutdown]
      | reported =>
          exact uniform_of_eq worker rfl hreticent fun rig _ => by
            simp only [advance, hshutdown]

theorem id_enter (worker : Worker) (cause : ShutdownCause) :
    (worker.enter cause).2.id = worker.id := by
  unfold enter
  split
  · rfl
  · rfl

/-- A step of the worker comes out the same everywhere. -/
theorem uniform_step (worker : Worker) (hstranger : connection.node = none)
    (hreticent : connection.sink.Reticent keys) (next : Step) :
    Uniform keys nodes now entropy worker.id connection state
      fun rig => worker.step rig next := by
  cases next with
  | read arrival => exact worker.uniform_read hstranger hreticent arrival
  | breakOff =>
      refine uniform_of_eq worker.breakOff ?_ hreticent fun rig _ => rfl
      unfold breakOff
      split
      · rfl
      · rfl
  | release => exact worker.uniform_release hreticent
  | report =>
      refine uniform_of_eq worker.report ?_ hreticent fun rig _ => rfl
      unfold report
      split
      next cause _ =>
        have hid := worker.id_enter cause
        split
        next hentered =>
          rw [hentered] at hid
          exact hid
        next hentered =>
          rw [hentered] at hid
          exact hid
      · rfl
  | signal =>
      exact uniform_of_eq worker.signal (worker.id_enter _) hreticent fun rig _ => rfl
  | drop =>
      exact uniform_of_eq worker.drop (worker.id_enter _) hreticent fun rig _ => rfl
  | advance => exact worker.uniform_advance hreticent
  | finish =>
      refine uniform_of_eq worker.finish ?_ hreticent fun rig _ => rfl
      unfold finish
      simp only
      split
      all_goals
        split
        · rfl
        · rfl

end Worker

end Luminaire
