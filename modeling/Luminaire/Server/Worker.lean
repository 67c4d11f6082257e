/-
A worker serves one session: it reads messages, hands each to the handler
of its endpoint, and shuts the connection down.

Three parties can end it: the read loop when it is over, anyone who
signals, and the owner who drops the worker. Whoever comes first runs the
shutdown: the loop is told to stop, the session is closed, and the
registered callbacks hear the cause. The loop releases its handlers
before it tries.

Every action is a step of its own, so that the steps of several parties
can follow each other in any order. A step that is not due does nothing.
-/
import Luminaire.Connection.Station
import Luminaire.Server.Lifecycle
import Luminaire.Server.Registry

namespace Luminaire

/-- A session as the way out of a connection, with the datagrams that have
left. -/
structure Outlet where
  session : Session
  sent : List Bytes
  deriving DecidableEq, Repr

namespace Outlet

/-- Closes the session; the notice leaves if it can. -/
def close (outlet : Outlet) : Outlet :=
  let (notice, session) := outlet.session.close
  ⟨session, outlet.sent ++ notice.toList⟩

instance : Sink Outlet where
  put outlet message :=
    match outlet.session.send message with
    | (.ok record, session) => (.ok (), ⟨session, outlet.sent ++ [record]⟩)
    | (.error fault, session) => (.error fault, ⟨session, outlet.sent⟩)

end Outlet

-- ============================================================= causes

/-- Why a connection ended. -/
inductive ShutdownCause where
  /-- Somebody signalled. -/
  | requested
  /-- The owner dropped the worker. -/
  | dropped
  | peerClosed
  | protocolViolation
  | authenticationFailed
  | transport
  deriving DecidableEq, Repr

namespace ShutdownCause

def name : ShutdownCause → String
  | .requested => "Requested"
  | .dropped => "Dropped"
  | .peerClosed => "PeerClosed"
  | .protocolViolation => "ProtocolViolation"
  | .authenticationFailed => "AuthenticationFailed"
  | .transport => "Transport"

/-- Whether the read loop is over by the time this cause is reported. -/
def isCollectable : ShutdownCause → Bool
  | .requested | .dropped => false
  | _ => true

/-- The cause a fatal error makes. -/
def ofError : HandlerError → ShutdownCause
  | .authenticationFailed => .authenticationFailed
  | _ => .protocolViolation

end ShutdownCause

-- ============================================================= worker

/-- Where the read loop is. -/
inductive LoopPhase where
  | reading
  /-- It is over, for this cause. -/
  | leaving (cause : ShutdownCause)
  /-- The handlers are gone. -/
  | released (cause : ShutdownCause)
  /-- It has entered the shutdown and runs it. -/
  | ending
  /-- The shutdown is in other hands, or done. -/
  | leaderless
  | finished
  deriving DecidableEq, Repr

/-- How far a shutdown has come. -/
inductive ShutdownStage where
  | entered
  /-- The loop has been told to stop. -/
  | stopped
  /-- The session is closed. -/
  | silent
  /-- The callbacks have run. -/
  | reported
  deriving DecidableEq, Repr

structure Worker where
  id : ConnectionId
  /-- Endpoints and the positions of their handlers at the station. -/
  slots : List (UInt8 × Nat)
  state : WorkerState
  /-- Whether the loop has been told to stop. -/
  stop : Bool
  phase : LoopPhase
  /-- The shutdown, once somebody has entered it. -/
  shutdown : Option (ShutdownCause × ShutdownStage)
  /-- How many callbacks have yet to hear of it. -/
  callbacks : Nat
  /-- What callbacks have heard, oldest first. -/
  heard : List ShutdownCause
  /-- Whether the owner has dropped it. -/
  dropped : Bool
  deriving DecidableEq, Repr

namespace Worker

/-- Whether the read loop and the handlers are gone. -/
def isFinished (worker : Worker) : Bool := worker.phase == .finished

/-- Whether its shutdown has run to the end: the callbacks have heard. -/
def isReported (worker : Worker) : Bool := worker.shutdown.any (·.2 == .reported)

-- ========================================================== attaching

/-- Attaches handlers in order; one whose endpoint is claimed already is
detached at once. The flags say which were kept. -/
def attach (id : ConnectionId) :
    List HandlerKind → Roster Handler → Venue → Roster Handler × List Bool × Venue
  | [], roster, venue => (roster, [], venue)
  | kind :: kinds, roster, venue =>
      match Handler.attach? kind id venue with
      | none =>
          let (roster, kept, venue) := attach id kinds roster venue
          (roster, false :: kept, venue)
      | some (handler, venue) =>
          match roster.claim handler.endpoint.code handler with
          | (true, roster) =>
              let (roster, kept, venue) := attach id kinds roster venue
              (roster, true :: kept, venue)
          | (false, roster) =>
              let (roster, kept, venue) := attach id kinds roster (handler.detach venue)
              (roster, false :: kept, venue)

/-- Starts serving a session. -/
def start (id : ConnectionId) (peer : SocketAddress) (session : Session)
    (registry : Registry HandlerKind) (callbacks : Nat) (rig : Rig Outlet) :
    Worker × List Bool × Rig Outlet :=
  let (roster, kept, venue) := attach id (registry.entries.map Prod.snd) .empty rig.venue
  ({ id := id
     slots := roster.slots
     state := .running
     stop := false
     phase := .reading
     shutdown := none
     callbacks := callbacks
     heard := []
     dropped := false },
    kept,
    { venue
      stations := rig.stations ++ [⟨id, .new peer ⟨session, []⟩, roster.handlers⟩] })

-- ============================================================ reading

/-- The loop is over. -/
def leave (worker : Worker) (cause : ShutdownCause) : Worker :=
  { worker with phase := .leaving cause }

/-- Refuses a message of unknown type at a station. -/
def refuse (rig : Rig Outlet) (id : ConnectionId) (header : Header) : Rig Outlet :=
  rig.modify id fun station =>
    { station with connection := (station.connection.refuse header .unsupported).2 }

/-- Hands a message to its handler. -/
def dispatch (worker : Worker) (rig : Rig Outlet) (message : Bytes) : Worker × Rig Outlet :=
  match unframe (H := Header) message with
  | .error fault =>
      if fault.isFatal then (worker.leave .protocolViolation, rig) else (worker, rig)
  | .ok (header, payload) =>
      match worker.slots.lookup header.endpoint with
      | none => (worker, rig)
      | some position =>
          match rig.handleAt worker.id position header payload with
          | none => (worker, rig)
          | some (.failed (.unknownMessageType _ _), rig) =>
              (worker, refuse rig worker.id header)
          | some (.failed error, rig) =>
              if error.isFatal then (worker.leave (.ofError error), rig) else (worker, rig)
          | some (_, rig) => (worker, rig)

/-- One turn of the read loop, with the datagram that arrived, if any. -/
def read (worker : Worker) (rig : Rig Outlet) (arrival : Option Bytes) : Worker × Rig Outlet :=
  if worker.phase ≠ .reading then (worker, rig)
  else if worker.stop then (worker.leave .requested, rig)
  else
    match rig.station? worker.id with
    | none => (worker, rig)
    | some station =>
        let (received, session) := station.connection.sink.session.receive arrival
        let rig := rig.modify worker.id fun station =>
          { station with
            connection := { station.connection with
              sink := { station.connection.sink with session } } }
        match received with
        | .ok none => (worker, rig)
        | .ok (some message) => worker.dispatch rig message
        | .error .peerClosed => (worker.leave .peerClosed, rig)
        | .error .closed => (worker.leave .requested, rig)
        | .error _ => (worker.leave .transport, rig)

/-- Reading fails for good. -/
def breakOff (worker : Worker) : Worker :=
  if worker.phase = .reading then worker.leave .transport else worker

/-- The loop that is over releases its handlers. -/
def release (worker : Worker) (rig : Rig Outlet) : Worker × Rig Outlet :=
  match worker.phase with
  | .leaving cause => ({ worker with phase := .released cause }, rig.detachAll worker.id)
  | _ => (worker, rig)

-- =========================================================== shutdown

/-- Enters the shutdown, unless it has been entered before. -/
def enter (worker : Worker) (cause : ShutdownCause) : Bool × Worker :=
  match transition worker.state .terminating with
  | .error _ => (false, worker)
  | .ok state => (true, { worker with state, shutdown := some (cause, .entered) })

/-- The loop that has released its handlers tries to enter. -/
def report (worker : Worker) : Worker :=
  match worker.phase with
  | .released cause =>
      match worker.enter cause with
      | (true, worker) => { worker with phase := .ending }
      | (false, worker) => { worker with phase := .leaderless }
  | _ => worker

/-- Somebody signals. -/
def signal (worker : Worker) : Worker := (worker.enter .requested).2

/-- The owner drops the worker. -/
def drop (worker : Worker) : Worker := { (worker.enter .dropped).2 with dropped := true }

/-- Closes the session at a station. -/
def hush (rig : Rig Outlet) (id : ConnectionId) : Rig Outlet :=
  rig.modify id fun station =>
    { station with
      connection := { station.connection with sink := station.connection.sink.close } }

/-- Carries the shutdown one stage further. -/
def advance (worker : Worker) (rig : Rig Outlet) : Worker × Rig Outlet :=
  match worker.shutdown with
  | some (cause, .entered) =>
      ({ worker with stop := true, shutdown := some (cause, .stopped) }, rig)
  | some (cause, .stopped) =>
      ({ worker with shutdown := some (cause, .silent) }, hush rig worker.id)
  | some (cause, .silent) =>
      ({ worker with
          shutdown := some (cause, .reported)
          heard := worker.heard ++ List.replicate worker.callbacks cause
          callbacks := 0 }, rig)
  | _ => (worker, rig)

/-- The loop's last step: behind its own shutdown, or with the shutdown in
other hands. -/
def finish (worker : Worker) : Worker :=
  let due := match worker.phase, worker.shutdown with
    | .leaderless, _ => true
    | .ending, some (_, .reported) => true
    | _, _ => false
  if due then
    { worker with
      phase := .finished
      state := match transition worker.state .closed with
        | .ok state => state
        | .error _ => worker.state }
  else worker

-- ============================================================== steps

/-- What can happen to a worker. -/
inductive Step where
  /-- The read loop turns, with a datagram or without one. -/
  | read (arrival : Option Bytes)
  | breakOff
  | release
  | report
  | signal
  | drop
  | advance
  | finish
  deriving DecidableEq, Repr

def step (worker : Worker) (rig : Rig Outlet) : Step → Worker × Rig Outlet
  | .read arrival => worker.read rig arrival
  | .breakOff => (worker.breakOff, rig)
  | .release => worker.release rig
  | .report => (worker.report, rig)
  | .signal => (worker.signal, rig)
  | .drop => (worker.drop, rig)
  | .advance => worker.advance rig
  | .finish => (worker.finish, rig)

/-- Steps in order. -/
def run (worker : Worker) (rig : Rig Outlet) (steps : List Step) : Worker × Rig Outlet :=
  steps.foldl (fun (worker, rig) next => worker.step rig next) (worker, rig)

/-- The steps that lead a worker whose end has begun to its end, when
nobody else interferes. -/
def ending : List Step :=
  [.advance, .advance, .advance, .read none, .release, .report, .advance, .advance, .advance,
    .finish]

/-- Lets what has begun to end come to its end. -/
def settle (worker : Worker) (rig : Rig Outlet) : Worker × Rig Outlet :=
  if worker.phase = .reading ∧ worker.shutdown.isNone then (worker, rig)
  else worker.run rig ending

end Worker

end Luminaire
