/-
One worker and the client at the other end of its session.

Whatever the client sends is read at once, what the worker begins to end
comes to its end, and the client takes in everything that was sent to it.
-/
import Luminaire.Rehearsal.Bench
import Luminaire.Server.Standard
import Luminaire.Server.Worker

namespace Luminaire.Rehearsal

/-- A handler that replies to numbers, and fails in every way there is when
it is asked to. -/
def probe (endpoint : Endpoint) : Plugin where
  endpoint := endpoint
  respond messageType payload :=
    match messageType.toNat with
    | 1 =>
        match (Cbor.Item.decode? payload).bind Cbor.Codec.word32.read with
        | some value => .reply 2 (Cbor.Codec.word32.write value).print
        | none => .failed .undecodable
    | 8 => .crashed
    | 9 => .failed (.protocolViolation (.stated "probe"))
    | 10 => .failed .authenticationFailed
    | 11 => .failed (.frame (.versionMismatch 0))
    | 12 => .failed (.frame (.payloadTooLarge 0))
    | _ => .failed (.unknownMessageType endpoint messageType)

/-- A client of a worker or a listener. -/
structure Peer where
  session : Session
  /-- Messages it was sent, oldest first. -/
  received : List Bytes
  /-- Whether it closed the connection or was told that it is closed. -/
  isOver : Bool

namespace Peer

/-- Takes in a datagram. -/
def take (peer : Peer) (datagram : Bytes) : Peer :=
  match peer.session.receive (some datagram) with
  | (.ok none, session) => { peer with session }
  | (.ok (some message), session) => { peer with session, received := peer.received ++ [message] }
  | (.error _, session) => { peer with session, isOver := true }

end Peer

/-- The records that have left a station since the last time. -/
def collectSent (rig : Rig Outlet) (id : ConnectionId) : List Bytes × Rig Outlet :=
  match rig.station? id with
  | none => ([], rig)
  | some station =>
      (station.connection.sink.sent,
        rig.modify id fun station =>
          { station with
            connection := { station.connection with
              sink := { station.connection.sink with sent := [] } } })

structure Attendance where
  stage : Stage Outlet
  worker : Worker
  client : Peer
  /-- The probes that were registered, by name. -/
  probes : List String

namespace Attendance

/-- The id of the only worker. -/
def id : ConnectionId := 7

/-- Starts a worker with the standard handlers, or with liveness alone
where there is no group, and with probes. The flags say which probes were
registered, and the names which of those were dropped at once. -/
def start (link : Link) (suite : CipherSuite) (keys : SessionKeys) (rig : Rig Outlet)
    (probes : List (String × Endpoint)) (callbacks : Nat) :
    Option (Attendance × Registry HandlerKind × List Bool × List String) :=
  link.whenUp fun () =>
    let standard := if rig.venue.group.isSome then standardRegistry
      else (Registry.empty.register "default" HandlerKind.liveness).2
    let (flags, registry) := standard.registerAll
      (probes.map fun (name, endpoint) => (name, .plugin (probe endpoint)))
    let registered := registry.names.drop standard.size
    let (worker, kept, rig) := Worker.start id Bench.peer (.establish link suite .server keys)
      registry callbacks rig
    let dropped := ((registry.names.zip kept).drop standard.size).filterMap fun (name, isKept) =>
      if isKept then none else some name
    some (⟨.empty rig, worker, ⟨.establish link suite .client keys, [], false⟩, registered⟩,
      registry, flags, dropped)

/-- The worker takes a step, and what begins to end comes to its end. -/
def step (attendance : Attendance) (next : Worker.Step) : Attendance :=
  let (worker, rig) := attendance.worker.step attendance.stage.rig next
  let (worker, rig) := worker.settle rig
  { attendance with worker, stage := { attendance.stage with rig } }

/-- A datagram reaches the worker. -/
def deliver (attendance : Attendance) (datagram : Bytes) : Attendance :=
  attendance.step (.read (some datagram))

/-- The client sends a content. -/
def send (attendance : Attendance) (content : ContentType) (plain : Bytes) :
    Except SessionError Unit × Attendance :=
  let (result, session) := attendance.client.session.sendRecord content plain
  let attendance := { attendance with client := { attendance.client with session } }
  match result with
  | .ok record => (.ok (), attendance.deliver record)
  | .error fault => (.error fault, attendance)

/-- The client closes its session. -/
def close (attendance : Attendance) : Attendance :=
  let (notice, session) := attendance.client.session.close
  let attendance := { attendance with client := { attendance.client with session, isOver := true } }
  match notice with
  | some record => attendance.deliver record
  | none => attendance

/-- The client takes in what was sent to it; returns the messages. -/
def hear (attendance : Attendance) : List Bytes × Attendance :=
  let (records, rig) := collectSent attendance.stage.rig id
  let client := records.foldl Peer.take { attendance.client with received := [] }
  (client.received, { attendance with client, stage := { attendance.stage with rig } })

end Attendance

end Luminaire.Rehearsal
