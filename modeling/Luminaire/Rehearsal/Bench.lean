/-
The bench: one connection with its handlers on a stage, and a recorder in
place of the session behind it.

Messages are handed to the handlers directly, so what a handler sends is
seen as it leaves, and the recorder can be told to refuse it.
-/
import Luminaire.Connection.Recorder
import Luminaire.Rehearsal.Stage

namespace Luminaire.Rehearsal

/-- What the stages of all rehearsals are furnished with. -/
structure Furniture where
  nodes : List Node
  channels : List NodeChannel
  framebuffer : Framebuffer Watcher
  now : UInt64

namespace Furniture

def directory (furniture : Furniture) : Directory :=
  furniture.channels.foldl .insertChannel (furniture.nodes.foldl .insertNode .empty)

/-- The rig before anyone connects. -/
def rig {κ : Type} (furniture : Furniture) (group : Option (Broadcaster KeyWatcher))
    (entropy : Entropy) : Rig κ :=
  ⟨⟨furniture.directory, furniture.framebuffer, group, furniture.now, entropy⟩, []⟩

end Furniture

/-- The one connection of a bench. -/
def benchId : ConnectionId := 0

abbrev Bench := Stage Recorder

namespace Bench

/-- Where the bench's peer seems to be. -/
def peer : SocketAddress := ⟨.loopback, 5000⟩

/-- Attaches handlers in order. -/
def attach (kinds : List HandlerKind) (venue : Venue) : List Handler × Venue :=
  kinds.foldl (fun (handlers, venue) kind =>
    match Handler.attach? kind benchId venue with
    | none => (handlers, venue)
    | some (handler, venue) => (handlers ++ [handler], venue)) ([], venue)

/-- A bench with a handler of every kind; group control needs a group. -/
def start (furniture : Furniture) (group : Option (Broadcaster KeyWatcher)) (entropy : Entropy)
    (methods : List String) : Bench :=
  let rig : Rig Recorder := furniture.rig group entropy
  let (handlers, venue) := attach [.liveness, .authentication methods, .pixelData, .groupControl]
    rig.venue
  .empty ⟨venue, [⟨benchId, .new peer .empty, handlers⟩]⟩

def station? (bench : Bench) : Option (Station Recorder) := bench.rig.station? benchId

def connection (bench : Bench) : Connection Recorder :=
  match bench.station? with
  | some station => station.connection
  | none => .new peer .empty

def withConnection (bench : Bench) (connection : Connection Recorder) : Bench :=
  { bench with rig := bench.rig.modify benchId fun station => { station with connection } }

/-- Hands a message to the handler of its endpoint, if there is one. -/
def take (bench : Bench) (header : Header) (payload : Bytes) : Option Outcome × Bench :=
  let position := bench.station?.bind fun station =>
    station.handlers.findIdx? fun handler => handler.endpoint.code = header.endpoint
  match position.bind fun position => bench.rig.handleAt benchId position header payload with
  | none => (none, bench)
  | some (outcome, rig) => (some outcome, { bench with rig })

/-- Takes the handler of an endpoint away. -/
def drop (bench : Bench) (endpoint : Endpoint) : Bench :=
  { bench with rig := bench.rig.detach benchId endpoint }

/-- Whether the recorder refuses what it is given from now on. -/
def refuse (bench : Bench) (closed : Bool) : Bench :=
  bench.withConnection { bench.connection with sink := { bench.connection.sink with closed } }

/-- Lets the connection do something. -/
def act (bench : Bench)
    (action : Connection Recorder → Except HandlerError Unit × Connection Recorder) :
    Except HandlerError Unit × Bench :=
  let (result, connection) := action bench.connection
  (result, bench.withConnection connection)

/-- What the recorder took down since the last time. -/
def heard (bench : Bench) : List Bytes × Bench :=
  (bench.connection.sink.sent,
    bench.withConnection
      { bench.connection with sink := { bench.connection.sink with sent := [] } })

end Bench

end Luminaire.Rehearsal
