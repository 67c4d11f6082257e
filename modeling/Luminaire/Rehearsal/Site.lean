/-
A whole controller with nodes that connect to it.

Everybody is on the loopback address: the controller listens on one port
and has another for each connection, every node has its own, and one more
belongs to a visitor who only says hello. Each thing that happens is
followed up until nothing more is due: attempts answer and succeed, what
has begun to end comes to its end, ended connections are collected, and
the nodes take in what was sent to them.
-/
import Luminaire.App
import Luminaire.Rehearsal.Handshake
import Luminaire.Rehearsal.Worker

namespace Luminaire.Rehearsal

/-- A node whose handshake has succeeded. -/
structure Client where
  connection : ConnectionId
  peer : Peer
  /-- Whether it has closed the connection itself. -/
  left : Bool

structure Site where
  app : App
  regions : Audience UInt64
  keys : Audience UInt32
  /-- The nodes in the order they connected. -/
  clients : List Client
  /-- The cookie the visitor received last. -/
  cookie : Option Bytes

namespace Site

/-- A site nobody has connected to. -/
def ofApp (app : App) : Site := ⟨app, .empty, .empty, [], none⟩

/-- The port of a connection's path. -/
def pathAddress (id : ConnectionId) : SocketAddress := ⟨.loopback, (41000 + id).toUInt16⟩

/-- The connection whose path has this address. -/
def connectionAt (address : SocketAddress) : ConnectionId := address.port.toNat - 41000

/-- The address of the node that connects as the given one. -/
def clientAddress (number : Nat) : SocketAddress := ⟨.loopback, (50000 + number).toUInt16⟩

def visitorAddress : SocketAddress := ⟨.loopback, 49999⟩

/-- The site's framebuffer, directory and keys with their audience. -/
def stage (site : Site) : Stage Outlet := ⟨site.app.listener.rig, site.regions, site.keys⟩

def withListener (site : Site) (listener : Listener) : Site :=
  { site with app := { site.app with listener } }

def withStage (site : Site) (stage : Stage Outlet) : Site :=
  { site.withListener { site.app.listener with rig := stage.rig } with
    regions := stage.regions
    keys := stage.keys }

-- ======================================================= follow up

/-- Leads the workers whose end has begun to their end and collects them. -/
def settle (listener : Listener) : Listener :=
  let ended := listener.workers.filter fun worker =>
    worker.phase ≠ .reading || worker.shutdown.isSome
  let steps := ended.flatMap fun worker => Worker.ending.map (Listener.Step.worker worker.id)
  (listener.run (steps ++ [.collect])).1

/-- Hands what a connection sent to the node at its other end. -/
def hearFrom (site : Site) (id : ConnectionId) : Site :=
  let (records, rig) := collectSent site.app.listener.rig id
  { site.withListener { site.app.listener with rig } with
    clients := site.clients.map fun client =>
      if client.connection = id then { client with peer := records.foldl Peer.take client.peer }
      else client }

/-- Follows up what has happened. -/
def followUp (site : Site) : Site :=
  let site := site.withListener (settle site.app.listener)
  (site.app.listener.rig.stations.map Station.id).foldl hearFrom site

-- ====================================================== connecting

/-- Where a departing datagram comes from. -/
def sourceOf (departure : Departure) : SocketAddress :=
  match departure.port with
  | .listening => controllerAddress
  | .own id => pathAddress id

/-- A datagram reaches the listening port, and new attempts answer. -/
def arriveListening (listener : Listener) (source : SocketAddress) (datagram : Bytes) :
    Listener × List Departure :=
  let (listener, departures) := listener.step (.arrive source datagram true)
  let starting := listener.attempts.filter fun attempt => attempt.phase = .starting
  let (listener, more) := listener.run (starting.map fun attempt => .answer attempt.id)
  (listener, departures ++ more)

/-- A datagram reaches the path of a connection; an attempt that succeeds
gets its worker. -/
def arrivePath (listener : Listener) (id : ConnectionId) (datagram : Bytes) :
    Listener × List Departure :=
  listener.run [.confirm id datagram, .start id true, .enlist id]

/-- A node on its way into the site. -/
structure Arrival where
  listener : Listener
  address : SocketAddress
  node : Connecting
  /-- Datagrams on their way to the node. -/
  arrivals : List (SocketAddress × Bytes)

namespace Arrival

/-- The node does what it does, and the controller answers. -/
def next (arrival : Arrival) (turn : Connecting × Option Bytes) : Arrival :=
  let arrival := { arrival with node := turn.1 }
  match turn.2 with
  | none => arrival
  | some datagram =>
      let (listener, departures) := match turn.1 with
        | .confirming path _ => arrivePath arrival.listener (connectionAt path) datagram
        | _ => arriveListening arrival.listener arrival.address datagram
      { arrival with
        listener
        arrivals := arrival.arrivals ++ departures.map fun d => (sourceOf d, d.datagram) }

/-- The next datagram arrives, or a wait runs out. -/
def step (arrival : Arrival) : Arrival :=
  match arrival.arrivals with
  | (source, datagram) :: arrivals =>
      { arrival with arrivals }.next (arrival.node.arrive source datagram)
  | [] => arrival.next arrival.node.expire

/-- Steps until the node is done, at most `limit` of them. -/
def run : (limit : Nat) → Arrival → Arrival
  | 0, arrival => arrival
  | limit + 1, arrival => if arrival.node.isOver then arrival else run limit arrival.step

end Arrival

/-- Ends the attempts that still wait. -/
def expireAll (listener : Listener) : Listener :=
  (listener.run (listener.attempts.map fun attempt => .expire attempt.id)).1

/-- A node connects. Every hello is answered at most once, so a few steps
for every wait are enough. -/
def connect (site : Site) (terms : ConnectTerms) : Connecting × Site :=
  let listener := site.app.listener
  let (turn, entropy) := Connecting.start terms listener.link listener.rig.venue.entropy
  let listener := { listener with
    rig := { listener.rig with venue := { listener.rig.venue with entropy } } }
  let arrival := (Arrival.next ⟨listener, clientAddress site.clients.length, turn.1, []⟩ turn).run
    (4 * (terms.retries + 4))
  match arrival.node with
  | .established path session =>
      (arrival.node, { site.withListener arrival.listener with
        clients := site.clients ++ [⟨connectionAt path, ⟨session, [], false⟩, false⟩] })
  | node => (node, site.withListener (expireAll arrival.listener))

-- ========================================================== clients

def withClient (site : Site) (number : Nat) (client : Client) : Site :=
  { site with clients := site.clients.set number client }

/-- A record reaches the worker of a client. -/
def deliver (site : Site) (client : Client) (record : Bytes) : Site :=
  site.withListener
    (site.app.listener.step (.worker client.connection (.read (some record)))).1

/-- A client sends a message. -/
def send (site : Site) (number : Nat) (client : Client) (message : Bytes) :
    Except SessionError Unit × Site :=
  let (result, session) := client.peer.session.send message
  let client := { client with peer := { client.peer with session } }
  let site := site.withClient number client
  match result with
  | .ok record => (.ok (), site.deliver client record)
  | .error fault => (.error fault, site)

/-- A client closes its connection. -/
def leave (site : Site) (number : Nat) (client : Client) : Site :=
  let (notice, session) := client.peer.session.close
  let client := { client with peer := { client.peer with session, isOver := true }, left := true }
  let site := site.withClient number client
  match notice with
  | some record => site.deliver client record
  | none => site

-- ========================================================== visitor

/-- A hello that is answered with a cookie. -/
def plainHello : ClientHello :=
  ⟨handshakeVersion, List.replicate randomLength 1, none, List.replicate shareLength 2,
    CipherSuite.all⟩

/-- The visitor sends a datagram; what comes back, with where from. -/
def visit (site : Site) (datagram : Bytes) : List (SocketAddress × HandshakeMessage) × Site :=
  let (listener, departures) := arriveListening site.app.listener visitorAddress datagram
  (departures.filterMap fun departure =>
    (HandshakeMessage.ofDatagram? departure.datagram).map fun read => (sourceOf departure, read.1),
    site.withListener listener)

-- ============================================================= ending

/-- Ends the controller: the listener with all its workers, then the
broadcaster. -/
def terminate (site : Site) : Site :=
  let listener := (site.app.listener.run [.terminate, .close, .close, .close]).1
  let listener := (settle listener).run [.close]
  let site := site.withListener listener.1
  site.withStage site.stage.terminate

end Site

end Luminaire.Rehearsal
