/-
The listener: it answers hellos, runs handshakes, and keeps a worker for
every node.

Nothing is kept for a peer that has not returned its cookie. With a good
cookie a handshake attempt begins, at most one per peer at a time; when
it has succeeded its worker starts and is put in the table of active
connections. Workers that have ended are on the list of the finished and
leave the table in a collection pass. Ending the listener happens once,
and empties the table.

The accept loop, the attempts, the workers and whoever ends the listener
act independently. Each action is a step; a step that is not due does
nothing. What is sent in a step is returned with it, except what leaves
through an established session, which its outlet keeps.
-/
import Luminaire.Handshake.Cookie
import Luminaire.Handshake.Server
import Luminaire.Server.Worker

namespace Luminaire

/-- Where a handshake attempt is. -/
inductive AttemptPhase where
  | starting
  | awaiting (unconfirmed : Unconfirmed)
  /-- The handshake has succeeded. -/
  | accepted (session : Session)
  /-- The worker runs but is not in the table yet. -/
  | started
  /-- The worker came too late and is being dropped. -/
  | dropping
  deriving DecidableEq, Repr

/-- A hello with a good cookie, and what has become of it. -/
structure Attempt where
  id : ConnectionId
  peer : SocketAddress
  hello : ClientHello
  /-- The hello as it arrived. -/
  raw : Bytes
  phase : AttemptPhase
  deriving DecidableEq, Repr

/-- How far the end of the listener has come. -/
inductive Closing where
  | no
  /-- The call that ends it has been accepted. -/
  | entered
  /-- The flag is up: no connection enters the table any more. -/
  | flagged
  /-- The accept loop is gone. -/
  | deaf
  /-- The table has been emptied; these workers have been told to end. -/
  | emptied (doomed : List ConnectionId)
  | done
  deriving DecidableEq, Repr

structure Listener where
  rig : Rig Outlet
  link : Link
  registry : Registry HandlerKind
  cookies : CookieJar
  handshake : ServerHandshake
  state : ListenerState
  closing : Closing
  /-- The flag that keeps connections out of the table. -/
  terminating : Bool
  /-- Whether the accept loop runs. -/
  accepting : Bool
  /-- Peers with a handshake in progress. -/
  handshaking : List SocketAddress
  attempts : List Attempt
  /-- Every worker that was ever started. -/
  workers : List Worker
  /-- The table of active connections. -/
  active : List ConnectionId
  /-- Ended connections that have not been collected. -/
  finished : List (ConnectionId × ShutdownCause)
  /-- The number of the next connection. A hello with a good cookie uses it
  up, so it grows by one at most with every datagram that arrives. -/
  nextId : ConnectionId

/-- Where a datagram leaves from. -/
inductive Port where
  | listening
  /-- The path of one connection. -/
  | own (id : ConnectionId)
  deriving DecidableEq, Repr

/-- A datagram on its way to a peer. -/
structure Departure where
  port : Port
  peer : SocketAddress
  datagram : Bytes
  deriving DecidableEq, Repr

namespace Listener

/-- A listener that has just begun to listen. -/
def new (rig : Rig Outlet) (link : Link) (registry : Registry HandlerKind) (cookies : CookieJar)
    (handshake : ServerHandshake) : Listener where
  rig := rig
  link := link
  registry := registry
  cookies := cookies
  handshake := handshake
  state := .listening
  closing := .no
  terminating := false
  accepting := true
  handshaking := []
  attempts := []
  workers := []
  active := []
  finished := []
  nextId := 1

def worker? (listener : Listener) (id : ConnectionId) : Option Worker :=
  listener.workers.find? fun worker => worker.id == id

def attempt? (listener : Listener) (id : ConnectionId) : Option Attempt :=
  listener.attempts.find? fun attempt => attempt.id == id

/-- How many connections are in the table. -/
def connectionCount (listener : Listener) : Nat := listener.active.length

/-- How many connections in the table are authenticated. -/
def authenticatedCount (listener : Listener) : Nat :=
  (listener.active.filter fun id =>
    (listener.rig.station? id).any fun station => station.connection.isAuthenticated).length

-- ========================================================== accepting

/-- The answer to a hello without a good cookie. -/
def verifyRequest (cookies : CookieJar) (peer : SocketAddress) : Bytes :=
  Cbor.encode (HandshakeMessage.helloVerifyRequest ⟨cookies.issue peer⟩)

/-- A hello that has passed the first checks arrived from `peer`. The last
argument says whether an attempt can be started. -/
def greeted (listener : Listener) (peer : SocketAddress) (hello : ClientHello) (raw : Bytes)
    (able : Bool) : Listener × List Departure :=
  if hello.cookie.any fun cookie => listener.cookies.verifies peer cookie then
    if listener.handshaking.contains peer then (listener, [])
    else if able then
      ({ listener with
          handshaking := peer :: listener.handshaking
          nextId := listener.nextId + 1
          attempts := listener.attempts ++ [⟨listener.nextId, peer, hello, raw, .starting⟩] }, [])
    else ({ listener with nextId := listener.nextId + 1 }, [])
  else
    let answer := verifyRequest listener.cookies peer
    (listener, if listener.link.takes answer then [⟨.listening, peer, answer⟩] else [])

/-- A datagram arrived at the listening port. -/
def arrive (listener : Listener) (peer : SocketAddress) (datagram : Bytes) (able : Bool) :
    Listener × List Departure :=
  if listener.accepting then
    match HandshakeMessage.ofDatagram? datagram with
    | some (.clientHello hello, raw) =>
        match hello.validate with
        | .error _ => (listener, [])
        | .ok () => listener.greeted peer hello raw able
    | _ => (listener, [])
  else (listener, [])

-- =========================================================== attempts

/-- Moves an attempt on. -/
def setPhase (listener : Listener) (id : ConnectionId) (phase : AttemptPhase) : Listener :=
  { listener with
    attempts := listener.attempts.map fun attempt =>
      if attempt.id = id then { attempt with phase } else attempt }

/-- Forgets an attempt. -/
def forget (listener : Listener) (id : ConnectionId) : Listener :=
  { listener with attempts := listener.attempts.filter (·.id ≠ id) }

/-- The handshake of a peer is over. -/
def unlock (listener : Listener) (peer : SocketAddress) : Listener :=
  { listener with handshaking := listener.handshaking.filter (· ≠ peer) }

/-- An attempt answers its hello. One that breaks down over its secret
never unlocks its peer. -/
def answer (listener : Listener) (attempt : Attempt) : Listener × List Departure :=
  let answer := listener.handshake.answer listener.link attempt.hello attempt.raw
    listener.rig.venue.entropy
  let rig := { listener.rig with venue := { listener.rig.venue with entropy := answer.entropy } }
  let listener := { listener with rig }
  let departures := answer.sent.toList.map fun datagram => ⟨.own attempt.id, attempt.peer, datagram⟩
  match answer.progress with
  | .failed _ => ((listener.forget attempt.id).unlock attempt.peer, departures)
  | .crashed => (listener.forget attempt.id, departures)
  | .awaiting unconfirmed => (listener.setPhase attempt.id (.awaiting unconfirmed), departures)

/-- A datagram arrived on the path of an attempt. -/
def confirm (listener : Listener) (attempt : Attempt) (unconfirmed : Unconfirmed)
    (datagram : Bytes) : Listener × List Departure :=
  match unconfirmed.take datagram with
  | .waiting unconfirmed => (listener.setPhase attempt.id (.awaiting unconfirmed), [])
  | .failed _ => ((listener.forget attempt.id).unlock attempt.peer, [])
  | .established session sent =>
      ((listener.setPhase attempt.id (.accepted session)).unlock attempt.peer,
        sent.toList.map fun datagram => ⟨.own attempt.id, attempt.peer, datagram⟩)

/-- Changes a worker and the rig with it; what its callback hears is put
on the list of the finished. -/
def stepWorker (listener : Listener) (id : ConnectionId) (next : Worker.Step) : Listener :=
  match listener.worker? id with
  | none => listener
  | some worker =>
      let (stepped, rig) := worker.step listener.rig next
      { listener with
        rig
        workers := listener.workers.map fun other => if other.id = id then stepped else other
        finished := listener.finished
          ++ (stepped.heard.drop worker.heard.length).map fun cause => (id, cause) }

/-- An attempt that has succeeded starts its worker, if it can. -/
def startWorker (listener : Listener) (attempt : Attempt) (session : Session) (able : Bool) :
    Listener :=
  if able then
    let (worker, _, rig) := Worker.start attempt.id attempt.peer session listener.registry 1
      listener.rig
    { listener with rig, workers := listener.workers ++ [worker] }.setPhase attempt.id .started
  else listener.forget attempt.id

/-- The worker of an attempt is put in the table, or dropped if the
listener is ending. -/
def enlist (listener : Listener) (attempt : Attempt) : Listener :=
  if listener.terminating then
    (listener.stepWorker attempt.id .drop).setPhase attempt.id .dropping
  else { listener with active := listener.active ++ [attempt.id] }.forget attempt.id

/-- Whether a worker has come to its end. -/
def isOver (listener : Listener) (id : ConnectionId) : Bool :=
  (listener.worker? id).all Worker.isFinished

/-- Whether nothing of a worker is left to wait for. Whoever drops a worker
carries out the shutdown that it enters, or waits behind the read loop's. -/
def isGone (listener : Listener) (id : ConnectionId) : Bool :=
  (listener.worker? id).all fun worker => worker.isFinished && worker.isReported

-- ========================================================= collecting

/-- Whether a finished connection can be collected now. -/
def isReady (listener : Listener) (entry : ConnectionId × ShutdownCause) : Bool :=
  entry.2.isCollectable || listener.isOver entry.1

/-- One collection pass: active connections that are ready leave the
table, those that are not keep their entries, and entries of others go.
Returns how many left. -/
def collect (listener : Listener) : Nat × Listener :=
  let (ready, waiting) := (listener.finished.filter fun entry =>
    listener.active.contains entry.1).partition listener.isReady
  let gone := (ready.map Prod.fst).eraseDups
  (gone.length,
    gone.foldl (fun listener id => listener.stepWorker id .drop)
      { listener with
        active := listener.active.filter fun id => !gone.contains id
        finished := waiting.filter fun entry => !gone.contains entry.1 })

-- ============================================================= ending

/-- Somebody wants the listener to end. -/
def terminate (listener : Listener) : Listener :=
  match transition listener.state .terminating with
  | .error _ => listener
  | .ok state => { listener with state, closing := .entered }

/-- Tells a worker to end, and drops it. -/
def doom (listener : Listener) (id : ConnectionId) : Listener :=
  (listener.stepWorker id .signal).stepWorker id .drop

/-- Carries the end of the listener one stage further. It waits for the
workers that were told to end. -/
def close (listener : Listener) : Listener :=
  match listener.closing with
  | .entered => { listener with terminating := true, closing := .flagged }
  | .flagged => { listener with accepting := false, closing := .deaf }
  | .deaf =>
      listener.active.foldl doom
        { listener with active := [], closing := .emptied listener.active }
  | .emptied doomed =>
      if doomed.all listener.isGone then
        { listener with
          finished := []
          closing := .done
          state := match transition listener.state .closed with
            | .ok state => state
            | .error _ => listener.state }
      else listener
  | _ => listener

-- ============================================================== steps

/-- What can happen to a listener. -/
inductive Step where
  /-- A datagram at the listening port; the flag says whether an attempt
  could be started. -/
  | arrive (peer : SocketAddress) (datagram : Bytes) (able : Bool)
  /-- An attempt answers its hello. -/
  | answer (id : ConnectionId)
  /-- A datagram on the path of an attempt. -/
  | confirm (id : ConnectionId) (datagram : Bytes)
  /-- An attempt has waited too long. -/
  | expire (id : ConnectionId)
  /-- An attempt starts its worker; the flag says whether it can. -/
  | start (id : ConnectionId) (able : Bool)
  | enlist (id : ConnectionId)
  | worker (id : ConnectionId) (step : Worker.Step)
  | collect
  | terminate
  | close
  /-- The renderer has finished a region. -/
  | region (region : Region) (frameNumber : UInt64)
  /-- The broadcaster works off a request. -/
  | group
  /-- The keys rotate on their own. -/
  | rotate
  deriving DecidableEq, Repr

def step (listener : Listener) (next : Step) : Listener × List Departure :=
  match next with
  | .arrive peer datagram able => listener.arrive peer datagram able
  | .answer id =>
      match listener.attempt? id with
      | some attempt =>
          if attempt.phase = .starting then listener.answer attempt else (listener, [])
      | none => (listener, [])
  | .confirm id datagram =>
      match listener.attempt? id with
      | some attempt =>
          match attempt.phase with
          | .awaiting unconfirmed => listener.confirm attempt unconfirmed datagram
          | _ => (listener, [])
      | none => (listener, [])
  | .expire id =>
      match listener.attempt? id with
      | some attempt =>
          match attempt.phase with
          | .awaiting _ => ((listener.forget id).unlock attempt.peer, [])
          | _ => (listener, [])
      | none => (listener, [])
  | .start id able =>
      match listener.attempt? id with
      | some attempt =>
          match attempt.phase with
          | .accepted session => (listener.startWorker attempt session able, [])
          | _ => (listener, [])
      | none => (listener, [])
  | .enlist id =>
      match listener.attempt? id with
      | some attempt =>
          match attempt.phase with
          | .started => (listener.enlist attempt, [])
          | .dropping => (if listener.isGone id then listener.forget id else listener, [])
          | _ => (listener, [])
      | none => (listener, [])
  | .worker id step => (listener.stepWorker id step, [])
  | .collect => (listener.collect.2, [])
  | .terminate => (listener.terminate, [])
  | .close => (listener.close, [])
  | .region region frameNumber =>
      ({ listener with rig := (listener.rig.finish region frameNumber).2 }, [])
  | .group => ({ listener with rig := listener.rig.work.2 }, [])
  | .rotate => ({ listener with rig := listener.rig.rotate.2 }, [])

/-- Steps in order, with everything that is sent. -/
def run (listener : Listener) (steps : List Step) : Listener × List Departure :=
  steps.foldl (fun (listener, departures) next =>
    let (listener, more) := listener.step next
    (listener, departures ++ more)) (listener, [])

end Listener

end Luminaire
