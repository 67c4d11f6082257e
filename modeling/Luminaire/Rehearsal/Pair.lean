/-
A client's and a server's session with everything between them in the
open: the datagrams on their way to either side can be taken off their
queue, looked at, changed and put back.
-/
import Luminaire.Session

namespace Luminaire.Rehearsal

/-- A session and the datagrams on their way to it, oldest first. -/
structure End where
  session : Session
  arrivals : List Bytes
  deriving DecidableEq, Repr

structure Pair where
  client : End
  server : End
  /-- Datagrams that were taken off either queue, oldest first. -/
  taken : List Bytes
  deriving DecidableEq, Repr

namespace Pair

/-- Two fresh sessions under the same keys, if there is a path between
them. -/
def start (link : Link) (suite : CipherSuite) (keys : SessionKeys) : Option Pair :=
  link.whenUp fun () =>
    some ⟨⟨.establish link suite .client keys, []⟩, ⟨.establish link suite .server keys, []⟩, []⟩

/-- One side of the pair. -/
def side (pair : Pair) : Role → End
  | .client => pair.client
  | .server => pair.server

def withSide (pair : Pair) (role : Role) (place : End) : Pair :=
  match role with
  | .client => { pair with client := place }
  | .server => { pair with server := place }

def withSession (pair : Pair) (role : Role) (session : Session) : Pair :=
  pair.withSide role { pair.side role with session }

/-- Puts a datagram on its way to a side. -/
def deliver (pair : Pair) (role : Role) (datagram : Bytes) : Pair :=
  let place := pair.side role
  pair.withSide role { place with arrivals := place.arrivals ++ [datagram] }

/-- Sends a content from a side. -/
def send (pair : Pair) (role : Role) (content : ContentType) (plain : Bytes) :
    Except SessionError Unit × Pair :=
  match (pair.side role).session.sendRecord content plain with
  | (.ok record, session) => (.ok (), (pair.withSession role session).deliver role.peer record)
  | (.error fault, session) => (.error fault, pair.withSession role session)

/-- Closes a side. -/
def close (pair : Pair) (role : Role) : Pair :=
  match (pair.side role).session.close with
  | (some record, session) => (pair.withSession role session).deliver role.peer record
  | (none, session) => pair.withSession role session

/-- The next arrival of a side, unless its session is closed. -/
def arrival (pair : Pair) (role : Role) : Option Bytes × Pair :=
  let place := pair.side role
  match place.session.closed, place.arrivals with
  | false, datagram :: rest => (some datagram, pair.withSide role { place with arrivals := rest })
  | _, _ => (none, pair)

/-- A side receives application data. -/
def receive (pair : Pair) (role : Role) : Except SessionError (Option Bytes) × Pair :=
  let (arrival, pair) := pair.arrival role
  let (result, session) := (pair.side role).session.receive arrival
  (result, pair.withSession role session)

/-- A side receives a record of any content. -/
def receiveRecord (pair : Pair) (role : Role) :
    Except SessionError (Option (ContentType × Bytes)) × Pair :=
  let (arrival, pair) := pair.arrival role
  let (result, session) := (pair.side role).session.receiveRecord arrival
  (result, pair.withSession role session)

/-- Takes the next datagram off a side's queue. -/
def take (pair : Pair) (role : Role) : Option Bytes × Pair :=
  let place := pair.side role
  match place.arrivals with
  | [] => (none, pair)
  | datagram :: rest =>
      (some datagram,
        { pair.withSide role { place with arrivals := rest } with
          taken := pair.taken ++ [datagram] })

end Pair

/-- The bytes with some bits of one of them turned over. -/
def flipByte (bytes : Bytes) (position : Nat) (bits : UInt8) : Bytes :=
  bytes.modify position (· ^^^ bits)

end Luminaire.Rehearsal
