/-
Unauthenticated connections learn nothing.

# Two servers

Two servers take a connection in, and the same happens on it at both: the
same datagrams at the same times, the same challenges' randomness, the same
signals. What they hold apart from the table of nodes is their own, and so
is what goes on backstage, and when. As long as the connection's node is
not known at the one, the connection is the same at both
(`Host.Alike.run`): both host it, and what happens on it is uniform over
all rigs that do.
-/
import Luminaire.Proofs.Server.Uniform

namespace Luminaire

-- ============================================================= servers

/-- A connection's worker and the rig it serves at. -/
structure Host where
  worker : Worker
  rig : Rig Outlet

/-- What happens at a host: a step of the worker, at a time and with
randomness to draw from, or something backstage. -/
inductive Occurrence where
  | step (now : UInt64) (entropy : Entropy) (next : Worker.Step)
  | apart (event : Backstage)

/-- The steps of the worker among what happens. -/
def Occurrence.step? : Occurrence → Option (UInt64 × Entropy × Worker.Step)
  | .step now entropy next => some (now, entropy, next)
  | .apart _ => none

namespace Host

/-- A rig takes in a connection, with the handlers every controller has. -/
def start (id : ConnectionId) (peer : SocketAddress) (session : Session) (callbacks : Nat)
    (rig : Rig Outlet) : Host :=
  let (worker, _, rig) := Worker.start id peer session standardRegistry callbacks rig
  ⟨worker, rig⟩

def occur (host : Host) : Occurrence → Host
  | .step now entropy next =>
      let (worker, rig) := host.worker.step (host.rig.tuned now entropy) next
      ⟨worker, rig⟩
  | .apart event => { host with rig := host.rig.apart event }

/-- All that happens, in order. -/
def run (host : Host) (occurrences : List Occurrence) : Host :=
  occurrences.foldl occur host

/-- The connection, with all that was sent on it. -/
def connection? (host : Host) : Option (Connection Outlet) :=
  (host.rig.station? host.worker.id).map Station.connection

/-- Whether the connection's node is known. -/
def isAuthenticated (host : Host) : Bool :=
  host.connection?.any Connection.isAuthenticated

end Host

/-- A rig with a group that has not had to do with a connection of this
number. -/
structure Rig.Admits (rig : Rig Outlet) (id : ConnectionId) : Prop where
  group : rig.venue.group.isSome = true
  station : rig.station? id = none
  ignored : rig.venue.framebuffer.Ignores id

/-- The standard handlers' places. -/
def standardSlots : List (UInt8 × Nat) :=
  [(Endpoint.default.code, 0), (Endpoint.authentication.code, 1),
    (Endpoint.pixelData.code, 2), (Endpoint.multicastControl.code, 3)]

/-- The worker of a connection that was taken in. -/
theorem Rig.Admits.worker_start {rig : Rig Outlet} {id : ConnectionId}
    (hadmits : rig.Admits id) (peer : SocketAddress) (session : Session)
    (callbacks : Nat) :
    (Host.start id peer session callbacks rig).worker
      = { id := id
          slots := standardSlots
          state := .running
          stop := false
          phase := .reading
          shutdown := none
          callbacks := callbacks
          heard := []
          dropped := false } := by
  obtain ⟨hgroup, -, -⟩ := hadmits
  obtain ⟨⟨directory, framebuffer, group, now, entropy⟩, stations⟩ := rig
  cases group with
  | none => cases hgroup
  | some group => rfl

/-- A rig that has taken a connection in hosts it. -/
theorem Rig.Admits.hosts_start {rig : Rig Outlet} {id : ConnectionId}
    (hadmits : rig.Admits id) (peer : SocketAddress) (session : Session)
    (callbacks : Nat) :
    (Host.start id peer session callbacks rig).rig.Hosts rig.venue.directory.nodes id
      (.new peer ⟨session, []⟩) (some .idle) := by
  obtain ⟨hgroup, hstation, hignored⟩ := hadmits
  obtain ⟨⟨directory, framebuffer, group, now, entropy⟩, stations⟩ := rig
  cases group with
  | none => cases hgroup
  | some group =>
      refine ⟨⟨group.observers.next, ?_⟩, rfl, rfl, hignored⟩
      let station : Station Outlet := ⟨id, .new peer ⟨session, []⟩,
        standardStanding .idle group.observers.next⟩
      show (stations ++ [station]).find? (·.id == id) = some station
      change stations.find? (·.id == id) = none at hstation
      rw [List.find?_append, hstation, Option.none_or, List.find?_cons, beq_self_eq_true]

namespace Host

-- ========================================================== two hosts

/-- Two hosts at which the same has happened on the connection: the worker
and the connection are the same, and no push is in what was sent. -/
def Alike (keys : Protection) (nodes : List Node) (id : ConnectionId)
    (left right : Host) : Prop :=
  left.worker = right.worker ∧ left.worker.id = id
    ∧ ∃ connection state, connection.sink.Reticent keys
      ∧ left.rig.Hosts nodes id connection state
      ∧ right.rig.Hosts nodes id connection state

variable {keys : Protection} {nodes : List Node} {id : ConnectionId} {left right : Host}

/-- A host of a connection has that connection. -/
theorem connection?_of_hosts {host : Host} {connection : Connection Outlet}
    {state : Option AuthState} (hid : host.worker.id = id)
    (hhosts : host.rig.Hosts nodes id connection state) :
    host.connection? = some connection := by
  obtain ⟨token, hstood⟩ := hhosts.station
  unfold connection?
  rw [hid, hstood]
  rfl

theorem stranger_of_hosts {host : Host} {connection : Connection Outlet}
    {state : Option AuthState} (hid : host.worker.id = id)
    (hhosts : host.rig.Hosts nodes id connection state)
    (hunknown : host.isAuthenticated = false) : connection.node = none := by
  unfold isAuthenticated at hunknown
  rw [connection?_of_hosts hid hhosts] at hunknown
  exact Option.not_isSome_iff_eq_none.1 (Bool.eq_false_iff.1 hunknown)

/-- The left host's backstage makes no difference. -/
theorem Alike.apart_left (halike : Alike keys nodes id left right)
    (hunknown : left.isAuthenticated = false) (event : Backstage) :
    Alike keys nodes id (left.occur (.apart event)) right := by
  obtain ⟨hworker, hid, connection, state, hreticent, hleft, hright⟩ := halike
  exact ⟨hworker, hid, connection, state, hreticent,
    hleft.apart (stranger_of_hosts hid hleft hunknown) event, hright⟩

/-- Nor does the right host's. -/
theorem Alike.apart_right (halike : Alike keys nodes id left right)
    (hunknown : left.isAuthenticated = false) (event : Backstage) :
    Alike keys nodes id left (right.occur (.apart event)) := by
  obtain ⟨hworker, hid, connection, state, hreticent, hleft, hright⟩ := halike
  exact ⟨hworker, hid, connection, state, hreticent, hleft,
    hright.apart (stranger_of_hosts hid hleft hunknown) event⟩

/-- A step of the worker is the same step at both. -/
theorem Alike.step (halike : Alike keys nodes id left right)
    (hunknown : left.isAuthenticated = false) (now : UInt64) (entropy : Entropy)
    (next : Worker.Step) :
    Alike keys nodes id (left.occur (.step now entropy next))
      (right.occur (.step now entropy next)) := by
  obtain ⟨hworker, hid, connection, state, hreticent, hleft, hright⟩ := halike
  have hstranger := stranger_of_hosts hid hleft hunknown
  subst hid
  obtain ⟨worker, after, state', hid, hquiet, hsame⟩ :=
    left.worker.uniform_step hstranger hreticent next
  obtain ⟨leftRig, hleftStep, hleftHosts⟩ :=
    hsame _ (hleft.tuned now entropy) rfl rfl
  obtain ⟨rightRig, hrightStep, hrightHosts⟩ :=
    hsame _ (hright.tuned now entropy) rfl rfl
  simp only at hleftStep hrightStep
  have hleftEq : left.occur (.step now entropy next) = ⟨worker, leftRig⟩ := by
    show Host.mk (left.worker.step (left.rig.tuned now entropy) next).1
      (left.worker.step (left.rig.tuned now entropy) next).2 = _
    rw [hleftStep]
  have hrightEq : right.occur (.step now entropy next) = ⟨worker, rightRig⟩ := by
    show Host.mk (right.worker.step (right.rig.tuned now entropy) next).1
      (right.worker.step (right.rig.tuned now entropy) next).2 = _
    rw [← hworker, hrightStep]
  rw [hleftEq, hrightEq]
  exact ⟨rfl, hid, after, state', hquiet, hleftHosts, hrightHosts⟩

/-- All that goes on at the right host between two steps. -/
theorem Alike.run_apart_right (halike : Alike keys nodes id left right)
    (hunknown : left.isAuthenticated = false) {occurrences : List Occurrence}
    (hapart : ∀ occurrence ∈ occurrences, occurrence.step? = none) :
    Alike keys nodes id left (right.run occurrences) := by
  induction occurrences generalizing right with
  | nil => exact halike
  | cons occurrence occurrences ih =>
      have hrest : ∀ other ∈ occurrences, other.step? = none :=
        fun other hother => hapart other (List.mem_cons_of_mem _ hother)
      cases occurrence with
      | step now entropy next => cases hapart (.step now entropy next) List.mem_cons_self
      | apart event => exact ih (halike.apart_right hunknown event) hrest

/-- While the node is not known at the left host, the same steps keep both
hosts alike, whatever goes on backstage. -/
theorem Alike.run (halike : Alike keys nodes id left right)
    {leftward rightward : List Occurrence}
    (hsteps : leftward.filterMap Occurrence.step? = rightward.filterMap Occurrence.step?)
    (hunknown : ∀ earlier, earlier <+: leftward →
      (left.run earlier).isAuthenticated = false) :
    Alike keys nodes id (left.run leftward) (right.run rightward) := by
  induction leftward generalizing left right rightward with
  | nil =>
      exact halike.run_apart_right (hunknown [] List.prefix_rfl)
        (List.filterMap_eq_nil_iff.1 hsteps.symm)
  | cons occurrence leftward ih =>
      have hnow : left.isAuthenticated = false := hunknown [] List.nil_prefix
      have hrest : ∀ earlier, earlier <+: leftward →
          ((left.occur occurrence).run earlier).isAuthenticated = false :=
        fun earlier hprefix => hunknown (occurrence :: earlier)
          (List.cons_prefix_cons.2 ⟨rfl, hprefix⟩)
      cases occurrence with
      | apart event => exact ih (halike.apart_left hnow event) hsteps hrest
      | step now entropy next =>
          -- the right host comes to the same step after things backstage
          obtain ⟨before, occurrence, after, rfl, hapart, hstep, hafter⟩ :=
            List.filterMap_eq_cons_iff.1 hsteps.symm
          have hready := halike.run_apart_right hnow hapart
          have hstepped := hready.step hnow now entropy next
          cases occurrence with
          | apart event => cases hstep
          | step now' entropy' next' =>
              cases hstep
              have hrun := ih hstepped hafter.symm hrest
              have hsplit : right.run (before ++ .step now entropy next :: after)
                  = ((right.run before).occur (.step now entropy next)).run after := by
                unfold Host.run
                rw [List.foldl_append, List.foldl_cons]
              rw [hsplit]
              exact hrun

end Host

/-- An unauthenticated connection learns nothing. Two rigs with the same
nodes, and with groups, keys, channels, pixels and other stations of their
own, take a connection in, and the same steps are taken on it at both, while
anything goes on backstage at either. If at no time its node is known at the
one, then the connection is the same at both in the end, down to every
datagram that was sent on it; none of those is a push, and no observer of
either framebuffer belongs to it. -/
theorem strangers_learn_nothing {id : ConnectionId} (peer : SocketAddress)
    (session : Session) (callbacks : Nat) {left right : Rig Outlet}
    (hleft : left.Admits id) (hright : right.Admits id)
    (hnodes : left.venue.directory.nodes = right.venue.directory.nodes)
    {leftward rightward : List Occurrence}
    (hsteps : leftward.filterMap Occurrence.step? = rightward.filterMap Occurrence.step?)
    (hunknown : ∀ earlier, earlier <+: leftward →
      ((Host.start id peer session callbacks left).run earlier).isAuthenticated = false) :
    let leftHost := (Host.start id peer session callbacks left).run leftward
    let rightHost := (Host.start id peer session callbacks right).run rightward
    (∃ connection, leftHost.connection? = some connection
        ∧ rightHost.connection? = some connection
        ∧ connection.node = none
        ∧ ∀ record ∈ connection.sink.sent, ∀ sequence plain header payload,
          session.outgoing.openRecord record = .ok (.applicationData, sequence, plain) →
            unframe (H := Header) plain = .ok (header, payload) → ¬ header.isPush)
      ∧ leftHost.rig.venue.framebuffer.Ignores id
      ∧ rightHost.rig.venue.framebuffer.Ignores id := by
  intro leftHost rightHost
  have hreticent : (Connection.new peer (Outlet.mk session [])).sink.Reticent
      session.outgoing := ⟨rfl, fun record hrecord => absurd hrecord List.not_mem_nil⟩
  have hrightHosts := hright.hosts_start peer session callbacks
  rw [← hnodes] at hrightHosts
  have hstart : Host.Alike session.outgoing left.venue.directory.nodes id
      (Host.start id peer session callbacks left)
      (Host.start id peer session callbacks right) :=
    ⟨(hleft.worker_start peer session callbacks).trans
        (hright.worker_start peer session callbacks).symm,
      congrArg Worker.id (hleft.worker_start peer session callbacks),
      .new peer ⟨session, []⟩, some .idle, hreticent,
      hleft.hosts_start peer session callbacks, hrightHosts⟩
  obtain ⟨hworker, hid, connection, state, hquiet, hleftEnd, hrightEnd⟩ :=
    hstart.run hsteps hunknown
  refine ⟨⟨connection, ?_, ?_, ?_, hquiet.quiet⟩, hleftEnd.ignored, hrightEnd.ignored⟩
  · exact Host.connection?_of_hosts hid hleftEnd
  · exact Host.connection?_of_hosts (hworker ▸ hid) hrightEnd
  · exact Host.stranger_of_hosts hid hleftEnd (hunknown leftward List.prefix_rfl)

/-- A rig with channels, pixels, a port and a key of its own, whose group
has a rotation waiting. -/
def exampleRig (channels : List NodeChannel) (pixels : Nat) (port : UInt16)
    (key : GroupKey) : Rig Outlet where
  venue :=
    { directory := ⟨[], channels⟩
      framebuffer := .dark pixels
      group := some {
        config := { GroupConfig.standard with port }
        link := .up
        ring := ⟨3, [key]⟩
        cipher := ⟨some key.key⟩
        observers := .empty
        requests := [.rotate]
        sequence := 0
        tag := 0
        terminated := false
        running := true }
      now := 0
      entropy := [] }
  stations := []

/-- Keys of the sessions below. -/
def exampleKeys : SessionKeys :=
  ⟨⟨List.replicate 32 1, List.replicate 24 2, []⟩,
    ⟨List.replicate 32 3, List.replicate 24 4, []⟩⟩

/-- A stranger asks where the group is and which key it uses, at two rigs
that would have to answer differently, and is told the same by both. -/
theorem stranger_asks_in_example :
    let left := exampleRig [⟨12, 0, 4, 0, .rgb⟩] 4 7251
      ⟨1, List.replicate 32 1, List.replicate 16 2⟩
    let right := exampleRig [] 9 8000 ⟨5, List.replicate 32 6, List.replicate 16 7⟩
    let question :=
      (frame (Header.new .multicastControl getInfoType 9) []).toOption.getD []
    let asked := ((Session.establish .up .chacha .client exampleKeys).send question).1
    let session := Session.establish .up .chacha .server exampleKeys
    let leftward : List Occurrence := [.step 5 [] (.read asked.toOption),
      .apart (.work 6 (List.replicate 52 1)), .step 7 [] .signal]
    let rightward : List Occurrence := [.apart (.finish ⟨0, 9⟩ 1),
      .step 5 [] (.read asked.toOption), .step 7 [] .signal]
    let leftHost := (Host.start 1 ⟨.loopback, 5000⟩ session 0 left).run leftward
    let rightHost := (Host.start 1 ⟨.loopback, 5000⟩ session 0 right).run rightward
    leftHost.connection?.map (·.sink.sent.length) = some 1
      ∧ leftHost.connection? = rightHost.connection? := by
  intro left right question asked session leftward rightward leftHost rightHost
  have hleft : left.Admits 1 := ⟨rfl, rfl, fun entry hentry => nomatch hentry⟩
  have hright : right.Admits 1 := ⟨rfl, rfl, fun entry hentry => nomatch hentry⟩
  have hsteps : leftward.filterMap Occurrence.step?
      = rightward.filterMap Occurrence.step? := rfl
  have htaken : ∀ count ≤ 3, ((Host.start 1 ⟨.loopback, 5000⟩ session 0 left).run
      (leftward.take count)).isAuthenticated = false := by decide +kernel
  have hunknown : ∀ earlier, earlier <+: leftward →
      ((Host.start 1 ⟨.loopback, 5000⟩ session 0 left).run earlier).isAuthenticated
        = false := by
    intro earlier hprefix
    rw [List.prefix_iff_eq_take.1 hprefix]
    exact htaken _ hprefix.length_le
  obtain ⟨⟨connection, hleftEnd, hrightEnd, -, -⟩, -, -⟩ :=
    strangers_learn_nothing ⟨.loopback, 5000⟩ session 0 hleft hright rfl hsteps hunknown
  exact ⟨by decide +kernel, hleftEnd.trans hrightEnd.symm⟩

end Luminaire
