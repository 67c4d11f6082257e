/-
A node and a listener, and the network between them.

# Delivery

What either side sends goes on the wire behind what is under way there,
and arrives at the other side as it was sent. The attempt that a hello
begins answers in a move of its own. Besides, strays may arrive at either
side at any time; a run is `Undisturbed` if each of them is junk to
whoever it reaches: no message at all for a side that waits for hellos,
and no genuine record for a side that waits for the closing code.

# Settling

Junk changes nothing. So an encounter in which one thing is due at a time
takes the same course in whatever order the network delivers, the attempt
answers and strays turn up. `Settles` says how many things are due until
nothing is, and a run in which everything gets its turn that often has
come to the end of it (`Settles.run_rounds`).
-/
import Luminaire.Handshake.Client
import Luminaire.Proofs.Server.Attempts

namespace Luminaire

-- ========================================================= the network

/-- Where the two sides are found. -/
structure Network where
  /-- Where the node sends from. -/
  node : SocketAddress
  /-- The listening port. -/
  server : SocketAddress
  /-- The path that the listener opens for the node. -/
  path : SocketAddress
  path_ne : path ≠ server

/-- A datagram under way. -/
inductive Parcel where
  | toNode (source : SocketAddress) (datagram : Bytes)
  | toListener (source destination : SocketAddress) (datagram : Bytes)
  deriving DecidableEq, Repr

/-- Where a node sends to. -/
def Connecting.destination? : Connecting → Option SocketAddress
  | .greeting node => some node.terms.server
  | .confirming peer _ => some peer
  | .established peer _ => some peer
  | .failed _ => none
  | .crashed => none

namespace Network

/-- What leaves the node. -/
def fromNode (network : Network) (node : Connecting) (sent : Option Bytes) : List Parcel :=
  match node.destination?, sent with
  | some destination, some datagram => [.toListener network.node destination datagram]
  | _, _ => []

theorem fromNode_none (network : Network) (node : Connecting) :
    network.fromNode node none = [] := by
  unfold fromNode
  split
  next hsent => cases hsent
  next => rfl

/-- What leaves the listener for the node, from the listening port or on the
path of connection `id`. -/
def fromListener (network : Network) (id : ConnectionId) (departures : List Departure) :
    List Parcel :=
  departures.filterMap fun departure =>
    if departure.peer = network.node then
      match departure.port with
      | .listening => some (.toNode network.server departure.datagram)
      | .own other => if other = id then some (.toNode network.path departure.datagram) else none
    else none

/-- What leaves the listening port for the node. -/
theorem fromListener_listening (network : Network) (id : ConnectionId) (datagram : Bytes) :
    network.fromListener id [⟨.listening, network.node, datagram⟩]
      = [.toNode network.server datagram] := by
  simp only [fromListener, List.filterMap_cons, List.filterMap_nil, if_true]

/-- What leaves on the path of the connection. -/
theorem fromListener_own (network : Network) (id : ConnectionId) (datagram : Bytes) :
    network.fromListener id [⟨.own id, network.node, datagram⟩]
      = [.toNode network.path datagram] := by
  simp only [fromListener, List.filterMap_cons, List.filterMap_nil, if_true]

end Network

-- ======================================================== the encounter

/-- A node and a listener, the number of the connection that is to come of
it, and what is under way. -/
structure Encounter where
  node : Connecting
  listener : Listener
  id : ConnectionId
  wire : List Parcel

/-- What can happen. -/
inductive Move where
  /-- What has been under way longest arrives. -/
  | deliver
  /-- The attempt answers its hello. -/
  | answer
  /-- Something arrives that neither side sent. -/
  | stray (parcel : Parcel)
  deriving DecidableEq, Repr

namespace Encounter

/-- The listener takes a step; what it sends goes on the wire. -/
def listen (encounter : Encounter) (network : Network) (next : Listener.Step) : Encounter :=
  let (listener, departures) := encounter.listener.step next
  { encounter with
    listener
    wire := encounter.wire ++ network.fromListener encounter.id departures }

/-- A parcel arrives; what is sent in answer goes on the wire. The listener can
always begin an attempt. -/
def arrive (encounter : Encounter) (network : Network) : Parcel → Encounter
  | .toNode source datagram =>
      let (node, sent) := encounter.node.arrive source datagram
      { encounter with node, wire := encounter.wire ++ network.fromNode node sent }
  | .toListener source destination datagram =>
      if destination = network.server then
        encounter.listen network (.arrive source datagram true)
      else if destination = network.path then
        encounter.listen network (.confirm encounter.id datagram)
      else encounter

def step (encounter : Encounter) (network : Network) : Move → Encounter
  | .deliver =>
      match encounter.wire with
      | [] => encounter
      | parcel :: wire => { encounter with wire }.arrive network parcel
  | .answer => encounter.listen network (.answer encounter.id)
  | .stray parcel => encounter.arrive network parcel

def run (encounter : Encounter) (network : Network) (moves : List Move) : Encounter :=
  moves.foldl (·.step network ·) encounter

end Encounter

-- =============================================================== junk

/-- A datagram that is junk to a node: no message while it greets, no genuine
record while it waits for the closing code. -/
def Connecting.Ignores (connecting : Connecting) (datagram : Bytes) : Prop :=
  match connecting with
  | .greeting _ => HandshakeMessage.ofDatagram? datagram = none
  | .confirming _ unconfirmed => unconfirmed.session.Ignores datagram
  | _ => True

/-- If the node waits for the closing code, it does so on an open session. -/
def Connecting.Steady : Connecting → Prop
  | .confirming _ unconfirmed => unconfirmed.session.closed = false
  | _ => True

/-- Junk leaves a node as it was. -/
theorem Connecting.arrive_of_ignores {connecting : Connecting} {datagram : Bytes}
    (hignores : connecting.Ignores datagram) (hsteady : connecting.Steady)
    (source : SocketAddress) :
    connecting.arrive source datagram = (connecting, none) := by
  cases connecting with
  | greeting node =>
      have hjunk : HandshakeMessage.ofDatagram? datagram = none := hignores
      unfold arrive
      simp only [hjunk]
  | confirming peer unconfirmed =>
      have hwaits := Unconfirmed.take_of_ignores hsteady hignores
      unfold arrive
      simp only [hwaits]
  | established peer session => rfl
  | failed error => rfl
  | crashed => rfl

namespace Encounter

variable {network : Network} {encounter : Encounter}

/-- A parcel that is junk to whoever it reaches. -/
def Ignores (encounter : Encounter) (network : Network) : Parcel → Prop
  | .toNode _ datagram => encounter.node.Ignores datagram
  | .toListener _ destination datagram =>
      if destination = network.server then HandshakeMessage.ofDatagram? datagram = none
      else if destination = network.path then
        encounter.listener.IgnoresOn encounter.id datagram
      else True

/-- Whatever strays turn up in a run, they are junk. -/
def Undisturbed (encounter : Encounter) (network : Network) : List Move → Prop
  | [] => True
  | move :: moves =>
      (∀ parcel, move = .stray parcel → encounter.Ignores network parcel)
        ∧ (encounter.step network move).Undisturbed network moves

/-- Without strays there is nothing to disturb a run. -/
theorem undisturbed_of_no_strays {moves : List Move}
    (hnone : ∀ move ∈ moves, ∀ parcel, move ≠ .stray parcel) :
    encounter.Undisturbed network moves := by
  induction moves generalizing encounter with
  | nil => exact trivial
  | cons move moves ih =>
      obtain ⟨hfirst, hrest⟩ := List.forall_mem_cons.1 hnone
      exact ⟨fun parcel hstray => absurd hstray (hfirst parcel), ih hrest⟩

theorem undisturbed_append {earlier later : List Move} :
    encounter.Undisturbed network (earlier ++ later)
      ↔ encounter.Undisturbed network earlier
        ∧ (encounter.run network earlier).Undisturbed network later := by
  induction earlier generalizing encounter with
  | nil => exact (and_iff_right trivial).symm
  | cons move earlier ih =>
      rw [List.cons_append, Undisturbed, Undisturbed, ih, and_assoc]
      rfl

theorem run_append (earlier later : List Move) :
    encounter.run network (earlier ++ later)
      = (encounter.run network earlier).run network later :=
  List.foldl_append

/-- Junk changes nothing. -/
def Calm (encounter : Encounter) (network : Network) : Prop :=
  ∀ parcel, encounter.Ignores network parcel → encounter.arrive network parcel = encounter

theorem listen_eq {next : Listener.Step} {listener : Listener} {departures : List Departure}
    (hstep : encounter.listener.step next = (listener, departures)) :
    encounter.listen network next
      = ⟨encounter.node, listener, encounter.id,
        encounter.wire ++ network.fromListener encounter.id departures⟩ := by
  unfold listen
  rw [hstep]

theorem arrive_toNode_eq {source : SocketAddress} {datagram : Bytes} {node : Connecting}
    {sent : Option Bytes} (harrive : encounter.node.arrive source datagram = (node, sent)) :
    encounter.arrive network (.toNode source datagram)
      = ⟨node, encounter.listener, encounter.id,
        encounter.wire ++ network.fromNode node sent⟩ := by
  rw [arrive, harrive]

theorem arrive_toServer_eq (source : SocketAddress) (datagram : Bytes) (encounter : Encounter) :
    encounter.arrive network (.toListener source network.server datagram)
      = encounter.listen network (.arrive source datagram true) := by
  rw [arrive, if_pos rfl]

theorem arrive_toPath_eq (source : SocketAddress) (datagram : Bytes) (encounter : Encounter) :
    encounter.arrive network (.toListener source network.path datagram)
      = encounter.listen network (.confirm encounter.id datagram) := by
  rw [arrive, if_neg network.path_ne, if_pos rfl]

/-- A step of the listener that comes to nothing. -/
theorem listen_of_step_eq {next : Listener.Step}
    (hstep : encounter.listener.step next = (encounter.listener, [])) :
    encounter.listen network next = encounter := by
  rw [listen_eq hstep, Network.fromListener, List.filterMap_nil, List.append_nil]

/-- An attempt that is not due to answer does not. -/
theorem step_answer_eq {node : Connecting} {listener : Listener} {id : ConnectionId}
    {wire : List Parcel} (hanswer : listener.step (.answer id) = (listener, [])) :
    step ⟨node, listener, id, wire⟩ network .answer = ⟨node, listener, id, wire⟩ :=
  @listen_of_step_eq network ⟨node, listener, id, wire⟩ _ hanswer

/-- Junk changes nothing as long as the sessions that are waited on are open. -/
theorem calm_of (hnode : encounter.node.Steady)
    (hlistener : encounter.listener.Steady encounter.id) : encounter.Calm network := by
  intro parcel hignores
  cases parcel with
  | toNode source datagram =>
      rw [arrive_toNode_eq (Connecting.arrive_of_ignores hignores hnode source),
        Network.fromNode_none, List.append_nil]
  | toListener source destination datagram =>
      rw [Ignores] at hignores
      rw [arrive]
      split at hignores
      next hserver =>
        rw [if_pos hserver]
        exact listen_of_step_eq (Listener.arrive_of_undecodable _ source hignores true)
      next hserver =>
        rw [if_neg hserver]
        split at hignores
        next hpath =>
          rw [if_pos hpath]
          exact listen_of_step_eq (Listener.confirm_of_ignores hlistener hignores)
        next hpath => rw [if_neg hpath]

-- ============================================================ settling

/-- So many things are due, one at a time, until the goal is reached and
nothing is due any more. -/
inductive Settles (network : Network) (goal : Encounter → Prop) : Nat → Encounter → Prop where
  | settled {encounter : Encounter} (hcalm : encounter.Calm network)
      (hdeliver : encounter.step network .deliver = encounter)
      (hanswer : encounter.step network .answer = encounter) (hgoal : goal encounter) :
      Settles network goal 0 encounter
  | deliver {encounter : Encounter} {count : Nat} (hcalm : encounter.Calm network)
      (hanswer : encounter.step network .answer = encounter)
      (hnext : Settles network goal count (encounter.step network .deliver)) :
      Settles network goal (count + 1) encounter
  | answer {encounter : Encounter} {count : Nat} (hcalm : encounter.Calm network)
      (hdeliver : encounter.step network .deliver = encounter)
      (hnext : Settles network goal count (encounter.step network .answer)) :
      Settles network goal (count + 1) encounter

namespace Settles

variable {goal : Encounter → Prop} {count : Nat}

section Stages

variable {node node' : Connecting} {listener listener' : Listener} {id : ConnectionId}
  {source : SocketAddress} {datagram : Bytes} {sent : Option Bytes} {departures : List Departure}

/-- A datagram for the node is due. -/
theorem toNode (hcalm : Calm ⟨node, listener, id, [.toNode source datagram]⟩ network)
    (hanswer : listener.step (.answer id) = (listener, []))
    (harrive : node.arrive source datagram = (node', sent))
    (hnext : Settles network goal count ⟨node', listener, id, network.fromNode node' sent⟩) :
    Settles network goal (count + 1) ⟨node, listener, id, [.toNode source datagram]⟩ := by
  have hdeliver : step ⟨node, listener, id, [.toNode source datagram]⟩ network .deliver
      = ⟨node', listener, id, network.fromNode node' sent⟩ :=
    @arrive_toNode_eq network ⟨node, listener, id, []⟩ _ _ _ _ harrive
  exact .deliver hcalm (step_answer_eq hanswer) (hdeliver ▸ hnext)

/-- A datagram for the listener is due, which takes it for this step. -/
theorem toListener {destination : SocketAddress} {next : Listener.Step}
    (hroute : arrive ⟨node, listener, id, []⟩ network (.toListener source destination datagram)
      = listen ⟨node, listener, id, []⟩ network next)
    (hcalm : Calm ⟨node, listener, id, [.toListener source destination datagram]⟩ network)
    (hanswer : listener.step (.answer id) = (listener, []))
    (hstep : listener.step next = (listener', departures))
    (hnext : Settles network goal count
      ⟨node, listener', id, network.fromListener id departures⟩) :
    Settles network goal (count + 1)
      ⟨node, listener, id, [.toListener source destination datagram]⟩ := by
  have hdeliver : step ⟨node, listener, id, [.toListener source destination datagram]⟩
      network .deliver = ⟨node, listener', id, network.fromListener id departures⟩ :=
    hroute.trans (listen_eq hstep)
  exact .deliver hcalm (step_answer_eq hanswer) (hdeliver ▸ hnext)

/-- The answer of the attempt is due. -/
theorem toAnswer (hcalm : Calm ⟨node, listener, id, []⟩ network)
    (hanswer : listener.step (.answer id) = (listener', departures))
    (hnext : Settles network goal count
      ⟨node, listener', id, network.fromListener id departures⟩) :
    Settles network goal (count + 1) ⟨node, listener, id, []⟩ := by
  have hlisten : step ⟨node, listener, id, []⟩ network .answer
      = ⟨node, listener', id, network.fromListener id departures⟩ :=
    @listen_eq network ⟨node, listener, id, []⟩ _ _ _ hanswer
  exact .answer hcalm rfl (hlisten ▸ hnext)

end Stages

/-- A move is the one that is due, or changes nothing. -/
theorem step (hsettles : Settles network goal count encounter) {move : Move}
    (hjunk : ∀ parcel, move = .stray parcel → encounter.Ignores network parcel) :
    encounter.step network move = encounter
      ∨ ∃ less < count, Settles network goal less (encounter.step network move) := by
  cases hsettles with
  | settled hcalm hdeliver hanswer hgoal =>
      cases move with
      | deliver => exact .inl hdeliver
      | answer => exact .inl hanswer
      | stray parcel => exact .inl (hcalm parcel (hjunk parcel rfl))
  | deliver hcalm hanswer hnext =>
      cases move with
      | deliver => exact .inr ⟨_, Nat.lt_succ_self _, hnext⟩
      | answer => exact .inl hanswer
      | stray parcel => exact .inl (hcalm parcel (hjunk parcel rfl))
  | answer hcalm hdeliver hnext =>
      cases move with
      | deliver => exact .inl hdeliver
      | answer => exact .inr ⟨_, Nat.lt_succ_self _, hnext⟩
      | stray parcel => exact .inl (hcalm parcel (hjunk parcel rfl))

/-- A run does some of what is due, or changes nothing. -/
theorem run (hsettles : Settles network goal count encounter) {moves : List Move}
    (hjunk : encounter.Undisturbed network moves) :
    encounter.run network moves = encounter
      ∨ ∃ less < count, Settles network goal less (encounter.run network moves) := by
  induction moves generalizing encounter count with
  | nil => exact .inl rfl
  | cons move moves ih =>
      obtain ⟨hfirst, hrest⟩ := hjunk
      show (encounter.step network move).run network moves = encounter
        ∨ ∃ less < count, Settles network goal less
          ((encounter.step network move).run network moves)
      rcases hsettles.step hfirst with hsame | ⟨less, hless, hdone⟩
      · rw [hsame] at hrest ⊢
        exact ih hsettles hrest
      · right
        rcases ih hdone hrest with hsame | ⟨fewer, hfewer, hmore⟩
        · rw [hsame]
          exact ⟨less, hless, hdone⟩
        · exact ⟨fewer, Nat.lt_trans hfewer hless, hmore⟩

/-- A run does not undo anything. -/
theorem run_le (hsettles : Settles network goal count encounter) {moves : List Move}
    (hjunk : encounter.Undisturbed network moves) :
    ∃ less ≤ count, Settles network goal less (encounter.run network moves) := by
  rcases hsettles.run hjunk with hsame | ⟨less, hless, hdone⟩
  · rw [hsame]
    exact ⟨count, Nat.le_refl _, hsettles⟩
  · exact ⟨less, Nat.le_of_lt hless, hdone⟩

/-- A run in which the move that is due comes up does something. -/
theorem run_of_mem (hsettles : Settles network goal (count + 1) encounter) {move : Move}
    (hdue : Settles network goal count (encounter.step network move)) {moves : List Move}
    (hmem : move ∈ moves) (hjunk : encounter.Undisturbed network moves) :
    ∃ less ≤ count, Settles network goal less (encounter.run network moves) := by
  obtain ⟨earlier, later, rfl⟩ := List.append_of_mem hmem
  obtain ⟨hearlier, hlater⟩ := undisturbed_append.1 hjunk
  rw [run_append]
  rcases hsettles.run hearlier with hsame | ⟨less, hless, hdone⟩
  · rw [hsame] at hlater ⊢
    exact hdue.run_le hlater.2
  · obtain ⟨fewer, hfewer, hmore⟩ := hdone.run_le hlater
    exact ⟨fewer, Nat.le_trans hfewer (Nat.le_of_lt_succ hless), hmore⟩

/-- A round in which either kind of move gets its turn does something. -/
theorem run_round (hsettles : Settles network goal (count + 1) encounter) {round : List Move}
    (hdeliver : .deliver ∈ round) (hanswer : .answer ∈ round)
    (hjunk : encounter.Undisturbed network round) :
    ∃ less ≤ count, Settles network goal less (encounter.run network round) := by
  have hwhole := hsettles
  cases hsettles with
  | deliver _ _ hnext => exact hwhole.run_of_mem hnext hdeliver hjunk
  | answer _ _ hnext => exact hwhole.run_of_mem hnext hanswer hjunk

/-- As many rounds as things are due settle an encounter, and further ones
leave it settled. -/
theorem run_rounds (hsettles : Settles network goal count encounter)
    {rounds : List (List Move)}
    (hfair : ∀ round ∈ rounds, .deliver ∈ round ∧ .answer ∈ round)
    (hmany : count ≤ rounds.length) (hjunk : encounter.Undisturbed network rounds.flatten) :
    goal (encounter.run network rounds.flatten) := by
  induction rounds generalizing encounter count with
  | nil =>
      obtain rfl := Nat.le_zero.1 hmany
      cases hsettles with
      | settled _ _ _ hgoal => exact hgoal
  | cons round rounds ih =>
      obtain ⟨⟨hdeliver, hanswer⟩, hlater⟩ := List.forall_mem_cons.1 hfair
      obtain ⟨hfirst, hrest⟩ := undisturbed_append.1 hjunk
      rw [List.flatten_cons, run_append]
      cases count with
      | zero =>
          obtain ⟨less, hless, hdone⟩ := hsettles.run_le hfirst
          exact ih hdone hlater (Nat.le_trans hless (Nat.zero_le _)) hrest
      | succ count =>
          obtain ⟨less, hless, hdone⟩ := hsettles.run_round hdeliver hanswer hfirst
          exact ih hdone hlater (Nat.le_trans hless (Nat.le_of_succ_le_succ hmany)) hrest

end Settles

end Encounter

end Luminaire
