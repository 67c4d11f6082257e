/-
Authentication is sound: a connection gets a node only by the proof that
answers its own challenge.

# The exchange

`AuthSide` is the handler together with its connection, and an arrival
brings along what belongs to the whole controller: the directory and the
stream of randomness, as the message finds them. Neither has to have
anything to do with what the message before it found, so whatever other
connections do in between is covered. The sink may refuse any message.

# The invariant

The challenge that was drawn is hidden in the handler's state; what the
peer sees is the message that carried it. `Traced` ties the two together
along a run: an idle handler has seen nothing but requests that do not
decode, and a challenged one holds exactly the nonce and the random that
left for the request just before. The settled phases need no history,
since nothing that arrives in them does anything
(`AuthState.handle_settled`).
-/
import Mathlib.Data.List.Induction
import Luminaire.Connection.Handler
import Luminaire.Connection.Recorder
import Luminaire.Proofs.Connection.Sending
import Luminaire.Proofs.Message.Payloads

namespace Luminaire

-- ========================================================== challenges

/-- A drawn challenge is for the node it was drawn for, under the secret
of that node. -/
theorem Challenge.of_draw {node : Option Node} {entropy rest : Entropy}
    {challenge : Challenge} (hdraw : draw node entropy = (.ok challenge, rest)) :
    challenge.node = node
      ∧ ∀ known, node = some known → challenge.secret = known.secret := by
  have hunder : ∀ secret stream, drawUnder node secret stream = (.ok challenge, rest) →
      challenge.node = node ∧ challenge.secret = secret := by
    intro secret stream hunder
    unfold drawUnder at hunder
    split at hunder
    · cases hunder
    · split at hunder
      · cases hunder
      · cases hunder
        exact ⟨rfl, rfl⟩
  unfold draw at hdraw
  split at hdraw
  next known =>
    obtain ⟨hnode, hsecret⟩ := hunder _ _ hdraw
    refine ⟨hnode, fun other hother => ?_⟩
    cases hother
    exact hsecret
  next =>
    split at hdraw
    · cases hdraw
    · exact ⟨(hunder _ _ hdraw).1, fun known hknown => by cases hknown⟩

namespace AuthState

variable {κ : Type} [Sink κ]

/-- The phases in which an exchange is over. -/
def Settled (state : AuthState) : Prop := state = .authenticated ∨ state = .failed

/-- A selected method is one of the controller's and on offer. -/
theorem of_select {methods offered : List String} {method : String}
    (hselect : select methods offered = some method) :
    method ∈ methods ∧ method ∈ offered := by
  refine ⟨List.mem_of_find?_eq_some hselect, ?_⟩
  simpa using List.find?_some hselect

-- ============================================================ requests

/-- A request gives the connection no node. -/
theorem node_onRequest (methods : List String) (directory : Directory)
    (connection : Connection κ) (entropy : Entropy) (header : Header) (payload : Bytes) :
    (onRequest methods directory connection entropy header payload).connection.node
      = connection.node := by
  unfold onRequest
  split
  · split
    next after hreply => exact Connection.node_of_replyWith hreply
    next fault after hreply => exact Connection.node_of_replyWith hreply
  · split
    · exact connection.node_answer ..
    · split
      · rfl
      · split
        next after hreply => exact Connection.node_of_replyWith hreply
        next fault after hreply => exact Connection.node_of_replyWith hreply

/-- What a request leads to: it did not decode and the handler stays idle,
or it was answered with the challenge the handler now holds, or the
exchange has failed. -/
theorem onRequest_cases (methods : List String) (directory : Directory)
    (connection : Connection κ) (entropy : Entropy) (header : Header) (payload : Bytes)
    {turn : AuthTurn κ}
    (hturn : onRequest methods directory connection entropy header payload = turn) :
    (Cbor.decode? (α := AuthRequest) payload = none ∧ turn.state = .idle)
      ∨ (∃ (request : AuthRequest) (method : String) (challenge : Challenge),
          Cbor.decode? payload = some request
          ∧ select methods request.methods = some method
          ∧ challenge.node = directory.find? request.nodeId
          ∧ (∀ known, directory.find? request.nodeId = some known →
              challenge.secret = known.secret)
          ∧ connection.replyWith header
              (AuthChallenge.mk .success (some method) challenge.nonce challenge.random)
              = (.ok (), turn.connection)
          ∧ turn.state = .challenged challenge)
      ∨ turn.state = .failed := by
  unfold onRequest at hturn
  split at hturn
  next hdecode =>
    split at hturn
    · exact .inl ⟨hdecode, by rw [← hturn]⟩
    · exact .inr (.inr (by rw [← hturn]))
  next request hdecode =>
    split at hturn
    · exact .inr (.inr (by rw [← hturn]))
    next method hselect =>
      split at hturn
      · exact .inr (.inr (by rw [← hturn]))
      next challenge rest hdraw =>
        obtain ⟨hnode, hsecret⟩ := Challenge.of_draw hdraw
        split at hturn
        next after hreply =>
          subst hturn
          exact .inr (.inl ⟨request, method, challenge, hdecode, hselect, hnode, hsecret,
            hreply, rfl⟩)
        · exact .inr (.inr (by rw [← hturn]))

-- =========================================================== responses

/-- The proof a response carries is accepted exactly if the response
decodes to the code over the challenge's bytes: what stands in for a
proof that does not decode is too short to be one. -/
theorem accepts_proofIn_iff (challenge : Challenge) (payload : Bytes) :
    challenge.accepts (proofIn payload) = true
      ↔ ∃ response : AuthResponse, Cbor.decode? payload = some response
          ∧ response.proof
            = Challenge.proof challenge.secret challenge.nonce challenge.random := by
  rw [Challenge.accepts_iff, proofIn]
  cases Cbor.decode? (α := AuthResponse) payload with
  | none =>
      have hlength : (Challenge.proof challenge.secret challenge.nonce
          challenge.random).length = 32 := length_hmac ..
      constructor
      · intro hempty
        rw [← hempty] at hlength
        cases hlength
      · rintro ⟨_, ⟨⟩, _⟩
  | some response => simp

/-- A response ends the exchange, well or not. -/
theorem settled_onResponse (challenge : Challenge) (connection : Connection κ)
    (header : Header) (payload : Bytes) :
    (onResponse challenge connection header payload).2.1.Settled := by
  unfold onResponse
  split
  · split
    · exact .inl rfl
    · exact .inr rfl
  · exact .inr rfl

/-- A response that is accepted gives the connection the challenge's node,
whether or not the answer can be sent. -/
theorem node_onResponse_of_accepts {challenge : Challenge} {node : Node}
    (connection : Connection κ) (header : Header) {payload : Bytes}
    (hnode : challenge.node = some node)
    (haccepts : challenge.accepts (proofIn payload) = true) :
    (onResponse challenge connection header payload).2.2.node = some node := by
  unfold onResponse
  rw [hnode, haccepts]
  simp only
  split
  next after hreply => exact Connection.node_of_replyWith hreply
  next fault after hreply => exact Connection.node_of_replyWith hreply

/-- Any other response leaves the connection the node it has. -/
theorem node_onResponse_of_not {challenge : Challenge} (connection : Connection κ)
    (header : Header) {payload : Bytes}
    (hnot : ¬ ∃ node, challenge.node = some node
      ∧ challenge.accepts (proofIn payload) = true) :
    (onResponse challenge connection header payload).2.2.node = connection.node := by
  unfold onResponse
  split
  next node hnode haccepts => exact absurd ⟨node, hnode, haccepts⟩ hnot
  · exact connection.node_answer ..

-- ============================================================ messages

/-- Nothing that arrives after the exchange has ended does anything: it is
a violation, and the handler stays settled. -/
theorem handle_settled {state : AuthState} (hsettled : state.Settled)
    (methods : List String) (directory : Directory) (connection : Connection κ)
    (entropy : Entropy) (header : Header) (payload : Bytes) :
    state.handle methods directory connection entropy header payload
      = outOfTurn state connection entropy header := by
  rcases hsettled with rfl | rfl
  · rfl
  · rfl

end AuthState

-- ============================================================== runs

/-- A message for the authentication handler, with the directory and the
randomness it finds. -/
structure AuthArrival where
  directory : Directory
  entropy : Entropy
  header : Header
  payload : Bytes

namespace AuthArrival

/-- A request that does not decode. -/
def Unreadable (arrival : AuthArrival) : Prop :=
  arrival.header.messageType = Message.messageType AuthRequest
    ∧ Cbor.decode? (α := AuthRequest) arrival.payload = none

/-- A request that offered the method, named `node` as the directory then
knew it, and was answered with these bytes; sending the answer made the
first connection the second. -/
def ChallengedWith {κ : Type} [Sink κ] (arrival : AuthArrival) (node : Option Node)
    (nonce random : Bytes) (before after : Connection κ) : Prop :=
  arrival.header.messageType = Message.messageType AuthRequest
    ∧ (∃ request : AuthRequest, Cbor.decode? arrival.payload = some request
        ∧ "hmac-sha256" ∈ request.methods
        ∧ arrival.directory.find? request.nodeId = node)
    ∧ before.replyWith arrival.header
        (AuthChallenge.mk .success (some "hmac-sha256") nonce random) = (.ok (), after)

end AuthArrival

/-- The authentication handler of a controller and the connection it
serves. -/
structure AuthSide (κ : Type) where
  state : AuthState
  connection : Connection κ

namespace AuthSide

variable {κ : Type} [Sink κ]

/-- A fresh connection and its fresh handler. -/
def fresh (peer : SocketAddress) (sink : κ) : AuthSide κ := ⟨.idle, .new peer sink⟩

/-- What a message leads to. -/
def turn (side : AuthSide κ) (arrival : AuthArrival) : AuthTurn κ :=
  side.state.handle standardMethods arrival.directory side.connection arrival.entropy
    arrival.header arrival.payload

/-- Handler and connection after a message. -/
def take (side : AuthSide κ) (arrival : AuthArrival) : AuthSide κ :=
  ⟨(side.turn arrival).state, (side.turn arrival).connection⟩

/-- Handler and connection after some messages. -/
def run (side : AuthSide κ) (arrivals : List AuthArrival) : AuthSide κ :=
  arrivals.foldl take side

theorem run_append (side : AuthSide κ) (earlier later : List AuthArrival) :
    side.run (earlier ++ later) = (side.run earlier).run later :=
  List.foldl_append ..

theorem run_snoc (side : AuthSide κ) (earlier : List AuthArrival)
    (arrival : AuthArrival) :
    side.run (earlier ++ [arrival]) = (side.run earlier).take arrival :=
  side.run_append earlier [arrival]

-- ====================================================== single messages

/-- What a message is to a challenged handler: a response, or out of turn. -/
theorem turn_of_challenged {side : AuthSide κ} {challenge : Challenge}
    (hstate : side.state = .challenged challenge) (arrival : AuthArrival) :
    side.turn arrival
      = if arrival.header.messageType = Message.messageType AuthResponse then
          let response := AuthState.onResponse challenge side.connection arrival.header
            arrival.payload
          ⟨response.1, response.2.1, response.2.2, arrival.entropy⟩
        else side.state.outOfTurn side.connection arrival.entropy arrival.header := by
  rw [turn, hstate]
  rfl

/-- A message changes the node only as an accepted response to the
challenge the handler holds. -/
theorem node_take_cases (side : AuthSide κ) (arrival : AuthArrival) :
    (side.take arrival).connection.node = side.connection.node
      ∨ ∃ challenge node, side.state = .challenged challenge
          ∧ arrival.header.messageType = Message.messageType AuthResponse
          ∧ challenge.node = some node
          ∧ challenge.accepts (AuthState.proofIn arrival.payload) = true
          ∧ (side.take arrival).connection.node = some node := by
  rw [take]
  cases hstate : side.state with
  | idle =>
      left
      rw [turn, hstate]
      simp only [AuthState.handle]
      split
      · exact AuthState.node_onRequest ..
      · rfl
  | challenged challenge =>
      rw [turn_of_challenged hstate]
      split
      next hresponse =>
        by_cases hright : ∃ node, challenge.node = some node
            ∧ challenge.accepts (AuthState.proofIn arrival.payload) = true
        · obtain ⟨node, hnode, haccepts⟩ := hright
          exact .inr ⟨challenge, node, rfl, hresponse, hnode, haccepts,
            AuthState.node_onResponse_of_accepts _ _ hnode haccepts⟩
        · exact .inl (AuthState.node_onResponse_of_not _ _ hright)
      · exact .inl rfl
  | authenticated => exact .inl (by rw [turn, hstate]; rfl)
  | failed => exact .inl (by rw [turn, hstate]; rfl)

/-- A settled handler stays settled and leaves its connection alone. -/
theorem run_of_settled {side : AuthSide κ} (hsettled : side.state.Settled)
    (arrivals : List AuthArrival) :
    (side.run arrivals).state.Settled
      ∧ (side.run arrivals).connection = side.connection := by
  induction arrivals generalizing side with
  | nil => exact ⟨hsettled, rfl⟩
  | cons arrival arrivals ih =>
      have hturn : side.turn arrival
          = side.state.outOfTurn side.connection arrival.entropy arrival.header :=
        AuthState.handle_settled hsettled ..
      have htake : side.take arrival = ⟨.failed, side.connection⟩ := by
        rw [take, hturn]
        rfl
      show ((side.take arrival).run arrivals).state.Settled
        ∧ ((side.take arrival).run arrivals).connection = side.connection
      rw [htake]
      exact ih (.inr rfl)

-- ============================================================ the trace

/-- What the phase of a handler says about the messages it has had since
`origin`. -/
def Traced (origin : AuthSide κ) (past : List AuthArrival) : Prop :=
  match (origin.run past).state with
  | .idle =>
      (origin.run past).connection.node = none ∧ ∀ arrival ∈ past, arrival.Unreadable
  | .challenged challenge =>
      (origin.run past).connection.node = none
        ∧ (∀ node, challenge.node = some node → challenge.secret = node.secret)
        ∧ ∃ earlier asking, past = earlier ++ [asking]
          ∧ (∀ arrival ∈ earlier, arrival.Unreadable)
          ∧ asking.ChallengedWith challenge.node challenge.nonce challenge.random
              (origin.run earlier).connection (origin.run past).connection
  | .authenticated | .failed => True

/-- A message that an idle handler takes in continues its trace. -/
theorem traced_snoc_of_idle {origin : AuthSide κ} {past : List AuthArrival}
    (arrival : AuthArrival) (hstate : (origin.run past).state = .idle)
    (hnone : (origin.run past).connection.node = none)
    (hpast : ∀ arrival ∈ past, arrival.Unreadable) :
    Traced origin (past ++ [arrival]) := by
  have hturn : (origin.run past).turn arrival
      = if arrival.header.messageType = Message.messageType AuthRequest then
          AuthState.onRequest standardMethods arrival.directory
            (origin.run past).connection arrival.entropy arrival.header arrival.payload
        else AuthState.outOfTurn .idle (origin.run past).connection arrival.entropy
          arrival.header := by
    rw [turn, hstate]
    rfl
  unfold Traced
  rw [run_snoc]
  have hnode : ((origin.run past).take arrival).connection.node = none := by
    rcases (origin.run past).node_take_cases arrival with hsame | ⟨_, _, hchallenged, _⟩
    · rw [hsame, hnone]
    · rw [hstate] at hchallenged
      cases hchallenged
  by_cases htype : arrival.header.messageType = Message.messageType AuthRequest
  · rw [if_pos htype] at hturn
    rcases AuthState.onRequest_cases _ _ _ _ _ _ hturn.symm with
      ⟨hdecode, hidle⟩
      | ⟨request, method, challenge, hdecode, hselect, hknown, hsecret, hsent, hchallenged⟩
      | hfailed
    · rw [show ((origin.run past).take arrival).state = .idle from hidle]
      refine ⟨hnode, fun other hother => ?_⟩
      rcases List.mem_append.1 hother with hother | hother
      · exact hpast other hother
      · rw [List.mem_singleton.1 hother]
        exact ⟨htype, hdecode⟩
    · obtain ⟨hmethod, hoffered⟩ := AuthState.of_select hselect
      obtain rfl : method = "hmac-sha256" := List.mem_singleton.1 hmethod
      rw [show ((origin.run past).take arrival).state = .challenged challenge
        from hchallenged]
      refine ⟨hnode, fun node hnode => hsecret node (hknown ▸ hnode), past, arrival, rfl,
        hpast, htype, ⟨request, hdecode, hoffered, hknown.symm⟩, hsent⟩
    · rw [show ((origin.run past).take arrival).state = .failed from hfailed]
      trivial
  · rw [if_neg htype] at hturn
    have hfailed : ((origin.run past).take arrival).state = .failed := by
      rw [take, hturn]
      rfl
    rw [hfailed]
    trivial

/-- Whatever else a handler takes in settles it. -/
theorem settled_take_of_challenged {side : AuthSide κ} {challenge : Challenge}
    (hstate : side.state = .challenged challenge) (arrival : AuthArrival) :
    (side.take arrival).state.Settled := by
  rw [take, turn_of_challenged hstate]
  split
  · exact AuthState.settled_onResponse ..
  · exact .inr rfl

/-- Every run of a fresh handler is traced. -/
theorem traced_run (peer : SocketAddress) (sink : κ) (past : List AuthArrival) :
    Traced (fresh peer sink) past := by
  induction past using List.reverseRecOn with
  | nil => exact ⟨rfl, fun arrival harrival => by cases harrival⟩
  | append_singleton past arrival ih =>
      have hrest : ((fresh peer sink).run (past ++ [arrival])).state.Settled →
          Traced (fresh peer sink) (past ++ [arrival]) := by
        intro hsettled
        unfold Traced
        rcases hsettled with hstate | hstate
        · rw [hstate]
          trivial
        · rw [hstate]
          trivial
      cases hstate : ((fresh peer sink).run past).state with
      | idle =>
          unfold Traced at ih
          rw [hstate] at ih
          exact traced_snoc_of_idle arrival hstate ih.1 ih.2
      | challenged challenge =>
          apply hrest
          rw [run_snoc]
          exact settled_take_of_challenged hstate arrival
      | authenticated =>
          apply hrest
          rw [run_append]
          exact (run_of_settled (.inl hstate) _).1
      | failed =>
          apply hrest
          rw [run_append]
          exact (run_of_settled (.inr hstate) _).1

-- ======================================================= the soundness

/-- A connection gets a node exactly when the message before was a request
that named the node, offered the method and was answered with a challenge,
nothing but unreadable requests came before that, and the response at hand
carries the code over that challenge's bytes under the node's secret. It
keeps that node whatever comes, and every message to a settled handler is
a violation. -/
theorem node_gained_iff_proved (peer : SocketAddress) (sink : κ)
    (past : List AuthArrival) :
    (∀ (message : AuthArrival) (node : Node),
      (((fresh peer sink).run past).connection.node ≠ some node
          ∧ ((fresh peer sink).run (past ++ [message])).connection.node = some node)
        ↔ ∃ (earlier : List AuthArrival) (asking : AuthArrival) (nonce random : Bytes)
            (response : AuthResponse),
          past = earlier ++ [asking]
            ∧ (∀ arrival ∈ earlier, arrival.Unreadable)
            ∧ asking.ChallengedWith (some node) nonce random
                ((fresh peer sink).run earlier).connection
                ((fresh peer sink).run past).connection
            ∧ ((fresh peer sink).run past).state
                = .challenged ⟨some node, node.secret, nonce, random⟩
            ∧ message.header.messageType = Message.messageType AuthResponse
            ∧ Cbor.decode? message.payload = some response
            ∧ response.proof = hmac node.secret (nonce ++ random))
      ∧ (∀ (future : List AuthArrival) (node : Node),
          ((fresh peer sink).run past).connection.node = some node →
          ((fresh peer sink).run (past ++ future)).connection.node = some node)
      ∧ (((fresh peer sink).run past).state.Settled →
          ∀ (future : List AuthArrival) (message : AuthArrival),
            ∃ phase, (((fresh peer sink).run (past ++ future)).turn message).result
              = .error (.protocolViolation
                  (.outOfTurn message.header.messageType phase))) := by
  have htraced := traced_run peer sink past
  generalize fresh peer sink = origin at htraced ⊢
  refine ⟨fun message node => ⟨?_, ?_⟩, fun future node hnode => ?_,
    fun hsettled future message => ?_⟩
  · rintro ⟨hbefore, hafter⟩
    rw [run_snoc] at hafter
    rcases (origin.run past).node_take_cases message with
      hsame | ⟨⟨found, secret, nonce, random⟩, other, hstate, htype, hfound, haccepts,
        hother⟩
    · exact absurd (hsame ▸ hafter) hbefore
    · obtain rfl : other = node := Option.some.inj (hother.symm.trans hafter)
      obtain rfl : found = some other := hfound
      obtain ⟨response, hdecode, hproof⟩ := (AuthState.accepts_proofIn_iff _ _).1 haccepts
      unfold Traced at htraced
      rw [hstate] at htraced
      obtain ⟨_, hsecret, earlier, asking, hpast, hearlier, hasking⟩ := htraced
      obtain rfl : secret = other.secret := hsecret other rfl
      exact ⟨earlier, asking, nonce, random, response, hpast, hearlier, hasking, hstate,
        htype, hdecode, hproof⟩
  · rintro ⟨_, _, nonce, random, response, _, _, _, hstate, htype, hdecode, hproof⟩
    unfold Traced at htraced
    rw [hstate] at htraced
    refine ⟨by rw [htraced.1]; exact nofun, ?_⟩
    rw [run_snoc, take, turn_of_challenged hstate, if_pos htype]
    exact AuthState.node_onResponse_of_accepts _ _ rfl
      ((AuthState.accepts_proofIn_iff _ _).2 ⟨response, hdecode, hproof⟩)
  · have hsettled : (origin.run past).state.Settled := by
      unfold Traced at htraced
      cases hstate : (origin.run past).state with
      | idle =>
          rw [hstate] at htraced
          rw [htraced.1] at hnode
          cases hnode
      | challenged challenge =>
          rw [hstate] at htraced
          rw [htraced.1] at hnode
          cases hnode
      | authenticated => exact .inl rfl
      | failed => exact .inr rfl
    rw [run_append, (run_of_settled hsettled future).2, hnode]
  · have hlater := (run_of_settled hsettled future).1
    refine ⟨(origin.run (past ++ future)).state.phase, ?_⟩
    rw [run_append, turn, AuthState.handle_settled hlater]
    rfl

/-- The node of the exchange below. -/
def exampleNode : Node := ⟨12, ⟨List.replicate 16 7, rfl⟩, [115, 51], "stage-left"⟩

/-- Where it seems to be. -/
def examplePeer : SocketAddress := ⟨.loopback, 5000⟩

/-- A message to a controller that knows this node and draws sixteen ones
and then twos. -/
def exampleArrival (messageType : UInt8) (payload : Bytes) : AuthArrival :=
  ⟨⟨[exampleNode], []⟩, List.replicate 16 1 ++ List.replicate 32 2,
    .new .authentication messageType 3, payload⟩

/-- A response with a whole code in it reads back. -/
theorem decode?_encode_response {proof : Bytes} (hlength : proof.length = 32) :
    Cbor.decode? (Cbor.encode (AuthResponse.mk proof))
      = some (AuthResponse.mk proof) :=
  AuthResponse.decode?_encode ⟨proof⟩ (Nat.lt_of_le_of_lt (Nat.le_of_eq hlength) (by decide))

/-- An unreadable request, a readable one and the right proof: the third
message gains the node. -/
theorem node_gained_in_example :
    let garbled := exampleArrival 0x01 [0xff, 0x00]
    let asking := exampleArrival 0x01
      (Cbor.encode (AuthRequest.mk exampleNode.uuid ["other", "hmac-sha256"]))
    let proof := hmac exampleNode.secret (List.replicate 16 1 ++ List.replicate 32 2)
    let answer := exampleArrival 0x03 (Cbor.encode (AuthResponse.mk proof))
    let side := fresh examplePeer Recorder.empty
    (side.run [garbled, asking]).connection.node ≠ some exampleNode
      ∧ (side.run ([garbled, asking] ++ [answer])).connection.node = some exampleNode := by
  intro garbled asking proof
  -- which code it is does not matter below, only how long it is
  obtain ⟨hproof, hlength⟩ : proof = hmac exampleNode.secret
      (List.replicate 16 1 ++ List.replicate 32 2) ∧ proof.length = 32 := by
    simp only [proof, length_hmac, and_self]
  clear_value proof
  intro answer side
  have hgarbled : garbled.Unreadable := by
    unfold AuthArrival.Unreadable
    decide +kernel
  have hearlier : ∀ arrival ∈ [garbled], arrival.Unreadable := by
    intro arrival harrival
    rw [List.mem_singleton.1 harrival]
    exact hgarbled
  have hasking : asking.ChallengedWith (some exampleNode) (List.replicate 16 1)
      (List.replicate 32 2) (side.run [garbled]).connection
      (side.run [garbled, asking]).connection :=
    ⟨rfl, ⟨AuthRequest.mk exampleNode.uuid ["other", "hmac-sha256"], by decide +kernel,
      by decide, by decide +kernel⟩, by decide +kernel⟩
  have hstate : (side.run [garbled, asking]).state = .challenged
      ⟨some exampleNode, exampleNode.secret, List.replicate 16 1, List.replicate 32 2⟩ := by
    decide +kernel
  have hdecode : Cbor.decode? answer.payload = some (AuthResponse.mk proof) :=
    decode?_encode_response hlength
  exact ((node_gained_iff_proved examplePeer Recorder.empty
    [garbled, asking]).1 answer exampleNode).2 ⟨[garbled], asking, List.replicate 16 1,
      List.replicate 32 2, AuthResponse.mk proof, rfl, hearlier, hasking, hstate, rfl,
      hdecode, hproof⟩

end AuthSide

end Luminaire
