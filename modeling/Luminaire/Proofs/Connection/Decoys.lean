/-
An unknown node cannot be told from one with a wrong proof.

Two fresh handlers get requests that differ in the node they name: one is
in the directory, the other is not and is asked under a decoy secret. The
challenges are the same as soon as nonce and random are, and from then on
the two sides stay `Alike`: the connections are equal, sink and all, and
the states differ at most in what no answer depends on before the right
proof arrives. So whatever the sink records of one side it records of the
other, refusals included.

The right proof is the only way apart, and it leads nowhere for the unknown
node: a challenge for nobody is failed by every response, one under the
decoy secret included (`take_of_nobody`).
-/
import Luminaire.Proofs.Connection.Authentication

namespace Luminaire

-- ============================================================== drawing

theorem Entropy.draw?_append {bytes : Bytes} {count : Nat} (hlength : bytes.length = count)
    (rest : Entropy) : Entropy.draw? (bytes ++ rest) count = some (bytes, rest) :=
  Entropy.draw?_eq_some_iff.2 ⟨rfl, hlength⟩

/-- Nonce and random are drawn alike under any secret. -/
theorem Challenge.drawUnder_append {nonce random : Bytes}
    (hnonce : nonce.length = nonceLength) (hrandom : random.length = randomLength)
    (node : Option Node) (secret : Bytes) (rest : Entropy) :
    drawUnder node secret (nonce ++ (random ++ rest))
      = (.ok ⟨node, secret, nonce, random⟩, rest) := by
  unfold drawUnder
  simp only [Entropy.draw?_append hnonce, Entropy.draw?_append hrandom]

/-- For nobody a decoy is drawn first. -/
theorem Challenge.draw_decoy {decoy : Bytes} (hdecoy : decoy.length = 32) (rest : Entropy) :
    draw none (decoy ++ rest) = drawUnder none decoy rest := by
  unfold draw
  simp only [Entropy.draw?_append hdecoy]

-- ============================================================== messages

namespace AuthArrival

/-- The same message, whatever directory and randomness it finds. -/
structure SameMessage (one other : AuthArrival) : Prop where
  header : one.header = other.header
  payload : one.payload = other.payload

/-- A response with the code over nonce and random under a secret. -/
def Proves (arrival : AuthArrival) (secret nonce random : Bytes) : Prop :=
  arrival.header.messageType = Message.messageType AuthResponse
    ∧ ∃ response : AuthResponse, Cbor.decode? arrival.payload = some response
      ∧ response.proof = hmac secret (nonce ++ random)

end AuthArrival

namespace AuthSide

variable {κ : Type} [Sink κ]

/-- What messages lead to, one after the other. -/
def results (side : AuthSide κ) : List AuthArrival → List (Except HandlerError Unit)
  | [] => []
  | arrival :: arrivals =>
      (side.turn arrival).result :: (side.take arrival).results arrivals

/-- What comes of a message that is not the right proof: a response is told
that it failed, and anything else is out of turn. -/
def rebuff (connection : Connection κ) (header : Header) :
    Except HandlerError Unit × Connection κ :=
  if header.messageType = Message.messageType AuthResponse then
    connection.answer header (AuthResult.mk .authenticationFailed) (.error .authenticationFailed)
  else (.error (.protocolViolation (.outOfTurn header.messageType .challenged)), connection)

theorem node_rebuff (connection : Connection κ) (header : Header) :
    (rebuff connection header).2.node = connection.node := by
  unfold rebuff
  split
  · exact connection.node_answer ..
  · rfl

/-- Without the right proof neither the challenge nor its secret matters. -/
theorem turn_of_wrong (challenge : Challenge) (connection : Connection κ)
    (arrival : AuthArrival) (hwrong : ∀ node, challenge.node = some node →
      ¬ arrival.Proves challenge.secret challenge.nonce challenge.random) :
    (AuthSide.mk (.challenged challenge) connection).turn arrival
      = ⟨(rebuff connection arrival.header).1, .failed,
          (rebuff connection arrival.header).2, arrival.entropy⟩ := by
  rw [turn_of_challenged rfl, rebuff]
  split
  next hresponse =>
    have hfails : AuthState.onResponse challenge connection arrival.header arrival.payload
        = ((connection.answer arrival.header (AuthResult.mk .authenticationFailed)
              (.error .authenticationFailed)).1, .failed,
            (connection.answer arrival.header (AuthResult.mk .authenticationFailed)
              (.error .authenticationFailed)).2) := by
      unfold AuthState.onResponse
      split
      next node hnode haccepts =>
        obtain ⟨response, hdecode, hproof⟩ := (AuthState.accepts_proofIn_iff _ _).1 haccepts
        exact absurd ⟨hresponse, response, hdecode, hproof⟩ (hwrong node hnode)
      · rfl
    rw [hfails]
  · rfl

theorem turn_of_failed (connection : Connection κ) (arrival : AuthArrival) :
    (AuthSide.mk .failed connection).turn arrival
      = AuthState.outOfTurn .failed connection arrival.entropy arrival.header := rfl

-- ================================================================ nobody

/-- A side that asks nobody. -/
inductive AsksNobody : AuthSide κ → Prop where
  | challenged (challenge : Challenge) (connection : Connection κ)
      (hnobody : challenge.node = none) (hnode : connection.node = none) :
      AsksNobody ⟨.challenged challenge, connection⟩
  | failed (connection : Connection κ) (hnode : connection.node = none) :
      AsksNobody ⟨.failed, connection⟩

theorem AsksNobody.take {side : AuthSide κ} (hnobody : side.AsksNobody)
    (arrival : AuthArrival) : (side.take arrival).AsksNobody := by
  cases hnobody with
  | challenged challenge connection hnobody hnode =>
      rw [AuthSide.take, turn_of_wrong challenge connection arrival fun node hsome => by
        rw [hnobody] at hsome
        cases hsome]
      exact .failed _ ((node_rebuff connection arrival.header).trans hnode)
  | failed connection hnode =>
      rw [AuthSide.take, turn_of_failed]
      exact .failed connection hnode

/-- Whoever is nobody stays nobody, whatever it proves. -/
theorem AsksNobody.run {side : AuthSide κ} (hnobody : side.AsksNobody)
    (arrivals : List AuthArrival) : (side.run arrivals).AsksNobody := by
  induction arrivals generalizing side with
  | nil => exact hnobody
  | cons arrival arrivals ih => exact ih (hnobody.take arrival)

omit [Sink κ] in
theorem AsksNobody.node_eq {side : AuthSide κ} (hnobody : side.AsksNobody) :
    side.connection.node = none ∧ side.state ≠ .authenticated := by
  cases hnobody with
  | challenged challenge connection hnobody hnode => exact ⟨hnode, fun h => by cases h⟩
  | failed connection hnode => exact ⟨hnode, fun h => by cases h⟩

-- ================================================================= alike

/-- A side that asks a node beside one that asks nobody, about the same nonce
and random, over the same connection. -/
inductive Alike (node : Node) (nonce random : Bytes) : AuthSide κ → AuthSide κ → Prop where
  | challenged (decoy : Bytes) (connection : Connection κ) (hnode : connection.node = none) :
      Alike node nonce random ⟨.challenged ⟨some node, node.secret, nonce, random⟩, connection⟩
        ⟨.challenged ⟨none, decoy, nonce, random⟩, connection⟩
  | failed (connection : Connection κ) (hnode : connection.node = none) :
      Alike node nonce random ⟨.failed, connection⟩ ⟨.failed, connection⟩

variable {node : Node} {nonce random : Bytes} {one other : AuthSide κ}

omit [Sink κ] in
theorem Alike.connection (halike : Alike node nonce random one other) :
    one.connection = other.connection ∧ one.connection.node = none := by
  cases halike with
  | challenged decoy connection hnode => exact ⟨rfl, hnode⟩
  | failed connection hnode => exact ⟨rfl, hnode⟩

omit [Sink κ] in
theorem Alike.asksNobody (halike : Alike node nonce random one other) : other.AsksNobody := by
  cases halike with
  | challenged decoy connection hnode => exact .challenged _ connection rfl hnode
  | failed connection hnode => exact .failed connection hnode

/-- The same message that is not the right proof comes to the same, and fails
both. -/
theorem Alike.take (halike : Alike node nonce random one other) {arrival arrival' : AuthArrival}
    (hsame : arrival.SameMessage arrival') (hwrong : ¬ arrival.Proves node.secret nonce random) :
    (one.turn arrival).result = (other.turn arrival').result
      ∧ ∃ connection : Connection κ, connection.node = none
        ∧ one.take arrival = ⟨.failed, connection⟩
        ∧ other.take arrival' = ⟨.failed, connection⟩ := by
  cases halike with
  | challenged decoy connection hnode =>
      have hknown := turn_of_wrong ⟨some node, node.secret, nonce, random⟩ connection arrival
        fun _ _ => hwrong
      have hunknown := turn_of_wrong ⟨none, decoy, nonce, random⟩ connection arrival'
        fun _ hsome => by cases hsome
      rw [← hsame.header] at hunknown
      refine ⟨by rw [hknown, hunknown], (rebuff connection arrival.header).2,
        (node_rebuff connection arrival.header).trans hnode, ?_, ?_⟩
      · rw [AuthSide.take, hknown]
      · rw [AuthSide.take, hunknown]
  | failed connection hnode =>
      refine ⟨?_, connection, hnode, rfl, rfl⟩
      rw [turn_of_failed, turn_of_failed, AuthState.outOfTurn, AuthState.outOfTurn, hsame.header]

theorem run_of_failed (connection : Connection κ) {following following' : List AuthArrival}
    (hsame : List.Forall₂ AuthArrival.SameMessage following following') :
    (AuthSide.mk .failed connection).results following
        = (AuthSide.mk .failed connection).results following'
      ∧ (AuthSide.mk .failed connection).run following = ⟨.failed, connection⟩
      ∧ (AuthSide.mk .failed connection).run following' = ⟨.failed, connection⟩ := by
  induction hsame with
  | nil => exact ⟨rfl, rfl, rfl⟩
  | @cons arrival arrival' following following' hfirst hsame ih =>
      obtain ⟨hresults, hrun, hrun'⟩ := ih
      refine ⟨?_, hrun, hrun'⟩
      rw [results, results, turn_of_failed, turn_of_failed, AuthState.outOfTurn,
        AuthState.outOfTurn, hfirst.header]
      exact congrArg (List.cons _) hresults

/-- Two sides that are alike are told the same and stay alike, until one of them
is given the right proof. -/
theorem Alike.run (halike : Alike node nonce random one other)
    {following following' : List AuthArrival}
    (hsame : List.Forall₂ AuthArrival.SameMessage following following')
    (hwrong : ∀ first ∈ following.head?, ¬ first.Proves node.secret nonce random) :
    one.results following = other.results following'
      ∧ (one.run following).connection = (other.run following').connection
      ∧ (one.run following).connection.node = none := by
  cases hsame with
  | nil => exact ⟨rfl, halike.connection⟩
  | @cons arrival arrival' following following' hfirst hsame =>
      obtain ⟨hresult, connection, hnode, htake, htake'⟩ :=
        halike.take hfirst (hwrong arrival rfl)
      obtain ⟨hresults, hrun, hrun'⟩ := run_of_failed connection hsame
      refine ⟨?_, ?_, ?_⟩
      · rw [results, results, hresult, htake, htake', hresults]
      · show ((one.take arrival).run following).connection
          = ((other.take arrival').run following').connection
        rw [htake, htake', hrun, hrun']
      · show ((one.take arrival).run following).connection.node = none
        rw [htake, hrun]
        exact hnode

-- ============================================================= requests

/-- Requests that differ in the node they name come to the same, if one names a
known node and the other an unknown one, and both draw the same nonce and
random. -/
theorem alike_of_requests {directory : Directory} {known unknown : Uuid}
    (hknown : directory.find? known = some node) (hunknown : directory.find? unknown = none)
    (header : Header) {methods : List String} {payload payload' : Bytes}
    (hpayload : Cbor.decode? payload = some (AuthRequest.mk known methods))
    (hpayload' : Cbor.decode? payload' = some (AuthRequest.mk unknown methods))
    {decoy : Bytes} (hdecoy : decoy.length = 32)
    (hnonce : nonce.length = Challenge.nonceLength)
    (hrandom : random.length = Challenge.randomLength) (rest rest' : Entropy)
    (peer : SocketAddress) (sink : κ) :
    let asking : AuthArrival := ⟨directory, nonce ++ (random ++ rest), header, payload⟩
    let asking' : AuthArrival :=
      ⟨directory, decoy ++ (nonce ++ (random ++ rest')), header, payload'⟩
    ((fresh peer sink).turn asking).result = ((fresh peer sink).turn asking').result
      ∧ Alike node nonce random ((fresh peer sink).take asking)
        ((fresh peer sink).take asking') := by
  intro asking asking'
  have hdraw : Challenge.draw (directory.find? known) (nonce ++ (random ++ rest))
      = (.ok ⟨some node, node.secret, nonce, random⟩, rest) := by
    rw [hknown]
    exact Challenge.drawUnder_append hnonce hrandom ..
  have hdraw' : Challenge.draw (directory.find? unknown)
      (decoy ++ (nonce ++ (random ++ rest')))
      = (.ok ⟨none, decoy, nonce, random⟩, rest') := by
    rw [hunknown, Challenge.draw_decoy hdecoy]
    exact Challenge.drawUnder_append hnonce hrandom ..
  unfold take turn fresh AuthState.handle
  by_cases htype : header.messageType = Message.messageType AuthRequest
  · simp only [asking, asking', if_pos htype]
    unfold AuthState.onRequest
    simp only [hpayload, hpayload']
    cases hselect : AuthState.select standardMethods methods with
    | none => exact ⟨rfl, .failed _ (Connection.node_answer ..)⟩
    | some method =>
        simp only [hdraw, hdraw']
        cases hreply : (Connection.new peer sink).replyWith header
          (AuthChallenge.mk .success (some method) nonce random) with
        | mk result connection =>
            have hnode : connection.node = none := Connection.node_of_replyWith hreply
            cases result with
            | ok _ => exact ⟨rfl, .challenged decoy connection hnode⟩
            | error fault => exact ⟨rfl, .failed connection hnode⟩
  · simp only [asking, asking', if_neg htype]
    exact ⟨rfl, .failed _ rfl⟩

/-- An unknown node cannot be told from one with a wrong proof. Let two fresh
handlers, over sinks of any kind in the same state, get requests that differ
in which node they name only, and let the one that names an unknown node draw
a decoy secret and then the same nonce and random as the other. Both then come
to the same, over connections that stay equal down to what their sinks have
taken; and so do any same messages that follow, unless the first of them is
the right proof for the known node. Until then neither connection has a node,
and that of the unknown node never gets one, whatever it is sent. -/
theorem unknown_node_looks_known {directory : Directory} {known unknown : Uuid}
    (hknown : directory.find? known = some node) (hunknown : directory.find? unknown = none)
    {header : Header} {methods : List String} {payload payload' : Bytes}
    (hpayload : Cbor.decode? payload = some (AuthRequest.mk known methods))
    (hpayload' : Cbor.decode? payload' = some (AuthRequest.mk unknown methods))
    {decoy : Bytes} (hdecoy : decoy.length = 32)
    (hnonce : nonce.length = Challenge.nonceLength)
    (hrandom : random.length = Challenge.randomLength) (rest rest' : Entropy)
    (peer : SocketAddress) (sink : κ) :
    let side := fresh peer sink
    let asking : AuthArrival := ⟨directory, nonce ++ (random ++ rest), header, payload⟩
    let asking' : AuthArrival :=
      ⟨directory, decoy ++ (nonce ++ (random ++ rest')), header, payload'⟩
    ((side.turn asking).result = (side.turn asking').result
        ∧ (side.take asking).connection = (side.take asking').connection)
      ∧ (∀ following following', List.Forall₂ AuthArrival.SameMessage following following' →
          (∀ first ∈ following.head?, ¬ first.Proves node.secret nonce random) →
            side.results (asking :: following) = side.results (asking' :: following')
              ∧ (side.run (asking :: following)).connection
                = (side.run (asking' :: following')).connection
              ∧ (side.run (asking :: following)).connection.node = none)
      ∧ ∀ following, (side.run (asking' :: following)).connection.node = none
          ∧ (side.run (asking' :: following)).state ≠ .authenticated := by
  intro side asking asking'
  obtain ⟨hresult, halike⟩ := alike_of_requests hknown hunknown header hpayload hpayload'
    hdecoy hnonce hrandom rest rest' peer sink
  refine ⟨⟨hresult, halike.connection.1⟩, fun following following' hsame hwrong => ?_,
    fun following => (halike.asksNobody.run following).node_eq⟩
  obtain ⟨hresults, hrun⟩ := halike.run hsame hwrong
  refine ⟨?_, hrun⟩
  rw [results, results, hresults]
  exact congrArg (· :: _) hresult

/-- A node in the directory and a stranger, and for both a response that does not
decode: the same datagrams are recorded, and the stranger stays one. -/
theorem decoy_in_example :
    let directory : Directory := ⟨[exampleNode], []⟩
    let stranger : Uuid := ⟨List.replicate 16 8, rfl⟩
    let nonce := List.replicate 16 1
    let random := List.replicate 32 2
    let decoy := List.replicate 32 3
    let header : Header := .new .authentication 0x01 3
    let side := fresh examplePeer Recorder.empty
    let asking : AuthArrival := ⟨directory, nonce ++ (random ++ []), header,
      Cbor.encode (AuthRequest.mk exampleNode.uuid ["hmac-sha256"])⟩
    let asking' : AuthArrival := ⟨directory, decoy ++ (nonce ++ (random ++ [])), header,
      Cbor.encode (AuthRequest.mk stranger ["hmac-sha256"])⟩
    let garbled := exampleArrival 0x03 [0xff, 0x00]
    (side.run [asking, garbled]).connection.sink.sent
        = (side.run [asking', garbled]).connection.sink.sent
      ∧ (side.run [asking', garbled]).connection.node = none := by
  intro directory stranger nonce random decoy header side asking asking' garbled
  have hpayload : Cbor.decode? asking.payload
      = some (AuthRequest.mk exampleNode.uuid ["hmac-sha256"]) := by decide +kernel
  have hpayload' : Cbor.decode? asking'.payload
      = some (AuthRequest.mk stranger ["hmac-sha256"]) := by decide +kernel
  have hgarbled : Cbor.decode? (α := AuthResponse) garbled.payload = none := by
    decide +kernel
  have hwrong : ∀ first ∈ [garbled].head?, ¬ first.Proves exampleNode.secret nonce random := by
    rintro first hfirst ⟨-, response, hdecode, -⟩
    obtain rfl := Option.some.inj hfirst
    rw [hgarbled] at hdecode
    cases hdecode
  have hknown : directory.find? exampleNode.uuid = some exampleNode := by decide +kernel
  have hunknown : directory.find? stranger = none := by decide +kernel
  have hdecoy : decoy.length = 32 := by decide
  have hnonce : nonce.length = Challenge.nonceLength := by decide
  have hrandom : random.length = Challenge.randomLength := by decide
  obtain ⟨-, hsame, hnever⟩ := @unknown_node_looks_known _ _ exampleNode nonce random directory
    exampleNode.uuid stranger hknown hunknown header _ _ _ hpayload hpayload' decoy hdecoy hnonce
    hrandom [] [] examplePeer Recorder.empty
  obtain ⟨-, hconnection, -⟩ := hsame [garbled] [garbled] (.cons ⟨rfl, rfl⟩ .nil) hwrong
  exact ⟨congrArg (·.sink.sent) hconnection, (hnever [garbled]).1⟩

end AuthSide

end Luminaire
