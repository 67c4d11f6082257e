/-
What a message calls for.

# The table

`Ruling.of` reads a message byte by byte and says what has to come of it:
whether it is answered, and with what type, or refused, and with what
status; whether the connection ends, and why; and where authentication
stands afterwards. It knows of the controller only how far the connection's
authentication has come.

# The handlers

A handler that can send does what the table says. `Treats` has the four
ways in which that can go: the handler answers, it refuses, it passes on a
message whose type it does not know, which is refused in its place, or it
keeps silent. Each of the four standard handlers is taken up once
(`Liveness.treats`, `AuthState.treats`, `Subscription.treats`,
`GroupKeys.treats`). That nothing stands in the way of sending is
`Connection.IsReady`; how long an answer can be is known beforehand, so it
is never too long.
-/
import Luminaire.Proofs.Connection.Strangers
import Luminaire.Proofs.Message.Replies
import Luminaire.Proofs.Server.Elsewhere
import Luminaire.Proofs.Server.Keyed

namespace Luminaire

-- ============================================================= reading

/-- Two bytes of length, as a number. -/
theorem toNat_bigEndian_pair (high low : UInt8) :
    (bigEndian [high, low]).toUInt16.toNat = 256 * high.toNat + low.toNat := by
  have hhigh := high.toNat_lt
  have hlow := low.toNat_lt
  have hsum : bigEndian [high, low] = 256 * high.toNat + low.toNat := by
    simp [bigEndian]
    omega
  rw [hsum]
  exact UInt16.toNat_ofNat_of_lt' (by simp [UInt16.size]; omega)

/-- A message with a whole header, read byte by byte. -/
theorem unframe_cons (version endpoint messageType tag high low : UInt8) (rest : Bytes) :
    unframe (H := Header) (version :: endpoint :: messageType :: tag :: high :: low :: rest)
      = if version ≠ protocolVersion then .error (.versionMismatch version)
        else if rest.length < 256 * high.toNat + low.toNat then
          .error (.truncated (6 + (256 * high.toNat + low.toNat)) (rest.length + 6))
        else .ok (⟨version, endpoint, messageType, tag, (bigEndian [high, low]).toUInt16⟩,
          rest.take (256 * high.toNat + low.toNat)) := by
  let message := version :: endpoint :: messageType :: tag :: high :: low :: rest
  let header : Header := ⟨version, endpoint, messageType, tag, (bigEndian [high, low]).toUInt16⟩
  have hheader : readHeader (H := Header) message
      = if version = protocolVersion then .ok header else .error (.versionMismatch version) := rfl
  have hlength : (Framed.length header).toNat = 256 * high.toNat + low.toNat :=
    toNat_bigEndian_pair high low
  show unframe (H := Header) message = _
  unfold unframe
  rw [hheader]
  by_cases hversion : version = protocolVersion
  · rw [if_pos hversion, if_neg (not_not_intro hversion)]
    simp only [hlength]
    by_cases hshort : rest.length < 256 * high.toNat + low.toNat
    · have hmessage : message.length < Framed.size Header + (256 * high.toNat + low.toNat) := by
        show rest.length + 6 < 6 + (256 * high.toNat + low.toNat)
        omega
      rw [if_pos hshort, if_pos hmessage]
      rfl
    · have hmessage :
          ¬ message.length < Framed.size Header + (256 * high.toNat + low.toNat) := by
        show ¬ rest.length + 6 < 6 + (256 * high.toNat + low.toNat)
        omega
      have hpayload : (message.take (Framed.size Header + (256 * high.toNat + low.toNat))).drop
          (Framed.size Header) = rest.take (256 * high.toNat + low.toNat) := by
        rw [List.drop_take, Nat.add_sub_cancel_left]
        rfl
      rw [if_neg hshort, if_neg hmessage, hpayload]
  · rw [if_neg hversion, if_pos hversion]

/-- A message without a whole header. -/
theorem unframe_of_short {message : Bytes}
    (hshort : ∀ version endpoint messageType tag high low rest,
      message = version :: endpoint :: messageType :: tag :: high :: low :: rest → False) :
    ∃ needed actual, unframe (H := Header) message = .error (.truncated needed actual) := by
  refine ⟨6, message.length, ?_⟩
  have hnone : Framed.ofBytes? (H := Header) message = none := by
    simp only [Framed.ofBytes?]
  unfold unframe readHeader
  rw [hnone]
  rfl

/-- A message that reads as one has the bytes of its header in front. -/
theorem bytes_of_unframe {message payload : Bytes} {header : Header}
    (hread : unframe (H := Header) message = .ok (header, payload)) :
    message[1]? = some header.endpoint ∧ message[2]? = some header.messageType
      ∧ message[3]? = some header.tag := by
  unfold unframe at hread
  split at hread
  · cases hread
  next found hheader =>
    unfold readHeader at hheader
    split at hheader
    · cases hheader
    next read hbytes =>
      simp only [Framed.ofBytes?] at hbytes
      split at hbytes
      · cases hbytes
        split at hheader
        · cases hheader
          simp only at hread
          split at hread
          · cases hread
          · cases hread
            exact ⟨rfl, rfl, rfl⟩
        · cases hheader
      · cases hbytes

-- ============================================================= replies

/-- What a message is answered with. -/
inductive Reply where
  /-- An answer of this type. -/
  | typed (messageType : UInt8)
  /-- A refusal. -/
  | refusal (status : Status)
  deriving DecidableEq, Repr

namespace Reply

def messageType : Reply → UInt8
  | .typed messageType => messageType
  | .refusal _ => nackType

/-- A datagram that answers a message: it names the same endpoint under the same
tag, and a refusal names the type that it refuses. -/
def IsIn (reply : Reply) (message datagram : Bytes) : Prop :=
  ∃ (header : Header) (payload : Bytes), unframe datagram = .ok (header, payload)
    ∧ message[1]? = some header.endpoint ∧ message[3]? = some header.tag
    ∧ header.messageType = reply.messageType
    ∧ ∀ status, reply = .refusal status → ∃ messageType, message[2]? = some messageType
      ∧ Cbor.decode? payload = some (Nack.mk messageType status)

/-- Liveness knows one type, and has no answer for what does not decode. -/
def onLiveness (messageType : UInt8) (payload : Bytes) : Reply :=
  if messageType = Message.messageType Ping then
    if (Cbor.decode? (α := Ping) payload).isSome then .typed (Message.messageType Pong)
    else .refusal .malformed
  else .refusal .unsupported

def onPixelData (messageType : UInt8) : Reply :=
  if messageType = Message.messageType Subscribe then .typed (Message.messageType SubscribeAck)
  else if messageType = Message.messageType Unsubscribe then
    .typed (Message.messageType UnsubscribeAck)
  else .refusal .unsupported

def onGroupControl (messageType : UInt8) : Reply :=
  if messageType = getInfoType then .typed (Message.messageType Info)
  else if messageType = Message.messageType GetKey then .typed (Message.messageType KeyData)
  else .refusal .unsupported

end Reply

-- ============================================================ rulings

/-- What comes of a message. -/
structure Ruling where
  reply : Option Reply
  /-- Why the connection ends, if it does. -/
  cause : Option ShutdownCause
  /-- Where authentication stands afterwards. -/
  phase : AuthPhase
  deriving DecidableEq, Repr

/-- Only one type is expected of an authentication message, and it is answered
whatever comes of it; every other ends the connection. -/
def AuthState.ruling (state : AuthState) (messageType : UInt8) (payload : Bytes) : Ruling :=
  match state with
  | .idle =>
      if messageType = Message.messageType AuthRequest then
        let challenge := some (Reply.typed (Message.messageType AuthChallenge))
        match Cbor.decode? (α := AuthRequest) payload with
        | none => ⟨challenge, none, .idle⟩
        | some request =>
            if standardMethods.any fun method => request.methods.contains method then
              ⟨challenge, none, .challenged⟩
            else ⟨challenge, some .authenticationFailed, .failed⟩
      else ⟨none, some .protocolViolation, .failed⟩
  | .challenged challenge =>
      if messageType = Message.messageType AuthResponse then
        let result := some (Reply.typed (Message.messageType AuthResult))
        if challenge.node.isSome && challenge.accepts (proofIn payload) then
          ⟨result, none, .authenticated⟩
        else ⟨result, some .authenticationFailed, .failed⟩
      else ⟨none, some .protocolViolation, .failed⟩
  | _ => ⟨none, some .protocolViolation, .failed⟩

namespace Ruling

/-- Nothing comes of it. -/
def nothing (phase : AuthPhase) : Ruling := ⟨none, none, phase⟩

/-- What comes of a message that reads as one. -/
def judge (state : AuthState) (endpoint messageType : UInt8) (payload : Bytes) : Ruling :=
  match Endpoint.ofCode? endpoint with
  | some .default => ⟨some (.onLiveness messageType payload), none, state.phase⟩
  | some .authentication => state.ruling messageType payload
  | some .pixelData => ⟨some (.onPixelData messageType), none, state.phase⟩
  | some .multicastControl => ⟨some (.onGroupControl messageType), none, state.phase⟩
  | _ => nothing state.phase

/-- What comes of a message, whatever its bytes. -/
def of (state : AuthState) : Bytes → Ruling
  | version :: endpoint :: messageType :: _ :: high :: low :: rest =>
      if version ≠ protocolVersion then ⟨none, some .protocolViolation, state.phase⟩
      else
        let length := 256 * high.toNat + low.toNat
        if rest.length < length then nothing state.phase
        else judge state endpoint messageType (rest.take length)
  | _ => nothing state.phase

/-- That is how messages are read. -/
theorem of_eq (state : AuthState) (message : Bytes) :
    Ruling.of state message = match unframe (H := Header) message with
      | .error fault => ⟨none, if fault.isFatal then some .protocolViolation else none, state.phase⟩
      | .ok (header, payload) => judge state header.endpoint header.messageType payload := by
  fun_cases Ruling.of state message with
  | case1 version endpoint messageType tag high low rest hversion =>
      rw [unframe_cons, if_pos hversion]
      rfl
  | case2 version endpoint messageType tag high low rest hversion length hshort =>
      rw [unframe_cons, if_neg hversion, if_pos hshort]
      rfl
  | case3 version endpoint messageType tag high low rest hversion length hlong =>
      rw [unframe_cons, if_neg hversion, if_neg hlong]
  | case4 message hshort =>
      obtain ⟨needed, actual, hread⟩ := unframe_of_short hshort
      rw [hread]
      rfl

end Ruling

-- ============================================================= sending

namespace Connection

/-- The session is open and its path is up. -/
structure IsReady (connection : Connection Outlet) : Prop where
  isOpen : connection.line.closed = false
  up : connection.line.link = .up

theorem IsReady.of_line {before after : Connection Outlet} (hready : before.IsReady)
    (hline : after.line = before.line) : after.IsReady := by
  obtain ⟨hopen, hup⟩ := hready
  refine ⟨?_, ?_⟩
  · rw [hline]
    exact hopen
  · rw [hline]
    exact hup

/-- What was sent in between is one reply to a request. -/
structure Replied (request : Header) (messageType : UInt8) (payload : Bytes)
    (before after : Connection Outlet) : Prop where
  sent : ∃ record sequence, after.sink.sent = before.sink.sent ++ [record]
    ∧ before.sink.session.outgoing.openRecord record
      = .ok (.applicationData, sequence, framed (request.reply messageType) payload)
  line : after.line = before.line
  fits : payload.length ≤ replyLimit

/-- A connection that is ready can reply. -/
theorem IsReady.exists_reply {connection : Connection Outlet} (hready : connection.IsReady)
    (request : Header) (messageType : UInt8) {payload : Bytes}
    (hfits : payload.length ≤ replyLimit) :
    ∃ after, connection.reply request messageType payload = (.ok (), after)
      ∧ Replied request messageType payload connection after := by
  have hframe : payload.length ≤ maxPayloadLength := Nat.le_trans hfits (by decide)
  let datagram := framed (request.reply messageType) payload
  have hroom : datagram.length ≤ maxRecordContent := by
    have hsize : Framed.size Header = 6 := rfl
    have hlimit : replyLimit + 6 ≤ maxRecordContent := by decide
    rw [length_framed, hsize]
    omega
  obtain ⟨record, hput, -, hopens⟩ := Outlet.put_of_fits hready.isOpen hready.up hroom
  let sink : Outlet := ⟨{ connection.sink.session with
    nextSequence := connection.sink.session.nextSequence + 1 }, connection.sink.sent ++ [record]⟩
  refine ⟨{ connection with sink }, ?_,
    ⟨record, connection.sink.session.nextSequence, rfl, hopens⟩, rfl, hfits⟩
  unfold reply send
  rw [frame_of_le hframe]
  simp only [datagram] at hput
  simp only [hput, sink]

variable {α : Type} [Message α]

theorem IsReady.exists_answer {connection : Connection Outlet} (hready : connection.IsReady)
    (request : Header) {message : α} (hfits : (Cbor.encode message).length ≤ replyLimit) :
    ∃ after, connection.replyWith request message = (.ok (), after)
      ∧ (∀ outcome, connection.answer request message outcome = (outcome, after))
      ∧ Replied request (Message.messageType α) (Cbor.encode message) connection after := by
  obtain ⟨after, hreply, hreplied⟩ := hready.exists_reply request (Message.messageType α) hfits
  have hreplyWith : connection.replyWith request message = (.ok (), after) := hreply
  refine ⟨after, hreplyWith, ?_, hreplied⟩
  intro outcome
  unfold answer
  rw [hreplyWith]

end Connection

-- ============================================================ handlers

/-- A message whose type the handler does not know. -/
def Outcome.IsUnknown (outcome : Outcome) : Prop :=
  ∃ endpoint messageType, outcome = .failed (.unknownMessageType endpoint messageType)

/-- Why the connection ends with an outcome, if it does. -/
def Outcome.cause? : Outcome → Option ShutdownCause
  | .failed error => if error.isFatal then some (.ofError error) else none
  | _ => none

open Connection

/-- The ways in which a handler that can send does what has to come of a
message. -/
inductive Treats (header : Header) (before : Connection Outlet) (outcome : Outcome)
    (after : Connection Outlet) : Option Reply → Prop where
  | answers {messageType : UInt8} {payload : Bytes}
      (hreplied : Replied header messageType payload before after)
      (hknown : ¬ outcome.IsUnknown) : Treats header before outcome after (some (.typed messageType))
  | refuses {status : Status}
      (hreplied : Replied header nackType (Cbor.encode (Nack.mk header.messageType status))
        before after)
      (hknown : ¬ outcome.IsUnknown) : Treats header before outcome after (some (.refusal status))
  /-- Somebody else will have to refuse it. -/
  | passes (hsame : after = before) (hunknown : outcome.IsUnknown) :
      Treats header before outcome after (some (.refusal .unsupported))
  | ignores (hsame : after = before) (hknown : ¬ outcome.IsUnknown) :
      Treats header before outcome after none

namespace Treats

variable {header : Header} {before after : Connection Outlet} {outcome : Outcome}
  {reply : Option Reply}

theorem line (htreats : Treats header before outcome after reply) :
    after.line = before.line := by
  cases htreats with
  | answers hreplied => exact hreplied.line
  | refuses hreplied => exact hreplied.line
  | passes hsame => rw [hsame]
  | ignores hsame => rw [hsame]

end Treats

namespace Connection.IsReady

variable {α : Type} [Message α] {connection : Connection Outlet} {header : Header}

/-- An answer that is due is sent, and the outcome is what it would have been. -/
theorem treats_answer (hready : connection.IsReady) {message : α}
    (hfits : (Cbor.encode message).length ≤ replyLimit) {outcome : Except HandlerError Unit}
    (hknown : ¬ (Outcome.of outcome).IsUnknown) :
    let turn := connection.answer header message outcome
    Treats header connection (.of turn.1) turn.2 (some (.typed (Message.messageType α)))
      ∧ (Outcome.of turn.1).cause? = (Outcome.of outcome).cause? := by
  intro turn
  obtain ⟨after, -, hanswer, hreplied⟩ := hready.exists_answer header hfits
  have hturn : turn = (outcome, after) := hanswer outcome
  rw [hturn]
  exact ⟨.answers hreplied hknown, rfl⟩

theorem treats_replyWith (hready : connection.IsReady) {message : α}
    (hfits : (Cbor.encode message).length ≤ replyLimit) :
    let turn := connection.replyWith header message
    Treats header connection (.of turn.1) turn.2 (some (.typed (Message.messageType α)))
      ∧ (Outcome.of turn.1).cause? = none := by
  intro turn
  obtain ⟨after, hreply, -, hreplied⟩ := hready.exists_answer header hfits
  have hturn : turn = (.ok (), after) := hreply
  rw [hturn]
  exact ⟨.answers hreplied nofun, rfl⟩

end Connection.IsReady

/-- Only a stranger has no node, and that is no reason to end the connection. -/
theorem Connection.fault_of_requireNode {connection : Connection Outlet} {fault : HandlerError}
    (hstranger : connection.requireNode = .error fault) : fault = .notAuthenticated := by
  unfold requireNode at hstranger
  split at hstranger
  · cases hstranger
  · cases hstranger
    rfl

/-- A key that can be handed out is as long as keys are drawn. -/
theorem Broadcaster.Keyed.lengths_of_material {ω : Type} {group : Broadcaster ω}
    (hkeyed : group.Keyed) {id : UInt32} {key iv : Bytes}
    (hmaterial : group.material? id = some (key, iv)) : key.length = 32 ∧ iv.length = 16 := by
  obtain ⟨found, hfound, hparts⟩ := Option.map_eq_some_iff.1 hmaterial
  cases hparts
  exact hkeyed.orderly.lengths found (List.mem_of_find?_eq_some hfound)

/-- A ping is answered, and everything else is refused. -/
theorem Liveness.treats {connection : Connection Outlet} (hready : connection.IsReady)
    (now : UInt64) (header : Header) (payload : Bytes) :
    let turn := handle connection now header payload
    Treats header connection (.of turn.1) turn.2
        (some (.onLiveness header.messageType payload))
      ∧ (Outcome.of turn.1).cause? = none := by
  intro turn
  by_cases hping : header.messageType = Message.messageType Ping
  · cases hread : Cbor.decode? (α := Ping) payload with
    | none =>
        obtain ⟨after, hreply, -, hreplied⟩ := hready.exists_answer header
          (Nack.length_encode_le ⟨header.messageType, .malformed⟩)
        have hturn : turn = (.error (.malformed .default), after) := by
          simp only [turn, handle, if_pos hping, hread, refuse, hreply]
        have hanswer : Reply.onLiveness header.messageType payload = .refusal .malformed := by
          simp [Reply.onLiveness, hping, hread]
        rw [hturn, hanswer]
        exact ⟨.refuses hreplied nofun, rfl⟩
    | some ping =>
        obtain ⟨after, hreply, -, hreplied⟩ := hready.exists_answer header
          (Pong.length_encode_le ⟨ping.timestampMs, now, connection.isAuthenticated⟩)
        have hturn : turn = (.ok (), after) := by
          simp only [turn, handle, if_pos hping, hread, hreply]
        have hanswer : Reply.onLiveness header.messageType payload
            = .typed (Message.messageType Pong) := by
          simp [Reply.onLiveness, hping, hread]
        rw [hturn, hanswer]
        exact ⟨.answers hreplied nofun, rfl⟩
  · have hturn : turn
        = (.error (.unknownMessageType .default header.messageType), connection) := by
      simp only [turn, handle, if_neg hping]
    have hanswer : Reply.onLiveness header.messageType payload = .refusal .unsupported :=
      if_neg hping
    rw [hturn, hanswer]
    exact ⟨.passes rfl ⟨_, _, rfl⟩, rfl⟩

-- ====================================================== authentication

/-- From enough randomness everything can be drawn. -/
theorem Entropy.exists_draw {entropy : Entropy} {count : Nat} (henough : count ≤ entropy.length) :
    ∃ bytes rest, entropy.draw? count = some (bytes, rest) ∧ bytes.length = count
      ∧ rest.length = entropy.length - count := by
  have hlength : (entropy.take count).length = count := by
    rw [List.length_take]
    omega
  exact ⟨entropy.take count, entropy.drop count,
    draw?_eq_some_iff.2 ⟨(List.take_append_drop count entropy).symm, hlength⟩, hlength,
    List.length_drop⟩

namespace Challenge

theorem exists_drawUnder (node : Option Node) (secret : Bytes) {entropy : Entropy}
    (hentropy : 48 ≤ entropy.length) :
    ∃ challenge rest, drawUnder node secret entropy = (.ok challenge, rest)
      ∧ challenge.nonce.length = 16 ∧ challenge.random.length = 32 := by
  obtain ⟨nonce, behind, hnonce, hnonceLength, hbehind⟩ :=
    Entropy.exists_draw (show nonceLength ≤ entropy.length by unfold nonceLength; omega)
  obtain ⟨random, rest, hrandom, hrandomLength, -⟩ :=
    Entropy.exists_draw (show randomLength ≤ behind.length by
      unfold randomLength
      rw [hbehind]
      unfold nonceLength
      omega)
  refine ⟨⟨node, secret, nonce, random⟩, rest, ?_, hnonceLength, hrandomLength⟩
  unfold drawUnder
  simp only [hnonce, hrandom]

/-- The randomness that a challenge takes at most: a secret for nobody, a nonce and
the random itself. -/
def demand : Nat := 80

theorem exists_draw (node : Option Node) {entropy : Entropy}
    (hentropy : demand ≤ entropy.length) :
    ∃ challenge rest, draw node entropy = (.ok challenge, rest)
      ∧ challenge.nonce.length = 16 ∧ challenge.random.length = 32 := by
  unfold demand at hentropy
  cases node with
  | some known => exact exists_drawUnder (some known) known.secret (by omega)
  | none =>
      obtain ⟨decoy, behind, hdecoy, -, hbehind⟩ :=
        Entropy.exists_draw (show 32 ≤ entropy.length by omega)
      obtain ⟨challenge, rest, hdraw, hlengths⟩ :=
        exists_drawUnder none decoy (show 48 ≤ behind.length by omega)
      refine ⟨challenge, rest, ?_, hlengths⟩
      unfold draw
      simp only [hdecoy, hdraw]

end Challenge

namespace AuthState

/-- A method is found if there is one in common. -/
theorem select_cases (offered : List String) :
    (∃ method, select standardMethods offered = some method ∧ method.utf8ByteSize ≤ 600
        ∧ (standardMethods.any fun method => offered.contains method) = true)
      ∨ select standardMethods offered = none
        ∧ (standardMethods.any fun method => offered.contains method) = false := by
  cases hselect : select standardMethods offered with
  | none =>
      right
      refine ⟨rfl, ?_⟩
      have hmiss := List.find?_eq_none.1 hselect
      exact List.any_eq_false.2 hmiss
  | some method =>
      left
      have hmem := List.mem_of_find?_eq_some hselect
      have hoffered := List.find?_some hselect
      refine ⟨method, rfl, ?_, List.any_eq_true.2 ⟨method, hmem, hoffered⟩⟩
      rw [List.mem_singleton.1 hmem]
      decide

/-- A request is answered with a challenge, which may be empty. -/
theorem treats_onRequest {connection : Connection Outlet} (hready : connection.IsReady)
    (directory : Directory) {entropy : Entropy}
    (hentropy : Challenge.demand ≤ entropy.length) {header : Header}
    (htype : header.messageType = Message.messageType AuthRequest) (payload : Bytes) :
    let turn := onRequest standardMethods directory connection entropy header payload
    let ruling := idle.ruling header.messageType payload
    Treats header connection (.of turn.result) turn.connection ruling.reply
      ∧ (Outcome.of turn.result).cause? = ruling.cause ∧ turn.state.phase = ruling.phase := by
  intro turn ruling
  have hempty : ∀ status, (Cbor.encode (noChallenge status)).length ≤ replyLimit := by
    intro status
    exact AuthChallenge.length_encode_le (by rintro _ ⟨⟩) (Nat.zero_le _) (Nat.zero_le _)
  cases hread : Cbor.decode? (α := AuthRequest) payload with
  | none =>
      obtain ⟨after, hreply, -, hreplied⟩ := hready.exists_answer header (hempty .malformed)
      have hturn : turn = ⟨.error (.malformed .authentication), .idle, after, entropy⟩ := by
        simp only [turn, onRequest, hread, hreply]
      have hruling : ruling
          = ⟨some (.typed (Message.messageType AuthChallenge)), none, .idle⟩ := by
        simp only [ruling, AuthState.ruling, if_pos htype, hread]
      rw [hturn, hruling]
      exact ⟨.answers hreplied (by rintro ⟨_, _, ⟨⟩⟩), rfl, rfl⟩
  | some request =>
      obtain ⟨method, hselect, hshort, hcommon⟩ | ⟨hselect, hcommon⟩ :=
        select_cases request.methods
      · obtain ⟨challenge, rest, hdraw, hnonce, hrandom⟩ :=
          Challenge.exists_draw (directory.find? request.nodeId) hentropy
        have hfits : (Cbor.encode (AuthChallenge.mk .success (some method) challenge.nonce
            challenge.random)).length ≤ replyLimit := by
          refine AuthChallenge.length_encode_le ?_ ?_ ?_
          · intro chosen hchosen
            cases hchosen
            exact hshort
          · exact Nat.le_trans (Nat.le_of_eq hnonce) (by decide)
          · exact Nat.le_trans (Nat.le_of_eq hrandom) (by decide)
        obtain ⟨after, hreply, -, hreplied⟩ := hready.exists_answer header hfits
        have hturn : turn = ⟨.ok (), .challenged challenge, after, rest⟩ := by
          simp only [turn, onRequest, hread, hselect, hdraw, hreply]
        have hruling : ruling
            = ⟨some (.typed (Message.messageType AuthChallenge)), none, .challenged⟩ := by
          simp only [ruling, AuthState.ruling, if_pos htype, hread, hcommon]
          rfl
        rw [hturn, hruling]
        exact ⟨.answers hreplied (by rintro ⟨_, _, ⟨⟩⟩), rfl, rfl⟩
      · obtain ⟨after, -, hanswer, hreplied⟩ :=
          hready.exists_answer header (hempty .noCommonMethod)
        have hturn : turn = ⟨.error .authenticationFailed, .failed, after, entropy⟩ := by
          simp only [turn, onRequest, hread, hselect, hanswer]
        have hruling : ruling = ⟨some (.typed (Message.messageType AuthChallenge)),
            some .authenticationFailed, .failed⟩ := by
          simp only [ruling, AuthState.ruling, if_pos htype, hread, hcommon]
          rfl
        rw [hturn, hruling]
        exact ⟨.answers hreplied (by rintro ⟨_, _, ⟨⟩⟩), rfl, rfl⟩

/-- A response is answered with a result. -/
theorem treats_onResponse {connection : Connection Outlet} (hready : connection.IsReady)
    (challenge : Challenge) {header : Header}
    (htype : header.messageType = Message.messageType AuthResponse) (payload : Bytes) :
    let turn := onResponse challenge connection header payload
    let ruling := (challenged challenge).ruling header.messageType payload
    Treats header connection (.of turn.1) turn.2.2 ruling.reply
      ∧ (Outcome.of turn.1).cause? = ruling.cause ∧ turn.2.1.phase = ruling.phase := by
  intro turn ruling
  by_cases hproved : ∃ node, challenge.node = some node
      ∧ challenge.accepts (proofIn payload) = true
  · obtain ⟨node, hnode, haccepts⟩ := hproved
    have hknown : (connection.authenticate node).IsReady := ⟨hready.isOpen, hready.up⟩
    obtain ⟨after, hreply, -, hreplied⟩ :=
      hknown.exists_answer header (AuthResult.length_encode_le ⟨.success⟩)
    have hturn : turn = (.ok (), .authenticated, after) := by
      simp only [turn, onResponse, hnode, haccepts, hreply]
    have hruling : ruling
        = ⟨some (.typed (Message.messageType AuthResult)), none, .authenticated⟩ := by
      simp only [ruling, AuthState.ruling, if_pos htype, hnode, haccepts]
      rfl
    rw [hturn, hruling]
    exact ⟨.answers ⟨hreplied.sent, hreplied.line, hreplied.fits⟩ nofun, rfl, rfl⟩
  · obtain ⟨after, -, hanswer, hreplied⟩ :=
      hready.exists_answer header (AuthResult.length_encode_le ⟨.authenticationFailed⟩)
    have hturn : turn = (.error .authenticationFailed, .failed, after) := by
      simp only [turn, onResponse]
      split
      next node hnode haccepts => exact absurd ⟨node, hnode, haccepts⟩ hproved
      · rw [hanswer]
    have hunproved : (challenge.node.isSome && challenge.accepts (proofIn payload)) = false := by
      cases hnode : challenge.node with
      | none => rfl
      | some node =>
          rw [Option.isSome_some, Bool.true_and]
          exact Bool.eq_false_iff.2 fun haccepts => hproved ⟨node, hnode, haccepts⟩
    have hruling : ruling = ⟨some (.typed (Message.messageType AuthResult)),
        some .authenticationFailed, .failed⟩ := by
      simp only [ruling, AuthState.ruling, if_pos htype, hunproved]
      rfl
    rw [hturn, hruling]
    exact ⟨.answers hreplied nofun, rfl, rfl⟩

/-- A message out of turn ends the exchange without a word. -/
theorem treats_outOfTurn (state : AuthState) (connection : Connection Outlet)
    (entropy : Entropy) (header : Header) :
    let turn := outOfTurn state connection entropy header
    Treats header connection (.of turn.result) turn.connection none
      ∧ (Outcome.of turn.result).cause? = some .protocolViolation
      ∧ turn.state.phase = .failed :=
  ⟨.ignores rfl nofun, rfl, rfl⟩

/-- An authentication message is treated as the state of the exchange says. -/
theorem treats {connection : Connection Outlet} (hready : connection.IsReady)
    (state : AuthState) (directory : Directory) {entropy : Entropy}
    (hentropy : Challenge.demand ≤ entropy.length) (header : Header) (payload : Bytes) :
    let turn := state.handle standardMethods directory connection entropy header payload
    let ruling := state.ruling header.messageType payload
    Treats header connection (.of turn.result) turn.connection ruling.reply
      ∧ (Outcome.of turn.result).cause? = ruling.cause ∧ turn.state.phase = ruling.phase := by
  intro turn ruling
  cases state with
  | idle =>
      by_cases htype : header.messageType = Message.messageType AuthRequest
      · have hturn : turn
            = onRequest standardMethods directory connection entropy header payload :=
          if_pos htype
        rw [hturn]
        exact treats_onRequest hready directory hentropy htype payload
      · have hturn : turn = outOfTurn .idle connection entropy header := if_neg htype
        have hruling : ruling = ⟨none, some .protocolViolation, .failed⟩ := if_neg htype
        rw [hturn, hruling]
        exact treats_outOfTurn .idle connection entropy header
  | challenged challenge =>
      by_cases htype : header.messageType = Message.messageType AuthResponse
      · have hturn : turn = ⟨(onResponse challenge connection header payload).1,
            (onResponse challenge connection header payload).2.1,
            (onResponse challenge connection header payload).2.2, entropy⟩ := if_pos htype
        rw [hturn]
        exact treats_onResponse hready challenge htype payload
      · have hturn : turn = outOfTurn (.challenged challenge) connection entropy header :=
          if_neg htype
        have hruling : ruling = ⟨none, some .protocolViolation, .failed⟩ := if_neg htype
        rw [hturn, hruling]
        exact treats_outOfTurn (.challenged challenge) connection entropy header
  | authenticated => exact treats_outOfTurn .authenticated connection entropy header
  | failed => exact treats_outOfTurn .failed connection entropy header

end AuthState

-- ================================================ pixels and group keys

/-- Both kinds of requests about pixels are acknowledged, whatever becomes of
them. -/
theorem Subscription.treats {connection : Connection Outlet} (hready : connection.IsReady)
    (id : ConnectionId) (directory : Directory) (held : Held)
    (framebuffer : Framebuffer Watcher) (header : Header) (payload : Bytes) :
    let turn := handle id directory held framebuffer connection header payload
    Treats header connection (.of turn.result) turn.connection
        (some (.onPixelData header.messageType))
      ∧ (Outcome.of turn.result).cause? = none := by
  intro turn
  have hack : ∀ ack : SubscribeAck, (Cbor.encode ack).length ≤ replyLimit :=
    fun ack => Nat.le_trans ack.length_encode_le (by decide)
  have hunack : ∀ ack : UnsubscribeAck, (Cbor.encode ack).length ≤ replyLimit :=
    fun ack => Nat.le_trans ack.length_encode_le (by decide)
  by_cases hsubscribe : header.messageType = Message.messageType Subscribe
  · have hanswer : Reply.onPixelData header.messageType
        = .typed (Message.messageType SubscribeAck) := if_pos hsubscribe
    have hturn : turn = subscribe id directory held framebuffer connection header payload :=
      if_pos hsubscribe
    rw [hanswer, hturn]
    unfold subscribe
    split
    · exact hready.treats_answer (hack _) nofun
    next request _ =>
      split
      next fault hstranger =>
        obtain rfl := Connection.fault_of_requireNode hstranger
        exact hready.treats_answer (hack _) nofun
      next node _ =>
        split
        next status _ => exact hready.treats_replyWith (hack _)
        next format first _ => exact hready.treats_replyWith (hack _)
  · by_cases hunsubscribe : header.messageType = Message.messageType Unsubscribe
    · have hanswer : Reply.onPixelData header.messageType
          = .typed (Message.messageType UnsubscribeAck) :=
        (if_neg hsubscribe).trans (if_pos hunsubscribe)
      have hturn : turn = unsubscribe held framebuffer connection header payload :=
        (if_neg hsubscribe).trans (if_pos hunsubscribe)
      rw [hanswer, hturn]
      unfold unsubscribe
      split
      · exact hready.treats_answer (hunack _) nofun
      next request _ =>
        split
        next fault hstranger =>
          obtain rfl := Connection.fault_of_requireNode hstranger
          exact hready.treats_answer (hunack _) nofun
        next node _ => exact hready.treats_replyWith (hunack _)
    · have hanswer : Reply.onPixelData header.messageType = .refusal .unsupported :=
        (if_neg hsubscribe).trans (if_neg hunsubscribe)
      have hturn : turn = ⟨.error (.unknownMessageType .pixelData header.messageType), held,
          framebuffer, connection⟩ := (if_neg hsubscribe).trans (if_neg hunsubscribe)
      rw [hanswer, hturn]
      exact ⟨.passes rfl ⟨_, _, rfl⟩, rfl⟩

/-- Both kinds of requests about the group are answered, if only with a
status. -/
theorem GroupKeys.treats {connection : Connection Outlet} (hready : connection.IsReady)
    {ω : Type} {group : Broadcaster ω} (hkeyed : group.Keyed) (header : Header)
    (payload : Bytes) :
    let turn := handle connection group header payload
    Treats header connection (.of turn.1) turn.2 (some (.onGroupControl header.messageType))
      ∧ (Outcome.of turn.1).cause? = none := by
  intro turn
  by_cases hasks : header.messageType = getInfoType
  · have hanswer : Reply.onGroupControl header.messageType
        = .typed (Message.messageType Info) := if_pos hasks
    have hturn : turn = info connection group header := if_pos hasks
    rw [hanswer, hturn]
    unfold info
    split
    next fault hstranger =>
      obtain rfl := Connection.fault_of_requireNode hstranger
      exact hready.treats_answer (Info.length_encode_le (by decide)) nofun
    next node _ =>
      exact hready.treats_replyWith
        (Info.length_encode_le group.config.group.utf8ByteSize_toString_le)
  · by_cases hwants : header.messageType = Message.messageType GetKey
    · have hanswer : Reply.onGroupControl header.messageType
          = .typed (Message.messageType KeyData) := (if_neg hasks).trans (if_pos hwants)
      have hturn : turn = key connection group header payload :=
        (if_neg hasks).trans (if_pos hwants)
      have hnone : ∀ status id, (Cbor.encode (noKey status id)).length ≤ replyLimit :=
        fun status id => KeyData.length_encode_le (Nat.zero_le _) (Nat.zero_le _)
      rw [hanswer, hturn]
      unfold key
      split
      · exact hready.treats_answer (hnone _ _) nofun
      next request _ =>
        split
        next fault hstranger =>
          obtain rfl := Connection.fault_of_requireNode hstranger
          exact hready.treats_answer (hnone _ _) nofun
        next node _ =>
          split
          next text iv hmaterial =>
            obtain ⟨hkeyLength, hivLength⟩ := hkeyed.lengths_of_material hmaterial
            refine hready.treats_replyWith (KeyData.length_encode_le ?_ ?_)
            · exact Nat.le_trans (Nat.le_of_eq hkeyLength) (by decide)
            · exact Nat.le_trans (Nat.le_of_eq hivLength) (by decide)
          · exact hready.treats_replyWith (hnone _ _)
    · have hanswer : Reply.onGroupControl header.messageType = .refusal .unsupported :=
        (if_neg hasks).trans (if_neg hwants)
      have hturn : turn
          = (.error (.unknownMessageType .multicastControl header.messageType), connection) :=
        (if_neg hasks).trans (if_neg hwants)
      rw [hanswer, hturn]
      exact ⟨.passes rfl ⟨_, _, rfl⟩, rfl⟩

end Luminaire
