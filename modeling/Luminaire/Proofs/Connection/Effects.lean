/-
What a message changes does not wait for its answer.

A message can change who is at the other end, what is held and the
observers of the framebuffer (`Effects`). Whether it does is settled by
what is there when it arrives, before anything is sent: it changes
nothing, or it changes something and then sends one acknowledgement, which
decides no more than how the turn is reported (`exists_course`). A change
therefore outlives an acknowledgement that cannot be sent, and that is the
only error it outlives (`effects_of_failed`).
-/
import Luminaire.Proofs.Connection.Authentication
import Luminaire.Proofs.Connection.Standing

namespace Luminaire

/-- Who is at the other end, what is held for it, and the framebuffer with
its observers. -/
structure Effects where
  node : Option Node
  /-- None where the handler is not the one for pixels. -/
  held : Option Subscription.Held
  framebuffer : Framebuffer Watcher

/-- What there is when a message arrives. -/
def Effects.before {κ : Type} (handler : Handler) (connection : Connection κ) (venue : Venue) :
    Effects :=
  ⟨connection.node, handler.held?, venue.framebuffer⟩

/-- What there is after a message. -/
def HandlerTurn.effects {κ : Type} (turn : HandlerTurn κ) : Effects :=
  .before turn.handler turn.connection turn.venue

-- =========================================================== sending

namespace Connection

variable {κ : Type} [Sink κ]

/-- The connection with a blank tape behind it. -/
def onTape (connection : Connection κ) : Connection Tape := { connection with sink := .blank }

/-- A datagram that fits its frame and is not sent was refused. -/
theorem put_of_reply_error {connection : Connection κ} {request : Header} {messageType : UInt8}
    {payload : Bytes} (hfits : payload.length ≤ maxPayloadLength) {fault : HandlerError}
    (hreply : (connection.reply request messageType payload).1 = .error fault) :
    ∃ refusal, fault = .session refusal
      ∧ (Sink.put connection.sink (framed (request.reply messageType) payload)).1
        = .error refusal := by
  unfold reply send at hreply
  rw [frame_of_le hfits] at hreply
  simp only at hreply
  split at hreply
  next refusal sink hput =>
    cases hreply
    exact ⟨refusal, rfl, by rw [hput]⟩
  · cases hreply

/-- Who is at the other end makes no difference to what is sent. -/
theorem reply_authenticate (connection : Connection κ) (node : Node) (request : Header)
    (messageType : UInt8) (payload : Bytes) :
    let named := (connection.authenticate node).reply request messageType payload
    let sent := connection.reply request messageType payload
    named.1 = sent.1 ∧ named.2.sink = sent.2.sink := by
  unfold reply send authenticate
  cases frame (request.reply messageType) payload with
  | error fault => exact ⟨rfl, rfl⟩
  | ok datagram =>
      simp only
      split
      · exact ⟨rfl, rfl⟩
      · exact ⟨rfl, rfl⟩

end Connection

-- =========================================================== courses

/-- A message that leaves everything as it is, whatever can be sent. -/
def Handler.Quiet (handler : Handler) (id : ConnectionId) (node : Option Node) (venue : Venue)
    (header : Header) (payload : Bytes) : Prop :=
  ∀ {κ : Type} [Sink κ] (connection : Connection κ), connection.node = node →
    (handler.handle id connection venue header payload).effects
      = .before handler connection venue

/-- A message that makes a change and is then acknowledged, whatever can be
sent. -/
def Handler.Acts (handler : Handler) (id : ConnectionId) (node : Option Node) (venue : Venue)
    (header : Header) (payload : Bytes) (effects : Effects) (messageType : UInt8)
    (acknowledgement : Bytes) : Prop :=
  ∀ {κ : Type} [Sink κ] (connection : Connection κ), connection.node = node →
    let turn := handler.handle id connection venue header payload
    let sent := connection.reply header messageType acknowledgement
    turn.effects = effects ∧ turn.outcome = .of sent.1 ∧ turn.connection.sink = sent.2.sink

/-- A message takes one of the two courses, and which one is settled before
anything is sent. -/
def Handler.HasCourse (handler : Handler) (id : ConnectionId) (node : Option Node)
    (venue : Venue) (header : Header) (payload : Bytes) : Prop :=
  handler.Quiet id node venue header payload
    ∨ ∃ effects messageType acknowledgement, acknowledgement.length ≤ maxPayloadLength
        ∧ handler.Acts id node venue header payload effects messageType acknowledgement

-- ==================================================== authentication

/-- An accepted proof is acknowledged after the node is known. -/
theorem AuthState.onResponse_of_accepts {κ : Type} [Sink κ] {challenge : Challenge} {node : Node}
    (connection : Connection κ) (header : Header) {payload : Bytes}
    (hnode : challenge.node = some node)
    (haccepts : challenge.accepts (proofIn payload) = true) :
    let turn := onResponse challenge connection header payload
    let sent := connection.reply header (Message.messageType AuthResult)
      (Cbor.encode (AuthResult.mk .success))
    turn.1 = sent.1 ∧ turn.2.2.sink = sent.2.sink := by
  obtain ⟨hresult, hsink⟩ := connection.reply_authenticate node header
    (Message.messageType AuthResult) (Cbor.encode (AuthResult.mk .success))
  unfold onResponse
  rw [hnode, haccepts]
  simp only
  rw [← hresult, ← hsink]
  split
  next after hreply =>
    rw [Connection.replyWith] at hreply
    rw [hreply]
    exact ⟨rfl, rfl⟩
  next fault after hreply =>
    rw [Connection.replyWith] at hreply
    rw [hreply]
    exact ⟨rfl, rfl⟩

/-- A message that carries an accepted proof names the node. -/
theorem AuthState.acts_of_accepts (methods : List String) {challenge : Challenge} {known : Node}
    (id : ConnectionId) (node : Option Node) (venue : Venue) {header : Header} {payload : Bytes}
    (htype : header.messageType = Message.messageType AuthResponse)
    (hknown : challenge.node = some known)
    (haccepts : challenge.accepts (proofIn payload) = true) :
    (Handler.authentication methods (.challenged challenge)).Acts id node venue header payload
      ⟨some known, none, venue.framebuffer⟩ (Message.messageType AuthResult)
      (Cbor.encode (AuthResult.mk .success)) := by
  intro κ _ connection _
  obtain ⟨hresult, hsink⟩ := onResponse_of_accepts connection header hknown haccepts
  have hnode := node_onResponse_of_accepts connection header hknown haccepts
  simp only [Handler.handle, handle, if_pos htype]
  exact ⟨congrArg (Effects.mk · none venue.framebuffer) hnode, congrArg Outcome.of hresult,
    hsink⟩

/-- Authentication changes something only where a proof is accepted. -/
theorem AuthState.hasCourse (methods : List String) (state : AuthState) (id : ConnectionId)
    (node : Option Node) (venue : Venue) (header : Header) (payload : Bytes) :
    (Handler.authentication methods state).HasCourse id node venue header payload := by
  cases state with
  | idle =>
      left
      intro κ _ connection _
      have hnode : (AuthState.idle.handle methods venue.directory connection venue.entropy
          header payload).connection.node = connection.node := by
        rw [handle]
        split
        · exact node_onRequest ..
        · rfl
      exact congrArg (Effects.mk · none venue.framebuffer) hnode
  | challenged challenge =>
      by_cases htype : header.messageType = Message.messageType AuthResponse
      · by_cases hright : ∃ known, challenge.node = some known
            ∧ challenge.accepts (proofIn payload) = true
        · right
          obtain ⟨known, hknown, haccepts⟩ := hright
          exact ⟨_, _, _, by decide, acts_of_accepts methods id node venue htype hknown haccepts⟩
        · left
          intro κ _ connection _
          have hnode := node_onResponse_of_not connection header hright
          simp only [Handler.handle, handle, if_pos htype]
          exact congrArg (Effects.mk · none venue.framebuffer) hnode
      · left
        intro κ _ connection _
        simp only [Handler.handle, handle, if_neg htype]
        rfl
  | authenticated => exact .inl fun _ _ => rfl
  | failed => exact .inl fun _ _ => rfl

-- ====================================================== subscriptions

/-- Subscriptions change only where a channel is granted or given up. -/
theorem Subscription.hasCourse (held : Held) (id : ConnectionId) (node : Option Node)
    (venue : Venue) (header : Header) (payload : Bytes) :
    (Handler.pixelData held).HasCourse id node venue header payload := by
  by_cases hsubscribe : header.messageType = Message.messageType Subscribe
  · cases hrequest : Cbor.decode? (α := Subscribe) payload with
    | none =>
        left
        intro κ _ connection _
        simp only [Handler.handle, handle, if_pos hsubscribe, subscribe, hrequest]
        exact congrArg (Effects.mk · (some held) venue.framebuffer) (connection.node_answer ..)
    | some request =>
        cases node with
        | none =>
            left
            intro κ _ connection hnode
            simp only [Handler.handle, handle, if_pos hsubscribe, subscribe, hrequest,
              Connection.requireNode, hnode]
            exact congrArg (Effects.mk · (some held) venue.framebuffer)
              (connection.node_answer ..)
        | some known =>
            cases hcheck : check (venue.directory.channelsOf known.id) held request with
            | error status =>
                left
                intro κ _ connection hnode
                simp only [Handler.handle, handle, if_pos hsubscribe, subscribe, hrequest,
                  Connection.requireNode, hnode, hcheck]
                exact congrArg (Effects.mk · (some held) venue.framebuffer)
                  (connection.node_replyWith ..)
            | ok parts =>
                right
                obtain ⟨format, first⟩ := parts
                let framebuffer :=
                  enlisted venue.framebuffer (granted id request format first)
                refine ⟨⟨some known,
                  some (⟨request.channel, venue.framebuffer.observers.next⟩ :: held),
                  framebuffer⟩, Message.messageType SubscribeAck,
                  Cbor.encode (SubscribeAck.mk .success request.channel), SubscribeAck.fits _, ?_⟩
                intro κ _ connection hnode
                simp only [Handler.handle, handle, if_pos hsubscribe, subscribe, hrequest,
                  Connection.requireNode, hnode, hcheck]
                refine ⟨?_, rfl, rfl⟩
                exact congrArg (Effects.mk · _ framebuffer)
                  ((connection.node_replyWith ..).trans hnode)
  · by_cases hunsubscribe : header.messageType = Message.messageType Unsubscribe
    · cases hrequest : Cbor.decode? (α := Unsubscribe) payload with
      | none =>
          left
          intro κ _ connection _
          simp only [Handler.handle, handle, if_neg hsubscribe, if_pos hunsubscribe,
            unsubscribe, hrequest]
          exact congrArg (Effects.mk · (some held) venue.framebuffer)
            (connection.node_answer ..)
      | some request =>
          cases node with
          | none =>
              left
              intro κ _ connection hnode
              simp only [Handler.handle, handle, if_neg hsubscribe, if_pos hunsubscribe,
                unsubscribe, hrequest, Connection.requireNode, hnode]
              exact congrArg (Effects.mk · (some held) venue.framebuffer)
                (connection.node_answer ..)
          | some known =>
              right
              let kept := honour request held venue.framebuffer
              refine ⟨⟨some known, some kept.1, kept.2⟩, Message.messageType UnsubscribeAck,
                Cbor.encode (UnsubscribeAck.mk .success
                  (held.length - kept.1.length).toUInt32), UnsubscribeAck.fits _, ?_⟩
              intro κ _ connection hnode
              simp only [Handler.handle, handle, if_neg hsubscribe, if_pos hunsubscribe,
                unsubscribe, hrequest, Connection.requireNode, hnode]
              refine ⟨?_, rfl, rfl⟩
              exact congrArg (Effects.mk · (some kept.1) kept.2)
                ((connection.node_replyWith ..).trans hnode)
    · left
      intro κ _ connection _
      simp only [Handler.handle, handle, if_neg hsubscribe, if_neg hunsubscribe]
      rfl

-- ============================================= liveness and group keys

theorem Liveness.node_handle {κ : Type} [Sink κ] (connection : Connection κ) (now : UInt64)
    (header : Header) (payload : Bytes) :
    (handle connection now header payload).2.node = connection.node := by
  unfold handle
  split
  · split
    · split
      next hrefuse => exact Connection.node_of_replyWith hrefuse
      next hrefuse => exact Connection.node_of_replyWith hrefuse
    · exact connection.node_replyWith ..
  · rfl

theorem GroupKeys.node_handle {κ ω : Type} [Sink κ] (connection : Connection κ)
    (group : Broadcaster ω) (header : Header) (payload : Bytes) :
    (handle connection group header payload).2.node = connection.node := by
  unfold handle
  split
  · unfold info
    split
    · exact connection.node_answer ..
    · exact connection.node_replyWith ..
  · split
    · unfold key
      split
      · exact connection.node_answer ..
      · split
        · exact connection.node_answer ..
        · split
          · exact connection.node_replyWith ..
          · exact connection.node_replyWith ..
    · rfl

-- =========================================================== handlers

namespace Handler

/-- Every message to any handler has its course. -/
theorem hasCourse (handler : Handler) (id : ConnectionId) (node : Option Node) (venue : Venue)
    (header : Header) (payload : Bytes) : handler.HasCourse id node venue header payload := by
  cases handler with
  | authentication methods state =>
      exact AuthState.hasCourse methods state id node venue header payload
  | pixelData held => exact Subscription.hasCourse held id node venue header payload
  | liveness =>
      left
      intro κ _ connection _
      exact congrArg (Effects.mk · none venue.framebuffer) (Liveness.node_handle ..)
  | groupControl token =>
      left
      intro κ _ connection _
      cases hgroup : venue.group with
      | none =>
          simp only [handle, hgroup]
          rfl
      | some group =>
          simp only [handle, hgroup]
          exact congrArg (Effects.mk · none venue.framebuffer) (GroupKeys.node_handle ..)
  | plugin supplied =>
      left
      intro κ _ connection _
      rw [handle]
      split
      · exact congrArg (Effects.mk · none venue.framebuffer) (connection.node_send ..)
      · rfl
      · rfl

variable {κ : Type} [Sink κ]

/-- What a message changes does not depend on what can be sent. -/
theorem effects_onTape (handler : Handler) (id : ConnectionId) (connection : Connection κ)
    (venue : Venue) (header : Header) (payload : Bytes) :
    (handler.handle id connection venue header payload).effects
      = (handler.handle id connection.onTape venue header payload).effects := by
  rcases handler.hasCourse id connection.node venue header payload with
    hquiet | ⟨effects, messageType, acknowledgement, -, hacts⟩
  · exact (hquiet connection rfl).trans (hquiet connection.onTape rfl).symm
  · exact (hacts connection rfl).1.trans (hacts connection.onTape rfl).1.symm

/-- A message that ends in an error has changed nothing, unless the error is
that the acknowledgement of a success was refused. The change is then the
one that is acknowledged behind a sink that refuses nothing. -/
theorem effects_of_failed (handler : Handler) (id : ConnectionId) (connection : Connection κ)
    (venue : Venue) (header : Header) (payload : Bytes) {fault : HandlerError}
    (hfailed : (handler.handle id connection venue header payload).outcome = .failed fault) :
    let turn := handler.handle id connection venue header payload
    let answered := handler.handle id connection.onTape venue header payload
    turn.effects = .before handler connection venue
      ∨ ∃ acknowledgement refusal,
          (answered.outcome = .done ∧ answered.connection.sink.sent = [acknowledgement])
            ∧ (Sink.put connection.sink acknowledgement).1 = .error refusal
            ∧ fault = .session refusal ∧ turn.effects = answered.effects := by
  intro turn answered
  rcases handler.hasCourse id connection.node venue header payload with
    hquiet | ⟨effects, messageType, acknowledgement, hfits, hacts⟩
  · exact .inl (hquiet connection rfl)
  · right
    obtain ⟨-, houtcome, -⟩ := hacts connection rfl
    obtain ⟨-, hanswered, hsink⟩ := hacts connection.onTape rfl
    have htape : connection.onTape.reply header messageType acknowledgement
        = (.ok (), connection.onTape.say (header.reply messageType) acknowledgement) :=
      Connection.send_of_fits hfits ..
    have hreply : (connection.reply header messageType acknowledgement).1 = .error fault := by
      rw [houtcome] at hfailed
      cases hsent : (connection.reply header messageType acknowledgement).1 with
      | ok =>
          rw [hsent] at hfailed
          cases hfailed
      | error other =>
          rw [hsent] at hfailed
          cases hfailed
          rfl
    obtain ⟨refusal, hfault, hput⟩ := Connection.put_of_reply_error hfits hreply
    rw [htape] at hanswered hsink
    refine ⟨framed (header.reply messageType) acknowledgement, refusal, ⟨hanswered, ?_⟩, hput,
      hfault, effects_onTape ..⟩
    exact congrArg Tape.sent hsink

-- ==================================================== refused answers

/-- Where the node of the example has a channel of fifty pixels. -/
def exampleVenue : Venue :=
  ⟨⟨[AuthSide.exampleNode], [⟨12, 0, 50, 0, .rgb⟩]⟩, .dark 64, none, 0, []⟩

/-- A connection that can send nothing. -/
def exampleMute (node : Option Node) : Connection Recorder :=
  ⟨AuthSide.examplePeer, ⟨[], true⟩, node, 0⟩

/-- The node asks for ten pixels, and its acknowledgement is refused. -/
def exampleRequest : Bytes := Cbor.encode (Subscribe.mk 0 0 10 0)

theorem outcome_in_example :
    ((Handler.pixelData []).handle 7 (exampleMute (some AuthSide.exampleNode)) exampleVenue
      (.new .pixelData 0x01 3) exampleRequest).outcome = .failed (.session .closed) := by
  decide +kernel

/-- The channel is held and observed all the same. -/
theorem effects_of_failed_in_example :
    let connection := exampleMute (some AuthSide.exampleNode)
    let turn := (Handler.pixelData []).handle 7 connection exampleVenue (.new .pixelData 0x01 3)
      exampleRequest
    let answered := (Handler.pixelData []).handle 7 connection.onTape exampleVenue
      (.new .pixelData 0x01 3) exampleRequest
    turn.outcome = .failed (.session .closed)
      ∧ (turn.effects = .before (.pixelData []) connection exampleVenue
        ∨ ∃ acknowledgement refusal,
            (answered.outcome = .done ∧ answered.connection.sink.sent = [acknowledgement])
              ∧ (Sink.put connection.sink acknowledgement).1 = .error refusal
              ∧ HandlerError.session .closed = .session refusal
              ∧ turn.effects = answered.effects) :=
  ⟨outcome_in_example, effects_of_failed (.pixelData []) 7 _ exampleVenue _ _ outcome_in_example⟩

/-- The node of an accepted proof is known although nothing can be sent. -/
theorem node_of_mute {challenge : Challenge} {node : Node} (hnode : challenge.node = some node) :
    let stranger := exampleMute none
    let response := AuthResponse.mk
      (Challenge.proof challenge.secret challenge.nonce challenge.random)
    let turn := (Handler.authentication standardMethods (.challenged challenge)).handle 7
      stranger exampleVenue (.new .authentication 0x03 4) (Cbor.encode response)
    turn.outcome = .failed (.session .closed)
      ∧ turn.effects ≠ .before (.authentication standardMethods (.challenged challenge)) stranger
        exampleVenue
      ∧ turn.connection.node = some node := by
  intro stranger response turn
  have hdecode : Cbor.decode? (Cbor.encode response) = some response :=
    AuthSide.decode?_encode_response (length_hmac ..)
  have haccepts : challenge.accepts (AuthState.proofIn (Cbor.encode response)) = true :=
    (AuthState.accepts_proofIn_iff _ _).2 ⟨response, hdecode, rfl⟩
  obtain ⟨heffects, houtcome, -⟩ := AuthState.acts_of_accepts standardMethods 7 none
    exampleVenue (show (Header.new .authentication 0x03 4).messageType = _ from rfl) hnode
    haccepts stranger rfl
  have hknown : turn.connection.node = some node := congrArg Effects.node heffects
  refine ⟨houtcome, ?_, hknown⟩
  intro hsame
  have hnone : turn.connection.node = none := congrArg Effects.node hsame
  rw [hknown] at hnone
  cases hnone

/-- A refused acknowledgement takes back neither a granted channel nor the
node of an accepted proof. -/
theorem effects_outlive_refused_answer :
    let known := exampleMute (some AuthSide.exampleNode)
    let granted := (Handler.pixelData []).handle 7 known exampleVenue (.new .pixelData 0x01 3)
      exampleRequest
    let stranger := exampleMute none
    let challenge : Challenge := ⟨some AuthSide.exampleNode, AuthSide.exampleNode.secret,
      List.replicate 16 1, List.replicate 32 2⟩
    let response := AuthResponse.mk
      (Challenge.proof challenge.secret challenge.nonce challenge.random)
    let proved := (Handler.authentication standardMethods (.challenged challenge)).handle 7
      stranger exampleVenue (.new .authentication 0x03 4) (Cbor.encode response)
    (granted.outcome = .failed (.session .closed)
        ∧ granted.effects ≠ .before (.pixelData []) known exampleVenue
        ∧ granted.handler.held? = some [⟨0, 1⟩]
        ∧ granted.venue.framebuffer.observers.size = 1)
      ∧ (proved.outcome = .failed (.session .closed)
        ∧ proved.effects ≠ .before (.authentication standardMethods (.challenged challenge))
          stranger exampleVenue
        ∧ proved.connection.node = some AuthSide.exampleNode) := by
  intro known granted stranger challenge response proved
  constructor
  · have hheld : granted.handler.held? = some [⟨0, 1⟩] := by decide +kernel
    refine ⟨outcome_in_example, ?_, hheld, by decide +kernel⟩
    intro hsame
    have hempty : granted.handler.held? = some [] := congrArg Effects.held hsame
    rw [hheld] at hempty
    cases hempty
  · exact node_of_mute rfl

end Handler

end Luminaire
