/-
What the handlers do for a connection whose node is not known.

Each handler reads little of the venue for a stranger: liveness the clock,
authentication the table of nodes and the randomness, and the other two
nothing at all, since subscriptions and group keys are for nodes only.
`Station.handleAt_of_stranger` puts the four together: what becomes of a
message, and what is sent in answer, is the same at every venue with the
same nodes, clock and randomness, and the venue keeps its directory, its
framebuffer and its group.

# Answers

`Answers` says what any of them does to the connection: one answer at
most, possibly after the node became known. No answer has the form of a
push (`Header.isPush`), and a connection whose node is not known gets no
notice of a new key.
-/
import Luminaire.Connection.Station
import Luminaire.Proofs.Connection.Sending
import Luminaire.Server.Standard

namespace Luminaire

/-- Whether a message has the form of something sent unasked: the pixels of
a region, or the notice of a new key. -/
def Header.isPush (header : Header) : Prop :=
  (header.endpoint = Endpoint.pixelData.code
      ∧ header.messageType = Message.messageType ChannelData)
    ∨ (header.endpoint = Endpoint.multicastControl.code
      ∧ header.messageType = Message.messageType RekeyNotice)

variable {κ : Type} [Sink κ]

namespace Connection

/-- The second connection is the first after one answer at most, possibly
under a node. -/
def Answers (before after : Connection κ) : Prop :=
  ∃ node, after = { before with node }
    ∨ ∃ (header : Header) (payload : Bytes), ¬ header.isPush
        ∧ after = ({ before with node }.send header payload).2

theorem answers_refl (connection : Connection κ) : Answers connection connection :=
  ⟨connection.node, .inl rfl⟩

/-- A message of any other type than the pushes' is an answer. -/
theorem answers_replyWith {α : Type} [Message α] (connection : Connection κ)
    (request : Header) (message : α) (htype : Message.messageType α ≠ 0x05) :
    Answers connection (connection.replyWith request message).2 := by
  refine ⟨connection.node,
    .inr ⟨request.reply (Message.messageType α), Cbor.encode message, ?_, rfl⟩⟩
  rintro (⟨-, hpush⟩ | ⟨-, hpush⟩)
  · exact htype hpush
  · exact htype hpush

/-- The same of a reply whose outcome is looked at. -/
theorem answers_of_replyWith {α : Type} [Message α] {connection after : Connection κ}
    {request : Header} {message : α} {result : Except HandlerError Unit}
    (hreply : connection.replyWith request message = (result, after))
    (htype : Message.messageType α ≠ 0x05) : Answers connection after := by
  have hanswer := connection.answers_replyWith request message htype
  rw [hreply] at hanswer
  exact hanswer

theorem answers_answer {α : Type} [Message α] (connection : Connection κ)
    (request : Header) (message : α) (outcome : Except HandlerError Unit)
    (htype : Message.messageType α ≠ 0x05) :
    Answers connection (connection.answer request message outcome).2 := by
  rw [answer_snd]
  exact connection.answers_replyWith request message htype

/-- Who it is that is answered makes no difference. -/
theorem answers_of_authenticate {connection after : Connection κ} {node : Node}
    (hanswers : Answers (connection.authenticate node) after) :
    Answers connection after := by
  obtain ⟨other, hafter⟩ := hanswers
  exact ⟨other, hafter⟩

end Connection

open Connection

-- ========================================================== liveness

theorem Liveness.answers_handle (connection : Connection κ) (now : UInt64)
    (header : Header) (payload : Bytes) :
    Answers connection (Liveness.handle connection now header payload).2 := by
  unfold Liveness.handle
  split
  · split
    · split
      next hrefuse => exact answers_of_replyWith hrefuse (by decide)
      next hrefuse => exact answers_of_replyWith hrefuse (by decide)
    · exact connection.answers_replyWith header _ (by decide)
  · exact connection.answers_refl

-- ==================================================== authentication

namespace AuthState

/-- Of the directory only the table of nodes is read. -/
theorem handle_congr (methods : List String) {directory other : Directory}
    (hnodes : directory.nodes = other.nodes) (state : AuthState)
    (connection : Connection κ) (entropy : Entropy) (header : Header) (payload : Bytes) :
    state.handle methods directory connection entropy header payload
      = state.handle methods other connection entropy header payload := by
  have hfind : ∀ uuid, directory.find? uuid = other.find? uuid := by
    intro uuid
    rw [Directory.find?, Directory.find?, hnodes]
  cases state with
  | idle => simp only [handle, onRequest, hfind]
  | challenged challenge => rfl
  | authenticated => rfl
  | failed => rfl

theorem answers_onRequest (methods : List String) (directory : Directory)
    (connection : Connection κ) (entropy : Entropy) (header : Header) (payload : Bytes) :
    Answers connection
      (onRequest methods directory connection entropy header payload).connection := by
  unfold onRequest
  split
  · split
    next hreply => exact answers_of_replyWith hreply (by decide)
    next hreply => exact answers_of_replyWith hreply (by decide)
  · split
    · exact connection.answers_answer header _ _ (by decide)
    · split
      · exact connection.answers_refl
      · split
        next hreply => exact answers_of_replyWith hreply (by decide)
        next hreply => exact answers_of_replyWith hreply (by decide)

theorem answers_onResponse (challenge : Challenge) (connection : Connection κ)
    (header : Header) (payload : Bytes) :
    Answers connection (onResponse challenge connection header payload).2.2 := by
  unfold onResponse
  split
  · -- the node is on the connection before the answer is sent
    split
    next hreply => exact answers_of_authenticate (answers_of_replyWith hreply (by decide))
    next hreply => exact answers_of_authenticate (answers_of_replyWith hreply (by decide))
  · exact connection.answers_answer header _ _ (by decide)

theorem answers_handle (methods : List String) (directory : Directory) (state : AuthState)
    (connection : Connection κ) (entropy : Entropy) (header : Header) (payload : Bytes) :
    Answers connection
      (state.handle methods directory connection entropy header payload).connection := by
  cases state with
  | idle =>
      rw [handle]
      split
      · exact answers_onRequest ..
      · exact connection.answers_refl
  | challenged challenge =>
      rw [handle]
      split
      · exact answers_onResponse ..
      · exact connection.answers_refl
  | authenticated => exact connection.answers_refl
  | failed => exact connection.answers_refl

end AuthState

-- ========================================= subscriptions, group keys

omit [Sink κ] in
theorem Connection.requireNode_of_stranger {connection : Connection κ}
    (hstranger : connection.node = none) :
    connection.requireNode = .error .notAuthenticated := by
  unfold requireNode
  rw [hstranger]

/-- The answer to a stranger's message about subscriptions. -/
def Subscription.rebuff (connection : Connection κ) (header : Header) (payload : Bytes) :
    Except HandlerError Unit × Connection κ :=
  if header.messageType = Message.messageType Subscribe then
    match Cbor.decode? (α := Subscribe) payload with
    | none =>
        connection.answer header (SubscribeAck.mk .malformed 0)
          (.error (.malformed .pixelData))
    | some request =>
        connection.answer header (SubscribeAck.mk .notAuthenticated request.channel)
          (.error .notAuthenticated)
  else if header.messageType = Message.messageType Unsubscribe then
    match Cbor.decode? (α := Unsubscribe) payload with
    | none =>
        connection.answer header (UnsubscribeAck.mk .malformed 0)
          (.error (.malformed .pixelData))
    | some _ =>
        connection.answer header (UnsubscribeAck.mk .notAuthenticated 0)
          (.error .notAuthenticated)
  else (.error (.unknownMessageType .pixelData header.messageType), connection)

/-- A stranger's message about subscriptions changes nothing, and nothing
that is on the books shows in the answer. -/
theorem Subscription.handle_of_stranger {connection : Connection κ}
    (hstranger : connection.node = none) (id : ConnectionId) (directory : Directory)
    (held : Held) (framebuffer : Framebuffer Watcher) (header : Header) (payload : Bytes) :
    handle id directory held framebuffer connection header payload
      = ⟨(rebuff connection header payload).1, held, framebuffer,
          (rebuff connection header payload).2⟩ := by
  have hrequire := requireNode_of_stranger hstranger
  unfold handle rebuff
  by_cases hsubscribe : header.messageType = Message.messageType Subscribe
  · rw [if_pos hsubscribe, if_pos hsubscribe]
    unfold subscribe
    cases Cbor.decode? (α := Subscribe) payload with
    | none => rfl
    | some request => simp only [hrequire]
  · rw [if_neg hsubscribe, if_neg hsubscribe]
    by_cases hunsubscribe : header.messageType = Message.messageType Unsubscribe
    · rw [if_pos hunsubscribe, if_pos hunsubscribe]
      unfold unsubscribe
      cases Cbor.decode? (α := Unsubscribe) payload with
      | none => rfl
      | some request => simp only [hrequire]
    · rw [if_neg hunsubscribe, if_neg hunsubscribe]

theorem Subscription.answers_rebuff (connection : Connection κ) (header : Header)
    (payload : Bytes) : Answers connection (rebuff connection header payload).2 := by
  unfold rebuff
  split
  · split
    · exact connection.answers_answer header _ _ (by decide)
    · exact connection.answers_answer header _ _ (by decide)
  · split
    · split
      · exact connection.answers_answer header _ _ (by decide)
      · exact connection.answers_answer header _ _ (by decide)
    · exact connection.answers_refl

/-- The answer to a stranger's message about group keys. -/
def GroupKeys.rebuff (connection : Connection κ) (header : Header) (payload : Bytes) :
    Except HandlerError Unit × Connection κ :=
  if header.messageType = getInfoType then
    connection.answer header (Info.mk .notAuthenticated "" 0 0) (.error .notAuthenticated)
  else if header.messageType = Message.messageType GetKey then
    match Cbor.decode? (α := GetKey) payload with
    | none =>
        connection.answer header (noKey .malformed 0)
          (.error (.malformed .multicastControl))
    | some request =>
        connection.answer header (noKey .notAuthenticated request.keyId)
          (.error .notAuthenticated)
  else (.error (.unknownMessageType .multicastControl header.messageType), connection)

/-- No group shows in the answer to a stranger's message about its keys. -/
theorem GroupKeys.handle_of_stranger {connection : Connection κ}
    (hstranger : connection.node = none) (group : Broadcaster KeyWatcher)
    (header : Header) (payload : Bytes) :
    handle connection group header payload = rebuff connection header payload := by
  have hrequire := requireNode_of_stranger hstranger
  unfold handle rebuff
  by_cases hinfo : header.messageType = getInfoType
  · rw [if_pos hinfo, if_pos hinfo, info, hrequire]
  · rw [if_neg hinfo, if_neg hinfo]
    by_cases hkey : header.messageType = Message.messageType GetKey
    · rw [if_pos hkey, if_pos hkey]
      unfold key
      cases Cbor.decode? (α := GetKey) payload with
      | none => rfl
      | some request => simp only [hrequire]
    · rw [if_neg hkey, if_neg hkey]

theorem GroupKeys.answers_rebuff (connection : Connection κ) (header : Header)
    (payload : Bytes) : Answers connection (rebuff connection header payload).2 := by
  unfold rebuff
  split
  · exact connection.answers_answer header _ _ (by decide)
  · split
    · split
      · exact connection.answers_answer header _ _ (by decide)
      · exact connection.answers_answer header _ _ (by decide)
    · exact connection.answers_refl

/-- A stranger gets no notice of a new key. -/
theorem GroupKeys.notice_of_stranger {connection : Connection κ}
    (hstranger : connection.node = none) (group : Broadcaster KeyWatcher) (id : UInt32) :
    notice connection group id = connection := by
  unfold notice Connection.isAuthenticated
  rw [hstranger]
  rfl

-- =========================================================== stations

/-- The standard handlers at a connection that holds no subscription. -/
def standardStanding (state : AuthState) (token : Token) : List Handler :=
  [.liveness, .authentication standardMethods state, .pixelData [], .groupControl token]

/-- What a message leads to at a station is what it leads to at the handler
it is handed to. -/
theorem Station.handleAt_of_turn {id : ConnectionId} {connection after : Connection κ}
    {handlers : List Handler} {venue venue' : Venue} {position : Nat} {header : Header}
    {payload : Bytes} {handler handler' : Handler} {outcome : Outcome}
    (hhandler : handlers[position]? = some handler)
    (hturn : handler.handle id connection venue header payload
      = ⟨outcome, handler', after, venue'⟩) :
    (Station.mk id connection handlers).handleAt venue position header payload
      = some (outcome, ⟨id, after, handlers.set position handler'⟩, venue') := by
  unfold handleAt
  simp only [hhandler, Option.map_some, hturn]

/-- What becomes of a stranger's message for one of the standard handlers.
Of the venue it depends on the nodes, the clock and the randomness, and all
it takes from the venue is randomness. -/
theorem Station.handleAt_of_stranger {connection : Connection κ}
    (hstranger : connection.node = none) (nodes : List Node) (now : UInt64)
    (entropy : Entropy) (state : AuthState) {position : Nat} (hposition : position < 4)
    (header : Header) (payload : Bytes) :
    ∃ outcome after state', Answers connection after
      ∧ ∀ id token (venue : Venue), venue.directory.nodes = nodes → venue.group.isSome →
        venue.now = now → venue.entropy = entropy →
          ∃ left, (Station.mk id connection (standardStanding state token)).handleAt venue
              position header payload
            = some (outcome, ⟨id, after, standardStanding state' token⟩,
                { venue with entropy := left }) := by
  match position, hposition with
  | 0, _ =>
      refine ⟨.of (Liveness.handle connection now header payload).1,
        (Liveness.handle connection now header payload).2, state,
        Liveness.answers_handle connection now header payload, ?_⟩
      rintro id token venue - - rfl -
      have hturn : Handler.liveness.handle id connection venue header payload
          = ⟨.of (Liveness.handle connection venue.now header payload).1, .liveness,
              (Liveness.handle connection venue.now header payload).2, venue⟩ := rfl
      exact ⟨venue.entropy, handleAt_of_turn rfl hturn⟩
  | 1, _ =>
      let turn :=
        state.handle standardMethods ⟨nodes, []⟩ connection entropy header payload
      refine ⟨.of turn.result, turn.connection, turn.state,
        AuthState.answers_handle standardMethods ⟨nodes, []⟩ state connection entropy
          header payload, ?_⟩
      rintro id token venue rfl - - rfl
      have hsame : state.handle standardMethods venue.directory connection venue.entropy
          header payload = turn :=
        AuthState.handle_congr standardMethods rfl state connection venue.entropy header
          payload
      have hturn : (Handler.authentication standardMethods state).handle id connection
          venue header payload
            = ⟨.of turn.result, .authentication standardMethods turn.state,
                turn.connection, { venue with entropy := turn.entropy }⟩ := by
        simp only [Handler.handle, hsame]
      exact ⟨turn.entropy, handleAt_of_turn rfl hturn⟩
  | 2, _ =>
      refine ⟨.of (Subscription.rebuff connection header payload).1,
        (Subscription.rebuff connection header payload).2, state,
        Subscription.answers_rebuff connection header payload, ?_⟩
      rintro id token venue - - - -
      have hturn : (Handler.pixelData []).handle id connection venue header payload
          = ⟨.of (Subscription.rebuff connection header payload).1, .pixelData [],
              (Subscription.rebuff connection header payload).2, venue⟩ := by
        simp only [Handler.handle, Subscription.handle_of_stranger hstranger]
      exact ⟨venue.entropy, handleAt_of_turn rfl hturn⟩
  | 3, _ =>
      refine ⟨.of (GroupKeys.rebuff connection header payload).1,
        (GroupKeys.rebuff connection header payload).2, state,
        GroupKeys.answers_rebuff connection header payload, ?_⟩
      rintro id token venue - hgroup - -
      obtain ⟨group, hgroup⟩ := Option.isSome_iff_exists.1 hgroup
      have hturn : (Handler.groupControl token).handle id connection venue header payload
          = ⟨.of (GroupKeys.rebuff connection header payload).1, .groupControl token,
              (GroupKeys.rebuff connection header payload).2, venue⟩ := by
        simp only [Handler.handle, hgroup, GroupKeys.handle_of_stranger hstranger]
      exact ⟨venue.entropy, handleAt_of_turn rfl hturn⟩

end Luminaire
