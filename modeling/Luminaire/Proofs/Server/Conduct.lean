/-
What a connection does with the messages it receives.

# A turn

A connection that can send, at a rig whose group has its keys, does with
every message what `Ruling.of` says: it sends the reply and nothing else,
and its loop ends if the ruling has a cause (`Rig.Attends.dispatch`).
Afterwards it still attends, so the next message finds it in the same
position.

# A run

Between the datagrams anything may go on elsewhere: other connections come
and are served, regions are finished, keys are rotated. None of it touches
the handlers or the line of the connection, nor the keys of the group, so
the connection attends throughout, until its loop has ended at the first
message whose ruling has a cause (`every_message_is_judged`).
-/
import Luminaire.Proofs.Server.Ruling
import Luminaire.Proofs.Server.Shutdown

namespace Luminaire

open Connection

-- ============================================================ stations

/-- The handlers every controller has, for one connection. -/
def standing (state : AuthState) (held : Subscription.Held) (token : Token) : List Handler :=
  [.liveness, .authentication standardMethods state, .pixelData held, .groupControl token]

/-- A connection that can send, with the standard handlers, at a rig whose group
has its keys. -/
structure Rig.Attends (rig : Rig Outlet) (id : ConnectionId) (connection : Connection Outlet)
    (state : AuthState) : Prop where
  station : ∃ held token, rig.station? id = some ⟨id, connection, standing state held token⟩
  ready : connection.IsReady
  keys : rig.venue.HasKeys

/-- Which endpoints the standard handlers serve. -/
theorem lookup_standardSlots (code : UInt8) :
    standardSlots.lookup code = match Endpoint.ofCode? code with
      | some .default => some 0
      | some .authentication => some 1
      | some .pixelData => some 2
      | some .multicastControl => some 3
      | _ => none := by
  have hcode : ∀ number : UInt8, code.toNat = number.toNat → code = number :=
    fun number hsame => UInt8.toNat.inj hsame
  by_cases hdefault : code.toNat = 0
  · rw [hcode 0 hdefault]
    decide
  · by_cases hauthentication : code.toNat = 1
    · rw [hcode 1 hauthentication]
      decide
    · by_cases hpixels : code.toNat = 2
      · rw [hcode 2 hpixels]
        decide
      · by_cases hgroup : code.toNat = 3
        · rw [hcode 3 hgroup]
          decide
        · by_cases hdata : code.toNat = 4
          · rw [hcode 4 hdata]
            decide
          · have hother : Endpoint.ofCode? code = none := by
              unfold Endpoint.ofCode?
              split
              · contradiction
              · contradiction
              · contradiction
              · contradiction
              · contradiction
              · rfl
            have hne : ∀ number : UInt8, code.toNat ≠ number.toNat → (code == number) = false :=
              fun number hne => beq_eq_false_iff_ne.2 fun hsame => hne (hsame ▸ rfl)
            rw [hother]
            simp only [standardSlots, List.lookup_cons, List.lookup_nil, Endpoint.code,
              hne 0 hdefault, hne 1 hauthentication, hne 2 hpixels, hne 3 hgroup]

namespace Rig

variable {rig : Rig Outlet} {id : ConnectionId} {connection : Connection Outlet}

/-- A message that is handed to a handler leads to what the handler makes of it. -/
theorem handleAt_of_station {handlers : List Handler}
    (hfound : rig.station? id = some ⟨id, connection, handlers⟩) {position : Nat}
    {handler : Handler} (hhandler : handlers[position]? = some handler) (header : Header)
    (payload : Bytes) :
    let turn := handler.handle id connection rig.venue header payload
    rig.handleAt id position header payload
      = some (turn.outcome, { rig.modify id fun _ =>
          ⟨id, turn.connection, handlers.set position turn.handler⟩ with
            venue := turn.venue }) := by
  intro turn
  unfold handleAt
  rw [hfound]
  simp only [Station.handleAt, hhandler, Option.map_some]
  rfl

variable {state : AuthState}

/-- A message for a handler that treats it as the ruling says, and then stands
where it stood. -/
theorem Attends.turn (hattends : rig.Attends id connection state) {held : Subscription.Held}
    {token : Token} (hfound : rig.station? id = some ⟨id, connection, standing state held token⟩)
    {position : Nat} (handler : Handler)
    (hhandler : (standing state held token)[position]? = some handler) (header : Header)
    (payload : Bytes) {ruling : Ruling} {state' : AuthState} {held' : Subscription.Held} :
    let turn := handler.handle id connection rig.venue header payload
    (standing state held token).set position turn.handler = standing state' held' token →
    Treats header connection turn.outcome turn.connection ruling.reply →
    turn.outcome.cause? = ruling.cause → state'.phase = ruling.phase →
    ∃ outcome rig' after state',
      rig.handleAt id position header payload = some (outcome, rig')
        ∧ rig'.Attends id after state' ∧ Treats header connection outcome after ruling.reply
        ∧ outcome.cause? = ruling.cause ∧ state'.phase = ruling.phase := by
  intro turn hset htreats hcause hphase
  have hhandled : rig.handleAt id position header payload
      = some (turn.outcome, { rig.modify id fun _ =>
          ⟨id, turn.connection, (standing state held token).set position turn.handler⟩ with
            venue := turn.venue }) := handleAt_of_station hfound hhandler header payload
  rw [hset] at hhandled
  have hstation : (rig.modify id fun _ =>
      ⟨id, turn.connection, standing state' held' token⟩).station? id
        = some ⟨id, turn.connection, standing state' held' token⟩ :=
    station?_modify hfound fun _ _ => rfl
  refine ⟨turn.outcome, _, turn.connection, state', hhandled, ?_, htreats, hcause, hphase⟩
  exact ⟨⟨held', token, hstation⟩, hattends.ready.of_line htreats.line,
    hattends.keys.of_same (handler.moves_handle ..).1⟩

/-- Every message for an endpoint that is served is treated as it has to be. -/
theorem Attends.handleAt (hattends : rig.Attends id connection state)
    (hentropy : Challenge.demand ≤ rig.venue.entropy.length) {header : Header}
    {position : Nat} (hslot : standardSlots.lookup header.endpoint = some position)
    (payload : Bytes) :
    let ruling := Ruling.judge state header.endpoint header.messageType payload
    ∃ outcome rig' after state',
      rig.handleAt id position header payload = some (outcome, rig')
        ∧ rig'.Attends id after state' ∧ Treats header connection outcome after ruling.reply
        ∧ outcome.cause? = ruling.cause ∧ state'.phase = ruling.phase := by
  intro ruling
  obtain ⟨held, token, hfound⟩ := hattends.station
  rw [lookup_standardSlots] at hslot
  split at hslot
  next hendpoint =>
    cases hslot
    have hruling : ruling
        = ⟨some (.onLiveness header.messageType payload), none, state.phase⟩ := by
      simp only [ruling, Ruling.judge, hendpoint]
    obtain ⟨htreats, hcause⟩ := Liveness.treats hattends.ready rig.venue.now header payload
    rw [hruling]
    exact hattends.turn hfound .liveness rfl header payload rfl htreats hcause rfl
  next hendpoint =>
    cases hslot
    have hruling : ruling = state.ruling header.messageType payload := by
      simp only [ruling, Ruling.judge, hendpoint]
    obtain ⟨htreats, hcause, hphase⟩ :=
      AuthState.treats hattends.ready state rig.venue.directory hentropy header payload
    rw [hruling]
    exact hattends.turn hfound (.authentication standardMethods state) rfl header payload rfl
      htreats hcause hphase
  next hendpoint =>
    cases hslot
    have hruling : ruling = ⟨some (.onPixelData header.messageType), none, state.phase⟩ := by
      simp only [ruling, Ruling.judge, hendpoint]
    obtain ⟨htreats, hcause⟩ := Subscription.treats hattends.ready id rig.venue.directory held
      rig.venue.framebuffer header payload
    rw [hruling]
    exact hattends.turn hfound (.pixelData held) rfl header payload rfl htreats hcause rfl
  next hendpoint =>
    cases hslot
    have hruling : ruling = ⟨some (.onGroupControl header.messageType), none, state.phase⟩ := by
      simp only [ruling, Ruling.judge, hendpoint]
    obtain ⟨group, hgroup, hkeyed⟩ := hattends.keys
    obtain ⟨htreats, hcause⟩ := GroupKeys.treats hattends.ready hkeyed header payload
    have hturn : (Handler.groupControl token).handle id connection rig.venue header payload
        = ⟨.of (GroupKeys.handle connection group header payload).1, .groupControl token,
          (GroupKeys.handle connection group header payload).2, rig.venue⟩ := by
      simp only [Handler.handle, hgroup]
    have hset : (standing state held token).set 3
        ((Handler.groupControl token).handle id connection rig.venue header payload).handler
          = standing state held token := by
      rw [hturn]
      rfl
    refine hattends.turn hfound (.groupControl token) rfl header payload hset ?_ ?_ ?_
    · rw [hturn, hruling]
      exact htreats
    · rw [hturn, hruling]
      exact hcause
    · rw [hruling]
  · cases hslot

end Rig

-- =============================================================== turns

/-- In between one datagram was sent, the reply to a message. -/
def Connection.Answered (reply : Reply) (message : Bytes) (before after : Connection Outlet) :
    Prop :=
  ∃ record sequence datagram, after.sink.sent = before.sink.sent ++ [record]
    ∧ before.sink.session.outgoing.openRecord record
      = .ok (.applicationData, sequence, datagram)
    ∧ reply.IsIn message datagram

theorem Connection.Replied.answered {header : Header} {message body payload : Bytes}
    {messageType : UInt8} {before after : Connection Outlet}
    (hreplied : Replied header messageType payload before after)
    (hread : unframe message = .ok (header, body)) {reply : Reply}
    (htype : messageType = reply.messageType)
    (hrefusal : ∀ status, reply = .refusal status →
      Cbor.decode? payload = some (Nack.mk header.messageType status)) :
    Answered reply message before after := by
  obtain ⟨hendpoint, hmessageType, htag⟩ := bytes_of_unframe hread
  obtain ⟨record, sequence, hsent, hopens⟩ := hreplied.sent
  have hfits : payload.length ≤ maxPayloadLength := Nat.le_trans hreplied.fits (by decide)
  have hversion : Framed.version (header.reply messageType) = protocolVersion := rfl
  have hreads := unframe_framed hversion hfits []
  rw [List.append_nil] at hreads
  refine ⟨record, sequence, _, hsent, hopens, _, payload, hreads, hendpoint, htag, htype, ?_⟩
  intro status hstatus
  exact ⟨header.messageType, hmessageType, hrefusal status hstatus⟩

/-- A refusal reads back. -/
theorem decode?_encode_nack (nack : Nack) : Cbor.decode? (Cbor.encode nack) = some nack :=
  Cbor.decode?_encode Nack.faithful (Nat.lt_of_le_of_lt nack.length_encode_le (by decide))

/-- What a worker and its rig do with a message is what the ruling says. -/
structure Obeys (ruling : Ruling) (message : Bytes) (worker : Worker) (rig : Rig Outlet)
    (before : Connection Outlet) (done : Worker × Rig Outlet) (after : Connection Outlet)
    (state : AuthState) : Prop where
  attends : done.2.Attends worker.id after state
  worker : done.1 = ruling.cause.elim worker worker.leave
  phase : state.phase = ruling.phase
  silent : ruling.reply = none → after.sink.sent = before.sink.sent
  answered : ∀ reply, ruling.reply = some reply → Answered reply message before after
  /-- What calls for nothing leaves everything as it was. -/
  untouched : ruling.reply = none → ruling.cause = none → done.2 = rig

/-- An authentication message that gets no reply ends the connection. -/
theorem AuthState.cause_of_silent {state : AuthState} {messageType : UInt8} {payload : Bytes}
    (hsilent : (state.ruling messageType payload).reply = none) :
    (state.ruling messageType payload).cause ≠ none := by
  revert hsilent
  unfold ruling
  cases state with
  | idle =>
      simp only
      split
      · split
        · exact nofun
        · split
          · exact nofun
          · exact nofun
      · exact fun _ => nofun
  | challenged challenge =>
      simp only
      split
      · split
        · exact nofun
        · exact nofun
      · exact fun _ => nofun
  | authenticated => exact fun _ => nofun
  | failed => exact fun _ => nofun

namespace Ruling

variable {state : AuthState} {endpoint messageType : UInt8} {payload : Bytes}

/-- A handler that is silent ends the connection. -/
theorem cause_of_silent {position : Nat} (hslot : standardSlots.lookup endpoint = some position)
    (hsilent : (judge state endpoint messageType payload).reply = none) :
    (judge state endpoint messageType payload).cause ≠ none := by
  rw [lookup_standardSlots] at hslot
  unfold judge at hsilent ⊢
  cases hendpoint : Endpoint.ofCode? endpoint with
  | none =>
      rw [hendpoint] at hslot
      cases hslot
  | some served =>
      rw [hendpoint] at hslot hsilent
      cases served with
      | authentication => exact AuthState.cause_of_silent hsilent
      | default => cases hsilent
      | pixelData => cases hsilent
      | multicastControl => cases hsilent
      | _ => cases hslot

/-- Nothing comes of a message for an endpoint that nobody serves. -/
theorem judge_of_unserved (hslot : standardSlots.lookup endpoint = none) :
    judge state endpoint messageType payload = nothing state.phase := by
  rw [lookup_standardSlots] at hslot
  unfold judge
  cases hendpoint : Endpoint.ofCode? endpoint with
  | none => rfl
  | some served =>
      rw [hendpoint] at hslot
      cases served with
      | default => cases hslot
      | authentication => cases hslot
      | pixelData => cases hslot
      | multicastControl => cases hslot
      | _ => rfl

end Ruling

namespace Worker

/-- An outcome that names no unknown type ends the loop, or leaves it. -/
theorem heed_of_known (worker : Worker) (header : Header) {outcome : Outcome}
    (hknown : ¬ outcome.IsUnknown) (rig : Rig Outlet) :
    worker.heed header outcome rig = (outcome.cause?.elim worker worker.leave, rig) := by
  cases outcome with
  | done => rfl
  | crashed => rfl
  | failed error =>
      have hheed : worker.heed header (.failed error) rig
          = if error.isFatal then (worker.leave (.ofError error), rig) else (worker, rig) := by
        cases error with
        | unknownMessageType endpoint messageType =>
            exact absurd ⟨endpoint, messageType, rfl⟩ hknown
        | _ => rfl
      rw [hheed, Outcome.cause?]
      by_cases hfatal : error.isFatal = true
      · rw [if_pos hfatal, if_pos hfatal]
        rfl
      · rw [if_neg hfatal, if_neg hfatal]
        rfl

end Worker

/-- A message of unknown type is refused at the station. -/
theorem Rig.Attends.refuse {rig : Rig Outlet} {id : ConnectionId}
    {connection : Connection Outlet} {state : AuthState}
    (hattends : rig.Attends id connection state) {message payload : Bytes} {header : Header}
    (hread : unframe message = .ok (header, payload)) :
    ∃ refused, (Worker.refuse rig id header).Attends id refused state
      ∧ Answered (.refusal .unsupported) message connection refused := by
  obtain ⟨held, token, hfound⟩ := hattends.station
  obtain ⟨refused, hreply, -, hreplied⟩ := hattends.ready.exists_answer header
    (Nack.length_encode_le ⟨header.messageType, .unsupported⟩)
  have hrefused : (connection.refuse header .unsupported).2 = refused :=
    congrArg Prod.snd hreply
  have hstation : (Worker.refuse rig id header).station? id
      = some ⟨id, (connection.refuse header .unsupported).2, standing state held token⟩ :=
    station?_modify hfound fun _ hid => hid
  rw [hrefused] at hstation
  refine ⟨refused, ⟨⟨held, token, hstation⟩, hattends.ready.of_line hreplied.line,
    hattends.keys⟩, ?_⟩
  refine hreplied.answered hread rfl ?_
  rintro status ⟨⟩
  exact decode?_encode_nack _

/-- Every message is dealt with as its ruling says. -/
theorem Rig.Attends.dispatch {worker : Worker} {rig : Rig Outlet}
    {connection : Connection Outlet} {state : AuthState}
    (hattends : rig.Attends worker.id connection state) (hslots : worker.slots = standardSlots)
    (hentropy : Challenge.demand ≤ rig.venue.entropy.length) (message : Bytes) :
    ∃ after state', Obeys (Ruling.of state message) message worker rig connection
      (worker.dispatch rig message) after state' := by
  rw [Ruling.of_eq]
  cases hread : unframe (H := Header) message with
  | error fault =>
      refine ⟨connection, state, ?_⟩
      by_cases hfatal : fault.isFatal = true
      · have hdone : worker.dispatch rig message = (worker.leave .protocolViolation, rig) := by
          simp only [Worker.dispatch, hread, hfatal, if_true]
        rw [hdone]
        simp only [hfatal, if_true]
        exact ⟨hattends, rfl, rfl, fun _ => rfl, by rintro _ ⟨⟩, by rintro _ ⟨⟩⟩
      · have hdone : worker.dispatch rig message = (worker, rig) := by
          simp only [Worker.dispatch, hread, hfatal, Bool.false_eq_true, if_false]
        rw [hdone]
        simp only [hfatal, Bool.false_eq_true, if_false]
        exact ⟨hattends, rfl, rfl, fun _ => rfl, by rintro _ ⟨⟩, fun _ _ => rfl⟩
  | ok opened =>
      obtain ⟨header, payload⟩ := opened
      simp only
      cases hslot : standardSlots.lookup header.endpoint with
      | none =>
          have hdone : worker.dispatch rig message = (worker, rig) := by
            simp only [Worker.dispatch, hread, hslots, hslot]
          rw [hdone, Ruling.judge_of_unserved hslot]
          exact ⟨connection, state, hattends, rfl, rfl, fun _ => rfl, by rintro _ ⟨⟩, fun _ _ => rfl⟩
      | some position =>
          have hmute : (Ruling.judge state header.endpoint header.messageType payload).reply
              = none → (Ruling.judge state header.endpoint header.messageType payload).cause
                ≠ none := Ruling.cause_of_silent hslot
          obtain ⟨outcome, rig', after, state', hhandled, hattends', htreats, hcause, hphase⟩ :=
            hattends.handleAt hentropy hslot payload
          have hdone : worker.dispatch rig message = worker.heed header outcome rig' :=
            Worker.dispatch_of_handleAt hread (by rw [hslots]; exact hslot) hhandled
          rw [hdone]
          generalize Ruling.judge state header.endpoint header.messageType payload = ruling
            at hmute htreats hcause hphase
          obtain ⟨reply, cause, phase⟩ := ruling
          simp only at hmute htreats hcause hphase
          cases htreats with
          | answers hreplied hknown =>
              rw [worker.heed_of_known header hknown, hcause]
              refine ⟨after, state', hattends', rfl, hphase, by rintro ⟨⟩, ?_, by rintro ⟨⟩⟩
              intro reply hreply
              cases hreply
              exact hreplied.answered hread rfl (by rintro _ ⟨⟩)
          | refuses hreplied hknown =>
              rw [worker.heed_of_known header hknown, hcause]
              refine ⟨after, state', hattends', rfl, hphase, by rintro ⟨⟩, ?_, by rintro ⟨⟩⟩
              intro reply hreply
              cases hreply
              refine hreplied.answered hread rfl ?_
              rintro status ⟨⟩
              exact decode?_encode_nack _
          | ignores hsame hknown =>
              rw [worker.heed_of_known header hknown, hcause]
              refine ⟨after, state', hattends', rfl, hphase, ?_, by rintro _ ⟨⟩, ?_⟩
              · intro _
                rw [hsame]
              · intro _ hnone
                exact absurd hnone (hmute rfl)
          | passes hsame hunknown =>
              -- the worker refuses what its handler does not know
              obtain ⟨endpoint, messageType, rfl⟩ := hunknown
              subst hsame
              obtain ⟨refused, hrefused, hanswered⟩ := hattends'.refuse hread
              refine ⟨refused, state', hrefused, ?_, hphase, by rintro ⟨⟩, ?_, by rintro ⟨⟩⟩
              · rw [← hcause]
                rfl
              · intro reply hreply
                cases hreply
                exact hanswered

-- ============================================================ datagrams

/-- Why the loop ends with an error of its session. -/
def ShutdownCause.ofFault : SessionError → ShutdownCause
  | .peerClosed => .peerClosed
  | .closed => .requested
  | _ => .transport

/-- What comes of something that the session has received, or not. -/
def Ruling.ofReceived (state : AuthState) : Except SessionError (Option Bytes) → Ruling
  | .ok none => nothing state.phase
  | .ok (some message) => of state message
  | .error fault => ⟨none, some (.ofFault fault), state.phase⟩

namespace Host

/-- How far the connection's authentication has come. -/
def authState (host : Host) : AuthState :=
  ((host.rig.station? host.worker.id).bind Station.authState?).getD .idle

/-- The message in a datagram, as far as the session finds one. -/
def received (host : Host) (arrival : Option Bytes) : Except SessionError (Option Bytes) :=
  (host.connection?.map fun connection =>
    (connection.sink.session.receive arrival).1).getD (.ok none)

/-- What has to come of a datagram. -/
def ruling (host : Host) (arrival : Option Bytes) : Ruling :=
  .ofReceived host.authState (host.received arrival)

/-- The session has looked at a datagram, and nothing else has happened. -/
def taken (host : Host) (arrival : Option Bytes) : Host :=
  { host with
    rig := host.rig.modify host.worker.id fun station => { station with
      connection := host.connection?.elim station.connection fun connection =>
        Worker.resumed (connection.sink.session.receive arrival).2 station.connection } }

/-- The host at a time, with randomness to draw from. -/
def tuned (host : Host) (now : UInt64) (entropy : Entropy) : Host :=
  { host with rig := host.rig.tuned now entropy }

/-- What came of a datagram is what had to. -/
structure Judged (before : Host) (arrival : Option Bytes) (after : Host) : Prop where
  worker : after.worker = (before.ruling arrival).cause.elim before.worker before.worker.leave
  phase : after.authState.phase = (before.ruling arrival).phase
  /-- No reply is due, and none is sent. -/
  silent : (before.ruling arrival).reply = none →
    after.connection?.map (·.sink.sent) = before.connection?.map (·.sink.sent)
  /-- One reply is due, and that one is sent. -/
  answered : ∀ reply, (before.ruling arrival).reply = some reply →
    ∃ message connection later, before.received arrival = .ok (some message)
      ∧ before.connection? = some connection ∧ after.connection? = some later
      ∧ Answered reply message connection later
  untouched : (before.ruling arrival).reply = none → (before.ruling arrival).cause = none →
    after = before.taken arrival

end Host

-- ============================================================= attending

/-- A host whose connection gets what is due to it, or whose loop has ended. -/
structure Host.Attends (host : Host) (id : ConnectionId) : Prop where
  id : host.worker.id = id
  slots : host.worker.slots = standardSlots
  stop : host.worker.stop = false
  rig : ∃ connection state, host.rig.Attends host.worker.id connection state

namespace Rig.Attends

variable {rig after : Rig Outlet} {id : ConnectionId} {connection : Connection Outlet}
  {state : AuthState}

theorem authState (hattends : rig.Attends id connection state) :
    (rig.station? id).bind Station.authState? = some state := by
  obtain ⟨held, token, hfound⟩ := hattends.station
  rw [hfound]
  rfl

theorem connection? (hattends : rig.Attends id connection state) :
    (rig.station? id).map Station.connection = some connection := by
  obtain ⟨held, token, hfound⟩ := hattends.station
  rw [hfound]
  rfl

/-- What spares the connection leaves it able to send. -/
theorem of_spares (hattends : rig.Attends id connection state) (hspares : Spares id rig after)
    (hkeys : after.venue.HasKeys) : ∃ later, after.Attends id later state := by
  obtain ⟨held, token, hfound⟩ := hattends.station
  have hhandlers : after.handlers? id = some (standing state held token) := by
    rw [hspares.handlers, handlers?, hfound]
    rfl
  have hline : after.line? id = some connection.line := by
    rw [hspares.line, line?, hfound]
    rfl
  obtain ⟨⟨number, later, handlers⟩, hstation, hsame⟩ := Option.map_eq_some_iff.1 hhandlers
  obtain ⟨-, rfl⟩ := mem_of_station? hstation
  obtain rfl : handlers = standing state held token := hsame
  rw [line?, hstation] at hline
  exact ⟨later, ⟨held, token, hstation⟩, hattends.ready.of_line (Option.some.inj hline), hkeys⟩

/-- The session has looked at a datagram. -/
theorem resumed (hattends : rig.Attends id connection state) (arrival : Option Bytes) :
    let session := (connection.sink.session.receive arrival).2
    (rig.modify id fun station =>
        { station with connection := Worker.resumed session station.connection }).Attends id
      (Worker.resumed session connection) state := by
  intro session
  obtain ⟨held, token, hfound⟩ := hattends.station
  refine ⟨⟨held, token, ?_⟩, hattends.ready.of_line ?_, hattends.keys⟩
  · exact station?_modify hfound fun _ hid => hid
  · exact connection.sink.session.line_receive arrival

end Rig.Attends

namespace Host

/-- The loop that reads does with a datagram what it does with the message in it. -/
theorem read_eq_takeIn {host : Host} {station : Station Outlet}
    (hreading : host.worker.phase = .reading) (hstop : host.worker.stop = false)
    (hfound : host.rig.station? host.worker.id = some station) (arrival : Option Bytes) :
    host.worker.read host.rig arrival
      = host.worker.takeIn (host.received arrival) (host.taken arrival).rig := by
  have hconnection : host.connection? = some station.connection := by
    unfold connection?
    rw [hfound]
    rfl
  unfold received taken
  rw [hconnection]
  exact Worker.read_of_station hreading hstop hfound arrival

section

variable {host : Host} {connection : Connection Outlet} {state : AuthState}

theorem authState_of_attends (hattends : host.rig.Attends host.worker.id connection state) :
    host.authState = state := by
  unfold authState
  rw [hattends.authState]
  rfl

theorem received_of_attends (hattends : host.rig.Attends host.worker.id connection state)
    (arrival : Option Bytes) :
    host.received arrival = (connection.sink.session.receive arrival).1 := by
  have hconnection : host.connection? = some connection := hattends.connection?
  unfold received
  rw [hconnection]
  rfl

/-- The connection attends after its session has looked at a datagram, and nothing
was sent. -/
theorem attends_taken (hattends : host.rig.Attends host.worker.id connection state)
    (arrival : Option Bytes) :
    (host.taken arrival).rig.Attends host.worker.id
      (Worker.resumed (connection.sink.session.receive arrival).2 connection) state := by
  have hconnection : host.connection? = some connection := hattends.connection?
  have hresumed := hattends.resumed arrival
  unfold taken
  rw [hconnection]
  exact hresumed

/-- If a datagram has no message in it, at most the loop ends. -/
theorem judged_taken (hattends : host.rig.Attends host.worker.id connection state)
    {arrival : Option Bytes} {cause : Option ShutdownCause}
    (hruling : host.ruling arrival = ⟨none, cause, state.phase⟩) :
    host.Judged arrival ⟨cause.elim host.worker host.worker.leave, (host.taken arrival).rig⟩ := by
  have htaken := attends_taken hattends arrival
  have hid : (cause.elim host.worker host.worker.leave).id = host.worker.id := by
    cases cause with
    | none => rfl
    | some cause => rfl
  have hbefore : host.connection? = some connection := hattends.connection?
  refine ⟨?_, ?_, ?_, ?_, ?_⟩
  · rw [hruling]
  · rw [hruling, authState, hid, htaken.authState]
    rfl
  · intro _
    rw [Host.connection?, hid, htaken.connection?, hbefore]
    rfl
  · intro reply hreply
    rw [hruling] at hreply
    cases hreply
  · intro _ hcause
    rw [hruling] at hcause
    obtain rfl : cause = none := hcause
    rfl

/-- What came of a message is what came of the datagram that it was in. -/
theorem judged_of_obeys (hattends : host.rig.Attends host.worker.id connection state)
    {arrival : Option Bytes} {message : Bytes}
    (hreceived : host.received arrival = .ok (some message))
    {done : Worker × Rig Outlet} {after : Connection Outlet} {state' : AuthState}
    (hobeys : Obeys (.of state message) message host.worker (host.taken arrival).rig
      (Worker.resumed (connection.sink.session.receive arrival).2 connection) done after
      state') :
    host.Judged arrival ⟨done.1, done.2⟩ := by
  have hruling : host.ruling arrival = .of state message := by
    unfold ruling
    rw [hreceived, authState_of_attends hattends]
    rfl
  have hid : done.1.id = host.worker.id := by
    rw [hobeys.worker]
    cases (Ruling.of state message).cause with
    | none => rfl
    | some cause => rfl
  have hbefore : host.connection? = some connection := hattends.connection?
  have hafter : Host.connection? ⟨done.1, done.2⟩ = some after := by
    rw [Host.connection?, hid]
    exact hobeys.attends.connection?
  -- looking at a datagram changes neither what was sent nor how it reads
  have hline := connection.sink.session.line_receive arrival
  refine ⟨?_, ?_, ?_, ?_, ?_⟩
  · rw [hruling]
    exact hobeys.worker
  · rw [hruling, authState, hid, hobeys.attends.authState]
    exact hobeys.phase
  · intro hsilent
    rw [hruling] at hsilent
    rw [hafter, hbefore]
    exact congrArg some (hobeys.silent hsilent)
  · intro reply hreply
    rw [hruling] at hreply
    obtain ⟨record, sequence, datagram, hsent, hopens, hin⟩ := hobeys.answered reply hreply
    refine ⟨message, connection, after, hreceived, hbefore, hafter, record, sequence, datagram,
      hsent, ?_, hin⟩
    have hkeys : (connection.sink.session.receive arrival).2.outgoing
        = connection.sink.session.outgoing := congrArg Session.Line.outgoing hline
    rw [← hkeys]
    exact hopens
  · intro hsilent hcause
    rw [hruling] at hsilent hcause
    have hworker := hobeys.worker
    rw [hcause] at hworker
    rw [hworker, hobeys.untouched hsilent hcause]
    rfl

/-- The loop does with a datagram what the ruling on it says. -/
theorem judged_read (hreading : host.worker.phase = .reading)
    (hslots : host.worker.slots = standardSlots) (hstop : host.worker.stop = false)
    (hattends : host.rig.Attends host.worker.id connection state)
    (hentropy : Challenge.demand ≤ host.rig.venue.entropy.length) (arrival : Option Bytes) :
    let done := host.worker.read host.rig arrival
    (∃ after state', done.2.Attends host.worker.id after state')
      ∧ host.Judged arrival ⟨done.1, done.2⟩ := by
  intro done
  have htaken := attends_taken hattends arrival
  have hreceived := received_of_attends hattends arrival
  have hdone : done = host.worker.takeIn (host.received arrival) (host.taken arrival).rig := by
    obtain ⟨held, token, hfound⟩ := hattends.station
    exact read_eq_takeIn hreading hstop hfound arrival
  have hruling : host.ruling arrival = .ofReceived state (host.received arrival) := by
    unfold ruling
    rw [authState_of_attends hattends]
  rw [hdone]
  cases hgot : host.received arrival with
  | error fault =>
      rw [hgot] at hruling
      have hleft : host.worker.takeIn (.error fault) (host.taken arrival).rig
          = (host.worker.leave (.ofFault fault), (host.taken arrival).rig) := by
        cases fault with
        | peerClosed => rfl
        | closed => rfl
        | _ => rfl
      rw [hleft]
      exact ⟨⟨_, state, htaken⟩, judged_taken hattends hruling⟩
  | ok found =>
      cases found with
      | none =>
          rw [hgot] at hruling
          exact ⟨⟨_, state, htaken⟩, judged_taken hattends hruling⟩
      | some message =>
          obtain ⟨after, state', hobeys⟩ := htaken.dispatch hslots hentropy message
          exact ⟨⟨after, state', hobeys.attends⟩, judged_of_obeys hattends hgot hobeys⟩

end

end Host

-- ================================================================ runs

/-- Of its own steps a connection only reads, with enough randomness to draw a
challenge from. Elsewhere anything may happen. -/
def Happening.Listens {id : ConnectionId} : Happening id → Prop
  | .here (.step _ entropy (.read _)) => Challenge.demand ≤ entropy.length
  | .here (.step ..) => False
  | _ => True

namespace Moment

variable {id : ConnectionId}

/-- A datagram is judged as long as the loop goes on. Nothing else reaches the
worker or its handlers. -/
def IsJudged (moment : Moment id) : Prop :=
  match moment.happening with
  | .here (.step now entropy (.read arrival)) =>
      if moment.before.worker.phase = .reading then
        (moment.before.tuned now entropy).Judged arrival moment.after
      else moment.after = moment.before.tuned now entropy
  | _ => moment.after.worker = moment.before.worker
      ∧ moment.after.rig.handlers? id = moment.before.rig.handlers? id

/-- The cause for which a datagram that is read ends the loop. -/
def ending? (moment : Moment id) : Option ShutdownCause :=
  match moment.happening with
  | .here (.step now entropy (.read arrival)) =>
      ((moment.before.tuned now entropy).ruling arrival).cause
  | _ => none

end Moment

namespace Host.Attends

variable {host : Host} {id : ConnectionId}

/-- What goes on elsewhere leaves the connection attending. -/
theorem of_spares {rig : Rig Outlet} (hattends : host.Attends id)
    (hspares : Rig.Spares id host.rig rig)
    (hkeys : host.rig.venue.HasKeys → rig.venue.HasKeys) :
    Host.Attends { host with rig } id := by
  obtain ⟨hid, hslots, hstop, connection, state, hrig⟩ := hattends
  subst hid
  obtain ⟨later, hlater⟩ := hrig.of_spares hspares (hkeys hrig.keys)
  exact ⟨rfl, hslots, hstop, later, state, hlater⟩

/-- A datagram is judged, and the connection goes on attending. -/
theorem read (hattends : host.Attends id) (now : UInt64) {entropy : Entropy}
    (hentropy : Challenge.demand ≤ entropy.length) (arrival : Option Bytes) :
    let moment : Moment id := ⟨host, .here (.step now entropy (.read arrival))⟩
    moment.after.Attends id ∧ moment.IsJudged := by
  intro moment
  have htuned : (host.tuned now entropy).Attends id :=
    hattends.of_spares (Rig.spares_tuned id host.rig now entropy) fun hkeys => hkeys
  by_cases hreading : host.worker.phase = .reading
  · obtain ⟨hid, hslots, hstop, connection, state, hrig⟩ := htuned
    have hstill : (host.tuned now entropy).worker.phase = .reading := hreading
    obtain ⟨⟨later, state', hlater⟩, hjudged⟩ :=
      judged_read hstill hslots hstop hrig hentropy arrival
    have hworker : ∃ cause : Option ShutdownCause,
        moment.after.worker = cause.elim host.worker host.worker.leave :=
      ⟨_, hjudged.worker⟩
    obtain ⟨cause, hworker⟩ := hworker
    have hafter : moment.after.worker.id = host.worker.id
        ∧ moment.after.worker.slots = host.worker.slots
        ∧ moment.after.worker.stop = host.worker.stop := by
      rw [hworker]
      cases cause with
      | none => exact ⟨rfl, rfl, rfl⟩
      | some cause => exact ⟨rfl, rfl, rfl⟩
    refine ⟨⟨hafter.1.trans hid, hafter.2.1.trans hslots, hafter.2.2.trans hstop, later, state',
      ?_⟩, ?_⟩
    · rw [hafter.1]
      exact hlater
    · show if host.worker.phase = .reading then _ else _
      rw [if_pos hreading]
      exact hjudged
  · have hafter : moment.after = host.tuned now entropy := by
      show Host.mk (host.worker.read (host.rig.tuned now entropy) arrival).1
        (host.worker.read (host.rig.tuned now entropy) arrival).2 = _
      rw [Worker.read, if_pos hreading]
      rfl
    refine ⟨?_, ?_⟩
    · rw [hafter]
      exact htuned
    · show if host.worker.phase = .reading then _ else _
      rw [if_neg hreading]
      exact hafter

/-- Whatever happens while a connection listens is judged. -/
theorem happen (hattends : host.Attends id) {happening : Happening id}
    (hlistens : happening.Listens) :
    (host.happen happening).Attends id ∧ (Moment.mk host happening).IsJudged := by
  cases happening with
  | here occurrence =>
      cases occurrence with
      | step now entropy next =>
          cases next with
          | read arrival => exact hattends.read now hlistens arrival
          | _ => exact hlistens.elim
      | apart event =>
          have hspares := Rig.spares_apart id host.rig event
          exact ⟨hattends.of_spares hspares fun hkeys => Rig.hasKeys_apart hkeys event, rfl,
            hspares.handlers⟩
  | elsewhere worker hother now entropy next =>
      have hspares := (Rig.spares_tuned id host.rig now entropy).trans
        (Worker.spares_step hother (host.rig.tuned now entropy) next)
      refine ⟨hattends.of_spares hspares fun hkeys => ?_, rfl, hspares.handlers⟩
      have htuned : (host.rig.tuned now entropy).venue.HasKeys := hkeys
      exact Worker.hasKeys_step htuned next
  | joined other hother peer session registry callbacks =>
      have hspares := Worker.spares_start hother peer session registry callbacks host.rig
      exact ⟨hattends.of_spares hspares fun hkeys =>
        Worker.hasKeys_start hkeys other peer session registry callbacks, rfl, hspares.handlers⟩

/-- Every moment of a run in which a connection listens is judged. -/
theorem moments (hattends : host.Attends id) {happenings : List (Happening id)}
    (hlistens : ∀ happening ∈ happenings, happening.Listens) :
    ∀ moment ∈ host.moments happenings, moment.IsJudged := by
  induction happenings generalizing host with
  | nil => exact fun moment hmoment => absurd hmoment List.not_mem_nil
  | cons happening happenings ih =>
      obtain ⟨hnext, hjudged⟩ := hattends.happen (hlistens happening List.mem_cons_self)
      intro moment hmoment
      rcases List.mem_cons.1 hmoment with rfl | hmoment
      · exact hjudged
      · exact ih hnext (fun other hother => hlistens other (List.mem_cons_of_mem _ hother))
          moment hmoment

end Host.Attends

-- ======================================================= the loop's end

namespace Moment

variable {id : ConnectionId} {moment : Moment id}

/-- A loop goes on until a datagram ends it. -/
theorem IsJudged.worker (hjudged : moment.IsJudged)
    (hreading : moment.before.worker.phase = .reading) :
    moment.after.worker
      = moment.ending?.elim moment.before.worker moment.before.worker.leave := by
  obtain ⟨host, happening⟩ := moment
  unfold IsJudged at hjudged
  unfold ending?
  split at hjudged
  next now entropy arrival hread =>
    obtain rfl : happening = .here (.step now entropy (.read arrival)) := hread
    rw [if_pos hreading] at hjudged
    exact hjudged.worker
  · exact hjudged.1

/-- A loop that has ended does not end again. -/
theorem IsJudged.worker_of_left (hjudged : moment.IsJudged)
    (hleft : moment.before.worker.phase ≠ .reading) :
    moment.after.worker = moment.before.worker := by
  unfold IsJudged at hjudged
  split at hjudged
  · rw [if_neg hleft] at hjudged
    rw [hjudged]
    rfl
  · exact hjudged.1

end Moment

namespace Host

variable {id : ConnectionId} {host : Host} {happenings : List (Happening id)}

theorem follow_of_left (hjudged : ∀ moment ∈ host.moments happenings, moment.IsJudged)
    (hleft : host.worker.phase ≠ .reading) :
    (host.follow happenings).worker = host.worker := by
  induction happenings generalizing host with
  | nil => rfl
  | cons happening happenings ih =>
      have hnow : (host.happen happening).worker = host.worker :=
        (hjudged ⟨host, happening⟩ List.mem_cons_self).worker_of_left hleft
      have hstill : (host.happen happening).worker.phase ≠ .reading := by
        rw [hnow]
        exact hleft
      have hlater := ih (fun moment hmoment => hjudged moment (List.mem_cons_of_mem _ hmoment))
        hstill
      exact hlater.trans hnow

/-- The first datagram that ends the loop gives the cause. -/
theorem follow_of_judged (hjudged : ∀ moment ∈ host.moments happenings, moment.IsJudged)
    (hreading : host.worker.phase = .reading) :
    (host.follow happenings).worker
      = ((host.moments happenings).findSome? Moment.ending?).elim host.worker
          host.worker.leave := by
  induction happenings generalizing host with
  | nil => rfl
  | cons happening happenings ih =>
      let moment : Moment id := ⟨host, happening⟩
      have hnow : (host.happen happening).worker
          = moment.ending?.elim host.worker host.worker.leave :=
        (hjudged moment List.mem_cons_self).worker hreading
      have hrest : ∀ later ∈ (host.happen happening).moments happenings, later.IsJudged :=
        fun later hlater => hjudged later (List.mem_cons_of_mem _ hlater)
      show ((host.happen happening).follow happenings).worker
        = ((moment :: (host.happen happening).moments happenings).findSome? Moment.ending?).elim
            host.worker host.worker.leave
      rw [List.findSome?_cons]
      cases hending : moment.ending? with
      | none =>
          rw [hending] at hnow
          have hstill : (host.happen happening).worker.phase = .reading := by
            rw [hnow]
            exact hreading
          rw [ih hrest hstill, hnow]
          rfl
      | some cause =>
          rw [hending] at hnow
          have hleft : (host.happen happening).worker.phase ≠ .reading := by
            rw [hnow]
            nofun
          rw [follow_of_left hrest hleft, hnow]

end Host

/-- A connection that is taken in attends. -/
theorem Rig.Admits.attends_start {rig : Rig Outlet} {id : ConnectionId}
    (hadmits : rig.Admits id) (hkeys : rig.venue.HasKeys) (peer : SocketAddress)
    {session : Session} (hopen : session.closed = false) (hup : session.link = .up)
    (callbacks : Nat) : (Host.start id peer session callbacks rig).Attends id := by
  have hworker := hadmits.worker_start peer session callbacks
  obtain ⟨token, hstation⟩ := (hadmits.hosts_start peer session callbacks).station
  have hkept : (Host.start id peer session callbacks rig).rig.venue.HasKeys :=
    Worker.hasKeys_start hkeys id peer session standardRegistry callbacks
  refine ⟨?_, ?_, ?_, .new peer ⟨session, []⟩, .idle, ?_⟩
  · rw [hworker]
  · rw [hworker]
  · rw [hworker]
  · rw [hworker]
    exact ⟨⟨[], token, hstation⟩, ⟨hopen, hup⟩, hkept⟩

/-- Every message gets what is due to it, and the connection ends when it should.
A connection with the standard handlers reads datagrams one by one, over an open
session whose path is up, while anything goes on elsewhere. Each message is
answered once, refused once, or not at all, and moves authentication on, as its
ruling says; what calls for nothing changes nothing; and the loop ends at the
first datagram for which there is a cause, with that cause. -/
theorem every_message_is_judged {rig : Rig Outlet} {id : ConnectionId}
    (hadmits : rig.Admits id) (hkeys : rig.venue.HasKeys) (peer : SocketAddress)
    {session : Session} (hopen : session.closed = false) (hup : session.link = .up)
    (callbacks : Nat) {happenings : List (Happening id)}
    (hlistens : ∀ happening ∈ happenings, happening.Listens) :
    let start := Host.start id peer session callbacks rig
    (∀ moment ∈ start.moments happenings, moment.IsJudged)
      ∧ (start.follow happenings).worker
        = ((start.moments happenings).findSome? Moment.ending?).elim start.worker
            start.worker.leave := by
  intro start
  have hattends : start.Attends id := hadmits.attends_start hkeys peer hopen hup callbacks
  have hjudged := hattends.moments hlistens
  have hreading : start.worker.phase = .reading := by
    rw [hadmits.worker_start peer session callbacks]
  exact ⟨hjudged, Host.follow_of_judged hjudged hreading⟩

/-- A ping is answered, and a message about pixels of a type that nobody knows is
refused, while another connection comes in between. A message of another
version ends the loop, and the ping after it is not answered any more. -/
theorem messages_are_judged_in_example :
    let key : GroupKey := ⟨1, List.replicate 32 1, List.replicate 16 2⟩
    let rig := exampleRig [] 4 7251 key
    let session := Session.establish .up .chacha .server exampleKeys
    let client := Session.establish .up .chacha .client exampleKeys
    let ping := framed (Header.new .default (Message.messageType Ping) 9) (Cbor.encode (Ping.mk 3))
    let strange := framed (Header.new .pixelData 99 10) [1, 2]
    let foreign : Bytes := [2, 0, 1, 11, 0, 0]
    let first := client.send ping
    let second := first.2.send strange
    let third := second.2.send foreign
    let last := third.2.send ping
    let read := fun (now : UInt64) (record : Except SessionError Bytes) =>
      (Happening.here (.step now (List.replicate 80 7) (.read record.toOption)) : Happening 1)
    let happenings : List (Happening 1) := [read 5 first.1,
      .joined 2 (by decide) ⟨.loopback, 5001⟩ session standardRegistry 0, read 6 second.1,
      read 7 third.1, read 8 last.1]
    let start := Host.start 1 ⟨.loopback, 5000⟩ session 0 rig
    (start.follow happenings).worker = start.worker.leave .protocolViolation
      ∧ (start.follow happenings).connection?.map (·.sink.sent.length) = some 2 := by
  intro key rig session client ping strange foreign first second third last read happenings start
  have hadmits : rig.Admits 1 := ⟨rfl, rfl, fun entry hentry => nomatch hentry⟩
  have horderly : (KeyRing.mk 3 [key]).Orderly := by
    refine ⟨by decide, by decide, by decide, ?_⟩
    intro found hfound
    obtain rfl := List.mem_singleton.1 hfound
    exact ⟨rfl, rfl⟩
  have hkeys : rig.venue.HasKeys := ⟨_, rfl, horderly, key, rfl, rfl⟩
  have hlistens : ∀ happening ∈ happenings, happening.Listens := by
    have henough : Challenge.demand ≤ (List.replicate 80 (7 : UInt8)).length := by decide
    intro happening hhappening
    simp only [happenings, List.mem_cons, List.not_mem_nil, or_false] at hhappening
    rcases hhappening with rfl | rfl | rfl | rfl | rfl
    · exact henough
    · trivial
    · exact henough
    · exact henough
    · exact henough
  have hcause : (start.moments happenings).findSome? Moment.ending?
      = some .protocolViolation := by decide +kernel
  have hopen : session.closed = false := rfl
  have hup : session.link = .up := rfl
  obtain ⟨-, hworker⟩ :=
    every_message_is_judged hadmits hkeys ⟨.loopback, 5000⟩ hopen hup 0 hlistens
  have hend : (start.follow happenings).worker
      = ((start.moments happenings).findSome? Moment.ending?).elim start.worker
          start.worker.leave := hworker
  rw [hcause] at hend
  exact ⟨hend, by decide +kernel⟩

end Luminaire
