/-
What a message does to a connection does not depend on tokens.

A handler keeps the tokens of its observers, and which tokens it was given
depends on who registered before. Nothing else does. A message about
subscriptions settles what is to change from the channels that are held
(`Subscription.exists_change`), and the change is then carried out on the
list and on the observers together. As long as these two agree, what the
connection is owed afterwards follows from what it was owed before
(`Framebuffer.Agrees.owed_carry`).

A message to a handler therefore comes out the same at any two venues that
look the same to its connection (`Handler.handle_alike`).
-/
import Luminaire.Proofs.Connection.Belongings

namespace Luminaire

-- ============================================================== owed

/-- An observer stands for the subscription to the channel of its delivery. -/
theorem Subscription.behind?_eq_map (id : ConnectionId)
    (entry : Token × RegionObserver Watcher) :
    behind? id entry
      = (Delivery.behind? id entry).map fun delivery => ⟨delivery.channel, entry.1⟩ := by
  unfold behind? Delivery.behind?
  cases entry.2.observer with
  | outsider number => rfl
  | delivery delivery =>
      by_cases hid : delivery.connection = id
      · simp only [hid, if_true, Option.map_some]
      · simp only [hid, if_false, Option.map_none]

/-- Where no name is given twice, what stands under a name is found. -/
theorem lookup_of_mem_of_nodup {α : Type} {entries : List (Token × α)}
    (hnodup : (entries.map Prod.fst).Nodup) {token : Token} {entry : α}
    (hmem : (token, entry) ∈ entries) : entries.lookup token = some entry := by
  obtain ⟨before, after, rfl⟩ := List.append_of_mem hmem
  refine List.lookup_eq_some_iff.2 ⟨before, after, rfl, fun other hother => ?_⟩
  rw [List.map_append, List.map_cons, List.nodup_append] at hnodup
  have hne : other.1 ≠ token :=
    hnodup.2.2 _ (List.mem_map_of_mem hother) _ List.mem_cons_self
  exact bne_iff_ne.2 hne.symm

namespace Framebuffer

/-- The deliveries that a connection is owed when their regions are finished,
oldest first. -/
def owed (framebuffer : Framebuffer Watcher) (id : ConnectionId) : List Delivery :=
  framebuffer.observers.entries.filterMap (Delivery.behind? id)

/-- A list agrees with what the framebuffer has a connection down for. -/
structure Agrees (framebuffer : Framebuffer Watcher) (id : ConnectionId)
    (held : Subscription.Held) : Prop where
  orderly : ∃ count, framebuffer.Orderly count
  books : held = (framebuffer.booked id).reverse

variable {framebuffer : Framebuffer Watcher} {id other : ConnectionId}
  {held : Subscription.Held} {meant : Subscription → Bool}

/-- A connection is owed its pixels for the channels it is down for. -/
theorem channels_booked (framebuffer : Framebuffer Watcher) (id : ConnectionId) :
    (framebuffer.booked id).map Subscription.channel
      = (framebuffer.owed id).map Delivery.channel := by
  unfold booked owed
  rw [List.map_filterMap, List.map_filterMap]
  refine List.filterMap_congr fun entry _ => ?_
  rw [Subscription.behind?_eq_map, Option.map_map]
  rfl

theorem owed_observe (framebuffer : Framebuffer Watcher) (delivery : Delivery)
    (id : ConnectionId) :
    (framebuffer.observe delivery.region (.delivery delivery)).2.owed id
      = framebuffer.owed id ++ if delivery.connection = id then [delivery] else [] := by
  show (framebuffer.observers.entries ++ [_]).filterMap _ = _
  rw [List.filterMap_append]
  refine congrArg (framebuffer.owed id ++ ·) ?_
  rw [List.filterMap_cons, Delivery.behind?_delivery]
  by_cases hid : delivery.connection = id
  · rw [if_pos hid, if_pos hid]
    rfl
  · rw [if_neg hid, if_neg hid]
    rfl

namespace Agrees

variable (hagrees : framebuffer.Agrees id held)
include hagrees

theorem channels :
    held.map Subscription.channel = ((framebuffer.owed id).map Delivery.channel).reverse := by
  rw [hagrees.books, List.map_reverse, channels_booked]

/-- For every channel that is held the delivery it stands for is registered. -/
theorem registered :
    (held.map fun subscription => (subscription.channel,
        framebuffer.observers.entries.lookup subscription.token))
      = ((framebuffer.owed id).map fun delivery =>
          (delivery.channel, some ⟨delivery.region, .delivery delivery⟩)).reverse := by
  obtain ⟨count, horderly⟩ := hagrees.orderly
  rw [hagrees.books, List.map_reverse]
  unfold booked owed
  rw [List.map_filterMap, List.map_filterMap]
  refine congrArg List.reverse (List.filterMap_congr fun entry hentry => ?_)
  rw [Subscription.behind?_eq_map, Option.map_map]
  obtain ⟨token, observer⟩ := entry
  obtain ⟨delivery, rfl : observer = _, -⟩ := horderly.owned _ hentry
  rw [Delivery.behind?_delivery]
  by_cases hid : delivery.connection = id
  · rw [if_pos hid]
    exact congrArg (fun found => some (delivery.channel, found))
      (lookup_of_mem_of_nodup horderly.tokens hentry)
  · rw [if_neg hid]
    rfl

/-- An observer goes with what its own connection gives up, and with nothing
else. -/
theorem mem_released_iff {entry : Token × RegionObserver Watcher}
    (hentry : entry ∈ framebuffer.observers.entries) {delivery : Delivery}
    (howed : Delivery.behind? other entry = some delivery) :
    entry.1 ∈ (held.filter meant).map Subscription.token
      ↔ other = id ∧ meant ⟨delivery.channel, entry.1⟩ = true := by
  obtain ⟨count, horderly⟩ := hagrees.orderly
  have hbooked : ⟨delivery.channel, entry.1⟩ ∈ framebuffer.booked other := by
    refine mem_booked_iff.2 ⟨entry, hentry, ?_⟩
    rw [Subscription.behind?_eq_map, howed, Option.map_some]
  constructor
  · intro hgone
    obtain ⟨subscription, hsubscription, htoken⟩ := List.mem_map.1 hgone
    obtain ⟨hmem, hmeant⟩ := List.mem_filter.1 hsubscription
    rw [hagrees.books, List.mem_reverse] at hmem
    obtain ⟨rfl, rfl⟩ := horderly.booked_inj hbooked hmem htoken.symm
    exact ⟨rfl, hmeant⟩
  · rintro ⟨rfl, hmeant⟩
    refine List.mem_map.2 ⟨⟨delivery.channel, entry.1⟩, List.mem_filter.2 ⟨?_, hmeant⟩, rfl⟩
    rw [hagrees.books, List.mem_reverse]
    exact hbooked

/-- Whoever gives up channels is not owed their pixels any more. -/
theorem owed_release (wanted : UInt32 → Bool)
    (hmeant : ∀ subscription, meant subscription = wanted subscription.channel) :
    (Subscription.release meant held framebuffer).2.owed id
      = (framebuffer.owed id).filter fun delivery => !wanted delivery.channel := by
  rw [Subscription.release_snd]
  unfold owed
  rw [List.filterMap_filter, List.filter_filterMap]
  refine List.filterMap_congr fun entry hentry => ?_
  cases howed : Delivery.behind? id entry with
  | none => simp
  | some delivery =>
      have hgone : entry.1 ∈ (held.filter meant).map Subscription.token
          ↔ id = id ∧ meant ⟨delivery.channel, entry.1⟩ = true :=
        hagrees.mem_released_iff hentry howed
      rw [hmeant] at hgone
      cases hwanted : wanted delivery.channel with
      | true => simp [hgone, hwanted, Option.filter]
      | false => simp [hgone, hwanted, Option.filter]

/-- The others are owed what they were. -/
theorem owed_release_of_ne (hne : other ≠ id) :
    (Subscription.release meant held framebuffer).2.owed other = framebuffer.owed other := by
  rw [Subscription.release_snd]
  unfold owed
  rw [List.filterMap_filter]
  refine List.filterMap_congr fun entry hentry => ?_
  cases howed : Delivery.behind? other entry with
  | none => exact ite_self none
  | some delivery =>
      have hkept : entry.1 ∉ (held.filter meant).map Subscription.token :=
        fun hgone => hne ((hagrees.mem_released_iff hentry howed).1 hgone).1
      exact if_pos (decide_eq_true hkept)

end Agrees

end Framebuffer

/-- Nobody else's pixels are concerned, however a connection's books move. -/
theorem Subscription.Moves.owed_of_ne {id other : ConnectionId} {held held' : Held}
    {framebuffer framebuffer' : Framebuffer Watcher}
    (hmoves : Moves id held framebuffer held' framebuffer')
    (hagrees : framebuffer.Agrees id held) (hne : other ≠ id) :
    framebuffer'.owed other = framebuffer.owed other := by
  cases hmoves with
  | same => rfl
  | @granted channels request channel format first hgrantable =>
      refine (framebuffer.owed_observe
        ⟨id, request.channel, ⟨first, request.length⟩, request.start, format⟩ other).trans ?_
      rw [if_neg hne.symm, List.append_nil]
  | released meant => exact hagrees.owed_release_of_ne hne

theorem Subscription.Moves.pixels {id : ConnectionId} {held held' : Held}
    {framebuffer framebuffer' : Framebuffer Watcher}
    (hmoves : Moves id held framebuffer held' framebuffer') :
    framebuffer'.pixels = framebuffer.pixels := by
  cases hmoves with
  | same => rfl
  | granted hgrantable => rfl
  | released meant => rw [release_snd]

theorem Subscription.Moves.agrees {id : ConnectionId} {held held' : Held}
    {framebuffer framebuffer' : Framebuffer Watcher}
    (hmoves : Moves id held framebuffer held' framebuffer')
    (hagrees : framebuffer.Agrees id held) : framebuffer'.Agrees id held' := by
  obtain ⟨count, horderly⟩ := hagrees.orderly
  have hlarger := horderly.mono (Nat.le_max_left count (id + 1))
  have hid : id < max count (id + 1) := Nat.le_max_right count (id + 1)
  exact ⟨⟨_, hmoves.orderly hlarger hid⟩, hmoves.agree horderly hagrees.books⟩

-- =========================================================== changes

namespace Subscription

/-- What is to change about a connection's subscriptions. -/
inductive Change where
  | nothing
  /-- Pixels are owed from now on. -/
  | enlist (delivery : Delivery)
  /-- Channels are given up. -/
  | giveUp (request : Unsubscribe)

namespace Change

/-- Carries a change out, on the list and on the observers. -/
def carry (held : Held) (framebuffer : Framebuffer Watcher) :
    Change → Held × Framebuffer Watcher
  | .nothing => (held, framebuffer)
  | .enlist delivery =>
      let (token, framebuffer) := framebuffer.observe delivery.region (.delivery delivery)
      (⟨delivery.channel, token⟩ :: held, framebuffer)
  | .giveUp request => honour request held framebuffer

/-- What is owed after a change. -/
def owe (owed : List Delivery) : Change → List Delivery
  | .nothing => owed
  | .enlist delivery => owed ++ [delivery]
  | .giveUp request => owed.filter fun delivery => !request.means delivery.channel

/-- Whose pixels are owed from now on, if anyone's. -/
def IsFor (id : ConnectionId) : Change → Prop
  | .enlist delivery => delivery.connection = id
  | _ => True

end Change

/-- A list of channels, without tokens. -/
def untold (channels : List UInt32) : Held := channels.map fun channel => ⟨channel, 0⟩

theorem channels_untold (channels : List UInt32) :
    (untold channels).map channel = channels := by
  unfold untold
  rw [List.map_map]
  exact List.map_id _

/-- A request is checked against the channels that are held. -/
theorem check_of_channels {held other : Held} (hsame : held.map channel = other.map channel)
    (channels : List NodeChannel) (request : Subscribe) :
    check channels held request = check channels other request := by
  have hholds : ∀ held : Held,
      holds held request.channel = (held.map channel).any (· == request.channel) := by
    intro held
    rw [List.any_map]
    rfl
  unfold check
  rw [hholds held, hholds other, hsame]

/-- How many are given up depends on the channels that are held. -/
theorem removed_of_channels {held other : Held} (hsame : held.map channel = other.map channel)
    (request : Unsubscribe) (framebuffer framebuffer' : Framebuffer Watcher) :
    held.length - (honour request held framebuffer).1.length
      = other.length - (honour request other framebuffer').1.length := by
  have hlength : ∀ held : Held, held.length = (held.map channel).length :=
    fun held => (List.length_map channel).symm
  have hkept : ∀ (held : Held) (framebuffer : Framebuffer Watcher),
      (honour request held framebuffer).1.length
        = ((held.map channel).filter fun channel => !request.means channel).length := by
    intro held framebuffer
    rw [List.filter_map, List.length_map]
    rfl
  rw [hlength held, hlength other, hkept held, hkept other, hsame]

variable {κ : Type} [Sink κ]

/-- A message that asks for a channel, or tries to. -/
theorem exists_change_subscribe (id : ConnectionId) (directory : Directory)
    (channels : List UInt32) (connection : Connection κ) (header : Header) (payload : Bytes) :
    ∃ (change : Change) (sent : Except HandlerError Unit × Connection κ),
      change.IsFor id
        ∧ ∀ (held : Held) (framebuffer : Framebuffer Watcher), held.map channel = channels →
          subscribe id directory held framebuffer connection header payload
            = ⟨sent.1, (change.carry held framebuffer).1, (change.carry held framebuffer).2,
              sent.2⟩ := by
  cases hrequest : Cbor.decode? (α := Subscribe) payload with
  | none =>
      refine ⟨.nothing, connection.answer header (SubscribeAck.mk .malformed 0)
        (.error (.malformed .pixelData)), trivial, fun held framebuffer _ => ?_⟩
      simp only [subscribe, hrequest]
      rfl
  | some request =>
      cases hnode : connection.requireNode with
      | error fault =>
          refine ⟨.nothing, connection.answer header
            (SubscribeAck.mk .notAuthenticated request.channel) (.error fault), trivial,
            fun held framebuffer _ => ?_⟩
          simp only [subscribe, hrequest, hnode]
          rfl
      | ok node =>
          have hchecked : ∀ held : Held, held.map channel = channels →
              check (directory.channelsOf node.id) held request
                = check (directory.channelsOf node.id) (untold channels) request :=
            fun held hheld =>
              check_of_channels (hheld.trans (channels_untold channels).symm) _ request
          cases hcheck : check (directory.channelsOf node.id) (untold channels) request with
          | error status =>
              refine ⟨.nothing, connection.replyWith header
                (SubscribeAck.mk status request.channel), trivial,
                fun held framebuffer hheld => ?_⟩
              simp only [subscribe, hrequest, hnode, (hchecked held hheld).trans hcheck]
              rfl
          | ok parts =>
              obtain ⟨format, first⟩ := parts
              refine ⟨.enlist ⟨id, request.channel, ⟨first, request.length⟩, request.start,
                format⟩, connection.replyWith header (SubscribeAck.mk .success request.channel),
                rfl, fun held framebuffer hheld => ?_⟩
              simp only [subscribe, hrequest, hnode, (hchecked held hheld).trans hcheck]
              rfl

/-- A message that gives channels up, or tries to. -/
theorem exists_change_unsubscribe (channels : List UInt32) (connection : Connection κ)
    (header : Header) (payload : Bytes) :
    ∃ (change : Change) (sent : Except HandlerError Unit × Connection κ),
      (∀ id, change.IsFor id)
        ∧ ∀ (held : Held) (framebuffer : Framebuffer Watcher), held.map channel = channels →
          unsubscribe held framebuffer connection header payload
            = ⟨sent.1, (change.carry held framebuffer).1, (change.carry held framebuffer).2,
              sent.2⟩ := by
  cases hrequest : Cbor.decode? (α := Unsubscribe) payload with
  | none =>
      refine ⟨.nothing, connection.answer header (UnsubscribeAck.mk .malformed 0)
        (.error (.malformed .pixelData)), fun _ => trivial, fun held framebuffer _ => ?_⟩
      simp only [unsubscribe, hrequest]
      rfl
  | some request =>
      cases hnode : connection.requireNode with
      | error fault =>
          refine ⟨.nothing, connection.answer header (UnsubscribeAck.mk .notAuthenticated 0)
            (.error fault), fun _ => trivial, fun held framebuffer _ => ?_⟩
          simp only [unsubscribe, hrequest, hnode]
          rfl
      | ok node =>
          let removed := (untold channels).length
            - (honour request (untold channels) (.dark 0)).1.length
          refine ⟨.giveUp request, connection.replyWith header
            (UnsubscribeAck.mk .success removed.toUInt32), fun _ => trivial,
            fun held framebuffer hheld => ?_⟩
          have hremoved := removed_of_channels (hheld.trans (channels_untold channels).symm)
            request framebuffer (.dark 0)
          simp only [unsubscribe, hrequest, hnode, hremoved]
          rfl

/-- What is to change, what is sent and how the turn is reported follow from
the channels that are held. -/
theorem exists_change (id : ConnectionId) (directory : Directory) (channels : List UInt32)
    (connection : Connection κ) (header : Header) (payload : Bytes) :
    ∃ (change : Change) (sent : Except HandlerError Unit × Connection κ),
      change.IsFor id
        ∧ ∀ (held : Held) (framebuffer : Framebuffer Watcher), held.map channel = channels →
          handle id directory held framebuffer connection header payload
            = ⟨sent.1, (change.carry held framebuffer).1, (change.carry held framebuffer).2,
              sent.2⟩ := by
  unfold handle
  by_cases hsubscribe : header.messageType = Message.messageType Subscribe
  · simp only [if_pos hsubscribe]
    exact exists_change_subscribe id directory channels connection header payload
  · by_cases hunsubscribe : header.messageType = Message.messageType Unsubscribe
    · simp only [if_neg hsubscribe, if_pos hunsubscribe]
      obtain ⟨change, sent, hfor, hcarry⟩ :=
        exists_change_unsubscribe channels connection header payload
      exact ⟨change, sent, hfor id, hcarry⟩
    · simp only [if_neg hsubscribe, if_neg hunsubscribe]
      exact ⟨.nothing, (.error (.unknownMessageType .pixelData header.messageType), connection),
        trivial, fun _ _ _ => rfl⟩

end Subscription

open Subscription

/-- What is owed after a change follows from what was owed before. -/
theorem Framebuffer.Agrees.owed_carry {framebuffer : Framebuffer Watcher} {id : ConnectionId}
    {held : Held} (hagrees : framebuffer.Agrees id held) {change : Change}
    (hfor : change.IsFor id) :
    (change.carry held framebuffer).2.owed id = change.owe (framebuffer.owed id) := by
  cases change with
  | nothing => rfl
  | enlist delivery =>
      have hmine : delivery.connection = id := hfor
      have howed := framebuffer.owed_observe delivery id
      rw [if_pos hmine] at howed
      exact howed
  | giveUp request => exact hagrees.owed_release request.means fun _ => rfl

-- ============================================================ venues

/-- A broadcaster without its observers. -/
def Broadcaster.unwatched {ω : Type} (broadcaster : Broadcaster ω) : Broadcaster ω :=
  { broadcaster with observers := .empty }

/-- Nobody is told anything else because somebody observes. -/
theorem GroupKeys.handle_unwatched {κ ω : Type} [Sink κ] (connection : Connection κ)
    (group : Broadcaster ω) (header : Header) (payload : Bytes) :
    GroupKeys.handle connection group.unwatched header payload
      = GroupKeys.handle connection group header payload := rfl

namespace Venue

/-- What a venue is like whoever observes what, at any time. -/
structure Ground where
  pixels : List Pixel
  directory : Directory
  group : Option (Broadcaster KeyWatcher)

def ground (venue : Venue) : Ground :=
  ⟨venue.framebuffer.pixels, venue.directory, venue.group.map Broadcaster.unwatched⟩

/-- Two venues that look the same to a connection. -/
structure Alike (id : ConnectionId) (left right : Venue) : Prop where
  owed : left.framebuffer.owed id = right.framebuffer.owed id
  ground : left.ground = right.ground

end Venue

namespace Handler

/-- A handler without what it keeps about its observers. -/
def bare : Handler → Handler
  | .pixelData _ => .pixelData []
  | .groupControl _ => .groupControl 0
  | handler => handler

variable {κ : Type} [Sink κ]

/-- A message changes nothing about a venue but its observers. -/
theorem ground_handle (handler : Handler) (id : ConnectionId) (connection : Connection κ)
    (venue : Venue) (header : Header) (payload : Bytes) :
    (handler.handle id connection venue header payload).venue.ground = venue.ground := by
  cases handler with
  | liveness => rfl
  | authentication methods state => rfl
  | pixelData held =>
      obtain ⟨-, -, hmoves⟩ :=
        (Handler.pixelData held).moves_handle id connection venue header payload
      exact congrArg (Venue.Ground.mk · venue.directory (venue.group.map Broadcaster.unwatched))
        hmoves.pixels
  | groupControl token =>
      unfold handle
      simp only
      split
      · rfl
      · rfl
  | plugin supplied =>
      unfold handle
      simp only
      split
      · rfl
      · rfl
      · rfl

end Handler

/-- Two turns that come to the same, tokens aside. -/
structure HandlerTurn.Alike {κ : Type} (id : ConnectionId) (left right : HandlerTurn κ) : Prop where
  outcome : left.outcome = right.outcome
  handler : left.handler.bare = right.handler.bare
  connection : left.connection = right.connection
  venue : left.venue.Alike id right.venue

namespace Handler

variable {κ : Type} [Sink κ] {id : ConnectionId} {left right : Venue}

theorem handle_alike_pixelData {heldLeft heldRight : Held} (hvenue : left.Alike id right)
    (hleft : left.framebuffer.Agrees id heldLeft)
    (hright : right.framebuffer.Agrees id heldRight) (connection : Connection κ)
    (header : Header) (payload : Bytes) :
    ((Handler.pixelData heldLeft).handle id connection left header payload).Alike id
      ((Handler.pixelData heldRight).handle id connection right header payload) := by
  obtain ⟨change, sent, hfor, hchange⟩ := exists_change id left.directory
    (((left.framebuffer.owed id).map Delivery.channel).reverse) connection header payload
  have hdirectory : right.directory = left.directory :=
    congrArg Venue.Ground.directory hvenue.ground.symm
  have hturnLeft := hchange heldLeft left.framebuffer hleft.channels
  have hturnRight := hchange heldRight right.framebuffer (hvenue.owed ▸ hright.channels)
  have howed : (change.carry heldLeft left.framebuffer).2.owed id
      = (change.carry heldRight right.framebuffer).2.owed id := by
    rw [hleft.owed_carry hfor, hright.owed_carry hfor, hvenue.owed]
  have hground := hvenue.ground
  rw [← (Handler.pixelData heldLeft).ground_handle id connection left header payload,
    ← (Handler.pixelData heldRight).ground_handle id connection right header payload] at hground
  unfold handle at hground ⊢
  simp only [hdirectory, hturnLeft, hturnRight] at hground ⊢
  exact ⟨rfl, rfl, rfl, howed, hground⟩

theorem handle_alike_authentication (methods : List String) (state : AuthState)
    (hvenue : left.Alike id right) (hentropy : left.entropy = right.entropy)
    (connection : Connection κ) (header : Header) (payload : Bytes) :
    ((Handler.authentication methods state).handle id connection left header payload).Alike id
      ((Handler.authentication methods state).handle id connection right header payload) := by
  have hdirectory : left.directory = right.directory :=
    congrArg Venue.Ground.directory hvenue.ground
  have hturn : state.handle methods left.directory connection left.entropy header payload
      = state.handle methods right.directory connection right.entropy header payload := by
    rw [hdirectory, hentropy]
  refine ⟨?_, ?_, ?_, hvenue.owed, hvenue.ground⟩
  · exact congrArg (fun turn : AuthTurn κ => Outcome.of turn.result) hturn
  · exact congrArg (fun turn : AuthTurn κ => Handler.authentication methods turn.state) hturn
  · exact congrArg AuthTurn.connection hturn

theorem handle_alike_groupControl (token token' : Token) (hvenue : left.Alike id right)
    (connection : Connection κ) (header : Header) (payload : Bytes) :
    ((Handler.groupControl token).handle id connection left header payload).Alike id
      ((Handler.groupControl token').handle id connection right header payload) := by
  have hgroup : left.group.map Broadcaster.unwatched = right.group.map Broadcaster.unwatched :=
    congrArg Venue.Ground.group hvenue.ground
  unfold handle
  cases hleft : left.group with
  | none =>
      have hright : right.group = none := by
        rw [hleft, Option.map_none] at hgroup
        exact Option.map_eq_none_iff.1 hgroup.symm
      simp only [hright]
      exact ⟨rfl, rfl, rfl, hvenue⟩
  | some group =>
      rw [hleft, Option.map_some] at hgroup
      obtain ⟨group', hright, hsame⟩ := Option.map_eq_some_iff.1 hgroup.symm
      have hturn : GroupKeys.handle connection group header payload
          = GroupKeys.handle connection group' header payload := by
        rw [← GroupKeys.handle_unwatched connection group, ← hsame, GroupKeys.handle_unwatched]
      simp only [hright, hturn]
      exact ⟨rfl, rfl, rfl, hvenue⟩

/-- A message comes out the same at two venues that look the same, at the same
time and with the same randomness, whatever the tokens are. -/
theorem handle_alike {handler other : Handler} (hbare : handler.bare = other.bare)
    (hvenue : left.Alike id right) (hnow : left.now = right.now)
    (hentropy : left.entropy = right.entropy)
    (hleft : ∀ held, handler = .pixelData held → left.framebuffer.Agrees id held)
    (hright : ∀ held, other = .pixelData held → right.framebuffer.Agrees id held)
    (connection : Connection κ) (header : Header) (payload : Bytes) :
    (handler.handle id connection left header payload).Alike id
      (other.handle id connection right header payload) := by
  cases handler with
  | liveness =>
      cases other with
      | liveness =>
          unfold handle
          rw [hnow]
          exact ⟨rfl, rfl, rfl, hvenue⟩
      | _ => cases hbare
  | authentication methods state =>
      cases other with
      | authentication methods' state' =>
          cases hbare
          exact handle_alike_authentication methods state hvenue hentropy connection header
            payload
      | _ => cases hbare
  | pixelData held =>
      cases other with
      | pixelData held' =>
          exact handle_alike_pixelData hvenue (hleft held rfl) (hright held' rfl) connection
            header payload
      | _ => cases hbare
  | groupControl token =>
      cases other with
      | groupControl token' =>
          exact handle_alike_groupControl token token' hvenue connection header payload
      | _ => cases hbare
  | plugin supplied =>
      cases other with
      | plugin supplied' =>
          cases hbare
          unfold handle
          simp only
          split
          · exact ⟨rfl, rfl, rfl, hvenue⟩
          · exact ⟨rfl, rfl, rfl, hvenue⟩
          · exact ⟨rfl, rfl, rfl, hvenue⟩
      | _ => cases hbare

end Handler

end Luminaire
