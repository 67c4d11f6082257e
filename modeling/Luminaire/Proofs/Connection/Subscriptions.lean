/-
What a message about subscriptions leads to.

`Subscription.Handled` lists the ways: the message is about something
else, it is refused with a status, a channel is granted, or subscriptions
are given up. Behind a tape every one of them but the first sends exactly
one acknowledgement, and the statuses tell them apart: success is said
only where the books were changed. `handled` says that there is no other
way, and what was checked before a channel is granted is `Grantable`.
-/
import Luminaire.Proofs.Connection.Tape
import Luminaire.Proofs.Framebuffer.Painting
import Luminaire.Proofs.Message.Payloads

namespace Luminaire

/-- Every acknowledgement fits its frame. -/
theorem SubscribeAck.fits (ack : SubscribeAck) :
    (Cbor.encode ack).length ≤ maxPayloadLength :=
  Nat.le_trans ack.length_encode_le (by decide)

theorem UnsubscribeAck.fits (ack : UnsubscribeAck) :
    (Cbor.encode ack).length ≤ maxPayloadLength :=
  Nat.le_trans ack.length_encode_le (by decide)

namespace Subscription

-- ========================================================= requests

/-- What was checked of a request before its channel is granted: the first
channel of that index is known, the run is not empty and lies inside the
channel, one message can carry its pixels, its pixels have indices in the
framebuffer, and the channel is not held already. -/
structure Grantable (channels : List NodeChannel) (held : Held) (request : Subscribe)
    (channel : NodeChannel) (format : PixelFormat) (first : UInt32) : Prop where
  found : channels.find? (fun channel => channel.index == request.channel) = some channel
  known : PixelFormat.ofCode? request.format = some format
  nonempty : request.length ≠ 0
  inside : request.start.toNat + request.length.toNat ≤ channel.pixelCount.toNat
  carried : request.length.toNat * format.bytesPerPixel ≤ maxChannelBytes
  placed : first.toNat = channel.offset.toNat + request.start.toNat
  indexed : first.toNat + request.length.toNat < UInt32.size
  fresh : holds held request.channel = false

theorem toNat_of_checkedAdd? {left right sum : UInt32}
    (hsum : checkedAdd? left right = some sum) :
    sum.toNat = left.toNat + right.toNat ∧ left.toNat + right.toNat < UInt32.size := by
  unfold checkedAdd? at hsum
  split at hsum
  next hfits =>
    cases hsum
    refine ⟨?_, hfits⟩
    rw [UInt32.toNat_add]
    exact Nat.mod_eq_of_lt hfits
  · cases hsum

theorem toNat_of_firstPixel? {offset start length first : UInt32}
    (hfirst : firstPixel? offset start length = some first) :
    first.toNat = offset.toNat + start.toNat
      ∧ first.toNat + length.toNat < UInt32.size := by
  obtain ⟨hadd, hend⟩ := Option.filter_eq_some_iff.1 hfirst
  obtain ⟨stop, hstop⟩ := Option.isSome_iff_exists.1 hend
  exact ⟨(toNat_of_checkedAdd? hadd).1, (toNat_of_checkedAdd? hstop).2⟩

theorem grantable_of_check {channels : List NodeChannel} {held : Held} {request : Subscribe}
    {format : PixelFormat} {first : UInt32}
    (hcheck : check channels held request = .ok (format, first)) :
    ∃ channel, Grantable channels held request channel format first := by
  unfold check at hcheck
  split at hcheck
  · cases hcheck
  next channel hfound =>
    split at hcheck
    · cases hcheck
    · split at hcheck
      · cases hcheck
      next hlength =>
        split at hcheck
        · cases hcheck
        next known hknown =>
          split at hcheck
          · cases hcheck
          next hcarried =>
            split at hcheck
            · cases hcheck
            next pixel hpixel =>
              split at hcheck
              · cases hcheck
              next hfresh =>
                cases hcheck
                obtain ⟨hfirst, hindexed⟩ := toNat_of_firstPixel? hpixel
                obtain ⟨hnonempty, hinside⟩ := not_or.1 hlength
                exact ⟨channel, hfound, hknown, hnonempty, Nat.not_lt.1 hinside,
                  Nat.not_lt.1 hcarried, hfirst, hindexed, Bool.not_eq_true _ ▸ hfresh⟩

/-- A request that cannot be granted is not answered with success. -/
theorem ne_success_of_check {channels : List NodeChannel} {held : Held} {request : Subscribe}
    {status : Status} (hcheck : check channels held request = .error status) :
    status ≠ .success := by
  rintro rfl
  unfold check at hcheck
  split at hcheck
  · cases hcheck
  · split at hcheck
    · cases hcheck
    · split at hcheck
      · cases hcheck
      · split at hcheck
        · cases hcheck
        · split at hcheck
          · cases hcheck
          · split at hcheck
            · cases hcheck
            · split at hcheck
              · cases hcheck
              · cases hcheck

-- ========================================================= handling

/-- The observer of a granted request. -/
def granted (id : ConnectionId) (request : Subscribe) (format : PixelFormat) (first : UInt32) :
    RegionObserver Watcher :=
  ⟨⟨first, request.length⟩,
    .delivery ⟨id, request.channel, ⟨first, request.length⟩, request.start, format⟩⟩

/-- The framebuffer with one observer more. -/
def enlisted (framebuffer : Framebuffer Watcher) (observer : RegionObserver Watcher) :
    Framebuffer Watcher :=
  { framebuffer with observers := (framebuffer.observers.insert observer).2 }

/-- The ways a message about subscriptions can go, behind a tape: what is
held, the framebuffer and the connection afterwards. -/
inductive Handled (id : ConnectionId) (directory : Directory) (held : Held)
    (framebuffer : Framebuffer Watcher) (connection : Connection Tape) (header : Header)
    (payload : Bytes) : Held → Framebuffer Watcher → Connection Tape → Prop where
  /-- It is about something else. -/
  | passed (hsubscribe : header.messageType ≠ Message.messageType Subscribe)
      (hunsubscribe : header.messageType ≠ Message.messageType Unsubscribe) :
      Handled id directory held framebuffer connection header payload held framebuffer
        connection
  /-- A channel is refused. -/
  | refused (htype : header.messageType = Message.messageType Subscribe) (ack : SubscribeAck)
      (hstatus : ack.status ≠ .success) :
      Handled id directory held framebuffer connection header payload held framebuffer
        (connection.say (header.reply (Message.messageType SubscribeAck)) (Cbor.encode ack))
  /-- A channel is granted. -/
  | granted (htype : header.messageType = Message.messageType Subscribe)
      (request : Subscribe) (hrequest : Cbor.decode? payload = some request) (node : Node)
      (hnode : connection.node = some node) (channel : NodeChannel) (format : PixelFormat)
      (first : UInt32)
      (hgrantable : Grantable (directory.channelsOf node.id) held request channel format first) :
      Handled id directory held framebuffer connection header payload
        (⟨request.channel, framebuffer.observers.next⟩ :: held)
        (enlisted framebuffer (Subscription.granted id request format first))
        (connection.say (header.reply (Message.messageType SubscribeAck))
          (Cbor.encode (SubscribeAck.mk .success request.channel)))
  /-- Giving up is refused: the message cannot be read, or nobody is known to
  have sent it. -/
  | kept (htype : header.messageType = Message.messageType Unsubscribe)
      (hrefused : Cbor.decode? (α := Unsubscribe) payload = none ∨ connection.node = none)
      (ack : UnsubscribeAck) (hstatus : ack.status ≠ .success) (hremoved : ack.removed = 0) :
      Handled id directory held framebuffer connection header payload held framebuffer
        (connection.say (header.reply (Message.messageType UnsubscribeAck)) (Cbor.encode ack))
  /-- Subscriptions are given up. -/
  | released (htype : header.messageType = Message.messageType Unsubscribe)
      (request : Unsubscribe) (hrequest : Cbor.decode? payload = some request) :
      Handled id directory held framebuffer connection header payload
        (honour request held framebuffer).1 (honour request held framebuffer).2
        (connection.say (header.reply (Message.messageType UnsubscribeAck))
          (Cbor.encode (UnsubscribeAck.mk .success
            (held.length - (honour request held framebuffer).1.length).toUInt32)))

variable (id : ConnectionId) (directory : Directory) (held : Held)
  (framebuffer : Framebuffer Watcher) (connection : Connection Tape) (header : Header)
  (payload : Bytes)

theorem handled_subscribe (htype : header.messageType = Message.messageType Subscribe) :
    let turn := subscribe id directory held framebuffer connection header payload
    Handled id directory held framebuffer connection header payload turn.held turn.framebuffer
      turn.connection := by
  unfold subscribe
  cases hrequest : Cbor.decode? (α := Subscribe) payload with
  | none =>
      simp only [Connection.answer_of_fits (SubscribeAck.fits _)]
      exact .refused htype _ nofun
  | some request =>
      cases hnode : connection.node with
      | none =>
          simp only [Connection.requireNode, hnode,
            Connection.answer_of_fits (SubscribeAck.fits _)]
          exact .refused htype _ nofun
      | some node =>
          simp only [Connection.requireNode, hnode]
          cases hcheck : check (directory.channelsOf node.id) held request with
          | error status =>
              simp only [Connection.replyWith_of_fits (SubscribeAck.fits _)]
              exact .refused htype _ (ne_success_of_check hcheck)
          | ok parts =>
              obtain ⟨format, first⟩ := parts
              obtain ⟨channel, hgrantable⟩ := grantable_of_check hcheck
              simp only [Connection.replyWith_of_fits (SubscribeAck.fits _)]
              exact .granted htype request hrequest node hnode channel format first hgrantable

theorem handled_unsubscribe (htype : header.messageType = Message.messageType Unsubscribe) :
    let turn := unsubscribe held framebuffer connection header payload
    Handled id directory held framebuffer connection header payload turn.held turn.framebuffer
      turn.connection := by
  unfold unsubscribe
  cases hrequest : Cbor.decode? (α := Unsubscribe) payload with
  | none =>
      simp only [Connection.answer_of_fits (UnsubscribeAck.fits _)]
      exact .kept htype (.inl hrequest) _ nofun rfl
  | some request =>
      cases hnode : connection.node with
      | none =>
          simp only [Connection.requireNode, hnode,
            Connection.answer_of_fits (UnsubscribeAck.fits _)]
          exact .kept htype (.inr hnode) _ nofun rfl
      | some node =>
          simp only [Connection.requireNode, hnode,
            Connection.replyWith_of_fits (UnsubscribeAck.fits _)]
          exact .released htype request hrequest

/-- There is no other way. -/
theorem handled :
    let turn := handle id directory held framebuffer connection header payload
    Handled id directory held framebuffer connection header payload turn.held turn.framebuffer
      turn.connection := by
  unfold handle
  by_cases hsubscribe : header.messageType = Message.messageType Subscribe
  · rw [if_pos hsubscribe]
    exact handled_subscribe id directory held framebuffer connection header payload hsubscribe
  · rw [if_neg hsubscribe]
    by_cases hunsubscribe : header.messageType = Message.messageType Unsubscribe
    · rw [if_pos hunsubscribe]
      exact handled_unsubscribe id directory held framebuffer connection header payload
        hunsubscribe
    · rw [if_neg hunsubscribe]
      exact .passed hsubscribe hunsubscribe

variable {id directory held framebuffer connection header payload}

/-- All of them are answers. -/
theorem Handled.answers {held' : Held} {framebuffer' : Framebuffer Watcher}
    {connection' : Connection Tape}
    (hhandled : Handled id directory held framebuffer connection header payload held'
      framebuffer' connection') : connection.Answers connection' := by
  have hsay : ∀ {α : Type} [Message α] (message : α), Message.messageType α ≠ 0x05 →
      (Cbor.encode message).length ≤ maxPayloadLength → connection.Answers
        (connection.say (header.reply (Message.messageType α)) (Cbor.encode message)) := by
    intro α _ message htype hfits
    have hanswers := connection.answers_replyWith header message htype
    rw [Connection.replyWith_of_fits hfits] at hanswers
    exact hanswers
  cases hhandled with
  | passed => exact connection.answers_refl
  | refused _ ack => exact hsay ack (by decide) ack.fits
  | granted => exact hsay (SubscribeAck.mk _ _) (by decide) (SubscribeAck.fits _)
  | kept _ _ ack => exact hsay ack (by decide) ack.fits
  | released => exact hsay (UnsubscribeAck.mk _ _) (by decide) (UnsubscribeAck.fits _)

-- ================================================== acknowledgements

/-- The status that an acknowledgement about subscriptions carries. -/
def ackStatus? (datagram : Bytes) : Option Status :=
  match unframe (H := Header) datagram with
  | .error _ => none
  | .ok (header, payload) =>
      if header.messageType = Message.messageType SubscribeAck then
        (Cbor.decode? (α := SubscribeAck) payload).map SubscribeAck.status
      else if header.messageType = Message.messageType UnsubscribeAck then
        (Cbor.decode? (α := UnsubscribeAck) payload).map UnsubscribeAck.status
      else none

theorem ackStatus?_subscribeAck (request : Header) (ack : SubscribeAck) :
    ackStatus? (framed (request.reply (Message.messageType SubscribeAck)) (Cbor.encode ack))
      = some ack.status := by
  have hdecode : Cbor.decode? (Cbor.encode ack) = some ack :=
    Cbor.decode?_encode SubscribeAck.faithful
      (Nat.lt_of_le_of_lt ack.length_encode_le (by decide))
  rw [ackStatus?, Connection.unframe_reply ack.fits]
  show (if (0x02 : UInt8) = 0x02 then _ else _) = _
  rw [if_pos rfl, hdecode, Option.map_some]

theorem ackStatus?_unsubscribeAck (request : Header) (ack : UnsubscribeAck) :
    ackStatus? (framed (request.reply (Message.messageType UnsubscribeAck)) (Cbor.encode ack))
      = some ack.status := by
  have hdecode : Cbor.decode? (Cbor.encode ack) = some ack :=
    Cbor.decode?_encode UnsubscribeAck.faithful
      (Nat.lt_of_le_of_lt ack.length_encode_le (by decide))
  rw [ackStatus?, Connection.unframe_reply ack.fits]
  show (if (0x04 : UInt8) = 0x02 then _ else if (0x04 : UInt8) = 0x04 then _ else _) = _
  rw [if_neg (by decide), if_pos rfl, hdecode, Option.map_some]

variable {held' : Held} {framebuffer' : Framebuffer Watcher} {connection' : Connection Tape}

/-- A message about subscriptions is answered with one acknowledgement, and
nothing changes unless that says success. -/
theorem Handled.answer
    (hhandled : Handled id directory held framebuffer connection header payload held'
      framebuffer' connection')
    (htype : header.messageType = Message.messageType Subscribe
      ∨ header.messageType = Message.messageType Unsubscribe) :
    ∃ datagram status, connection'.sink.sent = connection.sink.sent ++ [datagram]
      ∧ ackStatus? datagram = some status
      ∧ (status ≠ .success → held' = held ∧ framebuffer' = framebuffer) := by
  cases hhandled with
  | passed hsubscribe hunsubscribe => exact absurd htype (not_or.2 ⟨hsubscribe, hunsubscribe⟩)
  | refused _ ack =>
      exact ⟨_, ack.status, rfl, ackStatus?_subscribeAck header ack, fun _ => ⟨rfl, rfl⟩⟩
  | granted _ request =>
      exact ⟨_, .success, rfl, ackStatus?_subscribeAck header ⟨.success, request.channel⟩,
        fun hne => absurd rfl hne⟩
  | kept _ _ ack =>
      exact ⟨_, ack.status, rfl, ackStatus?_unsubscribeAck header ack, fun _ => ⟨rfl, rfl⟩⟩
  | released =>
      exact ⟨_, .success, rfl, ackStatus?_unsubscribeAck header ⟨.success, _⟩,
        fun hne => absurd rfl hne⟩

/-- What is acknowledged with success as given up has been given up. -/
theorem Handled.honours
    (hhandled : Handled id directory held framebuffer connection header payload held'
      framebuffer' connection')
    (htype : header.messageType = Message.messageType Unsubscribe) {request : Unsubscribe}
    (hrequest : Cbor.decode? payload = some request) {datagram : Bytes}
    (hsent : connection'.sink.sent = connection.sink.sent ++ [datagram])
    (hsuccess : ackStatus? datagram = some .success) :
    (held', framebuffer') = honour request held framebuffer := by
  have hdiffer : Message.messageType Subscribe ≠ Message.messageType Unsubscribe := by decide
  cases hhandled with
  | passed _ hunsubscribe => exact absurd htype hunsubscribe
  | refused hsubscribe => exact absurd (hsubscribe.symm.trans htype) hdiffer
  | granted hsubscribe => exact absurd (hsubscribe.symm.trans htype) hdiffer
  | kept _ _ ack hstatus =>
      obtain rfl := List.singleton_inj.1 (List.append_cancel_left hsent)
      rw [ackStatus?_unsubscribeAck] at hsuccess
      exact absurd (Option.some.inj hsuccess) hstatus
  | released _ other hother =>
      obtain rfl := Option.some.inj (hother.symm.trans hrequest)
      rfl

/-- A node's readable wish to give up is acknowledged with success. -/
theorem Handled.success_of_node
    (hhandled : Handled id directory held framebuffer connection header payload held'
      framebuffer' connection')
    (htype : header.messageType = Message.messageType Unsubscribe) {request : Unsubscribe}
    (hrequest : Cbor.decode? payload = some request) (hnode : connection.node ≠ none) :
    ∃ datagram, connection'.sink.sent = connection.sink.sent ++ [datagram]
      ∧ ackStatus? datagram = some .success := by
  have hdiffer : Message.messageType Subscribe ≠ Message.messageType Unsubscribe := by decide
  cases hhandled with
  | passed _ hunsubscribe => exact absurd htype hunsubscribe
  | refused hsubscribe => exact absurd (hsubscribe.symm.trans htype) hdiffer
  | granted hsubscribe => exact absurd (hsubscribe.symm.trans htype) hdiffer
  | kept _ hrefused =>
      rcases hrefused with hunread | hnobody
      · rw [hrequest] at hunread
        cases hunread
      · exact absurd hnobody hnode
  | released => exact ⟨_, rfl, ackStatus?_unsubscribeAck header ⟨.success, _⟩⟩

/-- The acknowledgement of a wish to give up counts what was given up. -/
theorem Handled.count
    (hhandled : Handled id directory held framebuffer connection header payload held'
      framebuffer' connection')
    (htype : header.messageType = Message.messageType Unsubscribe) :
    ∃ (ack : UnsubscribeAck) (removed : Nat),
      connection'.sink.sent = connection.sink.sent
          ++ [framed (header.reply (Message.messageType UnsubscribeAck)) (Cbor.encode ack)]
        ∧ held.length = held'.length + removed ∧ ack.removed = removed.toUInt32 := by
  have hdiffer : Message.messageType Subscribe ≠ Message.messageType Unsubscribe := by decide
  cases hhandled with
  | passed _ hunsubscribe => exact absurd htype hunsubscribe
  | refused hsubscribe => exact absurd (hsubscribe.symm.trans htype) hdiffer
  | granted hsubscribe => exact absurd (hsubscribe.symm.trans htype) hdiffer
  | kept _ _ ack _ hremoved => exact ⟨ack, 0, rfl, rfl, hremoved⟩
  | released _ request =>
      have hle : (honour request held framebuffer).1.length ≤ held.length :=
        List.length_filter_le _ held
      exact ⟨_, _, rfl, (Nat.add_sub_cancel' hle).symm, rfl⟩

-- ========================================================= releasing

theorem release_all_fst (held : Held) (framebuffer : Framebuffer Watcher) :
    (release (fun _ => true) held framebuffer).1 = [] :=
  List.filter_eq_nil_iff.2 fun _ _ => Bool.false_ne_true

/-- Releasing takes out the observers of what was meant and no others. -/
theorem release_snd (meant : Subscription → Bool) (held : Held)
    (framebuffer : Framebuffer Watcher) :
    (release meant held framebuffer).2
      = { framebuffer with
          observers := { framebuffer.observers with
            entries := framebuffer.observers.entries.filter fun entry =>
              entry.1 ∉ (held.filter meant).map token } } := by
  unfold release
  simp only
  generalize held.filter meant = gone
  induction gone generalizing framebuffer with
  | nil => rw [List.foldl_nil, List.filter_eq_self.2 fun _ _ => by simp]
  | cons subscription gone ih =>
      rw [List.foldl_cons, ih]
      have hentries : (framebuffer.unobserve subscription.token).observers.entries.filter
          (fun entry => entry.1 ∉ gone.map token)
            = framebuffer.observers.entries.filter
              fun entry => entry.1 ∉ (subscription :: gone).map token := by
        show (framebuffer.observers.entries.filter _).filter _ = _
        rw [List.filter_filter]
        refine List.filter_congr fun entry _ => ?_
        rw [List.map_cons, Bool.eq_iff_iff, Bool.and_eq_true, decide_eq_true_iff, bne_iff_ne,
          decide_eq_true_iff, List.mem_cons, not_or, and_comm]
      rw [hentries]
      rfl

end Subscription

-- ========================================================= delivery

/-- There are pixels to deliver, and one message can carry them. -/
structure Delivery.Carried (delivery : Delivery) : Prop where
  nonempty : delivery.region.length ≠ 0
  bounded : delivery.region.length.toNat * delivery.format.bytesPerPixel ≤ maxChannelBytes

namespace Subscription

/-- The message of a delivery that can be carried is as long as that allows. -/
theorem length_channelData_le {delivery : Delivery} (hcarried : delivery.Carried)
    {pixels : List Pixel} (hlength : pixels.length = delivery.region.length.toNat)
    (frameNumber : UInt64) :
    (Cbor.encode (channelData delivery frameNumber pixels)).length
      ≤ maxChannelBytes + channelDataOverhead := by
  have hbytes : (encodePixels delivery.format pixels).length ≤ maxChannelBytes := by
    rw [length_encodePixels, hlength]
    exact hcarried.bounded
  have hlimit : maxChannelBytes < 256 ^ 4 := by decide
  have hencoded := ChannelData.length_encode_le (channelData delivery frameNumber pixels)
    (Nat.lt_of_le_of_lt hbytes hlimit)
  exact Nat.le_trans hencoded (Nat.add_le_add_right hbytes _)

/-- So it fits its frame. -/
theorem fits_channelData {delivery : Delivery} (hcarried : delivery.Carried)
    {pixels : List Pixel} (hlength : pixels.length = delivery.region.length.toNat)
    (frameNumber : UInt64) :
    (Cbor.encode (channelData delivery frameNumber pixels)).length ≤ maxPayloadLength :=
  Nat.le_trans (length_channelData_le hcarried hlength frameNumber) (by decide)

variable {held : Held} {token : Token} {delivery : Delivery}

theorem isLive_iff :
    isLive held token delivery = true ↔ ⟨delivery.channel, token⟩ ∈ held := by
  unfold isLive
  rw [List.any_eq_true]
  constructor
  · rintro ⟨subscription, hmem, hsame⟩
    rw [Bool.and_eq_true, beq_iff_eq, beq_iff_eq] at hsame
    rw [← hsame.1, ← hsame.2]
    exact hmem
  · intro hmem
    exact ⟨_, hmem, by rw [beq_self_eq_true, beq_self_eq_true, Bool.and_self]⟩

/-- A subscription that is held is sent its pixels. -/
theorem deliver_of_held (hheld : ⟨delivery.channel, token⟩ ∈ held)
    {framebuffer : Framebuffer Watcher} (hinside : delivery.region.stop ≤ framebuffer.size)
    (hcarried : delivery.Carried) (connection : Connection Tape) (frameNumber : UInt64) :
    deliver held framebuffer connection frameNumber token delivery
      = connection.pushed .pixelData
        (channelData delivery frameNumber (framebuffer.slice delivery.region)) := by
  unfold deliver
  rw [if_pos (isLive_iff.2 hheld), Framebuffer.copy_of_inside hinside]
  simp only
  rw [Connection.pushWith_of_fits
    (fits_channelData hcarried (Framebuffer.length_slice hinside) frameNumber)]

/-- One that was given up is sent nothing. -/
theorem deliver_of_gone (hgone : ⟨delivery.channel, token⟩ ∉ held)
    (framebuffer : Framebuffer Watcher) (connection : Connection Tape) (frameNumber : UInt64) :
    deliver held framebuffer connection frameNumber token delivery = connection :=
  if_neg (fun hlive => hgone (isLive_iff.1 hlive))

/-- Nor is one that reaches beyond the framebuffer. -/
theorem deliver_of_outside {framebuffer : Framebuffer Watcher}
    (houtside : ¬ delivery.region.stop ≤ framebuffer.size) (held : Held) (token : Token)
    (connection : Connection Tape) (frameNumber : UInt64) :
    deliver held framebuffer connection frameNumber token delivery = connection := by
  unfold deliver
  split
  · rw [Framebuffer.copy, Framebuffer.check, if_neg houtside]
  · rfl

/-- A delivery takes a tag if anything is sent. -/
theorem numbered_deliver {connection : Connection Tape} (hnumbered : connection.Numbered)
    (hcarried : delivery.Carried) (held : Held) (framebuffer : Framebuffer Watcher)
    (frameNumber : UInt64) (token : Token) :
    (deliver held framebuffer connection frameNumber token delivery).Numbered := by
  by_cases hheld : ⟨delivery.channel, token⟩ ∈ held
  · by_cases hinside : delivery.region.stop ≤ framebuffer.size
    · rw [deliver_of_held hheld hinside hcarried]
      exact hnumbered.pushed
        (fits_channelData hcarried (Framebuffer.length_slice hinside) frameNumber)
        (.inl ⟨rfl, rfl⟩)
    · rw [deliver_of_outside hinside]
      exact hnumbered
  · rw [deliver_of_gone hheld]
    exact hnumbered

end Subscription

end Luminaire
