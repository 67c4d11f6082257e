/-
Pixels reach the subscriptions that are held, and no others.

When a region is finished, every subscription whose own region shares a
pixel with it is sent its pixels once, on its own connection and under the
next tag of that connection (`sent_finish`). The region stands in two
places, with the observer and in the delivery: `Framebuffer.Orderly` says
that they are the same, so who is due and what is copied fit together.

Telling one observer is the step (`Rig.Kept.sent_tell`). A callback may
run long after it became due; it looks at what is held then, and a token
is never given twice, so a subscription that is gone once is sent nothing
any more (`gone_for_good`). That is what giving up relies on: whatever was
given up is sent nothing, also by callbacks that were under way
(`silent_after`).
-/
import Luminaire.Proofs.Framebuffer.Observation
import Luminaire.Proofs.Server.Bookkeeping

namespace Luminaire

-- ============================================================ telling

/-- The datagram of a delivery, under the tag of the `number`th push. -/
def Delivery.datagram (delivery : Delivery) (framebuffer : Framebuffer Watcher)
    (frameNumber : UInt64) (number : Nat) : Bytes :=
  framed (Header.new .pixelData (Message.messageType ChannelData) number.toUInt8)
    (Cbor.encode
      (Subscription.channelData delivery frameNumber (framebuffer.slice delivery.region)))

/-- It is a push under the tag of its number. -/
theorem Delivery.pushTag?_datagram {delivery : Delivery} (hcarried : delivery.Carried)
    {framebuffer : Framebuffer Watcher} (hinside : delivery.region.stop ≤ framebuffer.size)
    (frameNumber : UInt64) (number : Nat) :
    pushTag? (delivery.datagram framebuffer frameNumber number) = some number.toUInt8 :=
  pushTag?_of_push rfl (.inl ⟨rfl, rfl⟩)
    (Subscription.fits_channelData hcarried (Framebuffer.length_slice hinside) frameNumber)

namespace Rig

variable {rig : Rig Tape} {id : ConnectionId} {delivery : Delivery}

/-- The tags of the pushes on a connection, oldest first. -/
def pushTags (rig : Rig Tape) (id : ConnectionId) : List UInt8 := (rig.sent id).filterMap pushTag?

/-- The next push on a connection is numbered on from those before it. -/
theorem Kept.nextTag_eq (hkept : rig.Kept) {station : Station Tape}
    (hfound : rig.station? id = some station) :
    station.connection.nextTag = (rig.pushTags id).length.toUInt8 := by
  have hsent : rig.sent id = station.connection.sink.sent := by
    rw [sent, hfound]
    rfl
  rw [pushTags, hsent]
  exact (hkept.sound station (mem_of_station? hfound).1).tags.next

/-- Telling one observer sends its connection one message if the subscription
is held and lies inside the framebuffer, and nothing otherwise. -/
theorem Kept.sent_tell (hkept : rig.Kept) (hcarried : delivery.Carried) (frameNumber : UInt64)
    (token : Token) (id : ConnectionId) :
    (rig.tell frameNumber token (.delivery delivery)).sent id
      = rig.sent id
        ++ if delivery.connection = id ∧ ⟨delivery.channel, token⟩ ∈ rig.held id
              ∧ delivery.region.stop ≤ rig.venue.framebuffer.size then
            [delivery.datagram rig.venue.framebuffer frameNumber (rig.pushTags id).length]
          else [] := by
  have hsame : ∀ other, ∀ station : Station Tape, station.id = other →
      (station.deliver rig.venue.framebuffer frameNumber token delivery).id = other :=
    fun _ _ hid => hid
  by_cases hid : delivery.connection = id
  · subst hid
    show (rig.modify _ _).sent _ = _
    cases hfound : rig.station? delivery.connection with
    | none =>
        have hheld : ⟨delivery.channel, token⟩ ∉ rig.held delivery.connection := by
          rw [held, hfound]
          exact List.not_mem_nil
        rw [modify_of_none hfound, if_neg fun hall => hheld hall.2.1, List.append_nil]
    | some station =>
        have hheld : rig.held delivery.connection = station.held?.getD [] := by
          rw [held, hfound, ← Station.held_eq]
          rfl
        have hsent : rig.sent delivery.connection = station.connection.sink.sent := by
          rw [sent, hfound]
          rfl
        have htag := hkept.nextTag_eq hfound
        rw [hheld, hsent, sent, station?_modify hfound (hsame _)]
        show (Subscription.deliver (station.held?.getD []) rig.venue.framebuffer
          station.connection frameNumber token delivery).sink.sent = _
        by_cases hmem : ⟨delivery.channel, token⟩ ∈ station.held?.getD []
        · by_cases hinside : delivery.region.stop ≤ rig.venue.framebuffer.size
          · rw [Subscription.deliver_of_held hmem hinside hcarried, if_pos ⟨rfl, hmem, hinside⟩,
              Delivery.datagram, ← htag]
            rfl
          · rw [Subscription.deliver_of_outside hinside, if_neg fun hall => hinside hall.2.2,
              List.append_nil]
        · rw [Subscription.deliver_of_gone hmem, if_neg fun hall => hmem hall.2.1,
            List.append_nil]
  · rw [if_neg fun hall => hid hall.1, List.append_nil]
    show (rig.modify _ _).sent id = _
    rw [sent, rig.station?_modify_of_ne hid (hsame _)]
    rfl

/-- Telling some of the observers, one after the other, sends a connection the
pixels of its own, in that order and under tags that count on. -/
theorem Kept.sent_foldl_tell (hkept : rig.Kept) (frameNumber : UInt64) (id : ConnectionId)
    {due : List (Token × RegionObserver Watcher)}
    (hdue : ∀ entry ∈ due, entry ∈ rig.venue.framebuffer.observers.entries) :
    (due.foldl (fun rig entry => rig.tell frameNumber entry.1 entry.2.observer) rig).sent id
      = rig.sent id
        ++ ((due.filterMap (Delivery.behind? id)).filter fun delivery =>
            delivery.region.stop ≤ rig.venue.framebuffer.size).mapIdx fun index delivery =>
          delivery.datagram rig.venue.framebuffer frameNumber
            ((rig.pushTags id).length + index) := by
  induction due generalizing rig with
  | nil => exact (List.append_nil _).symm
  | cons entry due ih =>
      obtain ⟨hentry, hrest⟩ := List.forall_mem_cons.1 hdue
      obtain ⟨token, observer⟩ := entry
      obtain ⟨delivery, rfl : observer = _, -, hcarried⟩ := hkept.orderly.owned _ hentry
      have hwatched : ∀ other, Watcher.delivery delivery = .delivery other → other.Carried :=
        fun other hother => by cases hother; exact hcarried
      have htold := KeptWith.tell ⟨hkept, rfl⟩ hwatched frameNumber token
      have hvenue := rig.venue_tell frameNumber token (.delivery delivery)
      have hsent := hkept.sent_tell hcarried frameNumber token id
      rw [List.foldl_cons, ih htold.kept (by rw [hvenue]; exact hrest), hvenue]
      have hheld : ⟨delivery.channel, token⟩ ∈ rig.held delivery.connection := by
        rw [hkept.held_eq, List.mem_reverse, Framebuffer.mem_booked_iff]
        exact ⟨_, hentry, if_pos rfl⟩
      have howed := Delivery.behind?_delivery id token delivery
      by_cases hid : delivery.connection = id
      · subst hid
        rw [if_pos rfl] at howed
        by_cases hinside : delivery.region.stop ≤ rig.venue.framebuffer.size
        · rw [if_pos ⟨rfl, hheld, hinside⟩] at hsent
          have htags : ((rig.tell frameNumber token (.delivery delivery)).pushTags
              delivery.connection).length = (rig.pushTags delivery.connection).length + 1 := by
            rw [pushTags, hsent, List.filterMap_append, List.length_append, List.filterMap_cons,
              Delivery.pushTag?_datagram hcarried hinside]
            rfl
          rw [hsent, htags, List.filterMap_cons_some howed, List.filter_cons,
            if_pos (decide_eq_true hinside), List.mapIdx_cons, List.append_assoc]
          simp only [Nat.add_assoc, Nat.add_comm 1]
          rfl
        · rw [if_neg fun hall => hinside hall.2.2, List.append_nil] at hsent
          rw [pushTags, hsent, List.filterMap_cons_some howed, List.filter_cons,
            if_neg fun hkeep => hinside (of_decide_eq_true hkeep)]
          rfl
      · rw [if_neg fun hall => hid hall.1, List.append_nil] at hsent
        rw [if_neg hid] at howed
        rw [pushTags, hsent, List.filterMap_cons_none howed]
        rfl

/-- The tags of the pushes on a connection count up from zero. -/
theorem Kept.pushTags_eq (hkept : rig.Kept) (id : ConnectionId) :
    rig.pushTags id = (List.range (rig.pushTags id).length).map Nat.toUInt8 := by
  unfold pushTags sent
  cases hfound : rig.station? id with
  | none => rfl
  | some station => exact (hkept.sound station (mem_of_station? hfound).1).tags.tags

end Rig

-- ======================================================== subscriptions

/-- Who is told by a callback, and for which subscription. -/
def Callback.owner? (callback : Callback) : Option (ConnectionId × Subscription) :=
  match callback.watcher with
  | .delivery delivery => some (delivery.connection, ⟨delivery.channel, callback.token⟩)
  | .outsider _ => none

theorem Callback.owner?_of_entry (frameNumber : UInt64)
    (entry : Token × RegionObserver Watcher) :
    owner? ⟨frameNumber, entry.1, entry.2.observer⟩ = Subscription.owner? entry := by
  unfold owner? Subscription.owner?
  cases entry.2.observer with
  | delivery delivery => rfl
  | outsider number => rfl

namespace Grant

/-- The message that carries the pixels of a granted channel. -/
def data (grant : Grant) (framebuffer : Framebuffer Watcher) (frameNumber : UInt64) :
    ChannelData :=
  ⟨grant.request.channel, grant.request.start, grant.format.code, frameNumber,
    encodePixels grant.format (framebuffer.slice grant.region)⟩

/-- The datagram of that message, as the `number`th push of its connection. -/
def push (grant : Grant) (framebuffer : Framebuffer Watcher) (frameNumber : UInt64)
    (number : Nat) : Bytes :=
  framed (Header.new .pixelData (Message.messageType ChannelData) number.toUInt8)
    (Cbor.encode (grant.data framebuffer frameNumber))

theorem datagram_delivery (grant : Grant) (id : ConnectionId)
    (framebuffer : Framebuffer Watcher) (frameNumber : UInt64) (number : Nat) :
    (grant.delivery id).datagram framebuffer frameNumber number
      = grant.push framebuffer frameNumber number := rfl

/-- As many bytes as the pixels take, if they all are there. -/
theorem length_data {grant : Grant} {framebuffer : Framebuffer Watcher}
    (hinside : grant.region.stop ≤ framebuffer.size) (frameNumber : UInt64) :
    (grant.data framebuffer frameNumber).pixels.length
      = grant.request.length.toNat * grant.format.bytesPerPixel := by
  rw [data, length_encodePixels, Framebuffer.length_slice hinside]
  rfl

end Grant

theorem PixelFormat.code_of_ofCode? {format : PixelFormat} {code : UInt8}
    (hcode : ofCode? code = some format) : format.code = code := by
  refine UInt8.toNat_inj.1 ?_
  unfold ofCode? at hcode
  split at hcode
  next hzero => cases hcode; exact hzero.symm
  next hone => cases hcode; exact hone.symm
  · cases hcode

namespace Scene

variable {scene : Scene} {id : ConnectionId} {subscription : Subscription}
  {venue : Venue} {cues : List Cue} {grant : Grant}

/-- The tags of the pushes on a connection, oldest first. -/
def pushTags (scene : Scene) (id : ConnectionId) : List UInt8 := scene.rig.pushTags id

/-- A granted channel has the format that was asked for. -/
theorem Granted.code_eq (hgranted : Granted venue cues id subscription grant) :
    grant.format.code = grant.request.format := by
  obtain ⟨early, late, -, hgrants, -⟩ := hgranted
  obtain ⟨station, node, -, -, -, hgrantable⟩ := hgrants.grantable
  exact PixelFormat.code_of_ofCode? hgrantable.known

/-- The observer with the token of a subscription waits for what was granted. -/
theorem Granted.delivery_eq (hgranted : Granted venue cues id subscription grant)
    {delivery : Delivery}
    (hentry : (subscription.token, ⟨delivery.region, .delivery delivery⟩)
      ∈ (after venue cues).registered) : delivery = grant.delivery id := by
  obtain ⟨early, late, -, -, -, -, hregistered, -⟩ := hgranted
  have hsame := List.inj_on_of_nodup_map (kept_after venue cues).rig.orderly.tokens hentry
    hregistered rfl
  exact Watcher.delivery.inj (RegionObserver.mk.inj (Prod.mk.inj hsame).2).2

/-- The observers of a connection stand for its subscriptions, and wait for
what was granted to these. -/
theorem exists_granted_list (venue : Venue) (cues : List Cue) (id : ConnectionId)
    {entries : List (Token × RegionObserver Watcher)}
    (hentries : ∀ entry ∈ entries, entry ∈ (after venue cues).registered) :
    ∃ granted : List (Subscription × Grant),
      granted.map Prod.fst = entries.filterMap (Subscription.behind? id)
        ∧ granted.map (fun pair => pair.2.delivery id)
          = entries.filterMap (Delivery.behind? id)
        ∧ ∀ pair ∈ granted, Granted venue cues id pair.1 pair.2 := by
  have hkept := kept_after venue cues
  induction entries with
  | nil => exact ⟨[], rfl, rfl, nofun⟩
  | cons entry entries ih =>
      obtain ⟨hentry, hrest⟩ := List.forall_mem_cons.1 hentries
      obtain ⟨granted, hfirst, hsecond, hall⟩ := ih hrest
      obtain ⟨token, observer⟩ := entry
      obtain ⟨delivery, rfl : observer = _, -, -⟩ := hkept.rig.orderly.owned _ hentry
      have hsubscription := Subscription.behind?_delivery id token delivery
      have hdelivery := Delivery.behind?_delivery id token delivery
      by_cases hid : delivery.connection = id
      · subst hid
        rw [if_pos rfl] at hsubscription hdelivery
        have hmem : ⟨delivery.channel, token⟩ ∈ (after venue cues).held delivery.connection :=
          hkept.mem_held_iff.2 ⟨_, hentry, rfl⟩
        obtain ⟨grant, hgranted⟩ := exists_granted venue cues hmem
        refine ⟨(⟨delivery.channel, token⟩, grant) :: granted, ?_, ?_,
          List.forall_mem_cons.2 ⟨hgranted, hall⟩⟩
        · rw [List.filterMap_cons_some hsubscription, List.map_cons, hfirst]
        · rw [List.filterMap_cons_some hdelivery, List.map_cons, hsecond,
            ← hgranted.delivery_eq hentry]
      · rw [if_neg hid] at hsubscription hdelivery
        refine ⟨granted, ?_, ?_, hall⟩
        · rw [List.filterMap_cons_none hsubscription, hfirst]
        · rw [List.filterMap_cons_none hdelivery, hsecond]

/-- Who is due is who has an observer whose region shares a pixel with the one
that is finished. -/
theorem Kept.due_eq (hkept : scene.Kept) {region : Region} (hregion : region.length ≠ 0) :
    scene.rig.venue.framebuffer.due region
      = scene.registered.filter fun entry => entry.2.region.Meets region := by
  refine List.filter_congr fun entry hentry => ?_
  obtain ⟨delivery, howned, -, hcarried⟩ := hkept.rig.orderly.owned entry hentry
  rw [Bool.eq_iff_iff, decide_eq_true_iff, howned]
  exact Region.overlaps_iff_meets hcarried.nonempty hregion

/-- So the deliveries that are due are those whose regions share a pixel. -/
theorem Kept.deliveries_due (hkept : scene.Kept) {region : Region} (hregion : region.length ≠ 0)
    (id : ConnectionId) :
    (scene.rig.venue.framebuffer.due region).filterMap (Delivery.behind? id)
      = (scene.registered.filterMap (Delivery.behind? id)).filter fun delivery =>
        delivery.region.Meets region := by
  rw [hkept.due_eq hregion, List.filterMap_filter, List.filter_filterMap]
  refine List.filterMap_congr fun entry hentry => ?_
  obtain ⟨token, observer⟩ := entry
  obtain ⟨delivery, rfl : observer = _, -, -⟩ := hkept.rig.orderly.owned _ hentry
  rw [Delivery.behind?_delivery]
  by_cases hid : delivery.connection = id
  · rw [if_pos hid]
    simp [Option.filter]
  · rw [if_neg hid]
    simp

/-- A finished region is sent, once each, to the subscriptions that share a
pixel with it and lie inside the framebuffer. -/
theorem sent_finish (venue : Venue) (cues : List Cue) {region : Region}
    (hregion : region.length ≠ 0) (frameNumber : UInt64) (id : ConnectionId) :
    let scene := after venue cues
    let framebuffer := scene.rig.venue.framebuffer
    ∃ granted : List (Subscription × Grant),
      granted.map Prod.fst = (scene.held id).reverse
        ∧ (∀ pair ∈ granted, Granted venue cues id pair.1 pair.2)
        ∧ (scene.step (.apart (.finish region frameNumber))).sent id
          = scene.sent id
            ++ ((granted.map Prod.snd).filter fun grant =>
                grant.region.Meets region ∧ grant.region.stop ≤ framebuffer.size).mapIdx
              fun index grant =>
                grant.push framebuffer frameNumber ((scene.pushTags id).length + index) := by
  intro scene framebuffer
  have hkept : scene.Kept := kept_after venue cues
  obtain ⟨granted, hfirst, hsecond, hall⟩ :=
    @exists_granted_list venue cues id scene.registered fun _ hentry => hentry
  refine ⟨granted, ?_, hall, ?_⟩
  · rw [held, hkept.rig.held_eq, List.reverse_reverse]
    exact hfirst
  · have hdue := fun entry (hentry : entry ∈ framebuffer.due region) =>
      (List.mem_filter.1 hentry).1
    have hsent := hkept.rig.sent_foldl_tell frameNumber id hdue
    refine hsent.trans (congrArg (scene.sent id ++ ·) ?_)
    have hdeliveries : (granted.map Prod.snd).map (Grant.delivery · id)
        = scene.registered.filterMap (Delivery.behind? id) := by
      rw [← hsecond, List.map_map]
      rfl
    have howed : ((framebuffer.due region).filterMap (Delivery.behind? id)).filter
          (fun delivery => delivery.region.stop ≤ framebuffer.size)
        = ((granted.map Prod.snd).filter fun grant =>
            grant.region.Meets region ∧ grant.region.stop ≤ framebuffer.size).map
          (Grant.delivery · id) := by
      rw [hkept.deliveries_due hregion, ← hdeliveries, List.filter_filter, List.filter_map]
      refine congrArg (List.map _) (List.filter_congr fun grant _ => ?_)
      rw [Bool.decide_and, Bool.and_comm]
      rfl
    rw [howed]
    refine List.ext_getElem (by simp only [List.length_mapIdx, List.length_map])
      fun index _ _ => ?_
    rw [List.getElem_mapIdx, List.getElem_map, List.getElem_mapIdx, Grant.datagram_delivery]
    rfl

-- ========================================================= callbacks

/-- A subscription that is gone while a callback for it is under way will
never be held again. -/
theorem gone_for_good (venue : Venue) (cues : List Cue) {callback : Callback}
    (hcallback : callback ∈ (after venue cues).underway)
    (howner : callback.owner? = some (id, subscription))
    (hgone : subscription ∉ (after venue cues).held id) (more : List Cue) :
    subscription ∉ (after venue (cues ++ more)).held id := by
  intro hmem
  have hkept := kept_after venue cues
  obtain ⟨delivery, hdelivery, -, hgiven, -⟩ := hkept.underway callback hcallback
  rw [Callback.owner?, hdelivery] at howner
  obtain ⟨rfl, rfl⟩ := Prod.mk.inj (Option.some.inj howner)
  obtain ⟨entry, hentry, hheld⟩ := (kept_after venue (cues ++ more)).mem_held_iff.1 hmem
  have htoken : entry.1 = callback.token := (Subscription.token_of_owner? hheld).symm
  rcases (follows_after venue cues more).old_or_new entry hentry with hold | hnew
  · exact hgone (hkept.mem_held_iff.2 ⟨entry, hold, hheld⟩)
  · exact absurd (htoken ▸ hnew) (Nat.not_le_of_lt hgiven)

/-- A callback that runs sends one message if its subscription is still held
and lies inside the framebuffer, and nothing otherwise. -/
theorem sent_tell (venue : Venue) (cues : List Cue) {index : Nat} {callback : Callback}
    (hcallback : (after venue cues).underway[index]? = some callback) :
    let scene := after venue cues
    let later := scene.step (.tell index)
    ∃ id subscription, callback.owner? = some (id, subscription)
      ∧ (∀ other, other ≠ id → later.sent other = scene.sent other)
      ∧ (subscription ∉ scene.held id → later.sent id = scene.sent id)
      ∧ (subscription ∈ scene.held id → ∃ grant, Granted venue cues id subscription grant
        ∧ later.sent id = scene.sent id
          ++ if grant.region.stop ≤ scene.rig.venue.framebuffer.size then
              [grant.push scene.rig.venue.framebuffer callback.frameNumber
                (scene.pushTags id).length]
            else []) := by
  intro scene later
  have hkept : scene.Kept := kept_after venue cues
  obtain ⟨delivery, hdelivery, hcarried, -, hsame⟩ :=
    hkept.underway callback (List.mem_of_getElem? hcallback)
  obtain ⟨frameNumber, token, watcher⟩ := callback
  obtain rfl : watcher = .delivery delivery := hdelivery
  have hrig : later.rig = scene.rig.tell frameNumber token (.delivery delivery) :=
    congrArg Scene.rig (step_tell hcallback)
  have hsent := hkept.rig.sent_tell hcarried frameNumber token
  refine ⟨delivery.connection, ⟨delivery.channel, token⟩, rfl, fun other hne => ?_,
    fun hgone => ?_, fun hheld => ?_⟩
  · rw [sent, hrig, hsent other, if_neg fun hall => hne hall.1.symm, List.append_nil]
    rfl
  · rw [sent, hrig, hsent, if_neg fun hall => hgone hall.2.1, List.append_nil]
    rfl
  · obtain ⟨grant, hgranted⟩ := exists_granted venue cues hheld
    obtain ⟨entry, hentry, howner⟩ := hkept.mem_held_iff.1 hheld
    have htoken : entry.1 = token := (Subscription.token_of_owner? howner).symm
    have hdelivery : delivery = grant.delivery delivery.connection := by
      refine hgranted.delivery_eq ?_
      rw [← hsame entry hentry htoken, ← htoken]
      exact hentry
    have hregion : delivery.region = grant.region := congrArg Delivery.region hdelivery
    have hdatagram : ∀ number,
        delivery.datagram scene.rig.venue.framebuffer frameNumber number
          = grant.push scene.rig.venue.framebuffer frameNumber number := by
      intro number
      rw [hdelivery, Grant.datagram_delivery]
    refine ⟨grant, hgranted, ?_⟩
    rw [sent, hrig, hsent, hregion, hdatagram]
    by_cases hinside : grant.region.stop ≤ scene.rig.venue.framebuffer.size
    · rw [if_pos ⟨rfl, hheld, hinside⟩, if_pos hinside]
      rfl
    · rw [if_neg fun hall => hinside hall.2.2, if_neg hinside]
      rfl

/-- Whoever has given up is sent nothing by a callback that was under way by
then, however much later it runs. -/
theorem silent_after (venue : Venue) (cues : List Cue) {wanted : Option UInt32} {cue : Cue}
    (hgives : (after venue cues).GivesUp id wanted cue) {callback : Callback}
    (hcallback : callback ∈ (after venue cues).underway)
    (howner : callback.owner? = some (id, subscription))
    (hmeant : wanted = none ∨ wanted = some subscription.channel) (more : List Cue)
    {index : Nat}
    (hindex : (after venue (cues ++ cue :: more)).underway[index]? = some callback)
    (other : ConnectionId) :
    ((after venue (cues ++ cue :: more)).step (.tell index)).sent other
      = (after venue (cues ++ cue :: more)).sent other := by
  have hgone : subscription ∉ (after venue (cues ++ [cue])).held id := by
    rw [after_snoc, ((kept_after venue cues).gives_up hgives).1, List.mem_filter, not_and]
    rintro - hspared
    rcases hmeant with rfl | rfl
    · cases hspared
    · rw [Option.any_some, bne_self_eq_false] at hspared
      cases hspared
  have hunderway : callback ∈ (after venue (cues ++ [cue])).underway := by
    rw [after_snoc]
    cases hgives with
    | asked => exact hcallback
    | detached => exact hcallback
    | left => exact hcallback
  have hnever := gone_for_good venue (cues ++ [cue]) hunderway howner hgone more
  rw [← List.append_cons] at hnever
  obtain ⟨target, owned, htarget, hothers, hsilent, -⟩ :=
    sent_tell venue (cues ++ cue :: more) hindex
  obtain ⟨rfl, rfl⟩ := Prod.mk.inj (Option.some.inj (howner.symm.trans htarget))
  by_cases hid : other = id
  · rw [hid]
    exact hsilent hnever
  · exact hothers other hid

/-- Pixels reach the subscriptions that are held, exactly. A finished region
is sent to every subscription of every connection that shares a pixel with
it and lies inside the framebuffer, once, on its own connection, and to no
other: the message carries the channel, the start and the format that were
asked for, and the pixels that were granted. A callback that became due and
runs later sends the one message of its subscription if that is still held,
and if it is gone neither then nor ever after. A node that wants to give up
a channel, or all, is told success; from then on exactly those are not held
any more, as none is behind a handler that goes, and callbacks for them that
were under way send nothing, whenever they run. And the pushes on a
connection carry the tags from zero on, one after the other. -/
theorem pixels_reach_subscriptions (venue : Venue) (cues : List Cue) :
    let scene := after venue cues
    let framebuffer := scene.rig.venue.framebuffer
    (∀ (region : Region) (frameNumber : UInt64) (id : ConnectionId), region.length ≠ 0 →
        ∃ granted : List (Subscription × Grant),
          granted.map Prod.fst = (scene.held id).reverse
            ∧ (∀ pair ∈ granted, Granted venue cues id pair.1 pair.2)
            ∧ (scene.step (.apart (.finish region frameNumber))).sent id
              = scene.sent id
                ++ ((granted.map Prod.snd).filter fun grant =>
                    grant.region.Meets region ∧ grant.region.stop ≤ framebuffer.size).mapIdx
                  fun index grant =>
                    grant.push framebuffer frameNumber ((scene.pushTags id).length + index))
      ∧ (∀ (id : ConnectionId) (subscription : Subscription) (grant : Grant),
        Granted venue cues id subscription grant →
          grant.format.code = grant.request.format
            ∧ ∀ frameNumber, grant.region.stop ≤ framebuffer.size →
              (grant.data framebuffer frameNumber).pixels.length
                = grant.request.length.toNat * grant.format.bytesPerPixel)
      ∧ (∀ (region : Region) (frameNumber : UInt64), region.length ≠ 0 →
        (scene.step (.finish region frameNumber)).underway
          = scene.underway
            ++ (scene.registered.filter fun entry => entry.2.region.Meets region).map
              fun entry => ⟨frameNumber, entry.1, entry.2.observer⟩)
      ∧ (∀ (index : Nat) (callback : Callback), scene.underway[index]? = some callback →
        let later := scene.step (.tell index)
        ∃ id subscription, callback.owner? = some (id, subscription)
          ∧ (∀ other, other ≠ id → later.sent other = scene.sent other)
          ∧ (subscription ∈ scene.held id → ∃ grant, Granted venue cues id subscription grant
            ∧ later.sent id = scene.sent id
              ++ if grant.region.stop ≤ framebuffer.size then
                  [grant.push framebuffer callback.frameNumber (scene.pushTags id).length]
                else [])
          ∧ (subscription ∉ scene.held id → later.sent id = scene.sent id
            ∧ ∀ more, subscription ∉ (after venue (cues ++ more)).held id))
      ∧ (∀ (id : ConnectionId) (wanted : Option UInt32) (cue : Cue),
        scene.GivesUp id wanted cue →
          (scene.step cue).held id = (scene.held id).filter (fun subscription =>
              wanted.any (· != subscription.channel))
            ∧ (∀ other, other ≠ id → (scene.step cue).held other = scene.held other)
            ∧ ∀ callback ∈ scene.underway, ∀ subscription,
              callback.owner? = some (id, subscription) →
                wanted = none ∨ wanted = some subscription.channel →
                  ∀ more index, let last := after venue (cues ++ cue :: more)
                    last.underway[index]? = some callback →
                      ∀ other, (last.step (.tell index)).sent other = last.sent other)
      ∧ (∀ (id : ConnectionId) (station : Station Tape) (position : Nat)
          (held : Subscription.Held) (header : Header) (payload : Bytes) (request : Unsubscribe),
        scene.rig.station? id = some station →
          station.handlers[position]? = some (.pixelData held) →
            header.messageType = Message.messageType Unsubscribe →
              Cbor.decode? payload = some request → station.connection.node ≠ none →
                scene.GivesUp id request.channel (.message id position header payload))
      ∧ (∀ (id : ConnectionId) (cue : Cue), cue = .detach id .pixelData ∨ cue = .leave id →
        scene.GivesUp id none cue ∧ (scene.step cue).held id = [])
      ∧ ∀ id, scene.pushTags id
        = (List.range (scene.pushTags id).length).map Nat.toUInt8 := by
  intro scene framebuffer
  have hkept : scene.Kept := kept_after venue cues
  refine ⟨fun region frameNumber id hregion => sent_finish venue cues hregion frameNumber id,
    fun id subscription grant hgranted =>
      ⟨hgranted.code_eq, fun frameNumber hinside => Grant.length_data hinside frameNumber⟩,
    fun region frameNumber hregion => ?_, fun index callback hcallback => ?_,
    fun id wanted cue hgives => ?_,
    fun id station position held header payload request hfound hhandler htype hrequest hnode =>
      hkept.givesUp_of_node hfound hhandler htype hrequest hnode,
    fun id cue hcue => ?_, hkept.rig.pushTags_eq⟩
  · rw [← hkept.due_eq hregion]
    rfl
  · obtain ⟨id, subscription, howner, hothers, hgone, hheld⟩ := sent_tell venue cues hcallback
    exact ⟨id, subscription, howner, hothers, hheld, fun hnot => ⟨hgone hnot,
      gone_for_good venue cues (List.mem_of_getElem? hcallback) howner hnot⟩⟩
  · obtain ⟨hheld, hothers, -⟩ := hkept.gives_up hgives
    exact ⟨hheld, hothers, fun callback hcallback subscription howner hmeant more index hindex =>
      silent_after venue cues hgives hcallback howner hmeant more hindex⟩
  · have hgives : scene.GivesUp id none cue := by
      rcases hcue with rfl | rfl
      · exact .detached
      · exact .left
    exact ⟨hgives, (hkept.gives_up hgives).1.trans
      (List.filter_eq_nil_iff.2 fun _ _ => Bool.false_ne_true)⟩

/-- The whole framebuffer of the example is finished, and who is due has yet to
be told. -/
def exampleDue : List Cue := exampleCues ++ [.finish ⟨0, 6⟩ 7]

theorem rig_exampleDue :
    (after exampleVenue exampleDue).rig = (after exampleVenue exampleCues).rig := by
  rw [exampleDue, after_snoc]
  rfl

/-- The one that is due is the node. -/
theorem exists_due_in_example :
    ∃ callback, (after exampleVenue exampleDue).underway = [callback]
      ∧ callback.owner? = some (0, ⟨0, 1⟩) := by
  obtain ⟨hheld, hregions, -⟩ := exampleCues_run
  have hkept := kept_after exampleVenue exampleCues
  have hmem : ⟨0, 1⟩ ∈ (after exampleVenue exampleCues).held 0 :=
    hheld ▸ List.mem_singleton_self _
  obtain ⟨entry, hentry, howner⟩ := hkept.mem_held_iff.1 hmem
  obtain ⟨only, hregistered, hregion⟩ := List.map_eq_singleton_iff.1 hregions
  rw [hregistered, List.mem_singleton] at hentry
  subst hentry
  have hmeets : entry.2.region.Meets ⟨0, 6⟩ := by
    rw [(Prod.mk.inj hregion).2]
    decide
  refine ⟨⟨7, entry.1, entry.2.observer⟩, ?_, (Callback.owner?_of_entry ..).trans howner⟩
  rw [exampleDue, after_snoc]
  show [] ++ ((after exampleVenue exampleCues).rig.venue.framebuffer.due ⟨0, 6⟩).map _ = _
  rw [hkept.due_eq (by decide), hregistered, List.filter_cons, if_pos (decide_eq_true hmeets)]
  rfl

/-- The node that subscribed to two pixels is sent them, as the first push on
its connection, when the whole framebuffer is finished. Once it has given up
its channel, or has left, the callback that was under way sends nothing. -/
theorem pixels_reach_in_example :
    let scene := after exampleVenue exampleCues
    (∃ grant, Granted exampleVenue exampleCues 0 ⟨0, 1⟩ grant ∧ grant.region = ⟨2, 2⟩
      ∧ (scene.step (.apart (.finish ⟨0, 6⟩ 7))).sent 0
        = scene.sent 0 ++ [grant.push scene.rig.venue.framebuffer 7 0])
      ∧ ∀ cue ∈ [exampleParting, .leave 0],
        let last := after exampleVenue (exampleDue ++ [cue])
        last.held 0 = [] ∧ last.underway.length = 1
          ∧ (last.step (.tell 0)).sent 0 = last.sent 0 := by
  obtain ⟨hheld, hregions, -, hpushes, hsize, -⟩ := exampleCues_run
  constructor
  · obtain ⟨granted, hfirst, hgranted, hsent⟩ :=
      (pixels_reach_subscriptions exampleVenue exampleCues).1 ⟨0, 6⟩ 7 0 (by decide)
    rw [hheld] at hfirst
    obtain ⟨⟨subscription, grant⟩, rfl, hsubscription⟩ := List.map_eq_singleton_iff.1 hfirst
    obtain rfl : subscription = ⟨0, 1⟩ := hsubscription
    have hgrant := hgranted _ (List.mem_singleton_self _)
    obtain ⟨-, -, -, -, -, -, hregistered, -⟩ := hgrant
    have hregion : grant.region = ⟨2, 2⟩ := by
      have hmem := List.mem_map_of_mem
        (f := fun entry : Token × RegionObserver Watcher => (entry.1, entry.2.region)) hregistered
      rw [show (after exampleVenue exampleCues).registered.map _ = _ from hregions,
        List.mem_singleton] at hmem
      exact (Prod.mk.inj hmem).2
    have hnumber : (pushTags (after exampleVenue exampleCues) 0).length = 0 :=
      congrArg List.length hpushes
    refine ⟨grant, hgranted _ (List.mem_singleton_self _), hregion, ?_⟩
    rw [hsent, hsize, hnumber]
    show _ ++ List.mapIdx _ (List.filter _ [grant]) = _
    rw [List.filter_cons_of_pos (by rw [hregion]; decide)]
    rfl
  · intro cue hcue
    obtain ⟨callback, hunderway, howner⟩ := exists_due_in_example
    obtain ⟨station, hstation, hhandler, hnode⟩ := exists_example_station
    rw [← rig_exampleDue] at hstation
    have hdue : (after exampleVenue exampleDue).held 0 = [⟨0, 1⟩] := by
      rw [held, rig_exampleDue]
      exact hheld
    obtain ⟨-, -, -, -, hgives, hreadable, hdeparts, -⟩ :=
      pixels_reach_subscriptions exampleVenue exampleDue
    obtain ⟨wanted, hgiven, hmeant⟩ : ∃ wanted,
        (after exampleVenue exampleDue).GivesUp 0 wanted cue
          ∧ (wanted = none ∨ wanted = some 0) := by
      rcases List.mem_cons.1 hcue with rfl | hcue
      · exact ⟨_, hreadable 0 station 2 _ _ _ (Unsubscribe.mk (some 0)) hstation hhandler rfl
          (by decide +kernel) hnode, .inr rfl⟩
      · obtain rfl := List.mem_singleton.1 hcue
        exact ⟨none, (hdeparts 0 _ (.inr rfl)).1, .inl rfl⟩
    obtain ⟨hgone, -, hsilent⟩ := hgives 0 wanted cue hgiven
    have hlast : (after exampleVenue (exampleDue ++ [cue])).underway = [callback] := by
      rw [after_snoc, ← hunderway]
      cases hgiven with
      | asked => rfl
      | detached => rfl
      | left => rfl
    refine ⟨?_, congrArg List.length hlast, ?_⟩
    · rw [after_snoc, hgone, hdue]
      rcases hmeant with rfl | rfl
      · rfl
      · rfl
    · exact hsilent callback (hunderway ▸ List.mem_singleton_self _) ⟨0, 1⟩ howner hmeant [] 0
        (congrArg (·[0]?) hlast) 0

end Scene

end Luminaire
