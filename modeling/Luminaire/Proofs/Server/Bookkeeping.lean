/-
Observers and subscriptions correspond.

At every scene the observers of the framebuffer are, one to one, the
subscriptions that the connections' handlers hold. Each subscription goes
back to a request that was acknowledged with success, and its observer
watches the region that request asked for (`exists_granted`): the induction
is on the run, and what carries it is that tokens are never given twice,
so the observer that has the token now is the one that was given it. A
request that is not acknowledged with success leaves both sides alone
(`answered`). Giving up is a release in the books, whether the node asks for
it or its handler goes (`GivesUp`), and a release takes the observers of
what is meant and no others (`Kept.released`).
-/
import Luminaire.Proofs.Server.Scene
import Mathlib.Data.List.Perm.Basic

namespace Luminaire

/-- The subscription an observer stands for, and whose it is. -/
def Subscription.owner? (entry : Token × RegionObserver Watcher) :
    Option (ConnectionId × Subscription) :=
  match entry.2.observer with
  | .delivery delivery => some (delivery.connection, ⟨delivery.channel, entry.1⟩)
  | .outsider _ => none

theorem Subscription.token_of_owner? {entry : Token × RegionObserver Watcher}
    {id : ConnectionId} {subscription : Subscription}
    (howner : owner? entry = some (id, subscription)) : subscription.token = entry.1 := by
  unfold owner? at howner
  split at howner
  · cases howner
    rfl
  · cases howner

/-- The particulars of a channel that was granted: the message that asked for
it and the position of the handler it went to, what the message says, and
the channel, the format and the framebuffer index of the first pixel. -/
structure Grant where
  position : Nat
  header : Header
  payload : Bytes
  request : Subscribe
  channel : NodeChannel
  format : PixelFormat
  first : UInt32

namespace Grant

/-- The message of a connection that asked. -/
def cue (grant : Grant) (id : ConnectionId) : Cue :=
  .message id grant.position grant.header grant.payload

/-- The pixels that were asked for, in the framebuffer. -/
def region (grant : Grant) : Region := ⟨grant.first, grant.request.length⟩

/-- What is due to the connection whenever they are finished. -/
def delivery (grant : Grant) (id : ConnectionId) : Delivery :=
  ⟨id, grant.request.channel, grant.region, grant.request.start, grant.format⟩

/-- The acknowledgement of success. -/
def acknowledgement (grant : Grant) : Bytes :=
  framed (grant.header.reply (Message.messageType SubscribeAck))
    (Cbor.encode (SubscribeAck.mk .success grant.request.channel))

end Grant

namespace Scene

/-- The observers of the framebuffer, with their tokens. -/
def registered (scene : Scene) : List (Token × RegionObserver Watcher) :=
  scene.rig.venue.framebuffer.observers.entries

/-- What a connection holds. -/
def held (scene : Scene) (id : ConnectionId) : Subscription.Held := scene.rig.held id

/-- What was sent on a connection. -/
def sent (scene : Scene) (id : ConnectionId) : List Bytes := scene.rig.sent id

/-- The subscriptions of all handlers, and whose they are. -/
def holdings (scene : Scene) : List (ConnectionId × Subscription) :=
  scene.rig.stations.flatMap fun station => station.held.map (station.id, ·)

variable {scene : Scene} {id : ConnectionId} {subscription : Subscription}

-- ======================================================== one to one

theorem Kept.mem_holdings_iff (hkept : scene.Kept) :
    (id, subscription) ∈ scene.holdings ↔ subscription ∈ scene.held id := by
  unfold holdings held Rig.held
  constructor
  · intro hmem
    obtain ⟨station, hstation, hpair⟩ := List.mem_flatMap.1 hmem
    obtain ⟨other, hother, hsame⟩ := List.mem_map.1 hpair
    cases hsame
    rw [hkept.rig.station?_of_mem hstation]
    exact hother
  · intro hmem
    cases hfound : scene.rig.station? id with
    | none =>
        rw [hfound] at hmem
        cases hmem
    | some station =>
        rw [hfound] at hmem
        obtain ⟨hstation, rfl⟩ := Rig.mem_of_station? hfound
        exact List.mem_flatMap.2 ⟨station, hstation, List.mem_map_of_mem hmem⟩

/-- What a connection holds has an observer, and what an observer stands for
is held. -/
theorem Kept.mem_held_iff (hkept : scene.Kept) :
    subscription ∈ scene.held id
      ↔ ∃ entry ∈ scene.registered, Subscription.owner? entry = some (id, subscription) := by
  unfold held
  rw [hkept.rig.held_eq, List.mem_reverse, Framebuffer.mem_booked_iff]
  refine exists_congr fun entry => and_congr_right fun _ => ?_
  unfold Subscription.behind? Subscription.owner?
  cases entry.2.observer with
  | outsider number => exact ⟨nofun, nofun⟩
  | delivery delivery =>
      by_cases hid : delivery.connection = id
      · simp [hid]
      · simp [hid]

theorem Kept.nodup_holdings (hkept : scene.Kept) : scene.holdings.Nodup := by
  have hids : (scene.rig.stations.map Station.id).Nodup :=
    hkept.rig.numbers ▸ List.nodup_range
  refine List.nodup_flatMap.2 ⟨fun station hstation => ?_, ?_⟩
  · have hnodup := List.Nodup.of_map _ (hkept.rig.sound station hstation).channels
    exact hnodup.map fun _ _ hsame => (Prod.mk.inj hsame).2
  · refine (List.pairwise_map.1 hids).imp fun hne => ?_
    intro pair hleft hright
    obtain ⟨_, -, rfl⟩ := List.mem_map.1 hleft
    obtain ⟨_, -, hsame⟩ := List.mem_map.1 hright
    exact hne (Prod.mk.inj hsame).1.symm

/-- Observers and subscriptions are the same, one to one. -/
theorem Kept.owners_perm (hkept : scene.Kept) :
    (scene.registered.map Subscription.owner?).Perm (scene.holdings.map some) := by
  have howner : ∀ entry ∈ scene.registered, ∃ id channel,
      Subscription.owner? entry = some (id, ⟨channel, entry.1⟩) := by
    intro entry hentry
    obtain ⟨delivery, howned, -⟩ := hkept.rig.orderly.owned entry hentry
    refine ⟨delivery.connection, delivery.channel, ?_⟩
    unfold Subscription.owner?
    rw [howned]
  have hinjective : ∀ left ∈ scene.registered, ∀ right ∈ scene.registered,
      Subscription.owner? left = Subscription.owner? right → left = right := by
    intro left hleft right hright hsame
    obtain ⟨id, channel, howned⟩ := howner left hleft
    obtain ⟨id', channel', howned'⟩ := howner right hright
    rw [howned, howned'] at hsame
    have htoken : left.1 = right.1 :=
      (Subscription.mk.inj (Prod.mk.inj (Option.some.inj hsame)).2).2
    exact List.inj_on_of_nodup_map hkept.rig.orderly.tokens hleft hright htoken
  have hleft : (scene.registered.map Subscription.owner?).Nodup :=
    (List.nodup_map_iff_inj_on (List.Nodup.of_map _ hkept.rig.orderly.tokens)).2 hinjective
  have hright : (scene.holdings.map some).Nodup :=
    hkept.nodup_holdings.map fun _ _ => Option.some.inj
  refine (List.perm_ext_iff_of_nodup hleft hright).2 fun owner => ?_
  constructor
  · intro hmem
    obtain ⟨entry, hentry, rfl⟩ := List.mem_map.1 hmem
    obtain ⟨id, channel, howned⟩ := howner entry hentry
    rw [howned]
    exact List.mem_map_of_mem (hkept.mem_holdings_iff.2
      (hkept.mem_held_iff.2 ⟨entry, hentry, howned⟩))
  · intro hmem
    obtain ⟨⟨id, subscription⟩, hholding, rfl⟩ := List.mem_map.1 hmem
    obtain ⟨entry, hentry, howned⟩ :=
      hkept.mem_held_iff.1 (hkept.mem_holdings_iff.1 hholding)
    exact howned ▸ List.mem_map_of_mem hentry

-- =========================================================== grants

/-- A message to a connection's handler for pixels asks for a channel of its
node, and what is checked of it holds. -/
structure Grants (scene : Scene) (id : ConnectionId) (grant : Grant) : Prop where
  asked : grant.header.messageType = Message.messageType Subscribe
  decoded : Cbor.decode? grant.payload = some grant.request
  grantable : ∃ station node, scene.rig.station? id = some station
    ∧ station.handlers[grant.position]? = some (.pixelData (scene.held id))
    ∧ station.connection.node = some node
    ∧ Subscription.Grantable (scene.rig.venue.directory.channelsOf node.id) (scene.held id)
      grant.request grant.channel grant.format grant.first

/-- A message leaves the other connections alone, and moves the books of its
own only as a message about subscriptions. -/
theorem Kept.message_cases (hkept : scene.Kept) (id : ConnectionId) (position : Nat)
    (header : Header) (payload : Bytes) :
    let later := scene.step (.message id position header payload)
    (∀ other, other ≠ id → later.held other = scene.held other)
      ∧ (((∀ station held, scene.rig.station? id = some station →
              station.handlers[position]? ≠ some (.pixelData held))
          ∧ later.held id = scene.held id ∧ later.registered = scene.registered)
        ∨ ∃ station connection, scene.rig.station? id = some station
          ∧ station.handlers[position]? = some (.pixelData (scene.held id))
          ∧ later.sent id = connection.sink.sent
          ∧ Subscription.Handled id scene.rig.venue.directory (scene.held id)
            scene.rig.venue.framebuffer station.connection header payload (later.held id)
            later.rig.venue.framebuffer connection) := by
  intro later
  obtain ⟨hnone, hsame⟩ | ⟨station, after, venue, hfound, hput, hid, -, -, hbooks⟩ :=
    hkept.rig.serve_cases id position header payload
  · have hrig : later.rig = scene.rig := hsame
    unfold held registered
    rw [hrig]
    refine ⟨fun _ _ => rfl, .inl ⟨fun station held hfound => ?_, rfl, rfl⟩⟩
    rw [hnone station hfound]
    nofun
  · have hrig : later.rig = scene.rig.put id after venue := hput
    have hheld : scene.held id = station.held := by rw [held, Rig.held, hfound]; rfl
    have hheld' : later.held id = after.held := by
      rw [held, hrig, Rig.held_put hfound hid]
    refine ⟨fun other hne => ?_, ?_⟩
    · rw [held, hrig, Rig.held, Rig.station?_put_of_ne _ hne hid]
      rfl
    · obtain ⟨hnone, hsame, hframebuffer⟩ | ⟨hhandler, hhandled⟩ := hbooks
      · refine .inl ⟨fun other held hother => ?_, by rw [hheld', hsame, hheld], ?_⟩
        · rw [hfound] at hother
          cases hother
          exact hnone held
        unfold registered
        rw [hrig]
        exact congrArg (fun framebuffer => framebuffer.observers.entries) hframebuffer
      · refine .inr ⟨station, after.connection, hfound, hheld ▸ hhandler, ?_, ?_⟩
        · rw [sent, hrig, Rig.sent_put hfound hid]
        · rw [hheld, hheld', hrig]
          exact hhandled

/-- Where the observers are the same, so is what is held. -/
theorem Kept.held_of_registered {later : Scene} (hkept : scene.Kept) (hlater : later.Kept)
    (hsame : later.rig.venue.framebuffer.observers = scene.rig.venue.framebuffer.observers)
    (id : ConnectionId) : later.held id = scene.held id := by
  unfold held
  rw [hkept.rig.held_eq, hlater.rig.held_eq, Framebuffer.booked_of_observers hsame]

/-- Whoever has given up keeps the rest, with its observers, and no other
connection loses any. -/
theorem Kept.released (hkept : scene.Kept) {later : Scene} (meant : Subscription → Bool)
    (hbooks : (later.held id, later.rig.venue.framebuffer)
      = Subscription.release meant (scene.held id) scene.rig.venue.framebuffer) :
    later.held id = (scene.held id).filter (fun subscription => !meant subscription)
      ∧ later.registered = scene.registered.filter fun entry =>
        (Subscription.behind? id entry).all fun subscription => !meant subscription := by
  obtain ⟨hheld, hframebuffer⟩ := Prod.mk.inj hbooks
  refine ⟨hheld, ?_⟩
  unfold registered
  rw [hframebuffer]
  exact hkept.rig.orderly.entries_release (hkept.rig.held_eq id) meant

/-- A connection whose handler for pixels goes gives up everything. -/
theorem Kept.departs (hkept : scene.Kept) {cue : Cue}
    (hcue : cue = .detach id .pixelData ∨ cue = .leave id) :
    (∀ other, other ≠ id → (scene.step cue).held other = scene.held other)
      ∧ ((scene.step cue).held id, (scene.step cue).rig.venue.framebuffer)
        = Subscription.release (fun _ => true) (scene.held id)
          scene.rig.venue.framebuffer := by
  have hcases : (scene.step cue).rig = scene.rig ∧ scene.rig.station? id = none
      ∨ ∃ station after venue, scene.rig.station? id = some station
        ∧ (scene.step cue).rig = scene.rig.put id after venue ∧ after.id = id
        ∧ (after.held, venue.framebuffer)
          = Subscription.release (fun _ => true) station.held
            scene.rig.venue.framebuffer := by
    rcases hcue with rfl | rfl
    · obtain ⟨hnone, hsame⟩ | ⟨station, after, venue, hfound, hput, hid, -, -, hbooks⟩ :=
        hkept.rig.detach_cases id .pixelData
      · exact .inl ⟨hsame, hnone⟩
      · exact .inr ⟨station, after, venue, hfound, hput, hid, hbooks.trans (if_pos rfl)⟩
    · obtain ⟨hnone, hsame⟩ | ⟨station, after, venue, hfound, hput, hid, -, -, hbooks⟩ :=
        hkept.rig.detachAll_cases id
      · exact .inl ⟨hsame, hnone⟩
      · exact .inr ⟨station, after, venue, hfound, hput, hid, hbooks⟩
  obtain ⟨hrig, hnone⟩ | ⟨station, after, venue, hfound, hrig, hid, hbooks⟩ := hcases
  · have hnothing : scene.held id = [] := by
      rw [held, Rig.held, hnone]
      rfl
    refine ⟨fun other _ => ?_, ?_⟩
    · rw [held, hrig]
      rfl
    · rw [hnothing, held, hrig, Rig.held, hnone]
      rfl
  · refine ⟨fun other hne => ?_, ?_⟩
    · rw [held, hrig, Rig.held, Rig.station?_put_of_ne _ hne hid]
      rfl
    · have hheld : scene.held id = station.held := by
        rw [held, Rig.held, hfound]
        rfl
      rw [hheld, held, hrig, Rig.held_put hfound hid]
      exact hbooks

/-- What is held after a cue was held before, or has just been granted. -/
theorem Kept.held_step_cases (hkept : scene.Kept) {cue : Cue}
    (hmem : subscription ∈ (scene.step cue).held id) :
    subscription ∈ scene.held id
      ∨ ∃ grant : Grant, cue = grant.cue id ∧ scene.Grants id grant
        ∧ subscription.channel = grant.request.channel
        ∧ (scene.step cue).sent id = scene.sent id ++ [grant.acknowledgement]
        ∧ (subscription.token, ⟨grant.region, .delivery (grant.delivery id)⟩)
          ∈ (scene.step cue).registered := by
  have hobservers : (scene.step cue).rig.venue.framebuffer.observers
      = scene.rig.venue.framebuffer.observers → subscription ∈ scene.held id := by
    intro hsame
    rw [← hkept.held_of_registered (hkept.step cue).1 hsame]
    exact hmem
  have hdeparture : ∀ target, cue = .detach target .pixelData ∨ cue = .leave target →
      subscription ∈ scene.held id := by
    intro target hcue
    obtain ⟨hothers, hbooks⟩ := hkept.departs hcue
    by_cases htarget : id = target
    · subst htarget
      rw [(hkept.released _ hbooks).1] at hmem
      exact (List.mem_filter.1 hmem).1
    · exact hothers id htarget ▸ hmem
  cases cue with
  | enter peer => exact .inl (hobservers (scene.rig.observers_enter peer))
  | message target position header payload =>
      obtain ⟨hothers, hbooks⟩ := hkept.message_cases target position header payload
      by_cases htarget : id = target
      · subst htarget
        obtain ⟨-, hsame, -⟩ | ⟨station, connection, hfound, hhandler, hsent, hhandled⟩ := hbooks
        · exact .inl (hsame ▸ hmem)
        · generalize hheld : (scene.step (.message id position header payload)).held id = held'
            at hhandled hmem
          generalize hframebuffer : (scene.step (.message id position header
            payload)).rig.venue.framebuffer = framebuffer' at hhandled
          cases hhandled with
          | passed => exact .inl hmem
          | refused => exact .inl hmem
          | granted htype request hrequest node hnode channel format first hgrantable =>
              rcases List.mem_cons.1 hmem with rfl | hold
              · have hbefore : scene.sent id = station.connection.sink.sent := by
                  rw [sent, Rig.sent, hfound]
                  rfl
                refine .inr ⟨⟨position, header, payload, request, channel, format, first⟩, rfl,
                  ⟨htype, hrequest, station, node, hfound, hhandler, hnode, hgrantable⟩, rfl, ?_,
                  ?_⟩
                · rw [hsent, hbefore]
                  rfl
                · unfold registered
                  rw [hframebuffer]
                  exact List.mem_append_right _ (List.mem_singleton_self _)
              · exact .inl hold
          | kept => exact .inl hmem
          | released => exact .inl (List.mem_filter.1 hmem).1
      · exact .inl (hothers id htarget ▸ hmem)
  | refuse target header => exact .inl (hobservers rfl)
  | detach target endpoint =>
      by_cases hpixels : endpoint = .pixelData
      · exact .inl (hdeparture target (.inl (by rw [hpixels])))
      · refine .inl (hobservers ?_)
        obtain ⟨-, hsame⟩ | ⟨station, after, venue, -, hput, -, -, -, hbooks⟩ :=
          hkept.rig.detach_cases target endpoint
        · exact congrArg (fun rig => rig.venue.framebuffer.observers) hsame
        · rw [if_neg hpixels] at hbooks
          have hrig : (scene.step (.detach target endpoint)).rig
              = scene.rig.put target after venue := hput
          rw [hrig]
          exact congrArg Framebuffer.observers (Prod.mk.inj hbooks).2
  | leave target => exact .inl (hdeparture target (.inr rfl))
  | apart event => exact .inl (hobservers (hkept.rig.apart event).observers)
  | finish region frameNumber => exact .inl (hobservers rfl)
  | tell index => exact .inl (hobservers (scene.observers_tell index))

/-- An observer whose token is still held is still there. -/
theorem Kept.registered_of_held (hkept : scene.Kept) {later : Scene} (hlater : later.Kept)
    (hfollows : later.rig.venue.framebuffer.Follows scene.rig.venue.framebuffer)
    {entry : Token × RegionObserver Watcher} (hentry : entry ∈ scene.registered)
    (hmem : subscription ∈ later.held id) (htoken : subscription.token = entry.1) :
    entry ∈ later.registered := by
  obtain ⟨entry', hentry', howner⟩ := hlater.mem_held_iff.1 hmem
  have hsame : entry'.1 = entry.1 := (Subscription.token_of_owner? howner).symm.trans htoken
  rcases hfollows.old_or_new entry' hentry' with hold | hnew
  · rw [← List.inj_on_of_nodup_map hkept.rig.orderly.tokens hold hentry hsame]
    exact hentry'
  · exact absurd (hsame ▸ hnew) (Nat.not_le_of_lt (hkept.rig.orderly.issued entry hentry))

/-- In the course of a run a connection was granted this subscription: some
message asked for it and was acknowledged with success, its observer watches
what was asked for, and it has been held ever since. -/
def Granted (venue : Venue) (cues : List Cue) (id : ConnectionId) (subscription : Subscription)
    (grant : Grant) : Prop :=
  ∃ early late : List Cue, cues = early ++ grant.cue id :: late
    ∧ (after venue early).Grants id grant
    ∧ subscription.channel = grant.request.channel
    ∧ (after venue (early ++ [grant.cue id])).sent id
      = (after venue early).sent id ++ [grant.acknowledgement]
    ∧ (subscription.token, ⟨grant.region, .delivery (grant.delivery id)⟩)
      ∈ (after venue cues).registered
    ∧ ∀ part, part <+: late →
      subscription ∈ (after venue (early ++ grant.cue id :: part)).held id

/-- Every subscription was granted. -/
theorem exists_granted (venue : Venue) (cues : List Cue)
    (hmem : subscription ∈ (after venue cues).held id) :
    ∃ grant, Granted venue cues id subscription grant := by
  induction cues using List.reverseRecOn with
  | nil => cases hmem
  | append_singleton cues cue ih =>
      have hkept := kept_after venue cues
      obtain ⟨hlater, hfollows⟩ := hkept.step cue
      have hnow := hmem
      rw [after_snoc] at hmem
      obtain hold | ⟨grant, rfl, hgrants, hchannel, hsent, hregistered⟩ :=
        hkept.held_step_cases hmem
      · obtain ⟨grant, early, late, hcues, hgrants, hchannel, hsent, hregistered, hsince⟩ :=
          ih hold
        refine ⟨grant, early, late ++ [cue], by rw [hcues]; simp, hgrants, hchannel, hsent, ?_,
          fun part hpart => ?_⟩
        · rw [after_snoc]
          exact hkept.registered_of_held hlater hfollows hregistered hmem rfl
        · rcases List.prefix_concat_iff.1 hpart with rfl | hpart
          · rw [hcues] at hnow
            simpa using hnow
          · exact hsince part hpart
      · refine ⟨grant, cues, [], rfl, hgrants, hchannel, ?_, ?_, fun part hpart => ?_⟩
        · rw [after_snoc]
          exact hsent
        · rw [after_snoc]
          exact hregistered
        · rw [List.prefix_nil.1 hpart]
          exact hnow

-- ========================================================== answers

/-- How a message to a connection's handler for pixels goes. -/
theorem Kept.handled (hkept : scene.Kept) {station : Station Tape} {position : Nat}
    {held : Subscription.Held} (hfound : scene.rig.station? id = some station)
    (hhandler : station.handlers[position]? = some (.pixelData held)) (header : Header)
    (payload : Bytes) :
    let later := scene.step (.message id position header payload)
    ∃ connection, scene.sent id = station.connection.sink.sent
      ∧ later.sent id = connection.sink.sent
      ∧ (∀ other, other ≠ id → later.held other = scene.held other)
      ∧ Subscription.Handled id scene.rig.venue.directory (scene.held id)
        scene.rig.venue.framebuffer station.connection header payload (later.held id)
        later.rig.venue.framebuffer connection := by
  obtain ⟨hothers, ⟨hnone, -⟩ | ⟨found, connection, hfound', -, hsent, hhandled⟩⟩ :=
    hkept.message_cases id position header payload
  · exact absurd hhandler (hnone station held hfound)
  · rw [hfound] at hfound'
    cases hfound'
    refine ⟨connection, ?_, hsent, hothers, hhandled⟩
    rw [sent, Rig.sent, hfound]
    rfl

/-- A connection holds a channel once. -/
theorem Kept.nodup_channels (hkept : scene.Kept) (id : ConnectionId) :
    ((scene.held id).map Subscription.channel).Nodup := by
  unfold held Rig.held
  cases hfound : scene.rig.station? id with
  | none => exact List.nodup_nil
  | some station => exact (hkept.rig.sound station (Rig.mem_of_station? hfound).1).channels

/-- A message about subscriptions is answered with one acknowledgement, and
nothing changes unless that says success. -/
theorem Kept.answered (hkept : scene.Kept) {station : Station Tape} {position : Nat}
    {held : Subscription.Held} (hfound : scene.rig.station? id = some station)
    (hhandler : station.handlers[position]? = some (.pixelData held)) {header : Header}
    (htype : header.messageType = Message.messageType Subscribe
      ∨ header.messageType = Message.messageType Unsubscribe) (payload : Bytes) :
    let later := scene.step (.message id position header payload)
    ∃ datagram status, later.sent id = scene.sent id ++ [datagram]
      ∧ Subscription.ackStatus? datagram = some status
      ∧ (status ≠ .success → (∀ other, later.held other = scene.held other)
        ∧ later.registered = scene.registered) := by
  intro later
  obtain ⟨connection, hbefore, hsent, hothers, hhandled⟩ :=
    hkept.handled hfound hhandler header payload
  obtain ⟨datagram, status, hdatagram, hstatus, hunless⟩ := hhandled.answer htype
  refine ⟨datagram, status, ?_, hstatus, fun hne => ⟨fun other => ?_, ?_⟩⟩
  · rw [hsent, hdatagram, hbefore]
  · by_cases hother : other = id
    · rw [hother, (hunless hne).1]
    · exact hothers other hother
  · exact congrArg (fun framebuffer => framebuffer.observers.entries) (hunless hne).2

/-- The acknowledgement of a wish to give up counts what was given up. -/
theorem Kept.counted (hkept : scene.Kept) {station : Station Tape} {position : Nat}
    {held : Subscription.Held} (hfound : scene.rig.station? id = some station)
    (hhandler : station.handlers[position]? = some (.pixelData held)) {header : Header}
    (htype : header.messageType = Message.messageType Unsubscribe) (payload : Bytes) :
    let later := scene.step (.message id position header payload)
    ∃ (ack : UnsubscribeAck) (removed : Nat),
      later.sent id = scene.sent id
          ++ [framed (header.reply (Message.messageType UnsubscribeAck)) (Cbor.encode ack)]
        ∧ (scene.held id).length = (later.held id).length + removed
        ∧ ack.removed = removed.toUInt32 ∧ removed ≤ UInt32.size := by
  intro later
  obtain ⟨connection, hbefore, hsent, -, hhandled⟩ :=
    hkept.handled hfound hhandler header payload
  obtain ⟨ack, removed, hdatagram, hlength, hremoved⟩ := hhandled.count htype
  refine ⟨ack, removed, ?_, hlength, hremoved, ?_⟩
  · rw [hsent, hdatagram, hbefore]
  · -- the channels that are held differ, and there are no more of them than numbers
    have hall := Subscription.length_le_of_nodup (hkept.nodup_channels id)
    omega

-- ======================================================== giving up

/-- A connection gives up one channel, or all of them: its node has said so and
been told success, or its handler for pixels goes. -/
inductive GivesUp (scene : Scene) (id : ConnectionId) : Option UInt32 → Cue → Prop where
  | asked {station : Station Tape} {position : Nat} {held : Subscription.Held}
      {header : Header} {payload : Bytes} {request : Unsubscribe} {datagram : Bytes}
      (hfound : scene.rig.station? id = some station)
      (hhandler : station.handlers[position]? = some (.pixelData held))
      (htype : header.messageType = Message.messageType Unsubscribe)
      (hrequest : Cbor.decode? payload = some request)
      (hsent : (scene.step (.message id position header payload)).sent id
        = scene.sent id ++ [datagram])
      (hsuccess : Subscription.ackStatus? datagram = some .success) :
      GivesUp scene id request.channel (.message id position header payload)
  | detached : GivesUp scene id none (.detach id .pixelData)
  | left : GivesUp scene id none (.leave id)

/-- A node's readable wish to give up is granted. -/
theorem Kept.givesUp_of_node (hkept : scene.Kept) {station : Station Tape} {position : Nat}
    {held : Subscription.Held} (hfound : scene.rig.station? id = some station)
    (hhandler : station.handlers[position]? = some (.pixelData held)) {header : Header}
    (htype : header.messageType = Message.messageType Unsubscribe) {payload : Bytes}
    {request : Unsubscribe} (hrequest : Cbor.decode? payload = some request)
    (hnode : station.connection.node ≠ none) :
    scene.GivesUp id request.channel (.message id position header payload) := by
  obtain ⟨connection, hbefore, hsent, -, hhandled⟩ :=
    hkept.handled hfound hhandler header payload
  obtain ⟨datagram, hdatagram, hsuccess⟩ := hhandled.success_of_node htype hrequest hnode
  exact .asked hfound hhandler htype hrequest (by rw [hsent, hdatagram, hbefore]) hsuccess

/-- Whoever gives up one channel keeps the others, with their observers, and
whoever gives up all keeps none; the other connections keep theirs. -/
theorem Kept.gives_up (hkept : scene.Kept) {wanted : Option UInt32} {cue : Cue}
    (hgives : scene.GivesUp id wanted cue) :
    let later := scene.step cue
    later.held id = (scene.held id).filter (fun subscription =>
        wanted.any (· != subscription.channel))
      ∧ (∀ other, other ≠ id → later.held other = scene.held other)
      ∧ later.registered = scene.registered.filter fun entry =>
        (Subscription.behind? id entry).all fun subscription =>
          wanted.any (· != subscription.channel) := by
  intro later
  suffices hbooks : (∀ other, other ≠ id → later.held other = scene.held other)
      ∧ (later.held id, later.rig.venue.framebuffer)
        = Subscription.release (fun subscription => !wanted.any (· != subscription.channel))
          (scene.held id) scene.rig.venue.framebuffer by
    obtain ⟨hheld, hregistered⟩ := hkept.released _ hbooks.2
    simp only [Bool.not_not] at hheld hregistered
    exact ⟨hheld, hbooks.1, hregistered⟩
  cases hgives with
  | @asked station position held header payload request datagram hfound hhandler htype hrequest
      hsent hsuccess =>
      obtain ⟨connection, hbefore, hafter, hothers, hhandled⟩ :=
        hkept.handled hfound hhandler header payload
      rw [hafter, hbefore] at hsent
      refine ⟨hothers, (hhandled.honours htype hrequest hsent hsuccess).trans ?_⟩
      refine congrArg (Subscription.release · _ _) (funext fun subscription => ?_)
      show request.channel.all _ = !request.channel.any _
      cases request.channel with
      | none => rfl
      | some channel => exact (Bool.not_not _).symm
  | detached => exact hkept.departs (.inl rfl)
  | left => exact hkept.departs (.inr rfl)

/-- The observers of the framebuffer and the subscriptions that handlers hold
correspond at every scene. They are the same, one to one, and no token or
channel stands twice; every subscription goes back to a message that was
acknowledged with success, and its observer watches the pixels that were
asked for; a message that is acknowledged otherwise changes neither side;
giving up is acknowledged with the number of subscriptions given up, as far
as the field holds it, and what is acknowledged with success, as every
readable wish of a node is, takes the channel that it names, or all, from
both sides and nothing else; and a handler that goes takes its own observers
with it and no others. -/
theorem observers_match_subscriptions (venue : Venue) (cues : List Cue) :
    let scene := after venue cues
    (scene.registered.map Subscription.owner?).Perm (scene.holdings.map some)
      ∧ (scene.registered.map Prod.fst).Nodup
      ∧ (∀ id, ((scene.held id).map Subscription.channel).Nodup)
      ∧ (∀ id, ∀ subscription ∈ scene.held id,
        ∃ grant, Granted venue cues id subscription grant)
      ∧ (∀ id station position held header payload,
        scene.rig.station? id = some station →
          station.handlers[position]? = some (.pixelData held) →
            let later := scene.step (.message id position header payload)
            (header.messageType = Message.messageType Subscribe
                ∨ header.messageType = Message.messageType Unsubscribe →
              ∃ datagram status, later.sent id = scene.sent id ++ [datagram]
                ∧ Subscription.ackStatus? datagram = some status
                ∧ (status ≠ .success → (∀ other, later.held other = scene.held other)
                  ∧ later.registered = scene.registered))
              ∧ (header.messageType = Message.messageType Unsubscribe →
                ∃ (ack : UnsubscribeAck) (removed : Nat),
                  later.sent id = scene.sent id
                      ++ [framed (header.reply (Message.messageType UnsubscribeAck))
                        (Cbor.encode ack)]
                    ∧ (scene.held id).length = (later.held id).length + removed
                    ∧ ack.removed = removed.toUInt32 ∧ removed ≤ UInt32.size)
              ∧ (header.messageType = Message.messageType Unsubscribe →
                ∀ request : Unsubscribe, Cbor.decode? payload = some request →
                  station.connection.node ≠ none →
                    scene.GivesUp id request.channel (.message id position header payload)))
      ∧ (∀ id wanted cue, scene.GivesUp id wanted cue →
        let later := scene.step cue
        later.held id = (scene.held id).filter (fun subscription =>
            wanted.any (· != subscription.channel))
          ∧ (∀ other, other ≠ id → later.held other = scene.held other)
          ∧ later.registered = scene.registered.filter fun entry =>
            (Subscription.behind? id entry).all fun subscription =>
              wanted.any (· != subscription.channel))
      ∧ (∀ id cue, cue = .detach id .pixelData ∨ cue = .leave id →
        let later := scene.step cue
        later.held id = [] ∧ (∀ other, other ≠ id → later.held other = scene.held other)
          ∧ later.registered
            = scene.registered.filter fun entry =>
              (Subscription.behind? id entry).isNone) := by
  intro scene
  have hkept := kept_after venue cues
  refine ⟨hkept.owners_perm, hkept.rig.orderly.tokens, hkept.nodup_channels,
    fun id subscription hmem => exists_granted venue cues hmem, ?_,
    fun id wanted cue hgives => hkept.gives_up hgives, fun id cue hcue => ?_⟩
  · intro id station position held header payload hfound hhandler
    exact ⟨fun htype => hkept.answered hfound hhandler htype payload,
      fun htype => hkept.counted hfound hhandler htype payload,
      fun htype request hrequest hnode =>
        hkept.givesUp_of_node hfound hhandler htype hrequest hnode⟩
  · obtain ⟨hothers, hbooks⟩ := hkept.departs hcue
    obtain ⟨hheld, hregistered⟩ := hkept.released _ hbooks
    refine ⟨hheld.trans (List.filter_eq_nil_iff.2 fun _ _ => Bool.false_ne_true), hothers,
      hregistered.trans (List.filter_congr fun entry _ => ?_)⟩
    cases Subscription.behind? id entry with
    | none => rfl
    | some subscription => rfl

/-- A node with one channel of four pixels, from the framebuffer's second
pixel on. -/
def exampleVenue : Venue where
  directory := ⟨[⟨12, ⟨List.replicate 16 9, rfl⟩, [115, 51], "stage-left"⟩],
    [⟨12, 0, 4, 1, .rgb⟩]⟩
  framebuffer := .dark 6
  group := none
  now := 0
  entropy := List.replicate 16 1 ++ List.replicate 32 2

/-- The node connects, proves who it is and subscribes to the two pixels in
the middle of its channel. -/
def exampleCues : List Cue := [
  .enter ⟨.loopback, 5000⟩,
  .message 0 1 (.new .authentication (Message.messageType AuthRequest) 3)
    (Cbor.encode (AuthRequest.mk ⟨List.replicate 16 9, rfl⟩ ["hmac-sha256"])),
  .message 0 1 (.new .authentication (Message.messageType AuthResponse) 4)
    (Cbor.encode (AuthResponse.mk
      (hmac [115, 51] (List.replicate 16 1 ++ List.replicate 32 2)))),
  .message 0 2 (.new .pixelData (Message.messageType Subscribe) 5)
    (Cbor.encode (Subscribe.mk 0 1 2 PixelFormat.rgb.code))]

-- One statement, so that the run is evaluated once.
theorem exampleCues_run :
    let scene := after exampleVenue exampleCues
    scene.held 0 = [⟨0, 1⟩]
      ∧ scene.registered.map (fun entry => (entry.1, entry.2.region)) = [(1, ⟨2, 2⟩)]
      ∧ (scene.rig.station? 0).bind
          (fun station => station.handlers[2]?.bind Handler.held?) = some [⟨0, 1⟩]
      ∧ (scene.sent 0).filterMap pushTag? = []
      ∧ scene.rig.venue.framebuffer.size = 6
      ∧ (scene.rig.station? 0).any (fun station => station.connection.isAuthenticated) = true := by
  decide +kernel

/-- The wish of the node to give up its channel. -/
def exampleParting : Cue :=
  .message 0 2 (.new .pixelData (Message.messageType Unsubscribe) 6)
    (Cbor.encode (Unsubscribe.mk (some 0)))

/-- The handler for pixels that the node's wish goes to. -/
theorem exists_example_station :
    ∃ station, (after exampleVenue exampleCues).rig.station? 0 = some station
      ∧ station.handlers[2]? = some (.pixelData [⟨0, 1⟩]) ∧ station.connection.node ≠ none := by
  obtain ⟨-, -, hhandler, -, -, hnode⟩ := exampleCues_run
  obtain ⟨station, hstation, hhandler⟩ := Option.bind_eq_some_iff.1 hhandler
  obtain ⟨handler, hhandler, hholds⟩ := Option.bind_eq_some_iff.1 hhandler
  obtain rfl : handler = .pixelData [⟨0, 1⟩] := by
    cases handler with
    | pixelData held => exact congrArg Handler.pixelData (Option.some.inj hholds)
    | _ => cases hholds
  rw [hstation, Option.any_some] at hnode
  exact ⟨station, hstation, hhandler, Option.isSome_iff_ne_none.1 hnode⟩

/-- The subscription was granted, giving up something that cannot be read is
answered, giving up the channel takes it and its observer away, and when the
node leaves nothing is held any more. -/
theorem subscription_matched_in_example :
    let scene := after exampleVenue exampleCues
    let later := scene.step
      (.message 0 2 (.new .pixelData (Message.messageType Unsubscribe) 6) [0xff])
    (∃ grant, Granted exampleVenue exampleCues 0 ⟨0, 1⟩ grant)
      ∧ (∃ datagram status, later.sent 0 = scene.sent 0 ++ [datagram]
        ∧ Subscription.ackStatus? datagram = some status)
      ∧ (scene.step exampleParting).held 0 = []
      ∧ (scene.step (.leave 0)).held 0 = [] := by
  obtain ⟨hheld, -⟩ := exampleCues_run
  obtain ⟨station, hstation, hhandler, hnode⟩ := exists_example_station
  obtain ⟨-, -, -, hgranted, hanswers, hgives, hdeparts⟩ :=
    observers_match_subscriptions exampleVenue exampleCues
  obtain ⟨datagram, status, hsent, hstatus, -⟩ :=
    (hanswers 0 station 2 _ (.new .pixelData (Message.messageType Unsubscribe) 6) [0xff]
      hstation hhandler).1 (.inr rfl)
  have hparting := (hanswers 0 station 2 _ (.new .pixelData (Message.messageType Unsubscribe) 6)
    (Cbor.encode (Unsubscribe.mk (some 0))) hstation hhandler).2.2 rfl
      (Unsubscribe.mk (some 0)) (by decide +kernel) hnode
  refine ⟨hgranted 0 _ (hheld ▸ List.mem_singleton_self _), ⟨datagram, status, hsent, hstatus⟩,
    ?_, (hdeparts 0 (.leave 0) (.inr rfl)).1⟩
  rw [exampleParting, (hgives 0 _ _ hparting).1, hheld]
  rfl

end Scene

end Luminaire
