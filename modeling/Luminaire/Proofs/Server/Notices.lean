/-
Notices of new keys reach exactly the connections that hear of them.

A rotation that succeeds is announced: every observer of the group is told
once, and a station that is told sends the notice if its node is known
(`Rig.Kept.sent_announce`). The observers are the stations that listen
(`Rig.Enrols`), so whoever listens and is known gets one datagram more,
which carries the key that is now in use, and nobody else gets any. A
rotation that fails changes no station (`Rig.turns_apart`).

Nothing else that happens at a scene sends a notice: answers are of other
types, and pixels go to another endpoint. So at the end of any run the
notices on a connection are those that it was owed, cue by cue
(`Scene.Attuned.notices_foldl`).
-/
import Luminaire.Proofs.Message.Payloads
import Luminaire.Proofs.Server.Enrolment

namespace Luminaire

-- =========================================================== renewals

namespace Broadcaster

variable {ω : Type}

/-- A broadcaster has issued a key, and nobody has come or gone. -/
structure Renews (broadcaster later : Broadcaster ω) (key : GroupKey) : Prop where
  draws : broadcaster.ring.Draws key
  ring : later.ring = broadcaster.ring.push key
  observers : later.observers = broadcaster.observers

variable {broadcaster later : Broadcaster ω} {key : GroupKey}

/-- A step issues a key and renews the broadcaster, or it issues none. -/
theorem Keyed.renews_or_keeps (hkeyed : broadcaster.Keyed) (event : Event ω)
    (hobservers : (broadcaster.step event).2.observers = broadcaster.observers) :
    (∃ key, (broadcaster.step event).1 = .rotated key
        ∧ broadcaster.Renews (broadcaster.step event).2 key)
      ∨ (broadcaster.step event).1.Keeps := by
  obtain ⟨key, hdraws, hwork, hring, -⟩ | ⟨hkeeps, -⟩ := step_cases hkeyed event
  · exact .inl ⟨key, hwork, hdraws, hring, hobservers⟩
  · exact .inr hkeeps

theorem Work.issued?_eq_some_iff {work : Work} : work.issued? = some key ↔ work = .rotated key := by
  cases work with
  | rotated issued => exact Option.some_inj.trans (Work.rotated.injEq ..).symm.to_iff
  | _ => exact ⟨(fun hissued => by cases hissued), (fun hrotated => by cases hrotated)⟩

/-- The key that was issued is the one in use. -/
theorem Renews.currentId_eq (hrenews : broadcaster.Renews later key)
    (hkeyed : broadcaster.Keyed) : later.currentId = key.id := by
  rw [currentId, KeyRing.currentId?, hrenews.ring, hkeyed.orderly.current?_push key]
  rfl

/-- Whoever asks for it gets it. -/
theorem Renews.get?_eq (hrenews : broadcaster.Renews later key) (hkeyed : broadcaster.Keyed) :
    later.ring.get? key.id = some key := by
  rw [hrenews.ring]
  refine (hkeyed.orderly.push hrenews.draws).get?_of_mem ?_
  exact List.mem_of_getLast? (hkeyed.orderly.current?_push key)

end Broadcaster

-- ============================================================ notices

/-- The notice of a key. -/
def GroupKey.notice (key : GroupKey) : RekeyNotice := ⟨key.id, key.key, key.iv⟩

/-- The datagram of that notice, as the `number`th push of its connection. -/
def GroupKey.datagram (key : GroupKey) (number : Nat) : Bytes :=
  framed (Header.new .multicastControl (Message.messageType RekeyNotice) number.toUInt8)
    (Cbor.encode key.notice)

/-- Whether a message has the form of a notice. -/
def Header.isNotice (header : Header) : Prop :=
  header.endpoint = Endpoint.multicastControl.code
    ∧ header.messageType = Message.messageType RekeyNotice

instance (header : Header) : Decidable header.isNotice := inferInstanceAs (Decidable (_ ∧ _))

/-- The notice that a datagram carries. -/
def notice? (datagram : Bytes) : Option RekeyNotice :=
  match unframe (H := Header) datagram with
  | .ok (header, payload) => if header.isNotice then Cbor.decode? payload else none
  | .error _ => none

theorem notice?_framed {header : Header} (hother : ¬ header.isNotice) {payload : Bytes}
    (hfits : payload.length ≤ maxPayloadLength) : notice? (framed header payload) = none := by
  unfold notice?
  split
  next found _ hread =>
    obtain ⟨hendpoint, htype⟩ := unframe_frame (frame_of_le hfits header) hread
    refine if_neg fun hnotice => hother ?_
    rw [Header.isNotice, ← hendpoint, ← htype]
    exact hnotice
  · rfl

/-- The datagram of a key that was drawn carries its notice. -/
theorem notice?_datagram {key : GroupKey} (hkey : key.key.length = 32)
    (hiv : key.iv.length = 16) (number : Nat) :
    notice? (key.datagram number) = some key.notice := by
  have hfits : (Cbor.encode key.notice).length ≤ maxPayloadLength :=
    RekeyNotice.encode_fits hkey hiv
  have hversion : Framed.version (Header.new .multicastControl
      (Message.messageType RekeyNotice) number.toUInt8) = protocolVersion := rfl
  have hread := unframe_framed hversion hfits []
  rw [List.append_nil] at hread
  rw [notice?, GroupKey.datagram, hread]
  have hnotice : (Framed.withLength (Header.new .multicastControl
      (Message.messageType RekeyNotice) number.toUInt8)
      (Cbor.encode key.notice).length.toUInt16).isNotice := ⟨rfl, rfl⟩
  simp only [if_pos hnotice]
  exact Cbor.decode?_encode RekeyNotice.faithful (Nat.lt_of_le_of_lt hfits (by decide))

/-- Pixels are no notice. -/
theorem Delivery.notice?_datagram {delivery : Delivery} (hcarried : delivery.Carried)
    {framebuffer : Framebuffer Watcher} (hinside : delivery.region.stop ≤ framebuffer.size)
    (frameNumber : UInt64) (number : Nat) :
    notice? (delivery.datagram framebuffer frameNumber number) = none := by
  have hother : Endpoint.pixelData.code ≠ Endpoint.multicastControl.code := by decide
  exact notice?_framed (fun hnotice => hother hnotice.1)
    (Subscription.fits_channelData hcarried (Framebuffer.length_slice hinside) frameNumber)

/-- The notices on a tape, oldest first. -/
def Tape.notices (tape : Tape) : List RekeyNotice := tape.sent.filterMap notice?

/-- An answer is no notice. -/
theorem Connection.Answers.notices_eq {connection after : Connection Tape}
    (hanswers : connection.Answers after) : after.sink.notices = connection.sink.notices := by
  obtain ⟨node, rfl | ⟨header, payload, hanswer, rfl⟩⟩ := hanswers
  · rfl
  · by_cases hfits : payload.length ≤ maxPayloadLength
    · rw [send_of_fits hfits]
      show (connection.sink.sent ++ [_]).filterMap notice? = _
      have hother : ¬ header.isNotice := fun hnotice => hanswer (.inr hnotice)
      rw [List.filterMap_append, List.filterMap_cons, notice?_framed hother hfits]
      exact List.append_nil _
    · unfold Connection.send
      rw [frame, if_neg hfits]

/-- A connection that is told of a key sends its notice, if the node is known. -/
theorem GroupKeys.notice_of_material {connection : Connection Tape}
    {group : Broadcaster KeyWatcher} {key : GroupKey}
    (hget : group.ring.get? key.id = some key) (hkey : key.key.length = 32)
    (hiv : key.iv.length = 16) :
    notice connection group key.id
      = if connection.isAuthenticated then connection.pushed .multicastControl key.notice
        else connection := by
  have hfits : (Cbor.encode key.notice).length ≤ maxPayloadLength :=
    RekeyNotice.encode_fits hkey hiv
  unfold notice Broadcaster.material?
  rw [hget]
  simp only [Option.map_some]
  exact congrArg (fun sent => if connection.isAuthenticated then Prod.snd sent else connection)
    (connection.pushWith_of_fits hfits .multicastControl)

-- ====================================================== announcements

namespace Rig

variable {rig : Rig Tape} {group : Broadcaster KeyWatcher} {key : GroupKey}

/-- The notices that were sent on a connection, oldest first. -/
def notices (rig : Rig Tape) (id : ConnectionId) : List RekeyNotice :=
  (rig.sent id).filterMap notice?

theorem station?_tellKey (rig : Rig Tape) (group : Broadcaster KeyWatcher) (key : UInt32)
    (watcher : KeyWatcher) (id : ConnectionId) :
    (rig.tellKey group key watcher).station? id
      = if watcher = .connection id then (rig.station? id).map (·.notice group key)
        else rig.station? id := by
  cases watcher with
  | outsider number => rfl
  | connection other =>
      by_cases hsame : other = id
      · subst hsame
        rw [if_pos rfl]
        cases hfound : rig.station? other with
        | none => exact (congrArg (station? · other) (modify_of_none hfound _)).trans hfound
        | some station => exact station?_modify hfound fun _ hid => hid
      · rw [if_neg fun hconnection => hsame (KeyWatcher.connection.inj hconnection)]
        exact rig.station?_modify_of_ne hsame fun _ hid => hid

/-- Of those who are told, everyone is told once. -/
theorem station?_foldl_tellKey {watchers : List KeyWatcher} (hnodup : watchers.Nodup)
    (rig : Rig Tape) (group : Broadcaster KeyWatcher) (key : UInt32) (id : ConnectionId) :
    (watchers.foldl (fun rig watcher => rig.tellKey group key watcher) rig).station? id
      = if .connection id ∈ watchers then (rig.station? id).map (·.notice group key)
        else rig.station? id := by
  induction watchers generalizing rig with
  | nil => rfl
  | cons watcher watchers ih =>
      rw [List.nodup_cons] at hnodup
      rw [List.foldl_cons, ih hnodup.2, station?_tellKey]
      by_cases hsame : watcher = .connection id
      · subst hsame
        rw [if_neg hnodup.1, if_pos rfl, if_pos List.mem_cons_self]
      · have hmem : .connection id ∈ watcher :: watchers ↔ .connection id ∈ watchers :=
          ⟨fun hmem => (List.mem_cons.1 hmem).resolve_left fun heq => hsame heq.symm,
            List.mem_cons_of_mem watcher⟩
        rw [if_neg hsame]
        simp only [hmem]

/-- An announcement is one datagram more for everyone who hears of new keys, and
nothing for the others. -/
theorem Kept.sent_announce (hkept : rig.Kept) (henrols : rig.Enrols group)
    (hget : group.ring.get? key.id = some key) (hkey : key.key.length = 32)
    (hiv : key.iv.length = 16) (id : ConnectionId) :
    (rig.announce key.id).sent id
      = rig.sent id
        ++ if rig.hears id then [key.datagram (rig.pushTags id).length] else [] := by
  have htold := station?_foldl_tellKey (henrols.nodup_toList hkept) rig group key.id id
  unfold announce
  rw [henrols.found]
  simp only
  rw [sent, htold, sent, hears]
  cases hfound : rig.station? id with
  | none =>
      rw [Option.map_none, ite_self]
      rfl
  | some station =>
      -- being told is for those who listen, and sending for those who are known
      have hnotice : station.connection.sink.sent
            ++ (if station.hears then [key.datagram (rig.pushTags id).length] else [])
          = (if station.listens then
              (GroupKeys.notice station.connection group key.id).sink.sent
            else station.connection.sink.sent) := by
        rw [GroupKeys.notice_of_material hget hkey hiv, GroupKey.datagram,
          ← hkept.nextTag_eq hfound, Station.hears]
        cases station.listens with
        | false => rw [Bool.and_false]; exact List.append_nil _
        | true =>
            cases station.connection.isAuthenticated with
            | false => exact List.append_nil _
            | true => rfl
      simp only [henrols.mem_toList_iff hkept hfound]
      refine Eq.trans ?_ hnotice.symm
      cases station.listens with
      | false => rfl
      | true => rfl

-- ========================================================== backstage

/-- What the broadcaster makes of something backstage. -/
def outcome (rig : Rig Tape) : Backstage → Broadcaster.Work
  | .rotate entropy => (rig.tuned rig.venue.now entropy).rotate.1
  | .work now entropy => (rig.tuned now entropy).work.1
  | _ => .idle

/-- What the broadcaster made of it, and what came of that at the rig: a key was
issued and announced, or no station has changed. -/
inductive Turns (rig : Rig Tape) (group : Broadcaster KeyWatcher) :
    Broadcaster.Work → Rig Tape → Prop where
  | announced {key : GroupKey} {later : Broadcaster KeyWatcher} {venue : Venue}
      (renews : group.Renews later key) (found : venue.group = some later)
      (framebuffer : venue.framebuffer = rig.venue.framebuffer) :
      Turns rig group (.rotated key) (Rig.announce { rig with venue } key.id)
  | quiet {work : Broadcaster.Work} {after : Rig Tape} (keeps : work.Keeps)
      (stations : after.stations = rig.stations) : Turns rig group work after

theorem turns_takeOver (rig : Rig Tape) (hkeyed : group.Keyed)
    (event : Broadcaster.Event KeyWatcher)
    {done : Broadcaster.Work × Broadcaster KeyWatcher × Entropy}
    (hstep : group.step event = (done.1, done.2.1))
    (hobservers : done.2.1.observers = group.observers) :
    rig.Turns group (rig.takeOver done).1 (rig.takeOver done).2 := by
  obtain ⟨work, later, entropy⟩ := done
  have hcases := hkeyed.renews_or_keeps event (by rw [hstep]; exact hobservers)
  rw [hstep] at hcases
  obtain ⟨key, rfl : work = _, hrenews⟩ | hkeeps := hcases
  · exact @Turns.announced rig group key later { rig.venue with group := some later, entropy }
      hrenews rfl rfl
  · cases work with
    | rotated key => exact hkeeps.elim
    | _ => exact .quiet hkeeps rfl

/-- The time and the randomness make no difference to what stations there are. -/
theorem Turns.of_tuned {now : UInt64} {entropy : Entropy} {work : Broadcaster.Work}
    {after : Rig Tape} (hturns : (rig.tuned now entropy).Turns group work after) :
    rig.Turns group work after := by
  cases hturns with
  | announced hrenews hfound hframebuffer => exact .announced hrenews hfound hframebuffer
  | quiet hkeeps hstations => exact .quiet hkeeps hstations

theorem turns_rotate (hfound : rig.venue.group = some group) (hkeyed : group.Keyed) :
    rig.Turns group rig.rotate.1 rig.rotate.2 := by
  unfold rotate
  rw [hfound]
  exact rig.turns_takeOver hkeyed (.elapse rig.venue.entropy) rfl (group.observers_elapse _)

theorem turns_work (hfound : rig.venue.group = some group) (hkeyed : group.Keyed) :
    rig.Turns group rig.work.1 rig.work.2 := by
  unfold work
  rw [hfound]
  exact rig.turns_takeOver hkeyed (.work rig.venue.now rig.venue.entropy) rfl
    (group.observers_work _ _)

/-- Whatever goes on backstage, except that a region is finished. -/
theorem turns_apart (hfound : rig.venue.group = some group) (hkeyed : group.Keyed)
    (event : Backstage) :
    rig.Turns group (rig.outcome event) (rig.apart event)
      ∨ ∃ region frameNumber, event = .finish region frameNumber := by
  cases event with
  | rotate entropy =>
      have htuned : (rig.tuned rig.venue.now entropy).venue.group = some group := hfound
      exact .inl (turns_rotate htuned hkeyed).of_tuned
  | work now entropy =>
      have htuned : (rig.tuned now entropy).venue.group = some group := hfound
      exact .inl (turns_work htuned hkeyed).of_tuned
  | request item => exact .inl (.quiet trivial rfl)
  | rewire channels => exact .inl (.quiet trivial rfl)
  | draw start pixels =>
      refine .inl (.quiet trivial ?_)
      unfold apart
      simp only
      split
      · rfl
      · rfl
  | finish region frameNumber => exact .inr ⟨region, frameNumber, rfl⟩

-- ===================================================== other business

variable {id other : ConnectionId}

theorem sent_of_stations {after : Rig Tape} (hstations : after.stations = rig.stations)
    (id : ConnectionId) : after.sent id = rig.sent id := by
  unfold sent station?
  rw [hstations]

/-- A peer that connects has been sent nothing. -/
theorem sent_enter (rig : Rig Tape) (peer : SocketAddress) (id : ConnectionId) :
    (rig.enter peer).sent id = rig.sent id := by
  unfold sent station? enter
  simp only
  rw [List.find?_append]
  cases rig.stations.find? (·.id == id) with
  | some station => rfl
  | none =>
      rw [Option.none_or, List.find?_singleton]
      split
      · rfl
      · rfl

/-- A station changes and is sent no notice. -/
theorem notices_modify {change : Station Tape → Station Tape}
    (hid : ∀ station, station.id = id → (change station).id = id)
    (hnotices : ∀ station, rig.station? id = some station →
      (change station).connection.sink.notices = station.connection.sink.notices)
    (other : ConnectionId) : (rig.modify id change).notices other = rig.notices other := by
  unfold notices sent
  by_cases hsame : id = other
  · subst hsame
    cases hfound : rig.station? id with
    | none => rw [modify_of_none hfound, hfound]
    | some station =>
        rw [station?_modify hfound hid]
        exact hnotices station hfound
  · rw [rig.station?_modify_of_ne hsame hid]

/-- A refusal is an answer. -/
theorem notices_refuse (rig : Rig Tape) (id : ConnectionId) (header : Header) (status : Status)
    (other : ConnectionId) :
    (rig.modify id fun station =>
      { station with connection := (station.connection.refuse header status).2 }).notices other
      = rig.notices other := by
  have hanswer : ∀ connection : Connection Tape,
      (connection.refuse header status).2.sink.notices = connection.sink.notices :=
    fun connection => (connection.answers_replyWith header _ (by decide)).notices_eq
  refine notices_modify ?_ (fun station _ => hanswer station.connection) other
  exact fun _ hid => hid

theorem notices_put {station after : Station Tape} (hfound : rig.station? id = some station)
    (hid : after.id = id)
    (hnotices : after.connection.sink.notices = station.connection.sink.notices) (venue : Venue)
    (other : ConnectionId) : (rig.put id after venue).notices other = rig.notices other := by
  have hmodified : (rig.modify id fun _ => after).notices other = rig.notices other := by
    refine notices_modify (fun _ _ => hid) (fun found hthere => ?_) other
    rw [hfound] at hthere
    cases hthere
    exact hnotices
  exact hmodified

namespace Kept

variable (hkept : rig.Kept)
include hkept

theorem notices_serve (id : ConnectionId) (position : Nat) (header : Header) (payload : Bytes)
    (other : ConnectionId) :
    (rig.serve id position header payload).notices other = rig.notices other := by
  obtain ⟨-, hsame⟩ | ⟨station, after, venue, hfound, hserve, hid, -, hanswers, -⟩ :=
    hkept.serve_cases id position header payload
  · rw [hsame]
  · rw [hserve]
    exact notices_put hfound hid hanswers.notices_eq venue other

theorem notices_detach (id : ConnectionId) (endpoint : Endpoint) (other : ConnectionId) :
    (rig.detach id endpoint).notices other = rig.notices other := by
  obtain ⟨-, hsame⟩ | ⟨station, after, venue, hfound, hput, hid, hconnection, -⟩ :=
    hkept.detach_cases id endpoint
  · rw [hsame]
  · rw [hput]
    exact notices_put hfound hid (by rw [hconnection]) venue other

theorem notices_detachAll (id other : ConnectionId) :
    (rig.detachAll id).notices other = rig.notices other := by
  obtain ⟨-, hsame⟩ | ⟨station, after, venue, hfound, hput, hid, hconnection, -⟩ :=
    hkept.detachAll_cases id
  · rw [hsame]
  · rw [hput]
    exact notices_put hfound hid (by rw [hconnection]) venue other

/-- Pixels are no notices. -/
theorem notices_tell {delivery : Delivery} (hcarried : delivery.Carried) (frameNumber : UInt64)
    (token : Token) (id : ConnectionId) :
    (rig.tell frameNumber token (.delivery delivery)).notices id = rig.notices id := by
  rw [notices, hkept.sent_tell hcarried, List.filterMap_append]
  split
  next hall =>
    rw [List.filterMap_cons_none (Delivery.notice?_datagram hcarried hall.2.2 _ _)]
    exact List.append_nil _
  · exact List.append_nil _

theorem notices_finish (region : Region) (frameNumber : UInt64) (id : ConnectionId) :
    (rig.finish region frameNumber).2.notices id = rig.notices id := by
  have hdue : ∀ entry ∈ rig.venue.framebuffer.due region,
      entry ∈ rig.venue.framebuffer.observers.entries :=
    fun entry hentry => (List.mem_filter.1 hentry).1
  show ((List.foldl _ rig (rig.venue.framebuffer.due region)).sent id).filterMap notice? = _
  rw [hkept.sent_foldl_tell frameNumber id hdue, List.filterMap_append]
  refine (congrArg (rig.notices id ++ ·) (List.filterMap_eq_nil_iff.2 ?_)).trans
    (List.append_nil _)
  intro datagram hdatagram
  obtain ⟨index, hindex, rfl⟩ := List.mem_mapIdx.1 hdatagram
  obtain ⟨hdelivery, hinside⟩ := List.mem_filter.1 (List.getElem_mem hindex)
  obtain ⟨entry, hentry, hbehind⟩ := List.mem_filterMap.1 hdelivery
  obtain ⟨delivery, howned, -, hcarried⟩ := hkept.orderly.owned entry (hdue entry hentry)
  unfold Delivery.behind? at hbehind
  rw [howned] at hbehind
  simp only at hbehind
  split at hbehind
  · exact Delivery.notice?_datagram (Option.some.inj hbehind ▸ hcarried)
      (of_decide_eq_true hinside) _ _
  · cases hbehind

end Kept

end Rig

-- ============================================================== scenes

namespace Scene

variable {scene : Scene} {id : ConnectionId}

/-- Whether a connection hears of new keys. -/
def hears (scene : Scene) (id : ConnectionId) : Bool := scene.rig.hears id

/-- The notices that were sent on a connection, oldest first. -/
def notices (scene : Scene) (id : ConnectionId) : List RekeyNotice := scene.rig.notices id

/-- The key that a cue issues, if the keys are rotated. -/
def issued? (scene : Scene) : Cue → Option GroupKey
  | .apart event => (scene.rig.outcome event).issued?
  | _ => none

/-- The notices that a connection is owed in the course of some cues: one for every
key that is issued while it hears of new keys. -/
def owed (scene : Scene) (id : ConnectionId) : List Cue → List RekeyNotice
  | [] => []
  | cue :: cues =>
      (if scene.hears id then (scene.issued? cue).toList.map GroupKey.notice else [])
        ++ (scene.step cue).owed id cues

/-- A scene whose group has its keys in order, and the stations that listen as its
observers. -/
structure Attuned (scene : Scene) : Prop where
  kept : scene.Kept
  keys : scene.rig.venue.HasKeys
  enrols : ∃ group, scene.rig.Enrols group

theorem Attuned.step (hattuned : scene.Attuned) (cue : Cue) : (scene.step cue).Attuned := by
  obtain ⟨group, henrols⟩ := hattuned.enrols
  exact ⟨(hattuned.kept.step cue).1, hasKeys_step hattuned.keys cue,
    enrols_step hattuned.kept henrols cue⟩

theorem Attuned.exists_group (hattuned : scene.Attuned) :
    ∃ group, scene.rig.Enrols group ∧ group.Keyed := by
  obtain ⟨group, henrols⟩ := hattuned.enrols
  obtain ⟨found, hfound, hkeyed⟩ := hattuned.keys
  rw [henrols.found] at hfound
  cases hfound
  exact ⟨group, henrols, hkeyed⟩

/-- A rotation that succeeds sends one notice, of the key that is then in use and
handed out, to everyone who hears of new keys, and nothing to the others. -/
theorem Attuned.rotated (hattuned : scene.Attuned) {event : Backstage} {key : GroupKey}
    (hrotated : scene.rig.outcome event = .rotated key) :
    let later := scene.step (.apart event)
    (∀ id, later.sent id
        = scene.sent id
          ++ if scene.hears id then [key.datagram (scene.pushTags id).length] else [])
      ∧ (∀ number, notice? (key.datagram number) = some key.notice)
      ∧ ∃ group, later.rig.venue.group = some group ∧ group.currentId = key.id
        ∧ group.Answers key.id ⟨.success, key.id, key.key, key.iv⟩ := by
  obtain ⟨group, henrols, hkeyed⟩ := hattuned.exists_group
  obtain hturns | ⟨region, frameNumber, rfl⟩ := Rig.turns_apart henrols.found hkeyed event
  · show (∀ id, (scene.rig.apart event).sent id = _) ∧ _
      ∧ ∃ group, (scene.rig.apart event).venue.group = some group ∧ _
    generalize scene.rig.apart event = after at hturns
    rw [hrotated] at hturns
    cases hturns with
    | @announced key later venue hrenews hfound hframebuffer =>
        have hkept := hattuned.kept.rig.of_venue (congrArg Framebuffer.observers hframebuffer)
        have henrolled : Rig.Enrols { scene.rig with venue } later :=
          henrols.of_same hfound hrenews.observers rfl
        have hget := hrenews.get?_eq hkeyed
        have hkey := hrenews.draws.keyLength
        have hiv := hrenews.draws.ivLength
        exact ⟨fun id => hkept.sent_announce henrolled hget hkey hiv id,
          fun number => notice?_datagram hkey hiv number, _, (henrolled.announce key.id).found,
          hrenews.currentId_eq hkeyed, Broadcaster.answers_of_get? hget⟩
    | quiet hkeeps _ => exact hkeeps.elim
  · cases hrotated

/-- What issues no key sends nothing, unless it is that a region is finished. -/
theorem Attuned.sent_of_quiet (hattuned : scene.Attuned) {event : Backstage}
    (hnone : (scene.rig.outcome event).issued? = none)
    (hother : ∀ region frameNumber, event ≠ .finish region frameNumber) (id : ConnectionId) :
    (scene.step (.apart event)).sent id = scene.sent id := by
  obtain ⟨group, henrols, hkeyed⟩ := hattuned.exists_group
  obtain hturns | ⟨region, frameNumber, hfinish⟩ := Rig.turns_apart henrols.found hkeyed event
  · show (scene.rig.apart event).sent id = _
    generalize scene.rig.apart event = after at hturns
    generalize scene.rig.outcome event = work at hturns hnone
    cases hturns with
    | announced _ _ _ => cases hnone
    | quiet _ hstations => exact Rig.sent_of_stations hstations id
  · exact absurd hfinish (hother region frameNumber)

/-- A rotation fails for lack of randomness only, and then sends nothing. -/
theorem Attuned.unrotated (hattuned : scene.Attuned) {event : Backstage} {fault : CryptoError}
    (hunrotated : scene.rig.outcome event = .unrotated fault) :
    fault = .entropy .groupKey
      ∧ ∀ id, (scene.step (.apart event)).sent id = scene.sent id := by
  obtain ⟨group, henrols, hkeyed⟩ := hattuned.exists_group
  obtain hturns | ⟨region, frameNumber, rfl⟩ := Rig.turns_apart henrols.found hkeyed event
  · have hnone : (scene.rig.outcome event).issued? = none := by
      rw [hunrotated]
      rfl
    refine ⟨?_, hattuned.sent_of_quiet hnone fun region frameNumber hfinish => ?_⟩
    · rw [hunrotated] at hturns
      generalize scene.rig.apart event = after at hturns
      cases hturns with
      | quiet hkeeps _ => exact hkeeps
    · rw [hfinish] at hunrotated
      cases hunrotated
  · cases hunrotated

/-- Backstage the notices of a key that is issued are sent, and no other. -/
theorem Attuned.notices_apart (hattuned : scene.Attuned) (event : Backstage)
    (id : ConnectionId) :
    (scene.step (.apart event)).notices id
      = scene.notices id
        ++ if scene.hears id then
            (scene.rig.outcome event).issued?.toList.map GroupKey.notice
          else [] := by
  show ((scene.step (.apart event)).sent id).filterMap notice? = _
  cases hissued : (scene.rig.outcome event).issued? with
  | some key =>
      obtain ⟨hsent, hnotice, -⟩ :=
        hattuned.rotated (Broadcaster.Work.issued?_eq_some_iff.1 hissued)
      rw [hsent id, List.filterMap_append]
      refine congrArg (scene.notices id ++ ·) ?_
      split
      · exact List.filterMap_cons_some (hnotice _)
      · rfl
  | none =>
      have hnothing : (if scene.hears id then
          (none : Option GroupKey).toList.map GroupKey.notice else []) = [] := ite_self []
      rw [hnothing, List.append_nil]
      by_cases hfinish : ∃ region frameNumber, event = .finish region frameNumber
      · obtain ⟨region, frameNumber, rfl⟩ := hfinish
        exact hattuned.kept.rig.notices_finish region frameNumber id
      · rw [hattuned.sent_of_quiet hissued fun region frameNumber heq =>
          hfinish ⟨region, frameNumber, heq⟩]
        rfl

/-- No other cue sends a notice. -/
theorem Attuned.notices_of_ne (hattuned : scene.Attuned) {cue : Cue}
    (hother : ∀ event, cue ≠ .apart event) (id : ConnectionId) :
    (scene.step cue).notices id = scene.notices id := by
  have hrig := hattuned.kept.rig
  cases cue with
  | enter peer => exact congrArg (List.filterMap notice?) (scene.rig.sent_enter peer id)
  | message other position header payload =>
      exact hrig.notices_serve other position header payload id
  | refuse other header => exact scene.rig.notices_refuse other header .unsupported id
  | detach other endpoint => exact hrig.notices_detach other endpoint id
  | leave other => exact hrig.notices_detachAll other id
  | apart event => exact absurd rfl (hother event)
  | finish region frameNumber => rfl
  | tell index =>
      cases hcallback : scene.underway[index]? with
      | none => rw [step_tell_of_none hcallback]
      | some callback =>
          obtain ⟨delivery, hdelivery, hcarried, -⟩ :=
            hattuned.kept.underway callback (List.mem_of_getElem? hcallback)
          rw [step_tell hcallback, hdelivery]
          exact hrig.notices_tell hcarried callback.frameNumber callback.token id

/-- Every cue sends the notices that are owed, and no other. -/
theorem Attuned.notices_step (hattuned : scene.Attuned) (cue : Cue) (id : ConnectionId) :
    (scene.step cue).notices id
      = scene.notices id
        ++ if scene.hears id then (scene.issued? cue).toList.map GroupKey.notice else [] := by
  by_cases hapart : ∃ event, cue = .apart event
  · obtain ⟨event, rfl⟩ := hapart
    exact hattuned.notices_apart event id
  · have hother : ∀ event, cue ≠ .apart event := fun event heq => hapart ⟨event, heq⟩
    have hnone : scene.issued? cue = none := by
      cases cue with
      | apart event => exact absurd rfl (hother event)
      | _ => rfl
    rw [hattuned.notices_of_ne hother, hnone]
    exact ((congrArg (scene.notices id ++ ·) (ite_self [])).trans (List.append_nil _)).symm

/-- So at the end of a run everyone was sent what was owed. -/
theorem Attuned.notices_foldl (hattuned : scene.Attuned) (cues : List Cue) (id : ConnectionId) :
    (cues.foldl Scene.step scene).notices id = scene.notices id ++ scene.owed id cues := by
  induction cues generalizing scene with
  | nil => exact (List.append_nil _).symm
  | cons cue cues ih =>
      rw [List.foldl_cons, ih (hattuned.step cue), hattuned.notices_step, owed, List.append_assoc]

theorem attuned_opening {venue : Venue} {group : Broadcaster KeyWatcher}
    (hgroup : venue.group = some group) (hkeyed : group.Keyed)
    (hempty : group.observers = .empty) : (opening venue).Attuned := by
  refine ⟨kept_opening venue, ⟨group, hgroup, hkeyed⟩, group, hgroup, ?_, ?_⟩
  · rw [hempty]
    rfl
  · rw [hempty]
    exact Observers.orderly_empty

theorem Attuned.foldl (hattuned : scene.Attuned) (cues : List Cue) :
    (cues.foldl Scene.step scene).Attuned := by
  induction cues generalizing scene with
  | nil => exact hattuned
  | cons cue cues ih => exact ih (hattuned.step cue)

/-- Where nobody has handlers any more, nobody is an observer. -/
theorem entries_eq_nil {group : Broadcaster KeyWatcher} (henrols : scene.rig.Enrols group)
    (hgone : ∀ station ∈ scene.rig.stations, station.handlers = []) :
    group.observers.entries = [] := by
  rw [henrols.entries, Rig.watches]
  refine List.flatMap_eq_nil_iff.2 fun station hstation => ?_
  rw [Station.watches, hgone station hstation]
  rfl

/-- Notices of new keys reach exactly the connections that hear of them. At any time
of a run, a rotation that succeeds sends one notice to every connection whose
node is known and that has its handler for group keys, as its next push, and
nothing to any other: the notice is of the key that is from then on in use,
and carries what whoever asks for this key is answered. A rotation that fails
sends nothing. So a connection has been sent the notices of all keys that
were issued while it heard of them, and no others, whatever else happened.
And the group's observers are the connections that have their handler for
group keys, once each; when nobody has handlers any more, it has none. -/
theorem notices_reach_listeners {config : GroupConfig} {link : Link} {target : IpAddress}
    {entropy left : Entropy} {first : Broadcaster KeyWatcher}
    (hstart : Broadcaster.start config link target entropy = .running (first, left))
    {venue : Venue} (hgroup : venue.group = some first) (cues : List Cue) :
    let scene := after venue cues
    (∀ event key, scene.rig.outcome event = .rotated key →
        let later := scene.step (.apart event)
        (∀ id, later.sent id
            = scene.sent id
              ++ if scene.hears id then [key.datagram (scene.pushTags id).length] else [])
          ∧ (∀ number, notice? (key.datagram number) = some key.notice)
          ∧ ∃ group, later.rig.venue.group = some group ∧ group.currentId = key.id
            ∧ group.Answers key.id ⟨.success, key.id, key.key, key.iv⟩)
      ∧ (∀ event fault, scene.rig.outcome event = .unrotated fault →
        fault = .entropy .groupKey
          ∧ ∀ id, (scene.step (.apart event)).sent id = scene.sent id)
      ∧ (∀ id, scene.notices id = (opening venue).owed id cues)
      ∧ ∃ group, scene.rig.venue.group = some group
        ∧ group.observers.toList
          = (scene.rig.stations.filter Station.listens).map (fun station =>
              .connection station.id)
        ∧ ((∀ station ∈ scene.rig.stations, station.handlers = []) →
          group.observers.entries = []) := by
  intro scene
  have hempty : first.observers = .empty := by
    obtain ⟨ring, cipher, rfl⟩ := Broadcaster.eq_of_start hstart
    rfl
  have hopening := attuned_opening hgroup (Broadcaster.keyed_start hstart).1 hempty
  have hattuned : scene.Attuned := hopening.foldl cues
  obtain ⟨group, henrols⟩ := hattuned.enrols
  exact ⟨fun event key hrotated => hattuned.rotated hrotated,
    fun event fault hunrotated => hattuned.unrotated hunrotated,
    hopening.notices_foldl cues, group, henrols.found,
    henrols.toList_eq fun station hstation => (hattuned.kept.rig.sound station hstation).standing,
    entries_eq_nil henrols⟩

/-- A venue with a group under its first key, where a node can prove who it is. -/
def exampleVenueWithGroup : Venue :=
  { exampleVenue with
    group := some {
      config := .standard
      link := .up
      ring := ⟨3, [⟨0x07070707, List.replicate 32 7, List.replicate 16 7⟩]⟩
      cipher := ⟨some (List.replicate 32 7)⟩
      observers := .empty
      requests := []
      sequence := 0
      tag := 0
      terminated := false
      running := true } }

-- One statement, so that the run is evaluated once.
theorem exampleVenueWithGroup_run :
    let scene := after exampleVenueWithGroup exampleCues
    let key : GroupKey := ⟨0x09090909, List.replicate 32 9, List.replicate 16 9⟩
    scene.hears 0 = true ∧ (scene.pushTags 0).length = 0
      ∧ (scene.rig.outcome (.rotate (List.replicate 52 9))).issued? = some key := by
  decide +kernel

/-- The node that proved who it is is sent the next key, as the first push on its
connection. -/
theorem notice_reaches_in_example :
    let scene := after exampleVenueWithGroup exampleCues
    let key : GroupKey := ⟨0x09090909, List.replicate 32 9, List.replicate 16 9⟩
    (scene.step (.apart (.rotate (List.replicate 52 9)))).sent 0
        = scene.sent 0 ++ [key.datagram 0]
      ∧ notice? (key.datagram 0) = some key.notice := by
  intro scene key
  obtain ⟨hhears, htags, hissued⟩ := exampleVenueWithGroup_run
  have hstart : Broadcaster.start .standard .up .anyV4 (List.replicate 52 7)
      = .running (exampleVenueWithGroup.group.get rfl, []) := by rfl
  have hgroup : exampleVenueWithGroup.group = some (exampleVenueWithGroup.group.get rfl) := by
    rfl
  obtain ⟨hsent, hnotice, -⟩ := (notices_reach_listeners hstart hgroup exampleCues).1 _ key
    (Broadcaster.Work.issued?_eq_some_iff.1 hissued)
  refine ⟨?_, hnotice 0⟩
  rw [hsent 0, hhears, htags]
  rfl

end Scene

end Luminaire
