/-
Rigs of tapes.

Every connection is given the standard handlers, and a tape behind it, so
that its sends succeed. That the books agree is what every rig keeps
(`Rig.Settled`, `Rig.Evolves`). At a rig of tapes there is more to keep
(`Rig.Kept`): all handlers come with the library, stations are numbered from
zero, and the tags of the pushes on every tape count up from zero. It is
enough to look at one station at a time (`Rig.Kept.put`), or at the
connections alone (`Rig.Kept.modify_connection`), and so whatever happens at
such a rig keeps it: arrivals, messages, departures, and what goes on behind
the connections' backs.
-/
import Luminaire.Proofs.Group.Rotation
import Luminaire.Proofs.Server.Accord

namespace Luminaire

-- =============================================================== rigs

namespace Rig

/-- A peer connects: its station gets the next number and the standard
handlers. -/
def enter (rig : Rig Tape) (peer : SocketAddress) : Rig Tape :=
  let attached := Worker.attach rig.stations.length (standardRegistry.entries.map Prod.snd)
    .empty rig.venue
  { venue := attached.2.2
    stations := rig.stations
      ++ [⟨rig.stations.length, .new peer .blank, attached.1.handlers⟩] }

/-- Hands a message to a handler, if there is one at that position. -/
def serve (rig : Rig Tape) (id : ConnectionId) (position : Nat) (header : Header)
    (payload : Bytes) : Rig Tape :=
  match rig.handleAt id position header payload with
  | none => rig
  | some (_, rig) => rig

/-- What was sent on a connection. -/
def sent (rig : Rig Tape) (id : ConnectionId) : List Bytes :=
  ((rig.station? id).map fun station => station.connection.sink.sent).getD []

end Rig

-- ========================================================= invariant

/-- A station whose handlers, books and tags are in order. -/
structure Station.Sound (station : Station Tape) (framebuffer : Framebuffer Watcher) : Prop where
  standing : station.Standing
  /-- The two sides of the subscriptions agree. -/
  books : station.held = (framebuffer.booked station.id).reverse
  channels : (station.held.map Subscription.channel).Nodup
  tags : station.connection.Numbered

/-- The books agree, all handlers come with the library, stations are numbered
from zero, and the pushes on every tape are. -/
structure Rig.Kept (rig : Rig Tape) : Prop where
  settled : rig.Settled
  standard : ∀ station ∈ rig.stations, ∀ handler ∈ station.handlers, handler.IsStandard
  numbers : rig.stations.map Station.id = List.range rig.stations.length
  tags : ∀ station ∈ rig.stations, station.connection.Numbered

namespace Rig

variable {rig : Rig Tape} {id other : ConnectionId} {station after : Station Tape}

theorem held_put (hfound : rig.station? id = some station) (hid : after.id = id)
    (venue : Venue) : (rig.put id after venue).held id = after.held := by
  rw [held, station?_put hfound hid]
  rfl

theorem sent_put (hfound : rig.station? id = some station) (hid : after.id = id)
    (venue : Venue) : (rig.put id after venue).sent id = after.connection.sink.sent := by
  rw [sent, station?_put hfound hid]
  rfl

/-- Everyone at a modified rig was there before, changed or not. -/
theorem mem_modify {change : Station Tape → Station Tape}
    (hmem : after ∈ (rig.modify id change).stations) :
    ∃ station ∈ rig.stations,
      (station.id = id ∧ after = change station) ∨ (station.id ≠ id ∧ after = station) := by
  obtain ⟨station, hstation, rfl⟩ := List.mem_map.1 hmem
  refine ⟨station, hstation, ?_⟩
  by_cases hid : station.id = id
  · rw [if_pos hid]
    exact .inl ⟨hid, rfl⟩
  · rw [if_neg hid]
    exact .inr ⟨hid, rfl⟩

theorem length_modify (rig : Rig Tape) (id : ConnectionId)
    (change : Station Tape → Station Tape) :
    (rig.modify id change).stations.length = rig.stations.length :=
  List.length_map ..

theorem ids_modify (rig : Rig Tape) {change : Station Tape → Station Tape}
    (hid : ∀ station, station.id = id → (change station).id = id) :
    (rig.modify id change).stations.map Station.id = rig.stations.map Station.id := by
  show (rig.stations.map _).map Station.id = _
  rw [List.map_map]
  refine List.map_congr_left fun station _ => ?_
  show (if station.id = id then change station else station).id = station.id
  by_cases hsame : station.id = id
  · rw [if_pos hsame, hid station hsame, hsame]
  · rw [if_neg hsame]

namespace Kept

variable (hkept : rig.Kept)
include hkept

/-- A station is found under its number, and there is no other. -/
theorem station?_of_mem (hmem : station ∈ rig.stations) :
    rig.station? station.id = some station := by
  have hnodup : (rig.stations.map Station.id).Nodup := hkept.numbers ▸ List.nodup_range
  obtain ⟨found, hfound⟩ : ∃ found, rig.station? station.id = some found :=
    Option.isSome_iff_exists.1 (List.find?_isSome.2 ⟨station, hmem, beq_self_eq_true _⟩)
  obtain ⟨hfoundMem, hid⟩ := mem_of_station? hfound
  rw [hfound, List.inj_on_of_nodup_map hnodup hfoundMem hmem hid]

theorem lt_of_station? (hfound : rig.station? id = some station) :
    id < rig.stations.length := by
  obtain ⟨hmem, rfl⟩ := mem_of_station? hfound
  have hid : station.id ∈ rig.stations.map Station.id := List.mem_map_of_mem hmem
  rw [hkept.numbers] at hid
  exact List.mem_range.1 hid

theorem station?_of_le (hid : rig.stations.length ≤ id) : rig.station? id = none := by
  cases hfound : rig.station? id with
  | none => rfl
  | some station => exact absurd (hkept.lt_of_station? hfound) (Nat.not_lt_of_le hid)

/-- What is held on a connection is what the framebuffer has it down for,
newest first. -/
theorem held_eq (id : ConnectionId) :
    rig.held id = (rig.venue.framebuffer.booked id).reverse :=
  (hkept.settled.agrees id).books

/-- The framebuffer's observers are those of the stations. -/
theorem orderly : rig.venue.framebuffer.Orderly rig.stations.length := by
  obtain ⟨count, horderly⟩ := (hkept.settled.agrees 0).orderly
  refine ⟨fun entry hentry => ?_, horderly.tokens, horderly.issued⟩
  obtain ⟨delivery, howned, -, hcarried⟩ := horderly.owned entry hentry
  obtain ⟨holder, hholder, hheld⟩ := hkept.settled.held_of_observer hentry
  obtain rfl : holder = delivery :=
    Watcher.delivery.inj (congrArg RegionObserver.observer (hholder.symm.trans howned))
  refine ⟨holder, howned, Nat.lt_of_not_le fun hle => ?_, hcarried⟩
  rw [held_of_none (hkept.station?_of_le hle)] at hheld
  cases hheld

theorem sound (station : Station Tape) (hmem : station ∈ rig.stations) :
    station.Sound rig.venue.framebuffer := by
  have hfound := hkept.station?_of_mem hmem
  have hheld := held_of_station? hfound
  have hdistinct : station.Distinct := hkept.settled.distinct _ _ hfound
  refine ⟨⟨hkept.standard station hmem, hdistinct⟩, ?_, ?_, hkept.tags station hmem⟩
  · rw [← hheld]
    exact hkept.held_eq station.id
  · rw [← hheld]
    exact hkept.settled.channels station.id

theorem tags_of_station? (hfound : rig.station? id = some station) :
    station.connection.Numbered :=
  hkept.tags station (mem_of_station? hfound).1

/-- One station moves its books and keeps its tags. -/
theorem put {venue : Venue} (hminds : Minds id rig (rig.put id after venue)) (hid : after.id = id)
    (hstanding : after.Standing) (htags : after.connection.Numbered) :
    (rig.put id after venue).Kept := by
  refine ⟨hminds.settled hkept.settled, fun current hcurrent => ?_, ?_, fun current hcurrent => ?_⟩
  · obtain ⟨before, hbefore, ⟨-, rfl⟩ | ⟨-, rfl⟩⟩ := mem_modify hcurrent
    · exact hstanding.standard
    · exact hkept.standard current hbefore
  · have hlength : (rig.put id after venue).stations.length = rig.stations.length :=
      rig.length_modify ..
    rw [hlength, ← hkept.numbers]
    exact rig.ids_modify fun _ _ => hid
  · obtain ⟨before, hbefore, ⟨-, rfl⟩ | ⟨-, rfl⟩⟩ := mem_modify hcurrent
    · exact htags
    · exact hkept.tags current hbefore

/-- A connection changes and keeps its tags. -/
theorem modify_connection {change : Station Tape → Connection Tape}
    (htags : ∀ station ∈ rig.stations, (change station).Numbered) :
    (rig.modify id fun station => { station with connection := change station }).Kept := by
  refine ⟨(Minds.modify rig id change).settled hkept.settled, fun current hcurrent => ?_, ?_,
    fun current hcurrent => ?_⟩
  · obtain ⟨before, hbefore, ⟨-, rfl⟩ | ⟨-, rfl⟩⟩ := mem_modify hcurrent
    · exact hkept.standard before hbefore
    · exact hkept.standard current hbefore
  · rw [length_modify, ← hkept.numbers]
    exact rig.ids_modify fun _ hid => hid
  · obtain ⟨before, hbefore, ⟨-, rfl⟩ | ⟨-, rfl⟩⟩ := mem_modify hcurrent
    · exact htags before hbefore
    · exact hkept.tags current hbefore

/-- The venue changes, and not the observers. -/
theorem of_venue {venue : Venue}
    (hsame : venue.framebuffer.observers = rig.venue.framebuffer.observers) :
    Kept { rig with venue } :=
  ⟨hkept.settled.of_venue hsame, hkept.standard, hkept.numbers, hkept.tags⟩

end Kept

end Rig

-- ========================================================== arrivals

namespace Rig

variable {rig : Rig Tape} {id : ConnectionId}

theorem observers_enter (rig : Rig Tape) (peer : SocketAddress) :
    (rig.enter peer).venue.framebuffer.observers = rig.venue.framebuffer.observers :=
  congrArg Framebuffer.observers (Worker.given_attach _ _ rig.venue).framebuffer

/-- All that a peer is given comes with the library. -/
theorem isStandard_attach (id : ConnectionId) (venue : Venue) :
    ∀ handler ∈ (Worker.attach id (standardRegistry.entries.map Prod.snd) .empty venue).1.handlers,
      handler.IsStandard := by
  obtain ⟨directory, framebuffer, group, now, entropy⟩ := venue
  have hall : ∀ token, ∀ handler ∈ standardStanding .idle token, handler.IsStandard := by
    simp [standardStanding, Handler.IsStandard]
  cases group with
  | none =>
      intro handler hhandler
      have hthree : handler ∈ (standardStanding .idle 0).take 3 := hhandler
      exact hall 0 handler (List.mem_of_mem_take hthree)
  | some group => exact hall group.observers.next

/-- A peer that connects holds nothing. -/
theorem Kept.enter (hkept : rig.Kept) (peer : SocketAddress) : (rig.enter peer).Kept := by
  have hminds := Minds.adjoin rig rig.stations.length (standardRegistry.entries.map Prod.snd)
    (.new peer .blank)
  have hlength : (rig.enter peer).stations.length = rig.stations.length + 1 :=
    List.length_append
  refine ⟨hminds.settled hkept.settled, fun station hstation => ?_, ?_, fun station hstation => ?_⟩
  · rcases List.mem_append.1 hstation with hstation | hstation
    · exact hkept.standard station hstation
    · cases List.mem_singleton.1 hstation
      exact isStandard_attach rig.stations.length rig.venue
  · rw [hlength, List.range_succ, ← hkept.numbers]
    exact List.map_append
  · rcases List.mem_append.1 hstation with hstation | hstation
    · exact hkept.tags station hstation
    · cases List.mem_singleton.1 hstation
      exact Connection.numbered_new peer

-- ========================================================== messages

/-- A message changes the station it is for, or nothing. To the connection
it is an answer, and the books move only where it is about subscriptions. -/
theorem Kept.serve_cases (hkept : rig.Kept) (id : ConnectionId) (position : Nat)
    (header : Header) (payload : Bytes) :
    ((∀ station, rig.station? id = some station → station.handlers[position]? = none)
        ∧ rig.serve id position header payload = rig)
      ∨ ∃ station after venue, rig.station? id = some station
        ∧ rig.serve id position header payload = rig.put id after venue
        ∧ after.id = id ∧ after.Standing ∧ station.connection.Answers after.connection
        ∧ (((∀ held, station.handlers[position]? ≠ some (.pixelData held))
            ∧ after.held = station.held ∧ venue.framebuffer = rig.venue.framebuffer)
          ∨ station.handlers[position]? = some (.pixelData station.held)
            ∧ Subscription.Handled id rig.venue.directory station.held
              rig.venue.framebuffer station.connection header payload after.held
              venue.framebuffer after.connection) := by
  unfold serve handleAt
  cases hfound : rig.station? id with
  | none => exact .inl ⟨nofun, rfl⟩
  | some station =>
      obtain ⟨hmem, rfl⟩ := mem_of_station? hfound
      simp only
      cases hhandle : station.handleAt rig.venue position header payload with
      | none =>
          refine .inl ⟨fun other hother => ?_, rfl⟩
          cases hother
          exact Option.map_eq_none_iff.1 hhandle
      | some turn =>
          obtain ⟨outcome, after, venue⟩ := turn
          obtain ⟨hid, hstanding, hanswers, hbooks⟩ :=
            Station.handleAt_cases (hkept.sound station hmem).standing hhandle
          exact .inr ⟨station, after, venue, rfl, rfl, hid, hstanding, hanswers, hbooks⟩

theorem acts_serve (rig : Rig Tape) (id : ConnectionId) (position : Nat) (header : Header)
    (payload : Bytes) : rig.Acts id (rig.serve id position header payload) := by
  unfold serve
  split
  · exact .refl
  next hhandle => exact .single (.handled hhandle)

theorem Kept.serve (hkept : rig.Kept) (id : ConnectionId) (position : Nat) (header : Header)
    (payload : Bytes) : (rig.serve id position header payload).Kept := by
  have hminds := (rig.acts_serve id position header payload).minds
  obtain ⟨-, hsame⟩ | ⟨station, after, venue, hfound, hserve, hid, hstanding, hanswers, -⟩ :=
    hkept.serve_cases id position header payload
  · rw [hsame]
    exact hkept
  · rw [hserve] at hminds ⊢
    exact hkept.put hminds hid hstanding (hanswers.numbered (hkept.tags_of_station? hfound))

/-- A refusal is an answer. -/
theorem Kept.refuse (hkept : rig.Kept) (id : ConnectionId) (header : Header) (status : Status) :
    (rig.modify id fun station =>
      { station with connection := (station.connection.refuse header status).2 }).Kept :=
  hkept.modify_connection fun station hstation =>
    (station.connection.answers_replyWith header _ (by decide)).numbered
      (hkept.sound station hstation).tags

-- ======================================================== departures

/-- A handler that is taken away gives up what it holds. -/
theorem Kept.detach_cases (hkept : rig.Kept) (id : ConnectionId) (endpoint : Endpoint) :
    (rig.station? id = none ∧ rig.detach id endpoint = rig)
      ∨ ∃ station after venue, rig.station? id = some station
        ∧ rig.detach id endpoint = rig.put id after venue
        ∧ after.id = id ∧ after.connection = station.connection ∧ after.Standing
        ∧ (after.held, venue.framebuffer)
          = if endpoint = .pixelData then
              Subscription.release (fun _ => true) station.held rig.venue.framebuffer
            else (station.held, rig.venue.framebuffer) := by
  unfold Rig.detach
  cases hfound : rig.station? id with
  | none => exact .inl ⟨rfl, rfl⟩
  | some station =>
      obtain ⟨hmem, rfl⟩ := mem_of_station? hfound
      have hstanding := (hkept.sound station hmem).standing
      obtain ⟨hid, hconnection, hsublist, hbooks⟩ :=
        Station.detach_cases hstanding.distinct endpoint rig.venue
      exact .inr
        ⟨station, _, _, rfl, rfl, hid, hconnection, hstanding.of_sublist hsublist, hbooks⟩

theorem Kept.detachAll_cases (hkept : rig.Kept) (id : ConnectionId) :
    (rig.station? id = none ∧ rig.detachAll id = rig)
      ∨ ∃ station after venue, rig.station? id = some station
        ∧ rig.detachAll id = rig.put id after venue
        ∧ after.id = id ∧ after.connection = station.connection ∧ after.Standing
        ∧ (after.held, venue.framebuffer)
          = Subscription.release (fun _ => true) station.held rig.venue.framebuffer := by
  unfold detachAll
  cases hfound : rig.station? id with
  | none => exact .inl ⟨rfl, rfl⟩
  | some station =>
      obtain ⟨hmem, rfl⟩ := mem_of_station? hfound
      have hstanding := (hkept.sound station hmem).standing
      obtain ⟨hid, hconnection, hsublist, hbooks⟩ :=
        Station.detachAll_cases hstanding.distinct rig.venue
      exact .inr
        ⟨station, _, _, rfl, rfl, hid, hconnection, hstanding.of_sublist hsublist, hbooks⟩

theorem Kept.detach (hkept : rig.Kept) (id : ConnectionId) (endpoint : Endpoint) :
    (rig.detach id endpoint).Kept := by
  have hminds := Minds.detach rig id endpoint
  obtain ⟨-, hsame⟩ | ⟨station, after, venue, hfound, hput, hid, hconnection, hstanding, -⟩ :=
    hkept.detach_cases id endpoint
  · rw [hsame]
    exact hkept
  · rw [hput] at hminds ⊢
    exact hkept.put hminds hid hstanding (hconnection ▸ hkept.tags_of_station? hfound)

theorem Kept.detachAll (hkept : rig.Kept) (id : ConnectionId) : (rig.detachAll id).Kept := by
  have hminds := Minds.detachAll rig id
  obtain ⟨-, hsame⟩ | ⟨station, after, venue, hfound, hput, hid, hconnection, hstanding, -⟩ :=
    hkept.detachAll_cases id
  · rw [hsame]
    exact hkept
  · rw [hput] at hminds ⊢
    exact hkept.put hminds hid hstanding (hconnection ▸ hkept.tags_of_station? hfound)

end Rig

-- ========================================================= backstage

/-- The notice of a key as long as keys are drawn fits its frame. -/
theorem RekeyNotice.encode_fits {notice : RekeyNotice} (hkey : notice.key.length = 32)
    (hiv : notice.iv.length = 16) : (Cbor.encode notice).length ≤ maxPayloadLength := by
  have hencoded := notice.length_encode_le (by rw [hkey]; decide) (by rw [hiv]; decide)
  rw [hkey, hiv] at hencoded
  exact Nat.le_trans hencoded (by decide)

/-- The notice of a new key takes a tag, if it is sent. -/
theorem GroupKeys.numbered_notice {connection : Connection Tape}
    (hnumbered : connection.Numbered) {group : Broadcaster KeyWatcher} {key : UInt32}
    (hannounces : group.Announces key) : (notice connection group key).Numbered := by
  unfold notice
  split
  · split
    · exact hnumbered
    next text iv hmaterial =>
      obtain ⟨htext, hiv⟩ := hannounces text iv hmaterial
      have hfits := @RekeyNotice.encode_fits ⟨key, text, iv⟩ htext hiv
      rw [Connection.pushWith_of_fits hfits]
      exact hnumbered.pushed hfits (.inr ⟨rfl, rfl⟩)
  · exact hnumbered

/-- A rig that keeps the invariant and has the same observers as another. -/
structure Rig.KeptWith (rig before : Rig Tape) : Prop where
  kept : rig.Kept
  observers : rig.venue.framebuffer.observers = before.venue.framebuffer.observers

namespace Rig

variable {rig before : Rig Tape} {id : ConnectionId}

theorem KeptWith.tellKey (hkept : rig.KeptWith before) {group : Broadcaster KeyWatcher}
    {key : UInt32} (hannounces : group.Announces key) (watcher : KeyWatcher) :
    (rig.tellKey group key watcher).KeptWith before := by
  cases watcher with
  | outsider number => exact hkept
  | connection id =>
      exact ⟨hkept.kept.modify_connection fun station hstation =>
        GroupKeys.numbered_notice (hkept.kept.sound station hstation).tags hannounces,
        hkept.observers⟩

theorem KeptWith.announce (hkept : rig.KeptWith before) {key : UInt32}
    (hannounces : ∀ group, rig.venue.group = some group → group.Announces key) :
    (rig.announce key).KeptWith before := by
  unfold Rig.announce
  cases hgroup : rig.venue.group with
  | none => exact hkept
  | some group =>
      have hkey := hannounces group hgroup
      show (group.observers.toList.foldl _ rig).KeptWith before
      clear hannounces hgroup
      generalize group.observers.toList = watchers
      induction watchers generalizing rig with
      | nil => exact hkept
      | cons watcher watchers ih => exact ih (hkept.tellKey hkey watcher)

/-- Whatever the broadcaster did, the notices of it are in order. -/
theorem KeptWith.takeOver (hkept : rig.KeptWith before)
    {done : Broadcaster.Work × Broadcaster KeyWatcher × Entropy}
    (hannounces : ∀ key, done.1 = .rotated key → done.2.1.Announces key.id) :
    (rig.takeOver done).2.KeptWith before := by
  obtain ⟨work, group, entropy⟩ := done
  have htaken : KeptWith
      { rig with venue := { rig.venue with group := some group, entropy } } before :=
    ⟨hkept.kept.of_venue rfl, hkept.observers⟩
  cases work with
  | rotated key =>
      refine htaken.announce fun other hother => ?_
      cases hother
      exact hannounces key rfl
  | _ => exact htaken

/-- One observer is told that a region is finished. -/
theorem KeptWith.tell (hkept : rig.KeptWith before) {watcher : Watcher}
    (hcarried : ∀ delivery, watcher = .delivery delivery → delivery.Carried)
    (frameNumber : UInt64) (token : Token) :
    (rig.tell frameNumber token watcher).KeptWith before := by
  cases watcher with
  | outsider number => exact hkept
  | delivery delivery =>
      exact ⟨hkept.kept.modify_connection fun station hstation =>
        Subscription.numbered_deliver (hkept.kept.sound station hstation).tags
          (hcarried delivery rfl) _ _ _ _, hkept.observers⟩

/-- Everyone who is due is told that a region is finished. -/
theorem Kept.finish (hkept : rig.Kept) (region : Region) (frameNumber : UInt64) :
    (rig.finish region frameNumber).2.KeptWith rig := by
  have hcarried : ∀ entry ∈ rig.venue.framebuffer.due region, ∀ delivery,
      entry.2.observer = .delivery delivery → delivery.Carried := by
    intro entry hentry delivery hdelivery
    obtain ⟨owned, howned, -, hcarried⟩ :=
      hkept.orderly.owned entry (List.mem_filter.1 hentry).1
    rw [howned] at hdelivery
    cases hdelivery
    exact hcarried
  show ((rig.venue.framebuffer.due region).foldl _ rig).KeptWith rig
  generalize rig.venue.framebuffer.due region = due at hcarried
  suffices hfold : ∀ current : Rig Tape, current.KeptWith rig →
      (due.foldl (fun rig entry => rig.tell frameNumber entry.1 entry.2.observer)
        current).KeptWith rig from hfold rig ⟨hkept, rfl⟩
  induction due with
  | nil => exact fun current hcurrent => hcurrent
  | cons entry due ih =>
      intro current hcurrent
      have htold := hcurrent.tell (hcarried entry List.mem_cons_self) frameNumber entry.1
      exact ih (fun other hother => hcarried other (List.mem_cons_of_mem _ hother)) _ htold

/-- What happens backstage changes no books. -/
theorem Kept.apart (hkept : rig.Kept) (event : Backstage) :
    (rig.apart event).KeptWith rig := by
  have htuned : ∀ now entropy, (rig.tuned now entropy).KeptWith rig :=
    fun now entropy => ⟨hkept.of_venue rfl, rfl⟩
  cases event with
  | rotate entropy =>
      show ((rig.tuned rig.venue.now entropy).rotate.2).KeptWith rig
      unfold Rig.rotate
      split
      · exact htuned ..
      next group hgroup =>
        refine (htuned ..).takeOver fun key hrotated => ?_
        exact Broadcaster.announces_of_elapse (Prod.ext hrotated rfl)
  | request item => exact ⟨hkept.of_venue rfl, rfl⟩
  | work now entropy =>
      show ((rig.tuned now entropy).work.2).KeptWith rig
      unfold Rig.work
      split
      · exact htuned ..
      next group hgroup =>
        refine (htuned ..).takeOver fun key hrotated => ?_
        exact Broadcaster.announces_of_work (Prod.ext hrotated rfl)
  | rewire channels => exact ⟨hkept.of_venue rfl, rfl⟩
  | draw start pixels =>
      unfold Rig.apart
      simp only
      split
      · exact ⟨hkept, rfl⟩
      next framebuffer hwrite =>
        have hobservers := Framebuffer.observers_of_write hwrite
        exact ⟨hkept.of_venue hobservers, hobservers⟩
  | finish region frameNumber => exact hkept.finish region frameNumber

end Rig

end Luminaire
