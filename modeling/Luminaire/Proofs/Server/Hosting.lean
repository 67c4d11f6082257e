/-
Rigs that host a connection whose node is not known.

`Rig.Hosts` is what a rig holds for such a connection: its state, the
standard handlers without a subscription, and a framebuffer in which no
observer belongs to it. A message to one of its handlers comes out the
same at every rig that hosts it (`Rig.Hosts.exists_handleAt`), and what
goes on backstage, new keys and finished regions among it, does not touch
it (`Rig.Hosts.apart`): the notices go to nodes only, and the regions'
observers are other connections'.
-/
import Luminaire.Proofs.Connection.Strangers

namespace Luminaire

-- ======================================================== one station

namespace Rig

variable {κ : Type}

/-- What is found under a number stands there. -/
theorem mem_of_station? {rig : Rig κ} {id : ConnectionId} {station : Station κ}
    (hfound : rig.station? id = some station) : station ∈ rig.stations ∧ station.id = id :=
  ⟨List.mem_of_find?_eq_some hfound, by simpa using List.find?_some hfound⟩

/-- Changing a station changes what is found under its own number. -/
theorem station?_modify {rig : Rig κ} {id : ConnectionId} {station : Station κ}
    {change : Station κ → Station κ} (hfound : rig.station? id = some station)
    (hid : ∀ station, station.id = id → (change station).id = id) :
    (rig.modify id change).station? id = some (change station) := by
  obtain ⟨venue, stations⟩ := rig
  change stations.find? (·.id == id) = some station at hfound
  show (stations.map _).find? _ = some (change station)
  induction stations with
  | nil => cases hfound
  | cons first rest ih =>
      rw [List.find?_cons] at hfound
      rw [List.map_cons, List.find?_cons]
      by_cases hsame : first.id = id
      · simp only [hsame, beq_self_eq_true, if_true, hid first hsame] at hfound ⊢
        exact congrArg (Option.map change) hfound
      · simp only [hsame, if_false, beq_eq_false_iff_ne.2 hsame] at hfound ⊢
        exact ih hfound

/-- Changing a station changes nothing under another number. -/
theorem station?_modify_of_ne (rig : Rig κ) {id other : ConnectionId} (hne : other ≠ id)
    {change : Station κ → Station κ}
    (hid : ∀ station, station.id = other → (change station).id = other) :
    (rig.modify other change).station? id = rig.station? id := by
  obtain ⟨venue, stations⟩ := rig
  show (stations.map _).find? _ = stations.find? _
  induction stations with
  | nil => rfl
  | cons station stations ih =>
      rw [List.map_cons, List.find?_cons, List.find?_cons, ih]
      by_cases hother : station.id = other
      · have hmiss : station.id ≠ id := fun heq => hne (hother ▸ heq)
        have hchanged : (change station).id ≠ id := fun heq =>
          hne ((hid station hother) ▸ heq)
        simp only [hother, if_true, beq_eq_false_iff_ne.2 hchanged]
        rw [← hother, beq_eq_false_iff_ne.2 hmiss]
      · rw [if_neg hother]

/-- Where nothing is found, there is nothing to change. -/
theorem modify_of_none {rig : Rig κ} {id : ConnectionId} (hnone : rig.station? id = none)
    (change : Station κ → Station κ) : rig.modify id change = rig := by
  have hsame : rig.stations.map
      (fun station => if station.id = id then change station else station) = rig.stations := by
    refine (List.map_congr_left fun station hmem => if_neg fun hid => ?_).trans (List.map_id _)
    exact List.find?_eq_none.1 hnone station hmem (beq_iff_eq.2 hid)
  exact congrArg (Rig.mk rig.venue) hsame

/-- What is found after a change is what was found, changed. -/
theorem station?_modify_self (rig : Rig κ) {id : ConnectionId}
    {change : Station κ → Station κ} (hid : ∀ station, station.id = id → (change station).id = id) :
    (rig.modify id change).station? id = (rig.station? id).map change := by
  cases hfound : rig.station? id with
  | none => rw [modify_of_none hfound, hfound, Option.map_none]
  | some station => rw [station?_modify hfound hid, Option.map_some]

/-- The rig after one station and the venue have changed. -/
def put (rig : Rig κ) (id : ConnectionId) (after : Station κ) (venue : Venue) : Rig κ :=
  { rig.modify id fun _ => after with venue }

theorem station?_put {rig : Rig κ} {id : ConnectionId} {station after : Station κ}
    (hfound : rig.station? id = some station) (hid : after.id = id) (venue : Venue) :
    (rig.put id after venue).station? id = some after := by
  have hmodified : (rig.modify id fun _ => after).station? id = some after :=
    station?_modify hfound fun _ _ => hid
  exact hmodified

theorem station?_put_of_ne (rig : Rig κ) {id other : ConnectionId} {after : Station κ}
    (hne : other ≠ id) (hid : after.id = id) (venue : Venue) :
    (rig.put id after venue).station? other = rig.station? other :=
  rig.station?_modify_of_ne hne.symm fun _ _ => hid

end Rig

-- ============================================================== hosts

/-- No observer of the framebuffer belongs to this connection. -/
def Framebuffer.Ignores (framebuffer : Framebuffer Watcher) (id : ConnectionId) : Prop :=
  ∀ entry ∈ framebuffer.observers.entries, ∀ delivery,
    entry.2.observer = .delivery delivery → delivery.connection ≠ id

/-- A rig that holds, for this connection, the standard handlers without a
subscription, or no handlers any more; it serves these nodes and a group. -/
structure Rig.Hosts {κ : Type} (rig : Rig κ) (nodes : List Node) (id : ConnectionId)
    (connection : Connection κ) (state : Option AuthState) : Prop where
  station : ∃ token, rig.station? id
    = some ⟨id, connection, state.elim [] (standardStanding · token)⟩
  nodes : rig.venue.directory.nodes = nodes
  group : rig.venue.group.isSome = true
  ignored : rig.venue.framebuffer.Ignores id

namespace Rig.Hosts

variable {κ : Type} {rig : Rig κ} {nodes : List Node} {id : ConnectionId}
  {connection : Connection κ} {state : Option AuthState}

/-- What the connection's handlers do not read may change. -/
theorem of_same {other : Rig κ} (hhosts : rig.Hosts nodes id connection state)
    (hstation : other.station? id = rig.station? id)
    (hnodes : other.venue.directory.nodes = rig.venue.directory.nodes)
    (hgroup : other.venue.group.isSome = true)
    (hignored : other.venue.framebuffer.Ignores id) :
    other.Hosts nodes id connection state := by
  obtain ⟨token, hstood⟩ := hhosts.station
  exact ⟨⟨token, hstation.trans hstood⟩, hnodes.trans hhosts.nodes, hgroup, hignored⟩

/-- The connection itself changes. -/
theorem modify (hhosts : rig.Hosts nodes id connection state)
    (change : Connection κ → Connection κ) :
    (rig.modify id fun station =>
      { station with connection := change station.connection }).Hosts nodes id
        (change connection) state := by
  obtain ⟨token, hstood⟩ := hhosts.station
  exact ⟨⟨token, Rig.station?_modify hstood fun _ hid => hid⟩, hhosts.nodes, hhosts.group,
    hhosts.ignored⟩

/-- Another connection changes. -/
theorem modify_of_ne (hhosts : rig.Hosts nodes id connection state) {other : ConnectionId}
    (hne : other ≠ id) {change : Station κ → Station κ}
    (hid : ∀ station, (change station).id = station.id) :
    (rig.modify other change).Hosts nodes id connection state :=
  hhosts.of_same
    (rig.station?_modify_of_ne hne fun station hsame => (hid station).trans hsame)
    rfl hhosts.group hhosts.ignored

/-- The handlers are taken away. -/
theorem detachAll (hhosts : rig.Hosts nodes id connection state) :
    (rig.detachAll id).Hosts nodes id connection none := by
  obtain ⟨token, hstood⟩ := hhosts.station
  have hfound : (rig.modify id fun _ => ⟨id, connection, []⟩).station? id
      = some ⟨id, connection, []⟩ := Rig.station?_modify hstood fun _ _ => rfl
  unfold Rig.detachAll
  rw [hstood]
  refine ⟨⟨token, hfound⟩, ?_, ?_, ?_⟩
  · cases state with
    | none => exact hhosts.nodes
    | some state => exact hhosts.nodes
  · cases state with
    | none => exact hhosts.group
    | some state =>
        show (rig.venue.group.map _).isSome = true
        rw [Option.isSome_map]
        exact hhosts.group
  · cases state with
    | none => exact hhosts.ignored
    | some state => exact hhosts.ignored

variable [Sink κ]

/-- A connection without handlers gets no answer. -/
theorem handleAt_of_detached (hhosts : rig.Hosts nodes id connection none)
    (position : Nat) (header : Header) (payload : Bytes) :
    rig.handleAt id position header payload = none := by
  obtain ⟨token, hstood⟩ := hhosts.station
  unfold Rig.handleAt
  rw [hstood]
  rfl

/-- There are four standard handlers. -/
theorem handleAt_of_le {state : AuthState}
    (hhosts : rig.Hosts nodes id connection (some state)) {position : Nat}
    (hposition : 4 ≤ position) (header : Header) (payload : Bytes) :
    rig.handleAt id position header payload = none := by
  obtain ⟨token, hstood⟩ := hhosts.station
  have hnone : (standardStanding state token)[position]? = none :=
    List.getElem?_eq_none hposition
  unfold Rig.handleAt
  rw [hstood]
  show (Option.map _ (Option.map _ (standardStanding state token)[position]?)) = none
  rw [hnone]
  rfl

/-- What becomes of a stranger's message is the same at every rig that hosts
the connection. -/
theorem exists_handleAt (hstranger : connection.node = none) (nodes : List Node)
    (now : UInt64) (entropy : Entropy) (id : ConnectionId) (state : AuthState)
    {position : Nat} (hposition : position < 4) (header : Header) (payload : Bytes) :
    ∃ outcome after state', connection.Answers after
      ∧ ∀ rig : Rig κ, rig.Hosts nodes id connection (some state) →
        rig.venue.now = now → rig.venue.entropy = entropy →
          ∃ rig', rig.handleAt id position header payload = some (outcome, rig')
            ∧ rig'.Hosts nodes id after (some state') := by
  obtain ⟨outcome, after, state', hanswers, hturn⟩ :=
    Station.handleAt_of_stranger hstranger nodes now entropy state hposition header
      payload
  refine ⟨outcome, after, state', hanswers, fun rig hhosts hnow hentropy => ?_⟩
  obtain ⟨token, hstood⟩ := hhosts.station
  obtain ⟨left, hhandle⟩ :=
    hturn id token rig.venue hhosts.nodes hhosts.group hnow hentropy
  have hfound : (rig.modify id fun _ =>
        ⟨id, after, standardStanding state' token⟩).station? id
      = some ⟨id, after, standardStanding state' token⟩ :=
    Rig.station?_modify hstood fun _ _ => rfl
  refine ⟨{ rig.modify id fun _ => ⟨id, after, standardStanding state' token⟩ with
    venue := { rig.venue with entropy := left } }, ?_, ⟨token, hfound⟩, hhosts.nodes,
    hhosts.group, hhosts.ignored⟩
  unfold Rig.handleAt
  rw [hstood]
  show Option.map _ ((Station.mk id connection (standardStanding state token)).handleAt
    rig.venue position header payload) = _
  rw [hhandle]
  rfl

end Rig.Hosts

-- ========================================================== backstage

/-- What happens at a rig apart from any connection's messages. -/
inductive Backstage where
  /-- The keys rotate on their own. -/
  | rotate (entropy : Entropy)
  /-- Somebody asks for a note or a rotation. -/
  | request (item : GroupRequest)
  /-- The oldest request is worked off. -/
  | work (now : UInt64) (entropy : Entropy)
  /-- The nodes' channels are laid out anew. -/
  | rewire (channels : List NodeChannel)
  /-- The renderer draws. -/
  | draw (start : UInt32) (pixels : List Pixel)
  /-- The renderer has finished a region. -/
  | finish (region : Region) (frameNumber : UInt64)

/-- Drawing leaves the observers alone. -/
theorem Framebuffer.observers_of_write {α : Type} {framebuffer drawn : Framebuffer α}
    {start : UInt32} {pixels : List Pixel}
    (hwrite : framebuffer.write start pixels = .ok drawn) :
    drawn.observers = framebuffer.observers := by
  unfold write at hwrite
  split at hwrite
  · cases hwrite
  · cases hwrite
    rfl

namespace Rig

variable {κ : Type}

/-- The rig at a time, with randomness to draw from. -/
def tuned (rig : Rig κ) (now : UInt64) (entropy : Entropy) : Rig κ :=
  { rig with venue := { rig.venue with now, entropy } }

/-- The rig after something backstage. -/
def apart [Sink κ] (rig : Rig κ) : Backstage → Rig κ
  | .rotate entropy => (rig.tuned rig.venue.now entropy).rotate.2
  | .request item =>
      { rig with
        venue := { rig.venue with
          group := rig.venue.group.map fun group => (group.request item).2 } }
  | .work now entropy => (rig.tuned now entropy).work.2
  | .rewire channels =>
      { rig with
        venue := { rig.venue with directory := { rig.venue.directory with channels } } }
  | .draw start pixels =>
      match rig.venue.framebuffer.write start pixels with
      | .error _ => rig
      | .ok framebuffer => { rig with venue := { rig.venue with framebuffer } }
  | .finish region frameNumber => (rig.finish region frameNumber).2

end Rig

namespace Rig.Hosts

variable {κ : Type} {rig : Rig κ} {nodes : List Node} {id : ConnectionId}
  {connection : Connection κ} {state : Option AuthState}

theorem tuned (hhosts : rig.Hosts nodes id connection state) (now : UInt64)
    (entropy : Entropy) : (rig.tuned now entropy).Hosts nodes id connection state :=
  hhosts.of_same rfl rfl hhosts.group hhosts.ignored

variable [Sink κ]

/-- A stranger hears of no key. -/
theorem tellKey (hhosts : rig.Hosts nodes id connection state)
    (hstranger : connection.node = none) (group : Broadcaster KeyWatcher) (key : UInt32)
    (watcher : KeyWatcher) :
    (rig.tellKey group key watcher).Hosts nodes id connection state := by
  cases watcher with
  | outsider number => exact hhosts
  | connection other =>
      by_cases hsame : other = id
      · subst hsame
        have hnoticed := hhosts.modify fun connection =>
          GroupKeys.notice connection group key
        rw [GroupKeys.notice_of_stranger hstranger] at hnoticed
        exact hnoticed
      · exact hhosts.modify_of_ne hsame fun station => rfl

theorem announce (hhosts : rig.Hosts nodes id connection state)
    (hstranger : connection.node = none) (key : UInt32) :
    (rig.announce key).Hosts nodes id connection state := by
  unfold Rig.announce
  cases rig.venue.group with
  | none => exact hhosts
  | some group =>
      show (group.observers.toList.foldl _ rig).Hosts nodes id connection state
      generalize group.observers.toList = watchers
      induction watchers generalizing rig with
      | nil => exact hhosts
      | cons watcher watchers ih => exact ih (hhosts.tellKey hstranger group key watcher)

/-- Whatever the broadcaster did, a stranger hears nothing of it. -/
theorem takeOver (hhosts : rig.Hosts nodes id connection state)
    (hstranger : connection.node = none)
    (done : Broadcaster.Work × Broadcaster KeyWatcher × Entropy) :
    (rig.takeOver done).2.Hosts nodes id connection state := by
  obtain ⟨work, group, entropy⟩ := done
  have htaken : Rig.Hosts
      { rig with venue := { rig.venue with group := some group, entropy } } nodes id
      connection state :=
    hhosts.of_same rfl rfl rfl hhosts.ignored
  cases work with
  | rotated key => exact htaken.announce hstranger key.id
  | _ => exact htaken

/-- Finished regions are other connections' business. -/
theorem finish (hhosts : rig.Hosts nodes id connection state) (region : Region)
    (frameNumber : UInt64) :
    (rig.finish region frameNumber).2.Hosts nodes id connection state := by
  have hothers : ∀ entry ∈ rig.venue.framebuffer.due region, ∀ delivery,
      entry.2.observer = .delivery delivery → delivery.connection ≠ id :=
    fun entry hentry => hhosts.ignored entry (List.mem_filter.1 hentry).1
  show ((rig.venue.framebuffer.due region).foldl _ rig).Hosts nodes id connection state
  generalize rig.venue.framebuffer.due region = due at hothers
  induction due generalizing rig with
  | nil => exact hhosts
  | cons entry due ih =>
      have htold : (rig.tell frameNumber entry.1 entry.2.observer).Hosts nodes id
          connection state := by
        cases hobserver : entry.2.observer with
        | outsider number => exact hhosts
        | delivery delivery =>
            have hne := hothers entry List.mem_cons_self delivery hobserver
            exact hhosts.modify_of_ne hne fun station => rfl
      exact ih htold fun other hother => hothers other (List.mem_cons_of_mem _ hother)

/-- What goes on backstage does not touch a stranger's connection. -/
theorem apart (hhosts : rig.Hosts nodes id connection state)
    (hstranger : connection.node = none) (event : Backstage) :
    (rig.apart event).Hosts nodes id connection state := by
  cases event with
  | rotate entropy =>
      have htuned := hhosts.tuned rig.venue.now entropy
      show ((rig.tuned rig.venue.now entropy).rotate.2).Hosts nodes id connection state
      unfold Rig.rotate
      split
      · exact htuned
      · exact htuned.takeOver hstranger _
  | request item =>
      refine hhosts.of_same rfl rfl ?_ hhosts.ignored
      show (rig.venue.group.map _).isSome = true
      rw [Option.isSome_map]
      exact hhosts.group
  | work now entropy =>
      have htuned := hhosts.tuned now entropy
      show ((rig.tuned now entropy).work.2).Hosts nodes id connection state
      unfold Rig.work
      split
      · exact htuned
      · exact htuned.takeOver hstranger _
  | rewire channels => exact hhosts.of_same rfl rfl hhosts.group hhosts.ignored
  | draw start pixels =>
      unfold Rig.apart
      simp only
      split
      · exact hhosts
      next framebuffer hwrite =>
        refine hhosts.of_same rfl rfl hhosts.group ?_
        show framebuffer.Ignores id
        unfold Framebuffer.Ignores
        rw [Framebuffer.observers_of_write hwrite]
        exact hhosts.ignored
  | finish region frameNumber => exact hhosts.finish region frameNumber

end Rig.Hosts

end Luminaire
