/-
Who hears of new keys.

A handler for group keys registers an observer with the group and takes it
back when it goes. The group's observers are therefore those of the
handlers that stand at the rig, station by station, each under the token
that its handler keeps (`Rig.Enrols`). Tokens are never given twice
(`Observers.Orderly`), so a handler that goes takes its own observer back
and no other's. Messages, notices and pixels leave handlers in their
places.

Of the standard handlers one only is for group keys, so the observers are
the stations that listen, once each (`Rig.Enrols.toList_eq`).
-/
import Luminaire.Proofs.Server.Elsewhere
import Luminaire.Proofs.Server.Keyed
import Luminaire.Proofs.Server.PixelDelivery

namespace Luminaire

-- ============================================================= tokens

namespace Observers

variable {α : Type} {observers : Observers α}

/-- No token was given twice, and the next one has not been given. -/
structure Orderly (observers : Observers α) : Prop where
  distinct : (observers.entries.map Prod.fst).Nodup
  given : ∀ entry ∈ observers.entries, entry.1 < observers.next

theorem orderly_empty : (empty : Observers α).Orderly :=
  ⟨List.nodup_nil, fun _ hmem => absurd hmem List.not_mem_nil⟩

theorem Orderly.insert (horderly : observers.Orderly) (observer : α) :
    (observers.insert observer).2.Orderly := by
  have hfresh : observers.next ∉ observers.entries.map Prod.fst := by
    intro hmem
    obtain ⟨entry, hentry, htoken⟩ := List.mem_map.1 hmem
    exact Nat.lt_irrefl _ (htoken ▸ horderly.given entry hentry)
  refine ⟨?_, fun entry hentry => ?_⟩
  · show ((observers.entries ++ [_]).map Prod.fst).Nodup
    rw [List.map_append, List.map_singleton, ← List.concat_eq_append]
    exact horderly.distinct.concat hfresh
  · rcases List.mem_append.1 hentry with hold | hnew
    · exact Nat.lt_succ_of_lt (horderly.given entry hold)
    · cases List.mem_singleton.1 hnew
      exact Nat.lt_succ_self _

/-- Ending some registrations leaves the others. -/
theorem entries_foldl_erase (tokens : List Token) (observers : Observers α) :
    (tokens.foldl erase observers).entries
      = observers.entries.filter fun entry => entry.1 ∉ tokens := by
  induction tokens generalizing observers with
  | nil => simp
  | cons token tokens ih =>
      rw [List.foldl_cons, ih, erase, List.filter_filter]
      refine List.filter_congr fun entry _ => ?_
      simp [bne, Bool.and_comm, beq_eq_decide]

theorem next_foldl_erase (tokens : List Token) (observers : Observers α) :
    (tokens.foldl erase observers).next = observers.next := by
  induction tokens generalizing observers with
  | nil => rfl
  | cons token tokens ih => exact ih (observers.erase token)

theorem Orderly.foldl_erase (horderly : observers.Orderly) (tokens : List Token) :
    (tokens.foldl erase observers).Orderly := by
  refine ⟨?_, fun entry hentry => ?_⟩
  · rw [entries_foldl_erase]
    exact horderly.distinct.sublist (List.filter_sublist.map _)
  · rw [entries_foldl_erase] at hentry
    rw [next_foldl_erase]
    exact horderly.given entry (List.mem_filter.1 hentry).1

end Observers

-- =========================================================== stations

namespace Station

variable {κ : Type}

/-- Whether a station has the handler for group keys. -/
def listens (station : Station κ) : Bool :=
  station.handlers.any (·.endpoint = .multicastControl)

/-- Whether a station hears of new keys: it listens, and its node is known. -/
def hears (station : Station κ) : Bool :=
  station.connection.isAuthenticated && station.listens

/-- The observers of a station's handlers. -/
def watches (station : Station κ) : List (Token × KeyWatcher) :=
  (station.handlers.filterMap Handler.keyToken?).map fun token =>
    (token, .connection station.id)

theorem eq_of_mem_watches {station : Station κ} {entry : Token × KeyWatcher}
    (hmem : entry ∈ station.watches) : entry.2 = .connection station.id := by
  obtain ⟨token, -, rfl⟩ := List.mem_map.1 hmem
  rfl

/-- A handler for another endpoint has no token of the group's. -/
theorem keyToken?_of_ne {handler : Handler} (hne : handler.endpoint ≠ .multicastControl) :
    handler.keyToken? = none := by
  cases handler with
  | groupControl token => exact absurd rfl hne
  | _ => rfl

theorem keyToken?_eq_some_iff {handler : Handler} {token : Token} :
    handler.keyToken? = some token ↔ handler = .groupControl token := by
  cases handler with
  | groupControl other => exact Option.some_inj.trans (Handler.groupControl.injEq ..).symm.to_iff
  | _ => exact ⟨(fun hsame => by cases hsame), (fun hsame => by cases hsame)⟩

/-- A standing station that listens has one observer, and any other has none. -/
theorem watchers_eq {station : Station κ} (hstanding : station.Standing) :
    station.watches.map Prod.snd
      = if station.listens then [.connection station.id] else [] := by
  obtain ⟨id, connection, handlers⟩ := station
  obtain ⟨hstandard, hdistinct⟩ := hstanding
  unfold watches listens
  simp only at hstandard hdistinct ⊢
  induction handlers with
  | nil => rfl
  | cons first rest ih =>
      obtain ⟨hfirst, hrest⟩ := List.forall_mem_cons.1 hstandard
      rw [List.map_cons, List.nodup_cons] at hdistinct
      by_cases hendpoint : first.endpoint = .multicastControl
      · have hnone : rest.filterMap Handler.keyToken? = [] := by
          refine List.filterMap_eq_nil_iff.2 fun handler hhandler => ?_
          refine keyToken?_of_ne fun hsame => hdistinct.1 ?_
          exact List.mem_map.2 ⟨handler, hhandler, hsame.trans hendpoint.symm⟩
        cases first with
        | groupControl token =>
            have hone : (Handler.groupControl token :: rest).filterMap Handler.keyToken?
                = token :: rest.filterMap Handler.keyToken? := rfl
            rw [hone, hnone, List.any_cons, decide_eq_true hendpoint]
            rfl
        | plugin supplied => exact hfirst.elim
        | _ => cases hendpoint
      · rw [List.filterMap_cons_none (keyToken?_of_ne hendpoint), List.any_cons,
          decide_eq_false hendpoint, Bool.false_or]
        exact ih hrest hdistinct.2

/-- A message leaves the observers of a station alone. -/
theorem watches_handleAt [Sink κ] {station after : Station κ} {venue venue' : Venue}
    {position : Nat} {header : Header} {payload : Bytes} {outcome : Outcome}
    (hhandle : station.handleAt venue position header payload = some (outcome, after, venue')) :
    after.id = station.id ∧ after.watches = station.watches ∧ venue'.group = venue.group := by
  unfold handleAt at hhandle
  obtain ⟨handler, hhandler, hturn⟩ := Option.map_eq_some_iff.1 hhandle
  obtain ⟨hgroup, htoken, -⟩ :=
    handler.moves_handle station.id station.connection venue header payload
  cases hturn
  refine ⟨rfl, ?_, hgroup⟩
  have htokens : ∀ handlers : List Handler, handlers.filterMap Handler.keyToken?
      = (handlers.map Handler.keyToken?).filterMap fun token => token := by
    intro handlers
    rw [List.filterMap_map]
    rfl
  unfold watches
  simp only
  rw [htokens, htokens, map_set_of_getElem? hhandler htoken]

/-- When some handlers go, so do their observers. -/
theorem watches_filter (station : Station κ) (keep : Handler → Bool) :
    watches { station with handlers := station.handlers.filter keep }
      = station.watches.filter fun entry =>
        entry.1 ∉ (station.handlers.filter fun handler => !keep handler).filterMap
          Handler.keyToken? := by
  unfold watches
  rw [List.filter_map, List.filter_filterMap, List.filterMap_filter]
  refine congrArg (List.map _) (List.filterMap_congr fun handler hhandler => ?_)
  cases htoken : handler.keyToken? with
  | none =>
      rw [Option.filter_none]
      exact ite_self none
  | some token =>
      obtain rfl := keyToken?_eq_some_iff.1 htoken
      have hgone : token ∈ (station.handlers.filter fun handler => !keep handler).filterMap
          Handler.keyToken? ↔ keep (.groupControl token) = false := by
        constructor
        · intro hmem
          obtain ⟨other, hother, hsame⟩ := List.mem_filterMap.1 hmem
          obtain rfl := keyToken?_eq_some_iff.1 hsame
          simpa using (List.mem_filter.1 hother).2
        · intro hkeep
          exact List.mem_filterMap.2 ⟨_, List.mem_filter.2 ⟨hhandler, by simp [hkeep]⟩, htoken⟩
      cases hkeep : keep (.groupControl token) with
      | true =>
          have hstays := mt hgone.1 (Bool.not_eq_false _ ▸ hkeep)
          rw [Option.filter_some]
          exact (if_pos rfl).trans (if_pos (decide_eq_true hstays)).symm
      | false =>
          have hgoes := not_not_intro (hgone.2 hkeep)
          rw [Option.filter_some]
          exact (if_neg Bool.false_ne_true).trans
            (if_neg (decide_eq_true_iff.not.2 hgoes)).symm

end Station

-- =============================================================== rigs

/-- Taking handlers away takes their observers back. -/
theorem Venue.group_foldl_detach {venue : Venue} {group : Broadcaster KeyWatcher}
    (hgroup : venue.group = some group) (handlers : List Handler) :
    (handlers.foldl (fun venue handler => handler.detach venue) venue).group
      = some { group with
          observers := (handlers.filterMap Handler.keyToken?).foldl Observers.erase
            group.observers } := by
  induction handlers generalizing venue group with
  | nil => exact hgroup
  | cons handler handlers ih =>
      cases handler with
      | groupControl token =>
          have hunobserved : ((Handler.groupControl token).detach venue).group
              = some (group.unobserve token) := congrArg (Option.map _) hgroup
          exact ih hunobserved
      | _ => exact ih hgroup

/-- A connection that is taken in where there is a group listens to it. -/
theorem Worker.attach_standard_of_group {venue : Venue} {group : Broadcaster KeyWatcher}
    (hgroup : venue.group = some group) (id : ConnectionId) :
    let attached := attach id (standardRegistry.entries.map Prod.snd) .empty venue
    attached.1.handlers = standardStanding .idle group.observers.next
      ∧ attached.2.2.group = some (group.observe (.connection id)).2 := by
  obtain ⟨directory, framebuffer, found, now, entropy⟩ := venue
  cases hgroup
  exact ⟨rfl, rfl⟩

namespace Rig

variable {κ : Type}

/-- The observers of all handlers at a rig, by stations. -/
def watches (rig : Rig κ) : List (Token × KeyWatcher) := rig.stations.flatMap Station.watches

/-- The observers of a rig's group are those of the handlers at the rig. -/
structure Enrols (rig : Rig κ) (group : Broadcaster KeyWatcher) : Prop where
  found : rig.venue.group = some group
  entries : group.observers.entries = rig.watches
  orderly : group.observers.Orderly

theorem watches_modify (rig : Rig κ) {id : ConnectionId} {change : Station κ → Station κ}
    (hchange : ∀ station ∈ rig.stations, station.id = id →
      (change station).watches = station.watches) :
    (rig.modify id change).watches = rig.watches := by
  show (rig.stations.map _).flatMap _ = rig.stations.flatMap _
  rw [List.flatMap_map]
  refine List.flatMap_congr fun station hstation => ?_
  by_cases hid : station.id = id
  · rw [if_pos hid, hchange station hstation hid]
  · rw [if_neg hid]

namespace Enrols

variable {rig after : Rig κ} {group later : Broadcaster KeyWatcher}

/-- Neither observers nor handlers have changed. -/
theorem of_same (henrols : rig.Enrols group) (hgroup : after.venue.group = some later)
    (hobservers : later.observers = group.observers) (hwatches : after.watches = rig.watches) :
    after.Enrols later := by
  refine ⟨hgroup, ?_, ?_⟩
  · rw [hobservers, hwatches]
    exact henrols.entries
  · rw [hobservers]
    exact henrols.orderly

/-- The group's observers are the stations that listen, once each. -/
theorem toList_eq (henrols : rig.Enrols group)
    (hstanding : ∀ station ∈ rig.stations, station.Standing) :
    group.observers.toList
      = (rig.stations.filter Station.listens).map fun station => .connection station.id := by
  rw [Observers.toList, henrols.entries, watches]
  generalize rig.stations = stations at hstanding
  induction stations with
  | nil => rfl
  | cons station stations ih =>
      obtain ⟨hfirst, hrest⟩ := List.forall_mem_cons.1 hstanding
      rw [List.flatMap_cons, List.map_append, ih hrest, Station.watchers_eq hfirst,
        List.filter_cons]
      cases station.listens with
      | true => rfl
      | false => rfl

end Enrols

/-- Whether the connection under a number hears of new keys. -/
def hears (rig : Rig κ) (id : ConnectionId) : Bool := (rig.station? id).any Station.hears

end Rig

-- ============================================================== steps

namespace Rig.Enrols

variable {rig : Rig Tape} {group : Broadcaster KeyWatcher} {id : ConnectionId}

/-- No station is an observer twice. -/
theorem nodup_toList (henrols : rig.Enrols group) (hkept : rig.Kept) :
    group.observers.toList.Nodup := by
  rw [henrols.toList_eq fun station hstation => (hkept.sound station hstation).standing]
  have hids : (rig.stations.map Station.id).Nodup := hkept.numbers ▸ List.nodup_range
  have hlistening : ((rig.stations.filter Station.listens).map Station.id).Nodup :=
    hids.sublist (List.filter_sublist.map _)
  have hmapped := hlistening.map fun _ _ hsame => KeyWatcher.connection.inj hsame
  rw [List.map_map] at hmapped
  exact hmapped

/-- A connection is an observer if its station listens. -/
theorem mem_toList_iff (henrols : rig.Enrols group) (hkept : rig.Kept) {station : Station Tape}
    (hfound : rig.station? id = some station) :
    .connection id ∈ group.observers.toList ↔ station.listens = true := by
  obtain ⟨hmem, rfl⟩ := mem_of_station? hfound
  rw [henrols.toList_eq fun station hstation => (hkept.sound station hstation).standing]
  constructor
  · intro hwatcher
    obtain ⟨other, hother, hsame⟩ := List.mem_map.1 hwatcher
    obtain ⟨hother, hlistens⟩ := List.mem_filter.1 hother
    have hthere := hkept.station?_of_mem hother
    rw [KeyWatcher.connection.inj hsame, hfound] at hthere
    cases hthere
    exact hlistens
  · intro hlistens
    exact List.mem_map_of_mem (List.mem_filter.2 ⟨hmem, hlistens⟩)

/-- A peer that connects listens. -/
theorem enter (henrols : rig.Enrols group) (peer : SocketAddress) :
    (rig.enter peer).Enrols (group.observe (.connection rig.stations.length)).2 := by
  obtain ⟨hhandlers, hgroup⟩ :=
    Worker.attach_standard_of_group henrols.found rig.stations.length
  refine ⟨hgroup, ?_, henrols.orderly.insert _⟩
  show group.observers.entries ++ [_] = (rig.stations ++ [_]).flatMap Station.watches
  rw [List.flatMap_append, henrols.entries, List.flatMap_singleton, hhandlers]
  rfl

/-- One station and the venue change, and not who listens. -/
theorem put (henrols : rig.Enrols group) (hkept : rig.Kept) {station after : Station Tape}
    (hfound : rig.station? id = some station) (hwatches : after.watches = station.watches)
    {venue : Venue} (hgroup : venue.group = rig.venue.group) :
    (rig.put id after venue).Enrols group := by
  refine henrols.of_same (hgroup.trans henrols.found) rfl ?_
  refine watches_modify rig fun other hother hid => ?_
  have hthere := hkept.station?_of_mem hother
  rw [hid, hfound] at hthere
  cases hthere
  exact hwatches

/-- Messages leave the observers alone. -/
theorem serve (henrols : rig.Enrols group) (hkept : rig.Kept) (id : ConnectionId)
    (position : Nat) (header : Header) (payload : Bytes) :
    (rig.serve id position header payload).Enrols group := by
  unfold Rig.serve handleAt
  cases hfound : rig.station? id with
  | none => exact henrols
  | some station =>
      simp only
      cases hhandle : station.handleAt rig.venue position header payload with
      | none => exact henrols
      | some turn =>
          obtain ⟨outcome, after, venue⟩ := turn
          obtain ⟨-, hwatches, hgroup⟩ := Station.watches_handleAt hhandle
          exact henrols.put hkept hfound hwatches hgroup

/-- A connection changes, and its handlers stay. -/
theorem modify_connection (henrols : rig.Enrols group) (id : ConnectionId)
    (change : Station Tape → Connection Tape) :
    (rig.modify id fun station =>
      { station with connection := change station }).Enrols group :=
  henrols.of_same henrols.found rfl (watches_modify rig fun _ _ _ => rfl)

/-- Handlers that go take their observers back, and no others. -/
theorem dismiss (henrols : rig.Enrols group) (hkept : rig.Kept) {station : Station Tape}
    (hfound : rig.station? id = some station) (keep : Handler → Bool) :
    ∃ later, (rig.put id { station with handlers := station.handlers.filter keep }
      ((station.handlers.filter fun handler => !keep handler).foldl
        (fun venue handler => handler.detach venue) rig.venue)).Enrols later := by
  obtain ⟨hmem, rfl⟩ := mem_of_station? hfound
  have hwatches := station.watches_filter keep
  refine ⟨_, Venue.group_foldl_detach henrols.found _, ?_, henrols.orderly.foldl_erase _⟩
  show (List.foldl Observers.erase group.observers _).entries = (rig.stations.map _).flatMap _
  rw [Observers.entries_foldl_erase, henrols.entries, watches, List.filter_flatMap,
    List.flatMap_map]
  refine List.flatMap_congr fun other hother => ?_
  by_cases hid : other.id = station.id
  · rw [if_pos hid, hwatches]
    have hthere := hkept.station?_of_mem hother
    rw [hid, hfound] at hthere
    cases hthere
    rfl
  · -- a token of another station's would be given twice
    rw [if_neg hid]
    refine List.filter_eq_self.2 fun entry hentry => decide_eq_true fun hgone => hid ?_
    have hentries : ∀ station ∈ rig.stations, ∀ entry ∈ station.watches,
        entry ∈ group.observers.entries := by
      intro station hstation entry hentry
      rw [henrols.entries]
      exact List.mem_flatMap.2 ⟨station, hstation, hentry⟩
    have hown : (entry.1, .connection station.id) ∈ station.watches := by
      refine List.mem_map_of_mem (f := fun token => (token, KeyWatcher.connection station.id)) ?_
      exact (List.filter_sublist.filterMap _).mem hgone
    have hsame := List.inj_on_of_nodup_map henrols.orderly.distinct
      (hentries other hother entry hentry) (hentries station hmem _ hown) rfl
    have hwatcher := Station.eq_of_mem_watches hentry
    rw [hsame] at hwatcher
    exact (KeyWatcher.connection.inj hwatcher).symm

theorem detach (henrols : rig.Enrols group) (hkept : rig.Kept) (id : ConnectionId)
    (endpoint : Endpoint) : ∃ later, (rig.detach id endpoint).Enrols later := by
  unfold Rig.detach
  cases hfound : rig.station? id with
  | none => exact ⟨group, henrols⟩
  | some station =>
      obtain ⟨later, hlater⟩ := henrols.dismiss hkept hfound (·.endpoint ≠ endpoint)
      have hgone : (station.handlers.filter fun handler => !decide (handler.endpoint ≠ endpoint))
          = station.handlers.filter (·.endpoint = endpoint) :=
        List.filter_congr fun _ _ => by simp
      rw [hgone] at hlater
      exact ⟨later, hlater⟩

theorem detachAll (henrols : rig.Enrols group) (hkept : rig.Kept) (id : ConnectionId) :
    ∃ later, (rig.detachAll id).Enrols later := by
  unfold Rig.detachAll
  cases hfound : rig.station? id with
  | none => exact ⟨group, henrols⟩
  | some station =>
      obtain ⟨later, hlater⟩ := henrols.dismiss hkept hfound fun _ => false
      have hnone : station.handlers.filter (fun _ => false) = [] :=
        List.filter_eq_nil_iff.2 fun _ _ => Bool.false_ne_true
      have hall : (station.handlers.filter fun _ => !false) = station.handlers :=
        List.filter_eq_self.2 fun _ _ => rfl
      rw [hnone, hall] at hlater
      exact ⟨later, hlater⟩

-- ========================================================== backstage

/-- A notice changes the connection it is sent on. -/
theorem tellKey (henrols : rig.Enrols group) (teller : Broadcaster KeyWatcher) (key : UInt32)
    (watcher : KeyWatcher) : (rig.tellKey teller key watcher).Enrols group := by
  cases watcher with
  | outsider number => exact henrols
  | connection id => exact henrols.modify_connection id _

theorem announce (henrols : rig.Enrols group) (key : UInt32) :
    (rig.announce key).Enrols group := by
  unfold Rig.announce
  rw [henrols.found]
  simp only
  generalize group.observers.toList = watchers
  induction watchers generalizing rig with
  | nil => exact henrols
  | cons watcher watchers ih => exact ih (henrols.tellKey group key watcher)

/-- What the broadcaster did is taken over. -/
theorem takeOver (henrols : rig.Enrols group)
    {done : Broadcaster.Work × Broadcaster KeyWatcher × Entropy}
    (hobservers : done.2.1.observers = group.observers) :
    (rig.takeOver done).2.Enrols done.2.1 := by
  obtain ⟨work, later, entropy⟩ := done
  have htaken : Rig.Enrols { rig with venue := { rig.venue with group := some later, entropy } }
      later := henrols.of_same rfl hobservers rfl
  cases work with
  | rotated key => exact htaken.announce key.id
  | _ => exact htaken

/-- So do pixels. -/
theorem tell (henrols : rig.Enrols group) (frameNumber : UInt64) (token : Token)
    (watcher : Watcher) : (rig.tell frameNumber token watcher).Enrols group := by
  cases watcher with
  | outsider number => exact henrols
  | delivery delivery => exact henrols.modify_connection delivery.connection _

theorem finish (henrols : rig.Enrols group) (region : Region) (frameNumber : UInt64) :
    (rig.finish region frameNumber).2.Enrols group := by
  show (List.foldl _ rig (rig.venue.framebuffer.due region)).Enrols group
  generalize rig.venue.framebuffer.due region = due
  induction due generalizing rig with
  | nil => exact henrols
  | cons entry due ih => exact ih (henrols.tell frameNumber entry.1 entry.2.observer)

/-- Nobody comes or goes backstage. -/
theorem apart (henrols : rig.Enrols group) (event : Backstage) :
    ∃ later, (rig.apart event).Enrols later := by
  cases event with
  | rotate entropy =>
      have htuned : (rig.tuned rig.venue.now entropy).Enrols group :=
        henrols.of_same henrols.found rfl rfl
      show ∃ later, (rig.tuned rig.venue.now entropy).rotate.2.Enrols later
      unfold Rig.rotate
      rw [htuned.found]
      exact ⟨_, htuned.takeOver (group.observers_elapse _)⟩
  | request item =>
      exact ⟨_, henrols.of_same (congrArg (Option.map _) henrols.found)
        (group.observers_request item) rfl⟩
  | work now entropy =>
      have htuned : (rig.tuned now entropy).Enrols group :=
        henrols.of_same henrols.found rfl rfl
      show ∃ later, (rig.tuned now entropy).work.2.Enrols later
      unfold Rig.work
      rw [htuned.found]
      exact ⟨_, htuned.takeOver (group.observers_work _ _)⟩
  | rewire channels => exact ⟨group, henrols.of_same henrols.found rfl rfl⟩
  | draw start pixels =>
      refine ⟨group, ?_⟩
      unfold Rig.apart
      simp only
      split
      · exact henrols
      · exact henrols.of_same henrols.found rfl rfl
  | finish region frameNumber => exact ⟨group, henrols.finish region frameNumber⟩

end Rig.Enrols

-- ============================================================== scenes

namespace Scene

variable {scene : Scene} {group : Broadcaster KeyWatcher}

/-- At every cue the group's observers stay those of the handlers. -/
theorem enrols_step (hkept : scene.Kept) (henrols : scene.rig.Enrols group) (cue : Cue) :
    ∃ later, (scene.step cue).rig.Enrols later := by
  cases cue with
  | enter peer => exact ⟨_, henrols.enter peer⟩
  | message id position header payload =>
      exact ⟨group, henrols.serve hkept.rig id position header payload⟩
  | refuse id header => exact ⟨group, henrols.modify_connection id _⟩
  | detach id endpoint => exact henrols.detach hkept.rig id endpoint
  | leave id => exact henrols.detachAll hkept.rig id
  | apart event => exact henrols.apart event
  | finish region frameNumber => exact ⟨group, henrols⟩
  | tell index =>
      refine ⟨group, ?_⟩
      cases hcallback : scene.underway[index]? with
      | none =>
          rw [step_tell_of_none hcallback]
          exact henrols
      | some callback =>
          rw [step_tell hcallback]
          exact henrols.tell callback.frameNumber callback.token callback.watcher

/-- Every cue keeps the group's keys in order. -/
theorem hasKeys_step (hkeys : scene.rig.venue.HasKeys) (cue : Cue) :
    (scene.step cue).rig.venue.HasKeys := by
  cases cue with
  | enter peer => exact Worker.hasKeys_attach _ hkeys
  | message id position header payload =>
      show (scene.rig.serve id position header payload).venue.HasKeys
      unfold Rig.serve
      split
      · exact hkeys
      next hhandled => exact Rig.hasKeys_handleAt hkeys hhandled
  | refuse id header => exact hkeys
  | detach id endpoint =>
      show (scene.rig.detach id endpoint).venue.HasKeys
      unfold Rig.detach
      split
      · exact hkeys
      · exact hkeys.detachAll _
  | leave id =>
      show (scene.rig.detachAll id).venue.HasKeys
      unfold Rig.detachAll
      split
      · exact hkeys
      · exact hkeys.detachAll _
  | apart event => exact Rig.hasKeys_apart hkeys event
  | finish region frameNumber => exact hkeys
  | tell index =>
      cases hcallback : scene.underway[index]? with
      | none =>
          rw [step_tell_of_none hcallback]
          exact hkeys
      | some callback =>
          rw [step_tell hcallback, Rig.venue_tell]
          exact hkeys

end Scene

end Luminaire
