/-
A rig's group stays in possession of its keys.

Whatever happens at a rig happens to its group as one of the events of a
broadcaster, or not at all, so a group whose cipher works with the newest
key of its ring goes on doing so (`Broadcaster.Keyed.step`). Handlers come
and go as its observers; messages do not touch it.
-/
import Luminaire.Proofs.Connection.Belongings
import Luminaire.Proofs.Group.Retention
import Luminaire.Proofs.Server.Hosting
import Luminaire.Proofs.Server.Touches

namespace Luminaire

/-- A venue has a group, with its keys in order. -/
def Venue.HasKeys (venue : Venue) : Prop :=
  ∃ group, venue.group = some group ∧ group.Keyed

namespace Venue.HasKeys

variable {venue after : Venue}

theorem of_same (hkeys : venue.HasKeys) (hgroup : after.group = venue.group) :
    after.HasKeys := by
  unfold Venue.HasKeys
  rw [hgroup]
  exact hkeys

/-- An event at the group. -/
theorem of_event (hkeys : venue.HasKeys) (event : Broadcaster.Event KeyWatcher)
    (hgroup : after.group = venue.group.map fun group => (group.step event).2) :
    after.HasKeys := by
  obtain ⟨group, hfound, hkeyed⟩ := hkeys
  rw [hfound] at hgroup
  exact ⟨(group.step event).2, hgroup, hkeyed.step event⟩

theorem attach? (hkeys : venue.HasKeys) {kind : HandlerKind} {id : ConnectionId}
    {handler : Handler} (hattach : Handler.attach? kind id venue = some (handler, after)) :
    after.HasKeys := by
  cases kind with
  | groupControl =>
      obtain ⟨group, hgroup, hattached⟩ := Option.map_eq_some_iff.1 hattach
      cases hattached
      refine hkeys.of_event (.observe (.connection id)) ?_
      rw [hgroup]
      rfl
  | _ =>
      cases hattach
      exact hkeys

theorem detach (hkeys : venue.HasKeys) (handler : Handler) : (handler.detach venue).HasKeys := by
  cases handler with
  | groupControl token => exact hkeys.of_event (.unobserve token) rfl
  | _ => exact hkeys

theorem detachAll (hkeys : venue.HasKeys) (handlers : List Handler) :
    (handlers.foldl (fun venue handler => handler.detach venue) venue).HasKeys := by
  induction handlers generalizing venue with
  | nil => exact hkeys
  | cons handler handlers ih => exact ih (hkeys.detach handler)

end Venue.HasKeys

namespace Rig

variable {κ : Type} [Sink κ] {rig : Rig κ}

theorem hasKeys_announce (hkeys : rig.venue.HasKeys) (key : UInt32) :
    (rig.announce key).venue.HasKeys := by
  have htold : ∀ (watchers : List KeyWatcher) (group : Broadcaster KeyWatcher)
      (rig : Rig κ), rig.venue.HasKeys →
        (watchers.foldl (fun rig watcher => rig.tellKey group key watcher) rig).venue.HasKeys := by
    intro watchers group
    induction watchers with
    | nil => exact fun rig hkeys => hkeys
    | cons watcher watchers ih =>
        intro rig hkeys
        refine ih (rig.tellKey group key watcher) ?_
        cases watcher with
        | outsider name => exact hkeys
        | connection id => exact hkeys
  unfold announce
  split
  · exact hkeys
  next group _ => exact htold group.observers.toList group rig hkeys

/-- What the broadcaster did is taken over. -/
theorem hasKeys_takeOver (done : Broadcaster.Work × Broadcaster KeyWatcher × Entropy)
    (hkeyed : done.2.1.Keyed) : (rig.takeOver done).2.venue.HasKeys := by
  obtain ⟨work, later, entropy⟩ := done
  have htaken : Venue.HasKeys { rig.venue with group := some later, entropy } :=
    ⟨later, rfl, hkeyed⟩
  cases work with
  | rotated key => exact hasKeys_announce htaken key.id
  | _ => exact htaken

theorem hasKeys_finish (hkeys : rig.venue.HasKeys) (region : Region) (frameNumber : UInt64) :
    (rig.finish region frameNumber).2.venue.HasKeys := by
  have htold : ∀ (due : List (Token × RegionObserver Watcher)) (rig : Rig κ),
      rig.venue.HasKeys → (due.foldl (fun rig entry =>
        rig.tell frameNumber entry.1 entry.2.observer) rig).venue.HasKeys := by
    intro due
    induction due with
    | nil => exact fun rig hkeys => hkeys
    | cons entry due ih =>
        intro rig hkeys
        refine ih (rig.tell frameNumber entry.1 entry.2.observer) ?_
        unfold tell
        split
        · exact hkeys
        · exact hkeys
  exact htold _ rig hkeys

/-- What goes on backstage keeps the group's keys in order. -/
theorem hasKeys_apart (hkeys : rig.venue.HasKeys) (event : Backstage) :
    (rig.apart event).venue.HasKeys := by
  cases event with
  | rotate entropy =>
      obtain ⟨group, hgroup, hkeyed⟩ := hkeys
      show (rig.tuned rig.venue.now entropy).rotate.2.venue.HasKeys
      have hfound : (rig.tuned rig.venue.now entropy).venue.group = some group := hgroup
      unfold rotate
      rw [hfound]
      exact hasKeys_takeOver _ (hkeyed.step (.elapse entropy))
  | request item => exact hkeys.of_event (.request item) rfl
  | work now entropy =>
      obtain ⟨group, hgroup, hkeyed⟩ := hkeys
      show (rig.tuned now entropy).work.2.venue.HasKeys
      have hfound : (rig.tuned now entropy).venue.group = some group := hgroup
      unfold work
      rw [hfound]
      exact hasKeys_takeOver _ (hkeyed.step (.work now entropy))
  | rewire channels => exact hkeys
  | draw start pixels =>
      unfold apart
      simp only
      split
      · exact hkeys
      · exact hkeys
  | finish region frameNumber => exact hasKeys_finish hkeys region frameNumber

/-- Messages do not touch the group. -/
theorem hasKeys_handleAt (hkeys : rig.venue.HasKeys) {id : ConnectionId} {position : Nat}
    {header : Header} {payload : Bytes} {outcome : Outcome} {after : Rig κ}
    (hhandled : rig.handleAt id position header payload = some (outcome, after)) :
    after.venue.HasKeys := by
  unfold handleAt at hhandled
  split at hhandled
  · cases hhandled
  next station hfound =>
    unfold Station.handleAt at hhandled
    cases hhandler : station.handlers[position]? with
    | none =>
        simp only [hhandler, Option.map_none] at hhandled
        cases hhandled
    | some handler =>
        simp only [hhandler, Option.map_some, Option.some.injEq, Prod.mk.injEq] at hhandled
        obtain ⟨-, rfl⟩ := hhandled
        exact hkeys.of_same (handler.moves_handle ..).1

end Rig

namespace Worker

variable {worker : Worker} {rig after : Rig Outlet} {id : ConnectionId}

theorem hasKeys_takes (htakes : rig.Takes id after) (hkeys : rig.venue.HasKeys) :
    after.venue.HasKeys := by
  induction htakes with
  | handled hhandled => exact Rig.hasKeys_handleAt hkeys hhandled
  | andThen _ _ hfirst hsecond => exact hsecond (hfirst hkeys)
  | _ => exact hkeys

/-- No step of a worker touches the group's keys. -/
theorem hasKeys_step (hkeys : rig.venue.HasKeys) (next : Step) :
    (worker.step rig next).2.venue.HasKeys := by
  have htouches := worker.touches_step rig next
  generalize (worker.step rig next).2 = after at htouches ⊢
  cases htouches with
  | takes htakes => exact hasKeys_takes htakes hkeys
  | hushes => exact hkeys
  | releases =>
      unfold Rig.detachAll
      split
      · exact hkeys
      next station _ => exact hkeys.detachAll station.handlers

/-- Nor does a connection that is taken in. -/
theorem hasKeys_attach {id : ConnectionId} (kinds : List HandlerKind) {roster : Roster Handler}
    {venue : Venue} (hkeys : venue.HasKeys) : (attach id kinds roster venue).2.2.HasKeys :=
  attach_preserves (fun hattach hkeys => hkeys.attach? hattach)
    (fun handler _ hkeys => hkeys.detach handler) kinds roster hkeys

theorem hasKeys_start (hkeys : rig.venue.HasKeys) (id : ConnectionId) (peer : SocketAddress)
    (session : Session) (registry : Registry HandlerKind) (callbacks : Nat) :
    (start id peer session registry callbacks rig).2.2.venue.HasKeys :=
  hasKeys_attach (registry.entries.map Prod.snd) hkeys

end Worker

end Luminaire
