/-
Which observers belong to a connection.

A handler registers observers for its connection and keeps their tokens.
A message can only enlist an observer of its own connection and release
some, whatever can be sent (`Handler.moves_handle`), so that no observer
comes to belong to another connection (`Venue.Spares`). What belongs to a
connection is on the list of one of its handlers (`Venue.Accounts`), and
when a handler is detached, what was on its list is gone
(`Venue.Accounts.detach`).
-/
import Luminaire.Proofs.Connection.Bookings
import Luminaire.Proofs.Connection.Effects

namespace Luminaire

-- =========================================================== handlers

/-- A handler goes on serving its endpoint. -/
theorem Handler.endpoint_handle {κ : Type} [Sink κ] (handler : Handler) (id : ConnectionId)
    (connection : Connection κ) (venue : Venue) (header : Header) (payload : Bytes) :
    (handler.handle id connection venue header payload).handler.endpoint
      = handler.endpoint := by
  cases handler with
  | liveness => rfl
  | authentication methods state => rfl
  | pixelData held => rfl
  | groupControl token =>
      unfold handle
      simp only
      split
      · rfl
      · rfl
  | plugin supplied =>
      unfold handle
      simp only
      split
      · rfl
      · rfl
      · rfl

/-- A handler that comes with the library goes on being one. -/
theorem Handler.isStandard_handle {κ : Type} [Sink κ] {handler : Handler}
    (hstandard : handler.IsStandard) (id : ConnectionId) (connection : Connection κ)
    (venue : Venue) (header : Header) (payload : Bytes) :
    (handler.handle id connection venue header payload).handler.IsStandard := by
  cases handler with
  | groupControl token =>
      unfold handle
      simp only
      split
      · exact trivial
      · exact trivial
  | plugin supplied => exact hstandard.elim
  | _ => exact trivial

/-- The token of a handler that hears of new keys. -/
def Handler.keyToken? : Handler → Option Token
  | .groupControl token => some token
  | _ => none

/-- What a message does to the books, whatever can be sent: a handler for pixels
may be granted a channel or give some up, and that is all. -/
theorem Handler.moves_handle {κ : Type} [Sink κ] (handler : Handler) (id : ConnectionId)
    (connection : Connection κ) (venue : Venue) (header : Header) (payload : Bytes) :
    let turn := handler.handle id connection venue header payload
    turn.venue.group = venue.group ∧ turn.handler.keyToken? = handler.keyToken?
      ∧ Subscription.Moves id (handler.held?.getD []) venue.framebuffer
        (turn.handler.held?.getD []) turn.venue.framebuffer := by
  cases handler with
  | liveness => exact ⟨rfl, rfl, .same⟩
  | authentication methods state => exact ⟨rfl, rfl, .same⟩
  | pixelData held =>
      refine ⟨rfl, rfl, ?_⟩
      -- what is sent has no part in it, so it may as well be taken down
      have heffects := Handler.effects_onTape (.pixelData held) id connection venue header payload
      have hheld := congrArg (fun effects => effects.held.getD []) heffects
      have hframebuffer := congrArg Effects.framebuffer heffects
      have hmoves : Subscription.Moves id held venue.framebuffer
          (((Handler.pixelData held).handle id connection.onTape venue header
            payload).effects.held.getD [])
          ((Handler.pixelData held).handle id connection.onTape venue header
            payload).effects.framebuffer :=
        (Subscription.handled id venue.directory held venue.framebuffer connection.onTape header
          payload).moves
      rw [← hframebuffer, ← hheld] at hmoves
      exact hmoves
  | groupControl token =>
      intro turn
      have hturn : turn.venue = venue ∧ turn.handler = .groupControl token := by
        simp only [turn, handle]
        split
        · exact ⟨rfl, rfl⟩
        · exact ⟨rfl, rfl⟩
      rw [hturn.1, hturn.2]
      exact ⟨rfl, rfl, .same⟩
  | plugin supplied =>
      intro turn
      have hturn : turn.venue = venue ∧ turn.handler = .plugin supplied := by
        simp only [turn, handle]
        split
        · exact ⟨rfl, rfl⟩
        · exact ⟨rfl, rfl⟩
        · exact ⟨rfl, rfl⟩
      rw [hturn.1, hturn.2]
      exact ⟨rfl, rfl, .same⟩

/-- Only the handler for pixels has to do with the framebuffer. -/
theorem Handler.framebuffer_handle {κ : Type} [Sink κ] {handler : Handler}
    (hnone : handler.held? = none) (id : ConnectionId) (connection : Connection κ)
    (venue : Venue) (header : Header) (payload : Bytes) :
    let turn := handler.handle id connection venue header payload
    turn.handler.held? = none ∧ turn.venue.framebuffer = venue.framebuffer := by
  cases handler with
  | liveness => exact ⟨rfl, rfl⟩
  | authentication methods state => exact ⟨rfl, rfl⟩
  | pixelData held => cases hnone
  | groupControl token =>
      unfold handle
      simp only
      split
      · exact ⟨rfl, rfl⟩
      · exact ⟨rfl, rfl⟩
  | plugin supplied =>
      unfold handle
      simp only
      split
      · exact ⟨rfl, rfl⟩
      · exact ⟨rfl, rfl⟩
      · exact ⟨rfl, rfl⟩

-- ============================================================= venues

/-- No observer has come to belong to a connection. -/
structure Venue.Spares (id : ConnectionId) (before after : Venue) : Prop where
  regions : ∀ entry ∈ after.framebuffer.observers.entries, ∀ delivery,
    entry.2.observer = .delivery delivery → delivery.connection = id →
      entry ∈ before.framebuffer.observers.entries
  keys : ∀ later, after.group = some later →
    ∀ entry ∈ later.observers.entries, entry.2 = .connection id →
      ∃ earlier, before.group = some earlier ∧ entry ∈ earlier.observers.entries

namespace Venue.Spares

variable {id other : ConnectionId} {venue middle after : Venue}

/-- Only the observers count. -/
theorem of_observers
    (hregions : after.framebuffer.observers = venue.framebuffer.observers)
    (hkeys : after.group.map Broadcaster.observers = venue.group.map Broadcaster.observers) :
    Spares id venue after := by
  refine ⟨?_, ?_⟩
  · intro entry hentry delivery _ _
    rw [hregions] at hentry
    exact hentry
  · intro later hlater entry hentry _
    rw [hlater, Option.map_some] at hkeys
    obtain ⟨earlier, hearlier, hsame⟩ := Option.map_eq_some_iff.1 hkeys.symm
    refine ⟨earlier, hearlier, ?_⟩
    rw [hsame]
    exact hentry

theorem refl (id : ConnectionId) (venue : Venue) : Spares id venue venue :=
  .of_observers rfl rfl

theorem trans (hfirst : Spares id venue middle) (hsecond : Spares id middle after) :
    Spares id venue after := by
  refine ⟨?_, ?_⟩
  · intro entry hentry delivery hobserver hown
    exact hfirst.regions entry (hsecond.regions entry hentry delivery hobserver hown) delivery
      hobserver hown
  · intro later hlater entry hentry hown
    obtain ⟨between, hbetween, hmem⟩ := hsecond.keys later hlater entry hentry hown
    exact hfirst.keys between hbetween entry hmem hown

/-- Detaching a handler takes observers out. -/
theorem detach (id : ConnectionId) (handler : Handler) (venue : Venue) :
    Spares id venue (handler.detach venue) := by
  cases handler with
  | pixelData held =>
      refine ⟨fun entry hentry _ _ _ => ?_, fun group hgroup entry hentry _ =>
        ⟨group, hgroup, hentry⟩⟩
      change entry ∈ (Subscription.release (fun _ => true) held
        venue.framebuffer).2.observers.entries at hentry
      rw [Subscription.release_snd] at hentry
      exact (List.mem_filter.1 hentry).1
  | groupControl token =>
      refine ⟨fun entry hentry _ _ _ => hentry, fun later hlater entry hentry _ => ?_⟩
      obtain ⟨group, hgroup, rfl⟩ := Option.map_eq_some_iff.1 hlater
      exact ⟨group, hgroup, (List.mem_filter.1 hentry).1⟩
  | _ => exact .refl id venue

theorem detachAll (id : ConnectionId) (handlers : List Handler) (venue : Venue) :
    Spares id venue (handlers.foldl (fun venue handler => handler.detach venue) venue) := by
  induction handlers generalizing venue with
  | nil => exact .refl id venue
  | cons handler handlers ih => exact (detach id handler venue).trans (ih (handler.detach venue))

/-- Another connection's handler registers no observer for this one. -/
theorem attach? {kind : HandlerKind} {handler : Handler}
    (hattach : Handler.attach? kind other venue = some (handler, after)) (hne : other ≠ id) :
    Spares id venue after := by
  cases kind with
  | groupControl =>
      obtain ⟨group, hgroup, hattached⟩ := Option.map_eq_some_iff.1 hattach
      cases hattached
      refine ⟨fun entry hentry _ _ _ => hentry, fun later hlater entry hentry hown => ?_⟩
      cases hlater
      rcases List.mem_append.1 hentry with hentry | hentry
      · exact ⟨group, hgroup, hentry⟩
      · cases List.mem_singleton.1 hentry
        cases hown
        exact absurd rfl hne
  | _ =>
      cases hattach
      exact .refl id venue

end Venue.Spares

/-- The observers of other connections are what they were, or less. -/
theorem Subscription.Moves.mem_of_ne {id other : ConnectionId} {held held' : Held}
    {framebuffer framebuffer' : Framebuffer Watcher}
    (hmoves : Moves other held framebuffer held' framebuffer') (hne : other ≠ id)
    {entry : Token × RegionObserver Watcher} (hentry : entry ∈ framebuffer'.observers.entries)
    {delivery : Delivery} (hobserver : entry.2.observer = .delivery delivery)
    (hown : delivery.connection = id) : entry ∈ framebuffer.observers.entries := by
  cases hmoves with
  | same => exact hentry
  | granted hgrantable =>
      rcases List.mem_append.1 hentry with hentry | hentry
      · exact hentry
      · cases List.mem_singleton.1 hentry
        cases hobserver
        exact absurd hown hne
  | released meant =>
      rw [release_snd] at hentry
      exact (List.mem_filter.1 hentry).1

/-- A message to another connection's handler registers no observer for this
one. -/
theorem Venue.Spares.handle {κ : Type} [Sink κ] {id other : ConnectionId}
    (handler : Handler) (connection : Connection κ) (venue : Venue) (header : Header) (payload : Bytes)
    (hne : other ≠ id) :
    Spares id venue (handler.handle other connection venue header payload).venue := by
  obtain ⟨hgroup, -, hmoves⟩ := handler.moves_handle other connection venue header payload
  refine ⟨fun entry hentry delivery hobserver hown => ?_, fun later hlater entry hentry _ => ?_⟩
  · exact hmoves.mem_of_ne hne hentry hobserver hown
  · rw [hgroup] at hlater
    exact ⟨later, hlater, hentry⟩

-- =========================================================== accounts

/-- An observer that a release leaves is still on the list if it was there, and
a new one is on the list. -/
theorem Subscription.Moves.listed {id : ConnectionId} {held held' : Held}
    {framebuffer framebuffer' : Framebuffer Watcher}
    (hmoves : Moves id held framebuffer held' framebuffer')
    {entry : Token × RegionObserver Watcher} (hentry : entry ∈ framebuffer'.observers.entries) :
    (entry ∈ framebuffer.observers.entries
        ∧ ∀ subscription ∈ held, subscription.token = entry.1 → subscription ∈ held')
      ∨ ∃ subscription ∈ held', subscription.token = entry.1 := by
  cases hmoves with
  | same => exact .inl ⟨hentry, fun subscription hmem _ => hmem⟩
  | granted hgrantable =>
      rcases List.mem_append.1 hentry with hentry | hentry
      · exact .inl ⟨hentry, fun subscription hmem _ => List.mem_cons_of_mem _ hmem⟩
      · cases List.mem_singleton.1 hentry
        exact .inr ⟨_, List.mem_cons_self, rfl⟩
  | released meant =>
      rw [release_snd] at hentry
      obtain ⟨hentry, hkept⟩ := List.mem_filter.1 hentry
      refine .inl ⟨hentry, fun subscription hmem htoken => ?_⟩
      refine List.mem_filter.2 ⟨hmem, ?_⟩
      by_contra hmeant
      have hgone : subscription ∈ held.filter meant :=
        List.mem_filter.2 ⟨hmem, by simpa using hmeant⟩
      exact of_decide_eq_true hkept (htoken ▸ List.mem_map_of_mem hgone)

/-- Every observer that belongs to a connection is on the list of one of its
handlers. -/
structure Venue.Accounts (venue : Venue) (id : ConnectionId) (handlers : List Handler) :
    Prop where
  regions : ∀ entry ∈ venue.framebuffer.observers.entries, ∀ delivery,
    entry.2.observer = .delivery delivery → delivery.connection = id →
      ∃ handler ∈ handlers, ∃ subscription ∈ handler.held?.getD [],
        subscription.token = entry.1
  keys : ∀ group, venue.group = some group →
    ∀ entry ∈ group.observers.entries, entry.2 = .connection id →
      ∃ handler ∈ handlers, handler.keyToken? = some entry.1

/-- What is in a list is still there after one place was overwritten, unless it
stood there. -/
theorem mem_set_of_mem {α : Type} {entries : List α} {position : Nat} {old new entry : α}
    (hold : entries[position]? = some old) (hmem : entry ∈ entries) :
    entry = old ∨ entry ∈ entries.set position new := by
  obtain ⟨index, hindex⟩ := List.mem_iff_getElem?.1 hmem
  by_cases hsame : index = position
  · left
    rw [hsame, hold] at hindex
    exact (Option.some.inj hindex).symm
  · right
    refine List.mem_of_getElem? (i := index) ?_
    rw [List.getElem?_set_ne (Ne.symm hsame), hindex]

namespace Venue.Accounts

variable {venue after : Venue} {id : ConnectionId} {handler : Handler}
  {handlers : List Handler}

theorem mono (haccounts : venue.Accounts id handlers) {more : List Handler}
    (hsubset : handlers ⊆ more) : venue.Accounts id more := by
  refine ⟨?_, ?_⟩
  · intro entry hentry delivery hobserver hown
    obtain ⟨handler, hhandler, hlisted⟩ := haccounts.regions entry hentry delivery hobserver hown
    exact ⟨handler, hsubset hhandler, hlisted⟩
  · intro group hgroup entry hentry hown
    obtain ⟨handler, hhandler, htoken⟩ := haccounts.keys group hgroup entry hentry hown
    exact ⟨handler, hsubset hhandler, htoken⟩

/-- Nothing has come to belong to the connection. -/
theorem of_spares (haccounts : venue.Accounts id handlers) (hspares : venue.Spares id after) :
    after.Accounts id handlers := by
  refine ⟨?_, ?_⟩
  · intro entry hentry delivery hobserver hown
    exact haccounts.regions entry (hspares.regions entry hentry delivery hobserver hown)
      delivery hobserver hown
  · intro later hlater entry hentry hown
    obtain ⟨group, hgroup, hmem⟩ := hspares.keys later hlater entry hentry hown
    exact haccounts.keys group hgroup entry hmem hown

/-- What was on the list of a handler is gone when it is detached. -/
theorem detach (haccounts : venue.Accounts id (handler :: handlers)) :
    (handler.detach venue).Accounts id handlers := by
  have hspares := Venue.Spares.detach id handler venue
  refine ⟨?_, ?_⟩
  · intro entry hentry delivery hobserver hown
    obtain ⟨other, hother, subscription, hsubscription, htoken⟩ := haccounts.regions entry
      (hspares.regions entry hentry delivery hobserver hown) delivery hobserver hown
    rcases List.mem_cons.1 hother with rfl | hother
    · cases other with
      | pixelData held =>
          change entry ∈ (Subscription.release (fun _ => true) held
            venue.framebuffer).2.observers.entries at hentry
          rw [Subscription.release_snd] at hentry
          have hkept := of_decide_eq_true (List.mem_filter.1 hentry).2
          refine absurd ?_ hkept
          rw [← htoken]
          exact List.mem_map_of_mem (List.mem_filter.2 ⟨hsubscription, rfl⟩)
      | _ => cases hsubscription
    · exact ⟨other, hother, subscription, hsubscription, htoken⟩
  · intro later hlater entry hentry hown
    obtain ⟨group, hgroup, hmem⟩ := hspares.keys later hlater entry hentry hown
    obtain ⟨other, hother, htoken⟩ := haccounts.keys group hgroup entry hmem hown
    rcases List.mem_cons.1 hother with rfl | hother
    · cases other with
      | groupControl token =>
          obtain rfl : token = entry.1 := Option.some.inj htoken
          change venue.group.map _ = some later at hlater
          rw [hgroup] at hlater
          cases hlater
          have hkept := (List.mem_filter.1 hentry).2
          simp at hkept
      | _ => cases htoken
    · exact ⟨other, hother, htoken⟩

/-- When all are detached, nothing belongs to the connection any more. -/
theorem detachAll (haccounts : venue.Accounts id handlers) :
    (handlers.foldl (fun venue handler => handler.detach venue) venue).Accounts id [] := by
  induction handlers generalizing venue with
  | nil => exact haccounts
  | cons handler handlers ih => exact ih haccounts.detach

/-- What a handler registers when it is attached is on its list. -/
theorem attach? (haccounts : venue.Accounts id handlers) {kind : HandlerKind}
    (hattach : Handler.attach? kind id venue = some (handler, after)) :
    after.Accounts id (handler :: handlers) := by
  have hmore := haccounts.mono (List.subset_cons_self handler handlers)
  cases kind with
  | groupControl =>
      obtain ⟨group, hgroup, hattached⟩ := Option.map_eq_some_iff.1 hattach
      cases hattached
      refine ⟨hmore.regions, ?_⟩
      intro later hlater entry hentry hown
      cases hlater
      rcases List.mem_append.1 hentry with hentry | hentry
      · exact hmore.keys group hgroup entry hentry hown
      · cases List.mem_singleton.1 hentry
        exact ⟨_, List.mem_cons_self, rfl⟩
  | _ =>
      cases hattach
      exact hmore

/-- A message to one of the handlers keeps everything on some list. -/
theorem handle {κ : Type} [Sink κ] (haccounts : venue.Accounts id handlers) {position : Nat}
    (hhandler : handlers[position]? = some handler) (connection : Connection κ)
    (header : Header) (payload : Bytes) :
    let turn := handler.handle id connection venue header payload
    turn.venue.Accounts id (handlers.set position turn.handler) := by
  intro turn
  obtain ⟨hgroup, hkey, hmoves⟩ := handler.moves_handle id connection venue header payload
  have hturn : turn.handler ∈ handlers.set position turn.handler := by
    obtain ⟨hlength, -⟩ := List.getElem?_eq_some_iff.1 hhandler
    exact List.mem_set hlength turn.handler
  refine ⟨?_, ?_⟩
  · intro entry hentry delivery hobserver hown
    rcases hmoves.listed hentry with ⟨hentry, hlisted⟩ | hlisted
    · obtain ⟨other, hother, subscription, hsubscription, htoken⟩ :=
        haccounts.regions entry hentry delivery hobserver hown
      rcases mem_set_of_mem hhandler hother with rfl | hother
      · exact ⟨turn.handler, hturn, subscription, hlisted subscription hsubscription htoken,
          htoken⟩
      · exact ⟨other, hother, subscription, hsubscription, htoken⟩
    · exact ⟨turn.handler, hturn, hlisted⟩
  · intro later hlater entry hentry hown
    rw [hgroup] at hlater
    obtain ⟨other, hother, htoken⟩ := haccounts.keys later hlater entry hentry hown
    rcases mem_set_of_mem hhandler hother with rfl | hother
    · exact ⟨turn.handler, hturn, hkey.trans htoken⟩
    · exact ⟨other, hother, htoken⟩

end Venue.Accounts

end Luminaire
