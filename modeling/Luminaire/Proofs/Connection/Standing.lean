/-
A station with the handlers that come with the library, at most one for
each endpoint (`Station.Standing`).

What such a station holds is what its one handler for pixels holds
(`Station.held`), so there are two ways for it to change: a message to that
handler (`handleAt_cases`), which goes as `Subscription.Handled` says, and
the handler's departure, which gives up everything at once
(`detach_cases`, `detachAll_cases`). To the connection a message is an
answer, whatever handler takes it.
-/
import Luminaire.Proofs.Connection.Subscriptions
import Luminaire.Server.Worker

namespace Luminaire

-- =========================================================== handlers

namespace Handler

/-- Whether a handler comes with the library. -/
def IsStandard : Handler → Prop
  | .plugin _ => False
  | _ => True

/-- The subscriptions a handler holds, if it is the one for pixels. -/
def held? : Handler → Option Subscription.Held
  | .pixelData held => some held
  | _ => none

/-- Only the endpoint for pixels has a handler that holds subscriptions. -/
theorem held?_of_ne {handler : Handler} (hne : handler.endpoint ≠ .pixelData) :
    handler.held? = none := by
  cases handler with
  | pixelData held => exact absurd rfl hne
  | _ => rfl

end Handler

/-- Group keys are answers only, whoever asks. -/
theorem GroupKeys.answers_handle {κ ω : Type} [Sink κ] (connection : Connection κ)
    (group : Broadcaster ω) (header : Header) (payload : Bytes) :
    connection.Answers (handle connection group header payload).2 := by
  unfold handle
  split
  · unfold info
    split
    · exact connection.answers_answer header _ _ (by decide)
    · exact connection.answers_replyWith header _ (by decide)
  · split
    · unfold key
      split
      · exact connection.answers_answer header _ _ (by decide)
      · split
        · exact connection.answers_answer header _ _ (by decide)
        · split
          · exact connection.answers_replyWith header _ (by decide)
          · exact connection.answers_replyWith header _ (by decide)
    · exact connection.answers_refl

/-- What a message leads to at a standard handler: an answer, and nothing on
the books unless the handler is the one for pixels. -/
theorem Handler.handle_cases {handler : Handler} (hstandard : handler.IsStandard)
    (id : ConnectionId) (connection : Connection Tape) (venue : Venue) (header : Header)
    (payload : Bytes) :
    let turn := handler.handle id connection venue header payload
    turn.handler.endpoint = handler.endpoint ∧ turn.handler.IsStandard
      ∧ connection.Answers turn.connection
      ∧ ((handler.held? = none ∧ turn.handler.held? = none
          ∧ turn.venue.framebuffer = venue.framebuffer)
        ∨ ∃ held held', handler = .pixelData held ∧ turn.handler = .pixelData held'
          ∧ Subscription.Handled id venue.directory held venue.framebuffer connection header
            payload held' turn.venue.framebuffer turn.connection) := by
  cases handler with
  | liveness =>
      exact ⟨rfl, trivial, Liveness.answers_handle .., .inl ⟨rfl, rfl, rfl⟩⟩
  | authentication methods state =>
      exact ⟨rfl, trivial, AuthState.answers_handle .., .inl ⟨rfl, rfl, rfl⟩⟩
  | pixelData held =>
      have hhandled := Subscription.handled id venue.directory held venue.framebuffer
        connection header payload
      exact ⟨rfl, trivial, hhandled.answers, .inr ⟨held, _, rfl, rfl, hhandled⟩⟩
  | groupControl token =>
      cases hgroup : venue.group with
      | none =>
          have hturn : (Handler.groupControl token).handle id connection venue header payload
              = ⟨.done, .groupControl token, connection, venue⟩ := by
            simp only [handle, hgroup]
          rw [hturn]
          exact ⟨rfl, trivial, connection.answers_refl, .inl ⟨rfl, rfl, rfl⟩⟩
      | some group =>
          have hturn : (Handler.groupControl token).handle id connection venue header payload
              = ⟨.of (GroupKeys.handle connection group header payload).1,
                .groupControl token, (GroupKeys.handle connection group header payload).2,
                venue⟩ := by
            simp only [handle, hgroup]
          rw [hturn]
          exact ⟨rfl, trivial, GroupKeys.answers_handle .., .inl ⟨rfl, rfl, rfl⟩⟩
  | plugin supplied => exact hstandard.elim

-- =========================================================== stations

/-- Putting something in the place of another that looks the same. -/
theorem map_set_of_getElem? {α β : Type} {look : α → β} {entries : List α} {position : Nat}
    {before after : α} (hbefore : entries[position]? = some before)
    (hlook : look after = look before) :
    (entries.set position after).map look = entries.map look := by
  obtain ⟨hposition, -⟩ := List.getElem?_eq_some_iff.1 hbefore
  refine List.ext_getElem? fun other => ?_
  rw [List.getElem?_map, List.getElem?_map]
  by_cases hsame : position = other
  · rw [← hsame, List.getElem?_set_self hposition, hbefore, Option.map_some, Option.map_some,
      hlook]
  · rw [List.getElem?_set_ne hsame]

namespace Station

/-- The handlers of a station come with the library, and no two serve one
endpoint. -/
structure Standing {κ : Type} (station : Station κ) : Prop where
  standard : ∀ handler ∈ station.handlers, handler.IsStandard
  distinct : (station.handlers.map Handler.endpoint).Nodup

/-- What a station holds. -/
def held {κ : Type} (station : Station κ) : Subscription.Held :=
  (station.handlers.findSome? Handler.held?).getD []

/-- That is what the station itself looks up for a delivery. -/
theorem held_eq {κ : Type} (station : Station κ) : station.held = station.held?.getD [] := by
  refine congrArg (fun look => (station.handlers.findSome? look).getD [])
    (funext fun handler => ?_)
  cases handler with
  | _ => rfl

/-- The handler for pixels is the only one, so it is the one looked up. -/
theorem findSome?_held?_of_getElem? {handlers : List Handler}
    (hdistinct : (handlers.map Handler.endpoint).Nodup) {position : Nat}
    {held : Subscription.Held} (hhandler : handlers[position]? = some (.pixelData held)) :
    handlers.findSome? Handler.held? = some held := by
  induction handlers generalizing position with
  | nil => cases hhandler
  | cons first rest ih =>
      rw [List.map_cons, List.nodup_cons] at hdistinct
      cases position with
      | zero =>
          cases hhandler
          rfl
      | succ position =>
          rw [List.getElem?_cons_succ] at hhandler
          have hmem : Endpoint.pixelData ∈ rest.map Handler.endpoint :=
            List.mem_map_of_mem (f := Handler.endpoint) (List.mem_of_getElem? hhandler)
          have hfirst : first.endpoint ≠ .pixelData := fun heq => hdistinct.1 (heq ▸ hmem)
          rw [List.findSome?_cons, Handler.held?_of_ne hfirst]
          exact ih hdistinct.2 hhandler

/-- Other handlers make no difference to what is held. -/
theorem findSome?_held?_set {handlers : List Handler} {position : Nat}
    {before after : Handler} (hhandler : handlers[position]? = some before)
    (hbefore : before.held? = none) (hafter : after.held? = none) :
    (handlers.set position after).findSome? Handler.held?
      = handlers.findSome? Handler.held? := by
  induction handlers generalizing position with
  | nil => rfl
  | cons first rest ih =>
      cases position with
      | zero =>
          cases hhandler
          rw [List.set_cons_zero, List.findSome?_cons, List.findSome?_cons, hbefore, hafter]
      | succ position =>
          rw [List.set_cons_succ, List.findSome?_cons, List.findSome?_cons,
            ih (by simpa using hhandler)]

/-- Putting a handler in the place of another for the same endpoint. -/
theorem map_endpoint_set {handlers : List Handler} {position : Nat} {before after : Handler}
    (hhandler : handlers[position]? = some before)
    (hendpoint : after.endpoint = before.endpoint) :
    (handlers.set position after).map Handler.endpoint = handlers.map Handler.endpoint :=
  map_set_of_getElem? hhandler hendpoint

/-- A standing station stays one when a handler is replaced by one like it. -/
theorem Standing.set {κ : Type} {station : Station κ} (hstanding : station.Standing)
    {position : Nat} {before after : Handler} (hhandler : station.handlers[position]? = some before)
    (hendpoint : after.endpoint = before.endpoint) (hstandard : after.IsStandard)
    (connection : Connection κ) :
    Standing { station with connection, handlers := station.handlers.set position after } := by
  refine ⟨fun handler hmem => ?_, ?_⟩
  · rcases List.mem_or_eq_of_mem_set hmem with hmem | rfl
    · exact hstanding.standard handler hmem
    · exact hstandard
  · show ((station.handlers.set position after).map Handler.endpoint).Nodup
    rw [map_endpoint_set hhandler hendpoint]
    exact hstanding.distinct

-- ========================================================== messages

/-- What a message leads to at a standing station: an answer, and nothing on
the books unless it is about subscriptions. -/
theorem handleAt_cases {station after : Station Tape} (hstanding : station.Standing)
    {venue venue' : Venue} {position : Nat} {header : Header} {payload : Bytes}
    {outcome : Outcome}
    (hhandle : station.handleAt venue position header payload = some (outcome, after, venue')) :
    after.id = station.id ∧ after.Standing
      ∧ station.connection.Answers after.connection
      ∧ (((∀ held, station.handlers[position]? ≠ some (.pixelData held))
          ∧ after.held = station.held ∧ venue'.framebuffer = venue.framebuffer)
        ∨ station.handlers[position]? = some (.pixelData station.held)
          ∧ Subscription.Handled station.id venue.directory station.held venue.framebuffer
            station.connection header payload after.held venue'.framebuffer
            after.connection) := by
  unfold handleAt at hhandle
  obtain ⟨handler, hhandler, hturn⟩ := Option.map_eq_some_iff.1 hhandle
  obtain ⟨hendpoint, hstandard, hanswers, hbooks⟩ := Handler.handle_cases
    (hstanding.standard handler (List.mem_of_getElem? hhandler)) station.id station.connection
    venue header payload
  cases hturn
  have hset := hstanding.set hhandler hendpoint hstandard
    (handler.handle station.id station.connection venue header payload).connection
  refine ⟨rfl, hset, hanswers, ?_⟩
  obtain ⟨hbefore, hafter, hsame⟩ | ⟨held, held', rfl, hafter, hhandled⟩ := hbooks
  · refine .inl ⟨fun held hpixels => ?_,
      congrArg (Option.getD · []) (findSome?_held?_set hhandler hbefore hafter), hsame⟩
    rw [hhandler] at hpixels
    cases hpixels
    cases hbefore
  · -- the one handler for pixels is looked up before and after
    have hheld := findSome?_held?_of_getElem? hstanding.distinct hhandler
    have hplace : (station.handlers.set position
        ((Handler.pixelData held).handle station.id station.connection venue header
          payload).handler)[position]? = some (.pixelData held') := by
      rw [List.getElem?_set_self (List.getElem?_eq_some_iff.1 hhandler).1, hafter]
    have hheld' := findSome?_held?_of_getElem? hset.distinct hplace
    have hsame : station.held = held := by rw [Station.held, hheld, Option.getD_some]
    refine .inr ⟨hsame ▸ hhandler, ?_⟩
    rw [hsame]
    unfold Station.held
    rw [hheld', Option.getD_some]
    exact hhandled

-- ========================================================= departures

/-- The framebuffer after handlers were detached: what they held is given
up. -/
theorem framebuffer_foldl_detach {handlers : List Handler}
    (hdistinct : (handlers.map Handler.endpoint).Nodup) (venue : Venue) :
    (handlers.foldl (fun venue handler => handler.detach venue) venue).framebuffer
      = (Subscription.release (fun _ => true)
          ((handlers.findSome? Handler.held?).getD []) venue.framebuffer).2 := by
  induction handlers generalizing venue with
  | nil => rfl
  | cons first rest ih =>
      rw [List.map_cons, List.nodup_cons] at hdistinct
      rw [List.foldl_cons, ih hdistinct.2, List.findSome?_cons]
      cases first with
      | pixelData held =>
          have hnone : rest.findSome? Handler.held? = none := by
            refine List.findSome?_eq_none_iff.2 fun handler hhandler => ?_
            refine Handler.held?_of_ne fun hendpoint => hdistinct.1 ?_
            exact List.mem_map.2 ⟨handler, hhandler, hendpoint⟩
          rw [hnone]
          rfl
      | _ => rfl

/-- Leaving out handlers that hold nothing makes no difference to what is
held. -/
theorem findSome?_held?_filter {handlers : List Handler} {keep : Handler → Bool}
    (hkeep : ∀ handler, keep handler = false → handler.held? = none) :
    (handlers.filter keep).findSome? Handler.held? = handlers.findSome? Handler.held? := by
  induction handlers with
  | nil => rfl
  | cons first rest ih =>
      rw [List.filter_cons, List.findSome?_cons]
      cases hfirst : keep first with
      | true =>
          rw [if_pos rfl, List.findSome?_cons, ih]
      | false =>
          rw [if_neg Bool.false_ne_true, ih, hkeep first hfirst]

theorem Standing.of_sublist {κ : Type} {station : Station κ} (hstanding : station.Standing)
    {handlers : List Handler} (hsublist : handlers.Sublist station.handlers) :
    Standing { station with handlers } :=
  ⟨fun handler hmem => hstanding.standard handler (hsublist.mem hmem),
    hstanding.distinct.sublist (hsublist.map _)⟩

/-- What is held is given up with the handler that holds it, and with no
other. -/
theorem detach_cases {κ : Type} {station : Station κ}
    (hdistinct : (station.handlers.map Handler.endpoint).Nodup) (endpoint : Endpoint)
    (venue : Venue) :
    let after := station.detach endpoint venue
    after.1.id = station.id ∧ after.1.connection = station.connection
      ∧ after.1.handlers.Sublist station.handlers
      ∧ (after.1.held, after.2.framebuffer)
        = if endpoint = .pixelData then
            Subscription.release (fun _ => true) station.held venue.framebuffer
          else (station.held, venue.framebuffer) := by
  refine ⟨rfl, rfl, List.filter_sublist, ?_⟩
  have hgone : ((station.handlers.filter (·.endpoint = endpoint)).map
      Handler.endpoint).Nodup :=
    hdistinct.sublist (List.filter_sublist.map _)
  have hframebuffer := framebuffer_foldl_detach hgone venue
  by_cases hpixels : endpoint = .pixelData
  · have hleft : (station.handlers.filter (·.endpoint ≠ endpoint)).findSome?
        Handler.held? = none := by
      refine List.findSome?_eq_none_iff.2 fun handler hhandler => ?_
      have hne := of_decide_eq_true (List.mem_filter.1 hhandler).2
      exact Handler.held?_of_ne (hpixels ▸ hne)
    have hkept : (station.handlers.filter (·.endpoint = endpoint)).findSome? Handler.held?
        = station.handlers.findSome? Handler.held? :=
      findSome?_held?_filter fun handler hhandler =>
        Handler.held?_of_ne (hpixels ▸ of_decide_eq_false hhandler)
    rw [hkept] at hframebuffer
    rw [if_pos hpixels]
    refine Prod.ext ?_ hframebuffer
    show ((station.handlers.filter (·.endpoint ≠ endpoint)).findSome? Handler.held?).getD [] = _
    rw [hleft, Subscription.release_all_fst]
    rfl
  · have hnone : (station.handlers.filter (·.endpoint = endpoint)).findSome?
        Handler.held? = none := by
      refine List.findSome?_eq_none_iff.2 fun handler hhandler => ?_
      have hsame := of_decide_eq_true (List.mem_filter.1 hhandler).2
      exact Handler.held?_of_ne (hsame.symm ▸ hpixels)
    rw [hnone] at hframebuffer
    rw [if_neg hpixels]
    refine Prod.ext ?_ hframebuffer
    refine congrArg (Option.getD · []) (findSome?_held?_filter fun handler hhandler => ?_)
    have hsame : handler.endpoint = endpoint := by simpa using hhandler
    exact Handler.held?_of_ne (hsame.symm ▸ hpixels)

theorem detachAll_cases {κ : Type} {station : Station κ}
    (hdistinct : (station.handlers.map Handler.endpoint).Nodup) (venue : Venue) :
    let after := station.detachAll venue
    after.1.id = station.id ∧ after.1.connection = station.connection
      ∧ after.1.handlers.Sublist station.handlers
      ∧ (after.1.held, after.2.framebuffer)
        = Subscription.release (fun _ => true) station.held venue.framebuffer := by
  refine ⟨rfl, rfl, List.nil_sublist _, Prod.ext ?_ ?_⟩
  · rw [Subscription.release_all_fst]
    rfl
  · exact framebuffer_foldl_detach hdistinct venue

end Station

end Luminaire
