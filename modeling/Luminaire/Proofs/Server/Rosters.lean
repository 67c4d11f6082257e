/-
How a connection is given its handlers: entries have their turns one after
the other, and the instance of each claims its endpoint, or is turned away.

The table lists the handlers in their places, and no endpoint is served twice
(`Roster.Indexed`). A handler that was only just made holds nothing
(`Handler.IsFresh`). So whatever entries a connection is taken in with, and
whatever they claim, its handlers are fresh ones for different endpoints, and
to the venue nothing has happened but that its keys are observed
(`Worker.given_attach`).
-/
import Luminaire.Proofs.Connection.Changes
import Luminaire.Proofs.Connection.Standing
import Luminaire.Proofs.Server.Touches

namespace Luminaire

-- ============================================================= roster

namespace Roster

/-- The endpoint bytes that are served, by position. -/
def codes (roster : Roster Handler) : List UInt8 :=
  roster.handlers.map fun handler => handler.endpoint.code

/-- The table lists the handlers, each with its endpoint under its position, and
no endpoint is served twice. -/
structure Indexed (roster : Roster Handler) : Prop where
  table : roster.slots = roster.codes.zipIdx
  single : roster.codes.Nodup

variable {roster : Roster Handler} {handler : Handler} {code : UInt8} {position : Nat}

theorem indexed_empty : (empty : Roster Handler).Indexed := ⟨rfl, List.nodup_nil⟩

theorem Indexed.mem_slots_iff (hindexed : roster.Indexed) :
    (code, position) ∈ roster.slots ↔ roster.codes[position]? = some code := by
  rw [hindexed.table, List.mem_zipIdx_iff_getElem?]

/-- An endpoint is found in the table where its handler stands. -/
theorem Indexed.slot?_eq_some_iff (hindexed : roster.Indexed) :
    roster.slot? code = some position ↔ roster.codes[position]? = some code := by
  rw [slot?, List.lookup_eq_some_iff]
  constructor
  · rintro ⟨before, after, hsplit, -⟩
    exact hindexed.mem_slots_iff.1 (hsplit ▸ List.mem_append_right _ List.mem_cons_self)
  · intro hthere
    obtain ⟨before, after, hsplit⟩ := List.append_of_mem (hindexed.mem_slots_iff.2 hthere)
    refine ⟨before, after, hsplit, fun earlier hearlier => bne_iff_ne.2 fun hsame => ?_⟩
    have hcodes : roster.codes = before.map Prod.fst ++ code :: after.map Prod.fst := by
      have hfirsts := congrArg (List.map Prod.fst) (hindexed.table.symm.trans hsplit)
      rwa [List.zipIdx_map_fst, List.map_append, List.map_cons] at hfirsts
    have hsingle := hcodes ▸ hindexed.single
    exact (List.nodup_append.1 hsingle).2.2 code (hsame ▸ List.mem_map_of_mem hearlier) code
      List.mem_cons_self rfl

theorem Indexed.slot?_eq_none_iff (hindexed : roster.Indexed) :
    roster.slot? code = none ↔ code ∉ roster.codes := by
  rw [Option.eq_none_iff_forall_ne_some, List.mem_iff_getElem?, not_exists]
  exact forall_congr' fun position => not_congr hindexed.slot?_eq_some_iff

theorem Indexed.claim_of_mem (hindexed : roster.Indexed)
    (hclaimed : handler.endpoint.code ∈ roster.codes) :
    roster.claim handler.endpoint.code handler = (false, roster) := by
  unfold claim
  cases hslot : roster.slot? handler.endpoint.code with
  | none => exact absurd hclaimed (hindexed.slot?_eq_none_iff.1 hslot)
  | some position => rfl

theorem Indexed.claim_of_not_mem (hindexed : roster.Indexed)
    (hfree : handler.endpoint.code ∉ roster.codes) :
    roster.claim handler.endpoint.code handler
      = (true, ⟨roster.handlers ++ [handler],
          roster.slots ++ [(handler.endpoint.code, roster.handlers.length)]⟩) := by
  rw [claim, hindexed.slot?_eq_none_iff.2 hfree]

/-- A handler that is taken in is listed under the next position. -/
theorem Indexed.taken (hindexed : roster.Indexed) (hfree : handler.endpoint.code ∉ roster.codes) :
    Indexed ⟨roster.handlers ++ [handler],
      roster.slots ++ [(handler.endpoint.code, roster.handlers.length)]⟩ := by
  have hcodes : codes ⟨roster.handlers ++ [handler],
      roster.slots ++ [(handler.endpoint.code, roster.handlers.length)]⟩
        = roster.codes ++ [handler.endpoint.code] := List.map_append
  refine ⟨?_, ?_⟩
  · rw [hcodes, List.zipIdx_append, ← hindexed.table]
    simp [codes]
  · rw [hcodes]
    refine List.nodup_append.2 ⟨hindexed.single, List.nodup_singleton _, ?_⟩
    intro taken htaken other hother hsame
    exact hfree (List.mem_singleton.1 hother ▸ hsame ▸ htaken)

end Roster

-- ============================================================== fresh

namespace Handler

/-- Nothing is held yet. -/
def IsFresh (handler : Handler) : Prop := ∀ held, handler.held? = some held → held = []

variable {kind : HandlerKind} {handler : Handler} {id : ConnectionId} {venue after : Venue}

theorem isFresh_attach? (hattach : attach? kind id venue = some (handler, after)) :
    handler.IsFresh := by
  intro held hheld
  cases kind with
  | groupControl =>
      obtain ⟨group, -, hattached⟩ := Option.map_eq_some_iff.1 hattach
      cases hattached
      cases hheld
  | pixelData =>
      cases hattach
      cases hheld
      rfl
  | _ =>
      cases hattach
      cases hheld

/-- Whoever comes observes keys, if anything. -/
theorem ground_attach? (hattach : attach? kind id venue = some (handler, after)) :
    after.framebuffer = venue.framebuffer ∧ after.ground = venue.ground := by
  cases kind with
  | groupControl =>
      obtain ⟨group, hgroup, hattached⟩ := Option.map_eq_some_iff.1 hattach
      cases hattached
      refine ⟨rfl, congrArg (Venue.Ground.mk venue.framebuffer.pixels venue.directory) ?_⟩
      rw [hgroup]
      rfl
  | _ =>
      cases hattach
      exact ⟨rfl, rfl⟩

/-- Whoever goes takes its observers back, and that is all. -/
theorem ground_detach (handler : Handler) (venue : Venue) :
    (handler.detach venue).ground = venue.ground := by
  cases handler with
  | pixelData held =>
      refine congrArg (Venue.Ground.mk · venue.directory
        (venue.group.map Broadcaster.unwatched)) ?_
      show (Subscription.release (fun _ => true) held venue.framebuffer).2.pixels = _
      rw [Subscription.release_snd]
  | groupControl token =>
      refine congrArg (Venue.Ground.mk venue.framebuffer.pixels venue.directory) ?_
      show (venue.group.map _).map Broadcaster.unwatched = _
      rw [Option.map_map]
      rfl
  | _ => rfl

/-- A fresh handler has no regions to give up. -/
theorem IsFresh.framebuffer_detach (hfresh : handler.IsFresh) (venue : Venue) :
    (handler.detach venue).framebuffer = venue.framebuffer := by
  cases handler with
  | pixelData held =>
      obtain rfl := hfresh held rfl
      rfl
  | _ => rfl

end Handler

-- ============================================================== given

/-- Fresh handlers in a table, and a venue that is still what it was, but for
those who observe keys. -/
structure Roster.Given (before : Venue) (roster : Roster Handler) (venue : Venue) : Prop where
  indexed : roster.Indexed
  fresh : ∀ handler ∈ roster.handlers, handler.IsFresh
  framebuffer : venue.framebuffer = before.framebuffer
  ground : venue.ground = before.ground

namespace Worker

variable {roster : Roster Handler} {before venue : Venue}

/-- It stays so while the entries have their turns, kept or turned away. -/
theorem given_attach_of (hgiven : roster.Given before venue) (id : ConnectionId)
    (kinds : List HandlerKind) :
    (attach id kinds roster venue).1.Given before (attach id kinds roster venue).2.2 := by
  induction kinds generalizing roster venue with
  | nil => exact hgiven
  | cons kind kinds ih =>
      unfold attach
      cases hattach : Handler.attach? kind id venue with
      | none => exact ih hgiven
      | some met =>
          obtain ⟨handler, attached⟩ := met
          have hfresh := Handler.isFresh_attach? hattach
          obtain ⟨hframebuffer, hground⟩ := Handler.ground_attach? hattach
          simp only
          by_cases hclaimed : handler.endpoint.code ∈ roster.codes
          · rw [hgiven.indexed.claim_of_mem hclaimed]
            refine ih ⟨hgiven.indexed, hgiven.fresh, ?_, ?_⟩
            · rw [hfresh.framebuffer_detach, hframebuffer, hgiven.framebuffer]
            · rw [handler.ground_detach, hground, hgiven.ground]
          · rw [hgiven.indexed.claim_of_not_mem hclaimed]
            refine ih ⟨hgiven.indexed.taken hclaimed, fun other hother => ?_,
              hframebuffer.trans hgiven.framebuffer, hground.trans hgiven.ground⟩
            rcases List.mem_append.1 hother with hother | hother
            · exact hgiven.fresh other hother
            · exact List.mem_singleton.1 hother ▸ hfresh

/-- What a connection is given, whatever entries there are. -/
theorem given_attach (id : ConnectionId) (kinds : List HandlerKind) (venue : Venue) :
    (attach id kinds .empty venue).1.Given venue (attach id kinds .empty venue).2.2 :=
  given_attach_of ⟨Roster.indexed_empty, nofun, rfl, rfl⟩ id kinds

end Worker

/-- No two handlers serve one endpoint. -/
theorem Roster.Indexed.distinct {roster : Roster Handler} (hindexed : roster.Indexed) :
    (roster.handlers.map Handler.endpoint).Nodup := by
  refine List.Nodup.of_map Endpoint.code ?_
  rw [List.map_map]
  exact hindexed.single

/-- Where all handlers are fresh, nothing is held. -/
theorem Station.held_of_fresh {κ : Type} {station : Station κ}
    (hfresh : ∀ handler ∈ station.handlers, handler.IsFresh) : station.held = [] := by
  unfold held
  cases hfound : station.handlers.findSome? Handler.held? with
  | none => rfl
  | some held =>
      obtain ⟨handler, hhandler, hheld⟩ := List.exists_of_findSome?_eq_some hfound
      exact hfresh handler hhandler held hheld

end Luminaire
