/-
An endpoint is served by the first handler that claims it.

# The registry

Names are registered one after the other, and each is taken once: a call is
accepted exactly if its name has not been used before, and the entries are
the calls that were accepted, in their order (`Registry.KeepsFirst`).

# The roster

For a connection every entry gets its turn, in order. Its instance is kept
if no instance before it serves the same endpoint; otherwise it is detached
before the next entry has its turn (`Worker.attach_concat_of_shadowed`). The
table of endpoints then lists the handlers that were kept, each under its
own position (`Roster.Indexed`), whatever was turned away between them. So
looking an endpoint up there finds the first entry that claims it, as going
through all entries would (`Worker.Staffing`).

# The loop

No step changes the table, and a message leaves every handler at its
position, made for the entry that it was made for (`Host.IsTabled.follow`).
Hence, whatever has happened, the loop takes a message to the handler of the
first entry that claims its endpoint, and a message for an endpoint that
nobody claims to none (`Host.IsTabled.routes`).
-/
import Luminaire.Proofs.Server.Conduct
import Luminaire.Proofs.Server.Rosters
import Luminaire.Server.Standard

namespace Luminaire

-- =========================================================== registry

namespace Registry

variable {φ : Type}

/-- Of all that were to be registered the first under each name is kept, in
order, and only its registration was accepted. -/
structure KeepsFirst (calls : List (String × φ)) (accepted : List Bool)
    (registry : Registry φ) : Prop where
  answered : accepted.length = calls.length
  first : ∀ {before name entry after}, calls = before ++ (name, entry) :: after →
    accepted[before.length]? = some (decide (name ∉ before.map Prod.fst))
  kept : registry.entries = ((calls.zip accepted).filter Prod.snd).map Prod.fst

variable {registry : Registry φ} {calls : List (String × φ)} {name : String} {entry : φ}

theorem registerAll_concat (registry : Registry φ) (calls : List (String × φ)) (name : String)
    (entry : φ) :
    let before := registry.registerAll calls
    registry.registerAll (calls ++ [(name, entry)])
      = (before.1 ++ [(before.2.register name entry).1], (before.2.register name entry).2) := by
  intro before
  induction calls generalizing registry with
  | nil => rfl
  | cons call calls ih =>
      have hrest := ih (registry.register call.1 call.2).2
      show ((registry.register call.1 call.2).1
          :: ((registry.register call.1 call.2).2.registerAll (calls ++ [(name, entry)])).1,
        ((registry.register call.1 call.2).2.registerAll (calls ++ [(name, entry)])).2) = _
      rw [hrest]
      rfl

theorem register_of_taken (htaken : name ∈ registry.names) (entry : φ) :
    registry.register name entry = (false, registry) := by
  rw [register, if_pos (List.contains_iff_mem.2 htaken)]

theorem register_of_free (hfree : name ∉ registry.names) (entry : φ) :
    registry.register name entry = (true, ⟨registry.entries ++ [(name, entry)]⟩) := by
  rw [register, if_neg fun htaken => hfree (List.contains_iff_mem.1 htaken)]

/-- After all calls the names that were used are taken. -/
theorem mem_names_registerAll (calls : List (String × φ)) (name : String) :
    name ∈ ((empty : Registry φ).registerAll calls).2.names ↔ name ∈ calls.map Prod.fst := by
  induction calls using List.reverseRecOn with
  | nil => exact Iff.rfl
  | append_singleton calls call ih =>
      rw [registerAll_concat, List.map_append, List.mem_append, ← ih, List.map_singleton,
        List.mem_singleton]
      by_cases htaken : call.1 ∈ ((empty : Registry φ).registerAll calls).2.names
      · rw [register_of_taken htaken]
        exact ⟨.inl, fun hname => hname.elim id fun hcall => hcall ▸ htaken⟩
      · rw [register_of_free htaken, names, List.map_append, List.mem_append, List.map_singleton,
          List.mem_singleton]
        rfl

theorem keepsFirst_registerAll (calls : List (String × φ)) :
    KeepsFirst calls ((empty : Registry φ).registerAll calls).1
      ((empty : Registry φ).registerAll calls).2 := by
  induction calls using List.reverseRecOn with
  | nil => exact ⟨rfl, fun hcalls => absurd hcalls (by simp), rfl⟩
  | append_singleton calls call ih =>
      have hnames := mem_names_registerAll calls call.1
      rw [registerAll_concat]
      generalize (empty : Registry φ).registerAll calls = registered at ih hnames
      obtain ⟨accepted, registry⟩ := registered
      obtain ⟨hanswered, hfirst, hkept⟩ := ih
      have hanswer : (registry.register call.1 call.2).1
          = decide (call.1 ∉ calls.map Prod.fst) := by
        by_cases htaken : call.1 ∈ registry.names
        · rw [register_of_taken htaken, eq_comm, decide_eq_false_iff_not, not_not, ← hnames]
          exact htaken
        · rw [register_of_free htaken, eq_comm, decide_eq_true_iff, ← hnames]
          exact htaken
      refine ⟨?_, ?_, ?_⟩
      · rw [List.length_append, List.length_append, hanswered]
        rfl
      · intro before name entry after hcalls
        rcases List.eq_nil_or_concat after with rfl | ⟨after, last, rfl⟩
        · obtain ⟨rfl, rfl⟩ := List.append_singleton_inj.1 hcalls
          rw [← hanswered, List.getElem?_concat_length, hanswer]
        · have hshift : before ++ (name, entry) :: (after.concat last)
              = (before ++ (name, entry) :: after) ++ [last] := by simp
          obtain ⟨rfl, rfl⟩ := List.append_singleton_inj.1 (hcalls.trans hshift)
          have hinside : before.length < accepted.length := by
            rw [hanswered, List.length_append, List.length_cons]
            omega
          rw [List.getElem?_append_left hinside]
          exact hfirst rfl
      · rw [List.zip_append hanswered.symm, List.filter_append, List.map_append, ← hkept]
        by_cases htaken : call.1 ∈ registry.names
        · rw [register_of_taken htaken]
          simp
        · rw [register_of_free htaken]
          simp

end Registry

-- ============================================================= claims

/-- What entry a handler was made for. -/
def Handler.kind : Handler → HandlerKind
  | .liveness => .liveness
  | .authentication methods _ => .authentication methods
  | .pixelData _ => .pixelData
  | .groupControl _ => .groupControl
  | .plugin supplied => .plugin supplied

/-- The endpoint byte that an entry claims for a connection: the one that its
instance serves. -/
def HandlerKind.claim? (kind : HandlerKind) (id : ConnectionId) (venue : Venue) : Option UInt8 :=
  (Handler.attach? kind id venue).map fun attached => attached.1.endpoint.code

/-- The first of these entries claims the endpoint, and none before it does. -/
structure HandlerKind.IsFirst (code : UInt8) (id : ConnectionId) (venue : Venue)
    (before : List HandlerKind) (kind : HandlerKind) : Prop where
  claims : kind.claim? id venue = some code
  alone : ∀ earlier ∈ before, earlier.claim? id venue ≠ some code

namespace Handler

variable {kind : HandlerKind} {handler : Handler} {id : ConnectionId} {venue after : Venue}

theorem kind_of_attach? (hattach : attach? kind id venue = some (handler, after)) :
    handler.kind = kind := by
  cases kind with
  | groupControl =>
      obtain ⟨group, -, hattached⟩ := Option.map_eq_some_iff.1 hattach
      cases hattached
      rfl
  | _ =>
      cases hattach
      rfl

theorem hasGroup_attach? (hattach : attach? kind id venue = some (handler, after)) :
    after.group.isSome = venue.group.isSome := by
  cases kind with
  | groupControl =>
      obtain ⟨group, hgroup, hattached⟩ := Option.map_eq_some_iff.1 hattach
      cases hattached
      rw [hgroup]
      rfl
  | _ =>
      cases hattach
      rfl

theorem hasGroup_detach (handler : Handler) (venue : Venue) :
    (handler.detach venue).group.isSome = venue.group.isSome := by
  cases handler with
  | groupControl token => exact Option.isSome_map
  | _ => rfl

/-- What a handler keeps between messages changes, and nothing else of it. -/
theorem kind_handle {κ : Type} [Sink κ] (handler : Handler) (id : ConnectionId)
    (connection : Connection κ) (venue : Venue) (header : Header) (payload : Bytes) :
    (handler.handle id connection venue header payload).handler.kind = handler.kind := by
  cases handler with
  | groupControl token =>
      unfold handle
      simp only
      split
      · rfl
      · rfl
  | plugin supplied =>
      unfold handle
      simp only
      split
      · rfl
      · rfl
      · rfl
  | _ => rfl

end Handler

/-- Which endpoint an entry claims depends only on whether there is a group. -/
theorem HandlerKind.claim?_eq (kind : HandlerKind) (id : ConnectionId) {venue other : Venue}
    (hgroup : other.group.isSome = venue.group.isSome) :
    kind.claim? id other = kind.claim? id venue := by
  cases kind with
  | groupControl =>
      have hclaim : ∀ venue : Venue, claim? .groupControl id venue
          = if venue.group.isSome then some Endpoint.multicastControl.code else none := by
        intro venue
        unfold claim? Handler.attach?
        cases venue.group with
        | none => rfl
        | some group => rfl
      rw [hclaim, hclaim, hgroup]
  | _ => rfl

-- ========================================================= taking turns

namespace Worker

variable {id : ConnectionId} {kinds before after : List HandlerKind} {kind : HandlerKind}
  {roster : Roster Handler} {venue attached : Venue} {handler : Handler} {code : UInt8}

/-- The entries have their turns one after the other. -/
theorem attach_append (id : ConnectionId) (before after : List HandlerKind)
    (roster : Roster Handler) (venue : Venue) :
    attach id (before ++ after) roster venue
      = ((attach id after (attach id before roster venue).1 (attach id before roster venue).2.2).1,
        (attach id before roster venue).2.1
          ++ (attach id after (attach id before roster venue).1
            (attach id before roster venue).2.2).2.1,
        (attach id after (attach id before roster venue).1
          (attach id before roster venue).2.2).2.2) := by
  induction before generalizing roster venue with
  | nil => rfl
  | cons kind before ih =>
      rw [List.cons_append, attach, attach]
      cases Handler.attach? kind id venue with
      | none => simp only [ih, List.cons_append]
      | some met =>
          simp only
          rcases roster.claim met.1.endpoint.code met.1 with ⟨kept, later⟩
          cases kept with
          | true => simp only [ih, List.cons_append]
          | false => simp only [ih, List.cons_append]

/-- An entry that has no instance for the connection is passed over. -/
theorem attach_concat_of_none
    (hnone : Handler.attach? kind id (attach id kinds roster venue).2.2 = none) :
    attach id (kinds ++ [kind]) roster venue
      = ((attach id kinds roster venue).1, (attach id kinds roster venue).2.1 ++ [false],
        (attach id kinds roster venue).2.2) := by
  rw [attach_append, attach, hnone]
  rfl

/-- An instance whose endpoint is served already is detached before the next
entry has its turn. -/
theorem attach_concat_of_shadowed (hindexed : (attach id kinds roster venue).1.Indexed)
    (hattach : Handler.attach? kind id (attach id kinds roster venue).2.2
      = some (handler, attached))
    (hclaimed : handler.endpoint.code ∈ (attach id kinds roster venue).1.codes) :
    attach id (kinds ++ [kind]) roster venue
      = ((attach id kinds roster venue).1, (attach id kinds roster venue).2.1 ++ [false],
        handler.detach attached) := by
  rw [attach_append, attach, hattach]
  simp only [hindexed.claim_of_mem hclaimed]
  rfl

/-- An instance whose endpoint nobody serves yet is kept, behind all others. -/
theorem attach_concat_of_free (hindexed : (attach id kinds roster venue).1.Indexed)
    (hattach : Handler.attach? kind id (attach id kinds roster venue).2.2
      = some (handler, attached))
    (hfree : handler.endpoint.code ∉ (attach id kinds roster venue).1.codes) :
    attach id (kinds ++ [kind]) roster venue
      = (⟨(attach id kinds roster venue).1.handlers ++ [handler],
          (attach id kinds roster venue).1.slots
            ++ [(handler.endpoint.code, (attach id kinds roster venue).1.handlers.length)]⟩,
        (attach id kinds roster venue).2.1 ++ [true], attached) := by
  rw [attach_append, attach, hattach]
  simp only [hindexed.claim_of_not_mem hfree]
  rfl

/-- The entries that had their turns keep it that there is a group, or none. -/
theorem hasGroup_attach (id : ConnectionId) (kinds : List HandlerKind) (roster : Roster Handler)
    (venue : Venue) : (attach id kinds roster venue).2.2.group.isSome = venue.group.isSome :=
  attach_preserves (P := fun later => later.group.isSome = venue.group.isSome)
    (fun hattach hbefore => (Handler.hasGroup_attach? hattach).trans hbefore)
    (fun handler _ hbefore => (handler.hasGroup_detach _).trans hbefore) kinds roster rfl

/-- What an entry claims when its turn comes is what it claims from the start. -/
theorem claim?_attach (kind : HandlerKind) (id : ConnectionId) (kinds : List HandlerKind)
    (roster : Roster Handler) (venue : Venue) :
    kind.claim? id (attach id kinds roster venue).2.2 = kind.claim? id venue :=
  kind.claim?_eq id (hasGroup_attach id kinds roster venue)

/-- All entries have had their turns: each flag stands for an entry, each handler
for a flag that is set, and each endpoint that somebody claimed is served. -/
structure Assembled (id : ConnectionId) (venue : Venue) (kinds : List HandlerKind)
    (roster : Roster Handler) (kept : List Bool) : Prop where
  indexed : roster.Indexed
  answered : kept.length = kinds.length
  counted : kept.count true = roster.handlers.length
  claimed : ∀ code, code ∈ roster.codes ↔ ∃ kind ∈ kinds, kind.claim? id venue = some code

/-- One more entry is passed over. -/
theorem Assembled.skip {kept : List Bool}
    (hassembled : Assembled id venue kinds roster kept)
    (hnothing : ∀ code, kind.claim? id venue = some code → code ∈ roster.codes) :
    Assembled id venue (kinds ++ [kind]) roster (kept ++ [false]) := by
  refine ⟨hassembled.indexed, ?_, ?_, ?_⟩
  · rw [List.length_append, List.length_append, hassembled.answered]
    rfl
  · rw [List.count_append, hassembled.counted]
    rfl
  · intro code
    constructor
    · intro hcode
      obtain ⟨earlier, hearlier, hclaim⟩ := (hassembled.claimed code).1 hcode
      exact ⟨earlier, List.mem_append_left _ hearlier, hclaim⟩
    · rintro ⟨other, hother, hclaim⟩
      rcases List.mem_append.1 hother with hother | hother
      · exact (hassembled.claimed code).2 ⟨other, hother, hclaim⟩
      · cases List.mem_singleton.1 hother
        exact hnothing code hclaim

/-- One more entry has its instance kept. -/
theorem Assembled.keep {kept : List Bool}
    (hassembled : Assembled id venue kinds roster kept)
    (hclaim : kind.claim? id venue = some handler.endpoint.code)
    (hfree : handler.endpoint.code ∉ roster.codes) :
    Assembled id venue (kinds ++ [kind])
      ⟨roster.handlers ++ [handler],
        roster.slots ++ [(handler.endpoint.code, roster.handlers.length)]⟩
      (kept ++ [true]) := by
  refine ⟨hassembled.indexed.taken hfree, ?_, ?_, ?_⟩
  · rw [List.length_append, List.length_append, hassembled.answered]
    rfl
  · rw [List.count_append, List.length_append, hassembled.counted]
    rfl
  · intro code
    have hcodes : Roster.codes ⟨roster.handlers ++ [handler],
        roster.slots ++ [(handler.endpoint.code, roster.handlers.length)]⟩
          = roster.codes ++ [handler.endpoint.code] := List.map_append
    rw [hcodes, List.mem_append, List.mem_singleton, hassembled.claimed code]
    constructor
    · rintro (⟨earlier, hearlier, hearlierClaim⟩ | rfl)
      · exact ⟨earlier, List.mem_append_left _ hearlier, hearlierClaim⟩
      · exact ⟨kind, List.mem_append_right _ (List.mem_singleton.2 rfl), hclaim⟩
    · rintro ⟨other, hother, hotherClaim⟩
      rcases List.mem_append.1 hother with hother | hother
      · exact .inl ⟨other, hother, hotherClaim⟩
      · cases List.mem_singleton.1 hother
        exact .inr (Option.some.inj (hotherClaim.symm.trans hclaim))

theorem assembled_attach (id : ConnectionId) (kinds : List HandlerKind) (venue : Venue) :
    Assembled id venue kinds (attach id kinds .empty venue).1
      (attach id kinds .empty venue).2.1 := by
  induction kinds using List.reverseRecOn with
  | nil =>
      exact ⟨Roster.indexed_empty, rfl, rfl,
        fun code => by simp [attach, Roster.codes, Roster.empty]⟩
  | append_singleton kinds kind ih =>
      have hclaim := claim?_attach kind id kinds .empty venue
      cases hattach : Handler.attach? kind id (attach id kinds .empty venue).2.2 with
      | none =>
          rw [HandlerKind.claim?, hattach] at hclaim
          rw [attach_concat_of_none hattach]
          refine ih.skip fun code hcode => ?_
          cases hclaim.trans hcode
      | some met =>
          rw [HandlerKind.claim?, hattach] at hclaim
          by_cases hclaimed : met.1.endpoint.code ∈ (attach id kinds .empty venue).1.codes
          · rw [attach_concat_of_shadowed ih.indexed hattach hclaimed]
            refine ih.skip fun code hcode => ?_
            cases hclaim.trans hcode
            exact hclaimed
          · rw [attach_concat_of_free ih.indexed hattach hclaimed]
            exact ih.keep hclaim.symm hclaimed

/-- Whoever is kept stays in place while the other entries have their turns. -/
theorem handlers_prefix_attach (id : ConnectionId) (kinds : List HandlerKind)
    (roster : Roster Handler) (venue : Venue) :
    roster.handlers <+: (attach id kinds roster venue).1.handlers := by
  induction kinds generalizing roster venue with
  | nil => exact List.prefix_rfl
  | cons kind kinds ih =>
      unfold attach
      cases Handler.attach? kind id venue with
      | none => exact ih roster venue
      | some met =>
          simp only [Roster.claim]
          cases roster.slot? met.1.endpoint.code with
          | some position => exact ih roster _
          | none => exact (List.prefix_append roster.handlers [met.1]).trans (ih ⟨_, _⟩ met.2)

/-- What has become of the first entries stays so while the others have their turns. -/
theorem attach_extends (id : ConnectionId) (before after : List HandlerKind)
    (roster : Roster Handler) (venue : Venue) :
    (attach id before roster venue).2.1 <+: (attach id (before ++ after) roster venue).2.1
      ∧ (attach id before roster venue).1.handlers
        <+: (attach id (before ++ after) roster venue).1.handlers := by
  rw [attach_append]
  exact ⟨List.prefix_append _ _, handlers_prefix_attach ..⟩

/-- How the entries of a registry staff a connection: each endpoint is served by
the instance of the first entry that claims it, and by no other. -/
structure Staffing (id : ConnectionId) (venue : Venue) (kinds : List HandlerKind)
    (roster : Roster Handler) (kept : List Bool) : Prop where
  /-- The first entry that claims an endpoint has its instance kept, and the endpoint
  leads there: past those that were kept before it, however many were turned away. -/
  first : ∀ {before kind after code}, kinds = before ++ kind :: after →
    kind.IsFirst code id venue before →
      ∃ handler attached,
        Handler.attach? kind id (attach id before .empty venue).2.2 = some (handler, attached)
          ∧ kept[before.length]? = some true
          ∧ roster.slot? code = some ((kept.take before.length).count true)
          ∧ roster.handlers[(kept.take before.length).count true]? = some handler
  /-- Any other has its instance detached, before the next entry has its turn. -/
  shadowed : ∀ {before kind after code}, kinds = before ++ kind :: after →
    kind.claim? id venue = some code → (∃ earlier ∈ before, earlier.claim? id venue = some code) →
      ∃ handler attached,
        Handler.attach? kind id (attach id before .empty venue).2.2 = some (handler, attached)
          ∧ kept[before.length]? = some false
          ∧ (attach id (before ++ [kind]) .empty venue).1 = (attach id before .empty venue).1
          ∧ (attach id (before ++ [kind]) .empty venue).2.2 = handler.detach attached
  unclaimed : ∀ {code}, (∀ kind ∈ kinds, kind.claim? id venue ≠ some code) →
    roster.slot? code = none
  /-- A position in the table is that of a handler, which serves the endpoint. -/
  inside : ∀ {code position}, (code, position) ∈ roster.slots →
    ∃ handler, roster.handlers[position]? = some handler ∧ handler.endpoint.code = code
  single : roster.codes.Nodup
  claimed : ∀ code, code ∈ roster.codes ↔ ∃ kind ∈ kinds, kind.claim? id venue = some code
  /-- At no time is anything registered except by those that were kept. -/
  traceless : ∀ before, before <+: kinds →
    (attach id before .empty venue).2.2.Accounts id (attach id before .empty venue).1.handlers

/-- The instance of the first entry that claims an endpoint, where it is kept. -/
theorem exists_first (hfirst : kind.IsFirst code id venue before) :
    ∃ handler attached,
      Handler.attach? kind id (attach id before .empty venue).2.2 = some (handler, attached)
        ∧ handler.endpoint.code = code
        ∧ attach id (before ++ [kind]) .empty venue
          = (⟨(attach id before .empty venue).1.handlers ++ [handler],
              (attach id before .empty venue).1.slots
                ++ [(code, (attach id before .empty venue).1.handlers.length)]⟩,
            (attach id before .empty venue).2.1 ++ [true], attached) := by
  have hassembled := assembled_attach id before venue
  have hclaim := (claim?_attach kind id before .empty venue).trans hfirst.claims
  obtain ⟨⟨handler, attached⟩, hattach, rfl⟩ := Option.map_eq_some_iff.1 hclaim
  have hfree : handler.endpoint.code ∉ (attach id before .empty venue).1.codes := by
    rw [hassembled.claimed]
    rintro ⟨earlier, hearlier, hearlierClaim⟩
    exact hfirst.alone earlier hearlier hearlierClaim
  exact ⟨handler, attached, hattach, rfl, attach_concat_of_free hassembled.indexed hattach hfree⟩

/-- The instance of an entry whose endpoint another claimed before. -/
theorem exists_shadowed (hclaims : kind.claim? id venue = some code)
    (hearlier : ∃ earlier ∈ before, earlier.claim? id venue = some code) :
    ∃ handler attached,
      Handler.attach? kind id (attach id before .empty venue).2.2 = some (handler, attached)
        ∧ attach id (before ++ [kind]) .empty venue
          = ((attach id before .empty venue).1, (attach id before .empty venue).2.1 ++ [false],
            handler.detach attached) := by
  have hassembled := assembled_attach id before venue
  have hclaim := (claim?_attach kind id before .empty venue).trans hclaims
  obtain ⟨⟨handler, attached⟩, hattach, rfl⟩ := Option.map_eq_some_iff.1 hclaim
  have hclaimed := (hassembled.claimed handler.endpoint.code).2 hearlier
  exact ⟨handler, attached, hattach, attach_concat_of_shadowed hassembled.indexed hattach hclaimed⟩

/-- What stands next after a beginning stands at that place. -/
theorem getElem?_of_begins {α : Type} {entries all : List α} {entry : α}
    (hbegins : entries ++ [entry] <+: all) : all[entries.length]? = some entry := by
  obtain ⟨rest, rfl⟩ := hbegins
  rw [List.append_assoc, List.getElem?_append_right (Nat.le_refl _), Nat.sub_self]
  rfl

/-- The first entry that claims an endpoint has its instance kept, in the place that
the endpoint leads to. -/
theorem kept_of_first (hfirst : kind.IsFirst code id venue before) (after : List HandlerKind) :
    let all := attach id (before ++ kind :: after) .empty venue
    ∃ handler attached,
      Handler.attach? kind id (attach id before .empty venue).2.2 = some (handler, attached)
        ∧ all.2.1[before.length]? = some true
        ∧ all.1.slot? code = some ((all.2.1.take before.length).count true)
        ∧ all.1.handlers[(all.2.1.take before.length).count true]? = some handler := by
  intro all
  obtain ⟨handler, attached, hattach, rfl, hturn⟩ := exists_first hfirst
  have hearlier := assembled_attach id before venue
  have hall := assembled_attach id (before ++ kind :: after) venue
  -- the flags and the handlers of all begin with those up to this entry
  obtain ⟨hkept, hhandlers⟩ := attach_extends id (before ++ [kind]) after .empty venue
  rw [hturn, ← List.append_cons] at hkept hhandlers
  have hflags : all.2.1.take before.length = (attach id before .empty venue).2.1 := by
    have hshorter := (List.prefix_append _ _).trans hkept
    rw [← hearlier.answered]
    exact (List.prefix_iff_eq_take.1 hshorter).symm
  have hposition := getElem?_of_begins hhandlers
  refine ⟨handler, attached, hattach, ?_, ?_, ?_⟩
  · rw [← hearlier.answered]
    exact getElem?_of_begins hkept
  · rw [hflags, hearlier.counted, hall.indexed.slot?_eq_some_iff, Roster.codes,
      List.getElem?_map, hposition]
    rfl
  · rw [hflags, hearlier.counted]
    exact hposition

/-- An entry whose endpoint another claimed before has its instance detached. -/
theorem detached_of_shadowed (hclaims : kind.claim? id venue = some code)
    (hearlier : ∃ earlier ∈ before, earlier.claim? id venue = some code)
    (after : List HandlerKind) :
    ∃ handler attached,
      Handler.attach? kind id (attach id before .empty venue).2.2 = some (handler, attached)
        ∧ (attach id (before ++ kind :: after) .empty venue).2.1[before.length]? = some false
        ∧ (attach id (before ++ [kind]) .empty venue).1 = (attach id before .empty venue).1
        ∧ (attach id (before ++ [kind]) .empty venue).2.2 = handler.detach attached := by
  obtain ⟨handler, attached, hattach, hturn⟩ := exists_shadowed hclaims hearlier
  obtain ⟨hkept, -⟩ := attach_extends id (before ++ [kind]) after .empty venue
  rw [hturn, ← List.append_cons] at hkept
  refine ⟨handler, attached, hattach, ?_, ?_, ?_⟩
  · rw [← (assembled_attach id before venue).answered]
    exact getElem?_of_begins hkept
  · rw [hturn]
  · rw [hturn]

theorem staffing_attach (hnobody : venue.Ignores id) (kinds : List HandlerKind) :
    Staffing id venue kinds (attach id kinds .empty venue).1
      (attach id kinds .empty venue).2.1 := by
  have hassembled := assembled_attach id kinds venue
  refine
    { first := ?_
      shadowed := ?_
      unclaimed := ?_
      inside := ?_
      single := hassembled.indexed.single
      claimed := hassembled.claimed
      traceless := ?_ }
  · rintro before kind after code rfl hfirst
    exact kept_of_first hfirst after
  · rintro before kind after code rfl hclaims hearlier
    exact detached_of_shadowed hclaims hearlier after
  · intro code hnobody
    rw [hassembled.indexed.slot?_eq_none_iff, hassembled.claimed]
    rintro ⟨kind, hkind, hclaim⟩
    exact hnobody kind hkind hclaim
  · intro code position hslot
    have hthere := hassembled.indexed.mem_slots_iff.1 hslot
    rw [Roster.codes, List.getElem?_map] at hthere
    exact Option.map_eq_some_iff.1 hthere
  · intro before hbefore
    have hnone : venue.Accounts id Roster.empty.handlers := Venue.accounts_nil_iff.2 hnobody
    exact accounts_attach before hnone

end Worker

-- =============================================================== loops

/-- A connection has handlers, made for these entries. -/
def Rig.Employs (rig : Rig Outlet) (id : ConnectionId) (kinds : List HandlerKind) : Prop :=
  (rig.handlers? id).map (List.map Handler.kind) = some kinds

namespace Rig.Employs

variable {rig after : Rig Outlet} {id : ConnectionId} {kinds : List HandlerKind}

theorem of_handlers (hemploys : rig.Employs id kinds)
    (hsame : after.handlers? id = rig.handlers? id) : after.Employs id kinds := by
  unfold Employs
  rw [hsame]
  exact hemploys

theorem of_station {station : Station Outlet} (hfound : rig.station? id = some station)
    (hkinds : station.handlers.map Handler.kind = kinds) : rig.Employs id kinds := by
  unfold Employs handlers?
  rw [hfound, ← hkinds]
  rfl

theorem exists_station (hemploys : rig.Employs id kinds) :
    ∃ station, rig.station? id = some station ∧ station.id = id
      ∧ station.handlers.map Handler.kind = kinds := by
  obtain ⟨handlers, hhandlers, hkinds⟩ := Option.map_eq_some_iff.1 hemploys
  obtain ⟨station, hfound, rfl⟩ := Option.map_eq_some_iff.1 hhandlers
  exact ⟨station, hfound, (mem_of_station? hfound).2, hkinds⟩

/-- A message leaves every handler at its position. -/
theorem handleAt (hemploys : rig.Employs id kinds) {position : Nat} {header : Header}
    {payload : Bytes} {outcome : Outcome}
    (hhandled : rig.handleAt id position header payload = some (outcome, after)) :
    after.Employs id kinds := by
  obtain ⟨⟨number, connection, handlers⟩, hfound, hnumber, hkinds⟩ := hemploys.exists_station
  obtain rfl : number = id := hnumber
  cases hhandler : handlers[position]? with
  | none =>
      simp only [Rig.handleAt, hfound, Station.handleAt, hhandler, Option.map_none] at hhandled
      cases hhandled
  | some handler =>
      rw [handleAt_of_station hfound hhandler] at hhandled
      cases hhandled
      let turn := handler.handle number connection rig.venue header payload
      let later : Station Outlet := ⟨number, turn.connection, handlers.set position turn.handler⟩
      have hlater : (rig.put number later turn.venue).station? number = some later :=
        station?_put hfound rfl turn.venue
      have hkept : later.handlers.map Handler.kind = handlers.map Handler.kind :=
        map_set_of_getElem? hhandler (handler.kind_handle ..)
      exact of_station hlater (hkept.trans hkinds)

theorem takes (hemploys : rig.Employs id kinds) (htakes : rig.Takes id after) :
    after.Employs id kinds := by
  induction htakes with
  | nothing rig => exact hemploys
  | received hfound arrival =>
      exact hemploys.of_handlers (Worker.spares_received _ id hfound arrival).handlers
  | handled hhandled => exact hemploys.handleAt hhandled
  | refused rig header => exact hemploys.of_handlers (Worker.spares_refuse ..).handlers
  | andThen _ _ hfirst hsecond => exact hsecond (hfirst hemploys)

theorem hush (hemploys : rig.Employs id kinds) : (Worker.hush rig id).Employs id kinds := by
  obtain ⟨station, hfound, -, hkinds⟩ := hemploys.exists_station
  exact of_station (station?_modify hfound fun _ hid => hid) hkinds

end Rig.Employs

namespace Worker

variable {worker after : Worker} {attempt : Option ShutdownCause}

/-- Nothing that a step does changes the table. -/
theorem Does.slots (hdoes : Does worker attempt after) : after.slots = worker.slots := by
  cases hdoes with
  | _ => rfl

/-- As long as the loop has its handlers after a step, they are those it had before. -/
theorem employs_step {rig : Rig Outlet} {kinds : List HandlerKind}
    (hemploys : rig.Employs worker.id kinds) (next : Step)
    (hstaffed : (worker.step rig next).1.phase.isStaffed = true) :
    (worker.step rig next).2.Employs worker.id kinds := by
  cases next with
  | read arrival => exact hemploys.takes (worker.takes_read rig arrival)
  | release =>
      change (worker.release rig).1.phase.isStaffed = true at hstaffed
      show (worker.release rig).2.Employs worker.id kinds
      unfold release at hstaffed ⊢
      split
      next cause hleaving =>
        rw [hleaving] at hstaffed
        cases hstaffed
      · exact hemploys
  | advance =>
      show (worker.advance rig).2.Employs worker.id kinds
      unfold advance
      split
      · exact hemploys
      · exact hemploys.hush
      · exact hemploys
      · exact hemploys
  | _ => exact hemploys

end Worker

namespace Host

variable {host : Host} {id : ConnectionId} {slots : List (UInt8 × Nat)}
  {kinds : List HandlerKind}

/-- A worker has its table and, as long as it has any, the handlers that were made
for these entries. -/
structure IsTabled (host : Host) (id : ConnectionId) (slots : List (UInt8 × Nat))
    (kinds : List HandlerKind) : Prop where
  id : host.worker.id = id
  slots : host.worker.slots = slots
  employs : host.worker.phase.isStaffed = true → host.rig.Employs host.worker.id kinds

theorem IsTabled.of_spares {rig : Rig Outlet} (htabled : host.IsTabled id slots kinds)
    (hspares : Rig.Spares id host.rig rig) : IsTabled { host with rig } id slots kinds :=
  ⟨htabled.id, htabled.slots, fun hstaffed =>
    (htabled.employs hstaffed).of_handlers (htabled.id ▸ hspares.handlers)⟩

theorem IsTabled.happen (htabled : host.IsTabled id slots kinds) (happening : Happening id) :
    (host.happen happening).IsTabled id slots kinds := by
  cases happening with
  | here occurrence =>
      cases occurrence with
      | step now entropy next =>
          have htuned := htabled.of_spares (Rig.spares_tuned id host.rig now entropy)
          have hdoes := host.worker.does_step (host.rig.tuned now entropy) next
          refine ⟨hdoes.id.trans htabled.id, hdoes.slots.trans htabled.slots, fun hstaffed => ?_⟩
          have hbefore : host.worker.phase.isStaffed = true := by
            by_contra hgone
            exact Bool.false_ne_true
              ((hdoes.staffed (Bool.not_eq_true _ ▸ hgone)).symm.trans hstaffed)
          have hid : ((host.worker.step (host.rig.tuned now entropy) next).1).id
              = host.worker.id := hdoes.id
          show Rig.Employs _ ((host.worker.step (host.rig.tuned now entropy) next).1).id kinds
          rw [hid]
          exact Worker.employs_step (htuned.employs hbefore) next hstaffed
      | apart event => exact htabled.of_spares (Rig.spares_apart id host.rig event)
  | elsewhere worker hother now entropy next =>
      refine htabled.of_spares ?_
      exact (Rig.spares_tuned id host.rig now entropy).trans
        (Worker.spares_step hother (host.rig.tuned now entropy) next)
  | joined other hother peer session registry more =>
      exact htabled.of_spares (Worker.spares_start hother peer session registry more host.rig)

theorem IsTabled.follow (htabled : host.IsTabled id slots kinds)
    (happenings : List (Happening id)) : (host.follow happenings).IsTabled id slots kinds := by
  induction happenings generalizing host with
  | nil => exact htabled
  | cons happening happenings ih => exact ih (htabled.happen happening)

/-- The handlers stay while the session looks at a datagram. -/
theorem IsTabled.taken (htabled : host.IsTabled id slots kinds) (arrival : Option Bytes) :
    (host.taken arrival).IsTabled id slots kinds := by
  refine ⟨htabled.id, htabled.slots, fun hstaffed => ?_⟩
  obtain ⟨station, hfound, -, hkinds⟩ := (htabled.employs hstaffed).exists_station
  exact .of_station (Rig.station?_modify hfound fun _ hid => hid) hkinds

/-- What a host makes of a message, given what each entry claims at a venue: it is
for the handler that was made for the first entry that claims its endpoint, and for
nobody if no entry does. -/
structure Routes (host : Host) (id : ConnectionId) (venue : Venue) (kinds : List HandlerKind)
    (message : Bytes) (after : Host) : Prop where
  first : ∀ {header payload before kind rest},
    unframe (H := Header) message = .ok (header, payload) → kinds = before ++ kind :: rest →
      kind.IsFirst header.endpoint id venue before →
        ∃ station position handler, host.rig.station? id = some station
          ∧ station.handlers[position]? = some handler ∧ handler.kind = kind
          ∧ let turn := handler.handle id station.connection host.rig.venue header payload
            let heeded := host.worker.heed header turn.outcome
              (host.rig.put id
                ⟨id, turn.connection, station.handlers.set position turn.handler⟩ turn.venue)
            after = ⟨heeded.1, heeded.2⟩
  unclaimed : ∀ {header payload}, unframe (H := Header) message = .ok (header, payload) →
    (∀ kind ∈ kinds, kind.claim? id venue ≠ some header.endpoint) → after = host

/-- The table and the handlers that it was made for route every message. -/
theorem IsTabled.routes {venue : Venue} {roster : Roster Handler} {kept : List Bool}
    {given : List HandlerKind}
    (htabled : host.IsTabled id roster.slots (roster.handlers.map Handler.kind))
    (hstaffing : Worker.Staffing id venue given roster kept)
    (hstaffed : host.worker.phase.isStaffed = true) (message : Bytes) :
    host.Routes id venue given message
      ⟨(host.worker.dispatch host.rig message).1, (host.worker.dispatch host.rig message).2⟩ := by
  obtain ⟨worker, rig⟩ := host
  obtain ⟨rfl, hslots, hemploys⟩ := htabled
  refine ⟨?_, ?_⟩
  · intro header payload before kind rest hread hgiven hfirst
    obtain ⟨original, attached, hattach, -, hslot, horiginal⟩ := hstaffing.first hgiven hfirst
    obtain ⟨⟨number, connection, handlers⟩, hfound, hnumber, hkinds⟩ :=
      (hemploys hstaffed).exists_station
    obtain rfl : number = worker.id := hnumber
    -- at the position stands what was made for the entry
    let position := (kept.take before.length).count true
    have hthere : (handlers.map Handler.kind)[position]? = some kind := by
      rw [hkinds, List.getElem?_map, horiginal, ← Handler.kind_of_attach? hattach]
      rfl
    rw [List.getElem?_map] at hthere
    obtain ⟨handler, hhandler, hkind⟩ := Option.map_eq_some_iff.1 hthere
    have hlookup : worker.slots.lookup header.endpoint = some position := by
      rw [hslots]
      exact hslot
    have hdispatch := Worker.dispatch_of_handleAt hread hlookup
      (Rig.handleAt_of_station hfound hhandler header payload)
    refine ⟨_, position, handler, hfound, hhandler, hkind, ?_⟩
    show Host.mk (worker.dispatch rig message).1 (worker.dispatch rig message).2 = _
    rw [hdispatch]
    rfl
  · intro header payload hread hnobody
    have hlookup : worker.slots.lookup header.endpoint = none := by
      rw [hslots]
      exact hstaffing.unclaimed hnobody
    show Host.mk (worker.dispatch rig message).1 (worker.dispatch rig message).2 = _
    unfold Worker.dispatch
    simp only [hread, hlookup]

/-- A connection that is taken in has the table and the handlers of its registry. -/
theorem isTabled_welcome {rig : Rig Outlet} (hfresh : rig.Fresh id) (peer : SocketAddress)
    (session : Session) (registry : Registry HandlerKind) (callbacks : Nat) :
    let attached := Worker.attach id (registry.entries.map Prod.snd) .empty rig.venue
    (welcome id peer session registry callbacks rig).IsTabled id attached.1.slots
      (attached.1.handlers.map Handler.kind) := by
  intro attached
  have hfound := Worker.station?_of_start hfresh peer session registry callbacks
  exact ⟨rfl, rfl, fun _ => Rig.Employs.of_station hfound rfl⟩

end Host

/-- Every endpoint is served by the first who claims it. Of what is to be registered
the first under each name is kept; of the instances made from that for a connection
each is kept that is the first to serve its endpoint, and any other is detached at
once; and whatever has happened, the loop takes every message to the instance of the
first entry that claims its endpoint, or to none if no entry does. -/
theorem first_claimant_serves {rig : Rig Outlet} {id : ConnectionId} (hfresh : rig.Fresh id)
    (peer : SocketAddress) (session : Session) (calls : List (String × HandlerKind))
    (callbacks : Nat) :
    let registered := (Registry.empty : Registry HandlerKind).registerAll calls
    let kinds := registered.2.entries.map Prod.snd
    let started := Worker.start id peer session registered.2 callbacks rig
    let attached := Worker.attach id kinds .empty rig.venue
    let start := Host.welcome id peer session registered.2 callbacks rig
    Registry.KeepsFirst calls registered.1 registered.2
      ∧ (started.1.slots = attached.1.slots ∧ started.2.1 = attached.2.1
        ∧ started.2.2.handlers? id = some attached.1.handlers)
      ∧ Worker.Staffing id rig.venue kinds attached.1 attached.2.1
      ∧ ∀ (happenings : List (Happening id)) (now : UInt64) (entropy : Entropy)
          (arrival : Option Bytes) (message : Bytes),
          let host := (start.follow happenings).tuned now entropy
          host.worker.phase = .reading → host.worker.stop = false →
            host.received arrival = .ok (some message) →
              (host.taken arrival).Routes id rig.venue kinds message
                (start.follow (happenings ++ [.here (.step now entropy (.read arrival))])) := by
  intro registered kinds started attached start
  have hstaffing := Worker.staffing_attach hfresh.ignored kinds
  have htabled : start.IsTabled id attached.1.slots (attached.1.handlers.map Handler.kind) :=
    Host.isTabled_welcome hfresh peer session registered.2 callbacks
  refine ⟨Registry.keepsFirst_registerAll calls, ⟨rfl, rfl, ?_⟩, hstaffing, ?_⟩
  · rw [Rig.handlers?, Worker.station?_of_start hfresh peer session registered.2 callbacks]
    rfl
  · intro happenings now entropy arrival message host hreading hstop hreceived
    have hhost : host.IsTabled id attached.1.slots (attached.1.handlers.map Handler.kind) :=
      (htabled.follow happenings).of_spares (Rig.spares_tuned id _ now entropy)
    have hstaffed : host.worker.phase.isStaffed = true := by
      rw [hreading]
      rfl
    obtain ⟨station, hfound, -, -⟩ := (hhost.employs hstaffed).exists_station
    have htaken : (host.taken arrival).IsTabled id attached.1.slots
        (attached.1.handlers.map Handler.kind) := hhost.taken arrival
    have hread := Host.read_eq_takeIn hreading hstop hfound arrival
    rw [hreceived] at hread
    have hafter : start.follow (happenings ++ [.here (.step now entropy (.read arrival))])
        = ⟨(host.worker.dispatch (host.taken arrival).rig message).1,
          (host.worker.dispatch (host.taken arrival).rig message).2⟩ := by
      have hlast : start.follow (happenings ++ [.here (.step now entropy (.read arrival))])
          = ⟨(host.worker.read host.rig arrival).1, (host.worker.read host.rig arrival).2⟩ :=
        List.foldl_append
      rw [hlast, hread]
      rfl
    rw [hafter]
    exact htaken.routes hstaffing hstaffed message

/-- Five calls, one of them under a name that is taken, and one for an endpoint that
is claimed already: three handlers are left, and a message about pixels goes to the
last of them, although its entry is the fourth. -/
theorem first_claimant_serves_in_example :
    let echo : Plugin := ⟨.default, fun messageType payload => .reply messageType payload⟩
    let calls : List (String × HandlerKind) := [("liveness", .liveness), ("echo", .plugin echo),
      ("authentication", .authentication standardMethods), ("liveness", .plugin echo),
      ("pixels", .pixelData)]
    let registered := (Registry.empty : Registry HandlerKind).registerAll calls
    let rig := exampleRig [] 4 7251 ⟨1, List.replicate 32 1, List.replicate 16 2⟩
    let session := Session.establish .up .chacha .server exampleKeys
    let strange := framed (Header.new .pixelData 99 10) [1, 2]
    let record := ((Session.establish .up .chacha .client exampleKeys).send strange).1.toOption
    let start := Host.welcome 1 ⟨.loopback, 5000⟩ session registered.2 0 rig
    let reading : Happening 1 := .here (.step 5 [] (.read record))
    registered.1 = [true, true, true, false, true]
      ∧ start.worker.slots = [(0, 0), (1, 1), (2, 2)]
      ∧ ((start.tuned 5 []).taken record).Routes 1 rig.venue (registered.2.entries.map Prod.snd)
          strange (start.follow [reading]) := by
  intro echo calls registered rig session strange record start reading
  have hfresh : rig.Fresh 1 := by
    refine ⟨rfl, ⟨?_, ?_⟩⟩
    · intro entry hentry
      cases hentry
    · intro group hgroup entry hentry
      cases hgroup
      cases hentry
  obtain ⟨-, -, -, hroutes⟩ := first_claimant_serves hfresh ⟨.loopback, 5000⟩ session calls 0
  have hreceived : (start.tuned 5 []).received record = .ok (some strange) := by decide +kernel
  exact ⟨by decide +kernel, by decide +kernel, hroutes [] 5 [] record strange rfl rfl hreceived⟩

end Luminaire
