/-
What a listener has under one number.

The table, the list of the finished, the attempts and the workers are kept
apart, and several parties change them. Seen under one number they are a
`Card`: how far its attempt is, what its worker's callback has heard, how
often it is in the table, and its entries on the list. A step does one of a
few things to the card of a number (`Card.Moves`), whatever it does to
others (`moves_step`), so what holds of every connection is shown on cards.

A collection pass takes a card out of the table or leaves it, and there is
one thing more that it can do: an entry that it finds while the number is
not in the table is thrown away (`discards`).
-/
import Mathlib.Data.List.Find
import Luminaire.Proofs.Server.Passages
import Luminaire.Proofs.Server.Reports

namespace Luminaire

/-- What a listener has under one number. -/
structure Card where
  /-- Whether the number has been given out. -/
  given : Bool
  /-- Where the attempt is. -/
  phase : Option AttemptPhase
  /-- What the callback of the worker has heard, and how many have yet to hear. -/
  told : Option (List ShutdownCause × Nat)
  /-- How often it is in the table. -/
  listed : Nat
  /-- Its entries on the list of the finished. -/
  entries : List ShutdownCause
  /-- Whether the listener lets nobody into the table any more. -/
  ending : Bool
  /-- How far the end of the listener is. -/
  closing : Closing

/-- What a step can do to a card. The last argument says whether an entry is
thrown away. -/
inductive Card.Moves (card after : Card) (lost : Prop) : Prop
  | still (hafter : after = card) (hlost : ¬ lost)
  /-- The number is used up. -/
  | spent (hafter : after = { card with given := true }) (hlost : ¬ lost)
  | begins (hfree : card.given = false)
      (hafter : after = { card with given := true, phase := card.phase.or (some .starting) })
      (hlost : ¬ lost)
  /-- The attempt goes on, and has no worker yet. -/
  | waits {before next : AttemptPhase} (hphase : card.phase = some before)
      (hearly : before.isEarly = true) (hnext : next.isEarly = true)
      (hafter : after = { card with phase := some next }) (hlost : ¬ lost)
  | fails {before : AttemptPhase} (hphase : card.phase = some before)
      (hearly : before.isEarly = true) (hafter : after = { card with phase := none })
      (hlost : ¬ lost)
  /-- The worker starts. -/
  | starts {before : AttemptPhase} (hphase : card.phase = some before)
      (hearly : before.isEarly = true)
      (hafter : after = { card with phase := some .started, told := card.told.or (some ([], 1)) })
      (hlost : ¬ lost)
  /-- The worker enters the table. -/
  | lists (hphase : card.phase = some .started) (hopen : card.ending = false)
      (hafter : after = { card with phase := none, listed := card.listed + 1 }) (hlost : ¬ lost)
  /-- The worker comes too late. -/
  | drops (hphase : card.phase = some .started) (hending : card.ending = true)
      (hafter : after = { card with phase := some .dropping }) (hlost : ¬ lost)
  | leaves (hphase : card.phase = some .dropping) (hafter : after = { card with phase := none })
      (hlost : ¬ lost)
  /-- The callback of the worker runs. -/
  | hears {heard : List ShutdownCause} {left : Nat} (cause : ShutdownCause)
      (htold : card.told = some (heard, left))
      (hafter : after = { card with
        told := some (heard ++ List.replicate left cause, 0)
        entries := card.entries ++ List.replicate left cause }) (hlost : ¬ lost)
  /-- A pass takes it out of the table, on account of an entry. -/
  | collected (hlisted : card.listed ≠ 0) (hentered : card.entries ≠ [])
      (hafter : after = { card with listed := 0, entries := [] }) (hlost : ¬ lost)
  /-- A pass does not find it in the table. -/
  | overlooked (habsent : card.listed = 0) (hafter : after = { card with entries := [] })
      (hlost : lost ↔ card.entries ≠ [])
  | enters (hafter : after = { card with closing := .entered }) (hlost : ¬ lost)
  | flagged (hafter : after = { card with ending := true, closing := .flagged }) (hlost : ¬ lost)
  | deafens (hclosing : card.closing = .flagged) (hafter : after = { card with closing := .deaf })
      (hlost : ¬ lost)
  /-- The table is emptied. -/
  | emptied {doomed : List ConnectionId} (hclosing : card.closing = .deaf)
      (hafter : after = { card with listed := 0, closing := .emptied doomed }) (hlost : ¬ lost)
  /-- The list of the finished is cleared. -/
  | cleared {doomed : List ConnectionId} (hclosing : card.closing = .emptied doomed)
      (hafter : after = { card with entries := [], closing := .done }) (hlost : ¬ lost)

namespace Listener

variable {listener : Listener}

/-- The entries under a number on the list of the finished. -/
def entries (listener : Listener) (id : ConnectionId) : List ShutdownCause :=
  (listener.finished.filter fun entry => entry.1 = id).map Prod.snd

theorem mem_entries {id : ConnectionId} {cause : ShutdownCause} :
    cause ∈ listener.entries id ↔ (id, cause) ∈ listener.finished := by
  unfold entries
  constructor
  · intro hmem
    obtain ⟨⟨other, cause⟩, hentry, rfl⟩ := List.mem_map.1 hmem
    obtain ⟨hfinished, hid⟩ := List.mem_filter.1 hentry
    obtain rfl := of_decide_eq_true hid
    exact hfinished
  · intro hmem
    exact List.mem_map.2 ⟨(id, cause), List.mem_filter.2 ⟨hmem, decide_eq_true rfl⟩, rfl⟩

/-- The card of a number. -/
def card (listener : Listener) (id : ConnectionId) : Card where
  given := decide (id < listener.nextId)
  phase := (listener.attempt? id).map Attempt.phase
  told := (listener.worker? id).map fun worker => (worker.heard, worker.callbacks)
  listed := listener.active.count id
  entries := listener.entries id
  ending := listener.terminating
  closing := listener.closing

/-- The numbers whose entries a step throws away. -/
def discards (listener : Listener) : Step → List ConnectionId
  | .collect => (listener.finished.filter fun entry => !listener.active.contains entry.1).map
      Prod.fst
  | _ => []

theorem mem_discards_collect {id : ConnectionId} :
    id ∈ listener.discards .collect ↔ id ∉ listener.active ∧ listener.entries id ≠ [] := by
  have hentries : listener.entries id ≠ [] ↔ ∃ cause, (id, cause) ∈ listener.finished := by
    refine ⟨fun hsome => ?_, fun ⟨cause, hfinished⟩ => List.ne_nil_of_mem (mem_entries.2 hfinished)⟩
    obtain ⟨cause, hcause⟩ := List.exists_mem_of_ne_nil _ hsome
    exact ⟨cause, mem_entries.1 hcause⟩
  rw [hentries]
  constructor
  · intro hmem
    obtain ⟨⟨other, cause⟩, hentry, rfl⟩ := List.mem_map.1 hmem
    obtain ⟨hfinished, habsent⟩ := List.mem_filter.1 hentry
    exact ⟨by simpa using habsent, cause, hfinished⟩
  · rintro ⟨habsent, cause, hfinished⟩
    exact List.mem_map.2 ⟨(id, cause), List.mem_filter.2 ⟨hfinished, by simpa using habsent⟩, rfl⟩

-- ============================================================= attempts

/-- Changes that keep the numbers do not lead to anybody else. -/
theorem find?_map_of_key {α : Type} {key : α → ConnectionId} {change : α → α}
    (hkey : ∀ item, key (change item) = key item) (items : List α) (id : ConnectionId) :
    (items.map change).find? (fun item => key item == id)
      = (items.find? fun item => key item == id).map change := by
  rw [List.find?_map]
  refine congrArg _ (List.find?_congr fun item _ => ?_)
  exact congrArg (· == id) (hkey item)

theorem card_forget (listener : Listener) (id other : ConnectionId) :
    (listener.forget id).card other
      = if other = id then { listener.card other with phase := none } else listener.card other := by
  have hattempt : (listener.forget id).attempt? other
      = if other = id then none else listener.attempt? other := by
    unfold attempt? forget
    simp only
    rw [List.find?_filter]
    split
    next hsame =>
      refine List.find?_eq_none.2 fun attempt _ => ?_
      simp [hsame]
    next hother =>
      refine List.find?_congr fun attempt _ => ?_
      by_cases hid : attempt.id = other
      · simp [hid, hother]
      · simp [hid]
  unfold card
  rw [hattempt]
  split
  · rfl
  · rfl

theorem card_setPhase (listener : Listener) (id other : ConnectionId) (phase : AttemptPhase) :
    (listener.setPhase id phase).card other
      = if other = id then
          { listener.card other with phase := (listener.card other).phase.map fun _ => phase }
        else listener.card other := by
  have hattempt : (listener.setPhase id phase).attempt? other
      = (listener.attempt? other).map fun attempt =>
        if attempt.id = id then { attempt with phase } else attempt := by
    unfold attempt? setPhase
    refine find?_map_of_key (fun attempt => ?_) _ _
    split
    · rfl
    · rfl
  unfold card
  rw [hattempt]
  cases hfound : listener.attempt? other with
  | none =>
      split
      · rfl
      · rfl
  | some attempt =>
      obtain rfl := id_of_attempt? hfound
      by_cases hid : attempt.id = id
      · simp only [Option.map_some, hid, if_true]
        rfl
      · simp only [Option.map_some, hid, if_false]
        rfl

-- ============================================================== workers

theorem worker?_stepWorker {id : ConnectionId} {worker : Worker}
    (hfound : listener.worker? id = some worker) (next : Worker.Step) (other : ConnectionId) :
    (listener.stepWorker id next).worker? other
      = if other = id then some (worker.step listener.rig next).1 else listener.worker? other := by
  obtain rfl := id_of_worker? hfound
  have hmap : (listener.stepWorker worker.id next).worker? other
      = (listener.worker? other).map fun item =>
        if item.id = worker.id then (worker.step listener.rig next).1 else item := by
    rw [stepWorker_of_some hfound]
    refine find?_map_of_key (fun item => ?_) _ _
    split
    next hsame => rw [Worker.id_step, hsame]
    · rfl
  rw [hmap]
  split
  next hsame =>
    subst hsame
    rw [hfound, Option.map_some, if_pos rfl]
  next hother =>
    cases hitem : listener.worker? other with
    | none => rfl
    | some item =>
        rw [Option.map_some, if_neg (fun hsame => hother ((id_of_worker? hitem).symm.trans hsame))]

/-- Entries are added under the number of the worker. -/
theorem entries_append {finished : List (ConnectionId × ShutdownCause)} {id : ConnectionId}
    (causes : List ShutdownCause)
    (hfinished : finished = listener.finished ++ causes.map fun cause => (id, cause))
    (other : ConnectionId) :
    entries { listener with finished } other
      = if other = id then listener.entries other ++ causes else listener.entries other := by
  unfold entries
  simp only
  rw [hfinished, List.filter_append, List.map_append]
  split
  next hsame =>
    subst hsame
    have hall : (causes.map fun cause => (other, cause)).filter (fun entry => entry.1 = other)
        = causes.map fun cause => (other, cause) :=
      List.filter_eq_self.2 fun entry hentry => by
        obtain ⟨cause, -, rfl⟩ := List.mem_map.1 hentry
        exact decide_eq_true rfl
    rw [hall, List.map_map]
    exact congrArg _ (List.map_id' causes)
  next hother =>
    have hnone : (causes.map fun cause => (id, cause)).filter (fun entry => entry.1 = other)
        = [] :=
      List.filter_eq_nil_iff.2 fun entry hentry => by
        obtain ⟨cause, -, rfl⟩ := List.mem_map.1 hentry
        simpa using Ne.symm hother
    rw [hnone, List.map_nil, List.append_nil]

/-- The step of a worker changes its own card. -/
theorem card_stepWorker {id : ConnectionId} {worker : Worker}
    (hfound : listener.worker? id = some worker) (next : Worker.Step) (other : ConnectionId) :
    (listener.stepWorker id next).card other
      = if other = id then { listener.card other with
          told := some ((worker.step listener.rig next).1.heard,
            (worker.step listener.rig next).1.callbacks)
          entries := (listener.card other).entries
            ++ (worker.step listener.rig next).1.heard.drop worker.heard.length }
        else listener.card other := by
  have hworker := worker?_stepWorker hfound next other
  have hentries : (listener.stepWorker id next).entries other
      = if other = id then listener.entries other
          ++ (worker.step listener.rig next).1.heard.drop worker.heard.length
        else listener.entries other := by
    rw [stepWorker_of_some hfound]
    exact listener.entries_append _ rfl other
  have hcard : (listener.stepWorker id next).card other = { listener.card other with
      told := ((listener.stepWorker id next).worker? other).map fun worker =>
        (worker.heard, worker.callbacks)
      entries := (listener.stepWorker id next).entries other } := by
    rw [stepWorker_of_some hfound]
    rfl
  rw [hcard, hworker, hentries]
  split
  · rfl
  · rfl

theorem told_of_worker? {id : ConnectionId} {worker : Worker}
    (hfound : listener.worker? id = some worker) :
    (listener.card id).told = some (worker.heard, worker.callbacks) := by
  show (listener.worker? id).map _ = _
  rw [hfound]
  rfl

/-- What it changes there is what the callback hears. -/
theorem moves_stepWorker (listener : Listener) (id : ConnectionId) (next : Worker.Step)
    (other : ConnectionId) {lost : Prop} (hlost : ¬ lost) :
    (listener.card other).Moves ((listener.stepWorker id next).card other) lost := by
  cases hfound : listener.worker? id with
  | none =>
      rw [stepWorker_of_none hfound]
      exact .still rfl hlost
  | some worker =>
      rw [card_stepWorker hfound]
      split
      next hsame =>
        subst hsame
        have htold := told_of_worker? hfound
        cases worker.told_step listener.rig next with
        | nothing _ hcallbacks hheard =>
            rw [hcallbacks, hheard, List.drop_length, List.append_nil, ← htold]
            exact .still rfl hlost
        | cause cause _ hcallbacks hheard =>
            rw [hcallbacks, hheard, List.drop_left]
            exact .hears cause htold rfl hlost
      · exact .still rfl hlost

/-- A worker that is told to end, or dropped, has not heard anything yet. -/
theorem card_stepWorker_of_quiet {id : ConnectionId} {next : Worker.Step}
    (hquiet : next = .signal ∨ next = .drop) (other : ConnectionId) :
    (listener.stepWorker id next).card other = listener.card other := by
  cases hfound : listener.worker? id with
  | none => rw [stepWorker_of_none hfound]
  | some worker =>
      have hsilent : (worker.step listener.rig next).1.heard = worker.heard
          ∧ (worker.step listener.rig next).1.callbacks = worker.callbacks := by
        rcases hquiet with rfl | rfl
        · exact worker.silent_enter .requested
        · exact worker.silent_enter .dropped
      rw [card_stepWorker hfound, hsilent.1, hsilent.2, List.drop_length, List.append_nil]
      split
      next hsame =>
        subst hsame
        rw [← told_of_worker? hfound]
      · rfl

theorem card_foldl {step : Listener → ConnectionId → Listener}
    (hstep : ∀ (listener : Listener) id other, (step listener id).card other = listener.card other)
    (ids : List ConnectionId) (listener : Listener) (other : ConnectionId) :
    (ids.foldl step listener).card other = listener.card other := by
  induction ids generalizing listener with
  | nil => rfl
  | cons id ids ih => exact (ih (step listener id)).trans (hstep listener id other)

theorem card_doom (listener : Listener) (id other : ConnectionId) :
    (listener.doom id).card other = listener.card other :=
  (card_stepWorker_of_quiet (.inr rfl) other).trans (card_stepWorker_of_quiet (.inl rfl) other)

/-- A worker that has just started has everything yet to tell. -/
theorem card_hire {rig : Rig Outlet} {worker : Worker} {id : ConnectionId} (hid : worker.id = id)
    (htold : (worker.heard, worker.callbacks) = ([], 1)) (other : ConnectionId) :
    card { listener with rig, workers := listener.workers ++ [worker] } other
      = if other = id then
          { listener.card other with told := (listener.card other).told.or (some ([], 1)) }
        else listener.card other := by
  have hworker : worker? { listener with rig, workers := listener.workers ++ [worker] } other
      = (listener.worker? other).or ([worker].find? (·.id == other)) := List.find?_append
  subst hid
  unfold card
  rw [hworker]
  split
  next hsame =>
    subst hsame
    rw [find?_worker]
    cases listener.worker? worker.id with
    | none => rw [Option.none_or, Option.map_some, htold]; rfl
    | some earlier => rfl
  next hother =>
    have hnobody : [worker].find? (·.id == other) = none :=
      List.find?_eq_none.2 fun earlier hmem => by
        simpa [List.mem_singleton.1 hmem] using Ne.symm hother
    rw [hnobody, Option.or_none]
    rfl

-- =========================================================== collection

/-- The connections that leave the table in a pass. -/
def departing (listener : Listener) : List ConnectionId :=
  (((listener.finished.filter fun entry => listener.active.contains entry.1).filter
    listener.isReady).map Prod.fst).eraseDups

theorem mem_departing {id : ConnectionId} :
    id ∈ listener.departing
      ↔ id ∈ listener.active ∧ ∃ cause ∈ listener.entries id, listener.isReady (id, cause) := by
  unfold departing
  rw [List.mem_eraseDups]
  constructor
  · intro hmem
    obtain ⟨⟨other, cause⟩, hentry, rfl⟩ := List.mem_map.1 hmem
    obtain ⟨hentry, hready⟩ := List.mem_filter.1 hentry
    obtain ⟨hfinished, hactive⟩ := List.mem_filter.1 hentry
    exact ⟨List.contains_iff_mem.1 hactive, cause, mem_entries.2 hfinished, hready⟩
  · rintro ⟨hactive, cause, hcause, hready⟩
    exact List.mem_map.2 ⟨(id, cause), List.mem_filter.2 ⟨List.mem_filter.2
      ⟨mem_entries.1 hcause, List.contains_iff_mem.2 hactive⟩, hready⟩, rfl⟩

/-- The listener once the books have been gone through, before the workers that
leave are dropped. -/
def audited (listener : Listener) : Listener :=
  { listener with
    active := listener.active.filter fun id => !listener.departing.contains id
    finished := ((listener.finished.filter fun entry => listener.active.contains entry.1).filter
      (not ∘ listener.isReady)).filter fun entry => !listener.departing.contains entry.1 }

theorem collect_eq (listener : Listener) :
    listener.collect = (listener.departing.length,
      listener.departing.foldl (fun listener id => listener.stepWorker id .drop)
        listener.audited) := by
  unfold collect audited departing
  simp only [List.partition_eq_filter_filter]

/-- Entries are kept if they wait for somebody in the table. -/
theorem entries_audited (listener : Listener) (id : ConnectionId) :
    listener.audited.entries id
      = if id ∈ listener.active ∧ id ∉ listener.departing then listener.entries id else [] := by
  unfold entries audited
  simp only [List.filter_filter]
  split
  next hstays =>
    refine congrArg _ (List.filter_congr fun entry hentry => ?_)
    by_cases hid : entry.1 = id
    · have hwaiting : listener.isReady entry = false := by
        refine Bool.eq_false_iff.2 fun hready => hstays.2 (mem_departing.2 ⟨hstays.1, entry.2, ?_⟩)
        subst hid
        exact ⟨mem_entries.2 hentry, hready⟩
      simp [hid, hstays.1, hstays.2, hwaiting]
    · simp [hid]
  next hgoes =>
    refine List.map_eq_nil_iff.2 (List.filter_eq_nil_iff.2 fun entry _ => ?_)
    by_cases hid : entry.1 = id
    · by_cases hactive : id ∈ listener.active
      · have hleaves : id ∈ listener.departing := by
          by_contra hnot
          exact hgoes ⟨hactive, hnot⟩
        simp [hid, hleaves]
      · simp [hid, hactive]
    · simp [hid]

theorem count_audited (listener : Listener) (id : ConnectionId) :
    listener.audited.active.count id
      = if id ∈ listener.departing then 0 else listener.active.count id := by
  unfold audited
  simp only
  split
  next hleaves =>
    refine List.count_eq_zero.2 fun hmem => ?_
    have hstays := (List.mem_filter.1 hmem).2
    simp [hleaves] at hstays
  next hstays => exact List.count_filter (by simp [hstays])

/-- What a pass makes of a card. -/
theorem card_collect (listener : Listener) (id : ConnectionId) :
    listener.collect.2.card id = { listener.card id with
      listed := if id ∈ listener.departing then 0 else (listener.card id).listed
      entries := if id ∈ listener.active ∧ id ∉ listener.departing then
        (listener.card id).entries else [] } := by
  have haudited : listener.audited.card id = { listener.card id with
      listed := listener.audited.active.count id
      entries := listener.audited.entries id } := rfl
  rw [collect_eq, card_foldl (fun _ _ _ => card_stepWorker_of_quiet (.inr rfl) _), haudited,
    entries_audited, count_audited]
  rfl

/-- It takes the card out of the table, leaves it, or overlooks it. -/
theorem moves_collect (listener : Listener) (id : ConnectionId) :
    (listener.card id).Moves (listener.collect.2.card id) (id ∈ listener.discards .collect) := by
  rw [card_collect, mem_discards_collect]
  by_cases hactive : id ∈ listener.active
  · have hlost : ¬ (id ∉ listener.active ∧ listener.entries id ≠ []) := fun hlost =>
      hlost.1 hactive
    by_cases hleaves : id ∈ listener.departing
    · obtain ⟨-, cause, hentry, -⟩ := mem_departing.1 hleaves
      rw [if_pos hleaves, if_neg (fun hstays => hstays.2 hleaves)]
      exact .collected (fun hnone => List.count_eq_zero.1 hnone hactive)
        (List.ne_nil_of_mem hentry) rfl hlost
    · rw [if_neg hleaves, if_pos ⟨hactive, hleaves⟩]
      exact .still rfl hlost
  · have hstays : id ∉ listener.departing := fun hleaves => hactive (mem_departing.1 hleaves).1
    rw [if_neg hstays, if_neg (fun hstays => hactive hstays.1)]
    exact .overlooked (List.count_eq_zero.2 hactive) rfl (and_iff_right hactive)

-- =============================================================== steps

theorem phase_of_attempt? {id : ConnectionId} {attempt : Attempt}
    (hfound : listener.attempt? id = some attempt) :
    (listener.card id).phase = some attempt.phase := by
  show (listener.attempt? id).map _ = _
  rw [hfound]
  rfl

/-- Whoever is put in the table has no attempt any more. -/
theorem card_enlist (hopen : ¬ listener.terminating = true) (attempt : Attempt)
    (id : ConnectionId) :
    (listener.enlist attempt).card id
      = if id = attempt.id then
          { listener.card id with phase := none, listed := (listener.card id).listed + 1 }
        else listener.card id := by
  unfold enlist
  rw [if_neg hopen, card_forget]
  split
  next hsame =>
    subst hsame
    have hcount : (listener.active ++ [attempt.id]).count attempt.id
        = listener.active.count attempt.id + 1 := by
      rw [List.count_append, List.count_singleton_self]
    unfold card
    rw [hcount]
    rfl
  next hother =>
    have hcount : (listener.active ++ [attempt.id]).count id = listener.active.count id := by
      rw [List.count_append, List.count_singleton]
      simp [Ne.symm hother]
    unfold card
    rw [hcount]
    rfl

section Moves

variable {attempt : Attempt} {lost : Prop} (hlost : ¬ lost)
include hlost

/-- An attempt without a worker goes on without one. -/
theorem moves_setPhase (hfound : listener.attempt? attempt.id = some attempt)
    (hearly : attempt.phase.isEarly = true) {phase : AttemptPhase} (hnext : phase.isEarly = true)
    (id : ConnectionId) :
    (listener.card id).Moves ((listener.setPhase attempt.id phase).card id) lost := by
  rw [card_setPhase]
  split
  next hsame =>
    subst hsame
    have hphase := phase_of_attempt? hfound
    exact .waits hphase hearly hnext (by rw [hphase, Option.map_some]) hlost
  · exact .still rfl hlost

/-- Or ends without one. -/
theorem moves_forget (hfound : listener.attempt? attempt.id = some attempt)
    (hearly : attempt.phase.isEarly = true) (id : ConnectionId) :
    (listener.card id).Moves ((listener.forget attempt.id).card id) lost := by
  rw [card_forget]
  split
  next hsame =>
    subst hsame
    exact .fails (phase_of_attempt? hfound) hearly rfl hlost
  · exact .still rfl hlost

/-- A number that is due is used up, with an attempt or without one. -/
theorem moves_number (listener : Listener) (peers : List SocketAddress) (more : Option Attempt)
    (hmore : ∀ attempt ∈ more, attempt.id = listener.nextId ∧ attempt.phase = .starting)
    (id : ConnectionId) :
    (listener.card id).Moves (card { listener with
      handshaking := peers
      nextId := listener.nextId + 1
      attempts := listener.attempts ++ more.toList } id) lost := by
  have hattempt : attempt? { listener with
      handshaking := peers
      nextId := listener.nextId + 1
      attempts := listener.attempts ++ more.toList } id
      = (listener.attempt? id).or (more.toList.find? (·.id == id)) := List.find?_append
  unfold card
  rw [hattempt]
  by_cases hid : id = listener.nextId
  · subst hid
    have hgiven : decide (listener.nextId < listener.nextId + 1) = true :=
      decide_eq_true (Nat.lt_succ_self _)
    simp only [hgiven]
    cases more with
    | none => exact .spent (by rw [Option.toList_none, List.find?_nil, Option.or_none]; rfl) hlost
    | some attempt =>
        obtain ⟨hnumber, hphase⟩ := hmore attempt rfl
        refine .begins (decide_eq_false (Nat.lt_irrefl _)) ?_ hlost
        rw [Option.toList_some, List.find?_cons_of_pos (by simpa using hnumber)]
        cases listener.attempt? listener.nextId with
        | none => rw [Option.none_or, Option.map_some, hphase]; rfl
        | some earlier => rfl
  · have hgiven : decide (id < listener.nextId + 1) = decide (id < listener.nextId) :=
      decide_eq_decide.2 ⟨fun hlt => Nat.lt_of_le_of_ne (Nat.le_of_lt_succ hlt) hid,
        Nat.lt_succ_of_lt⟩
    have hnobody : more.toList.find? (·.id == id) = none :=
      List.find?_eq_none.2 fun attempt hattempt => by
        simpa [(hmore attempt (Option.mem_toList.1 hattempt)).1] using Ne.symm hid
    rw [hnobody, Option.or_none, hgiven]
    exact .still rfl hlost

/-- A hello uses up a number at most. -/
theorem moves_arrive (listener : Listener) (peer : SocketAddress) (datagram : Bytes) (able : Bool)
    (id : ConnectionId) :
    (listener.card id).Moves ((listener.arrive peer datagram able).1.card id) lost := by
  have hsame : (listener.card id).Moves (listener.card id) lost := .still rfl hlost
  unfold arrive
  split
  · split
    next hello raw _ =>
      split
      · exact hsame
      · unfold greeted
        split
        · split
          · exact hsame
          · split
            · have hsome := moves_number hlost listener (peer :: listener.handshaking)
                (some ⟨listener.nextId, peer, hello, raw, .starting⟩)
                (fun attempt hattempt => Option.some.inj hattempt ▸ ⟨rfl, rfl⟩) id
              rw [Option.toList_some] at hsome
              exact hsome
            · have hnone := moves_number hlost listener listener.handshaking none
                (fun _ hattempt => absurd hattempt (Option.not_mem_none _)) id
              rw [Option.toList_none, List.append_nil] at hnone
              exact hnone
        · exact hsame
    · exact hsame
  · exact hsame

theorem moves_answer (hfound : listener.attempt? attempt.id = some attempt)
    (hearly : attempt.phase.isEarly = true) (id : ConnectionId) :
    (listener.card id).Moves ((listener.answer attempt).1.card id) lost := by
  unfold answer
  simp only
  split
  · exact moves_forget hlost hfound hearly id
  · exact moves_forget hlost hfound hearly id
  · exact moves_setPhase hlost hfound hearly rfl id

theorem moves_confirm (hfound : listener.attempt? attempt.id = some attempt)
    (hearly : attempt.phase.isEarly = true) (unconfirmed : Unconfirmed) (datagram : Bytes)
    (id : ConnectionId) :
    (listener.card id).Moves ((listener.confirm attempt unconfirmed datagram).1.card id) lost := by
  unfold confirm
  split
  · exact moves_setPhase hlost hfound hearly rfl id
  · exact moves_forget hlost hfound hearly id
  · exact moves_setPhase hlost hfound hearly rfl id

/-- The worker of an attempt starts. -/
theorem moves_start (hfound : listener.attempt? attempt.id = some attempt)
    (hearly : attempt.phase.isEarly = true) (session : Session) (able : Bool) (id : ConnectionId) :
    (listener.card id).Moves ((listener.startWorker attempt session able).card id) lost := by
  unfold startWorker
  split
  · simp only
    rw [card_setPhase, card_hire (show _ = attempt.id from rfl) rfl]
    split
    next hsame =>
      subst hsame
      have hphase := phase_of_attempt? hfound
      exact .starts hphase hearly (by simp only [hphase, Option.map_some]) hlost
    · exact .still rfl hlost
  · exact moves_forget hlost hfound hearly id

/-- The worker of an attempt enters the table, or comes too late. -/
theorem moves_enlist (hfound : listener.attempt? attempt.id = some attempt)
    (hstarted : attempt.phase = .started) (id : ConnectionId) :
    (listener.card id).Moves ((listener.enlist attempt).card id) lost := by
  have hphase : id = attempt.id → (listener.card id).phase = some .started := by
    rintro rfl
    rw [phase_of_attempt? hfound, hstarted]
  by_cases hending : listener.terminating = true
  · unfold enlist
    rw [if_pos hending, card_setPhase, card_stepWorker_of_quiet (.inr rfl)]
    split
    next hsame => exact .drops (hphase hsame) hending (by rw [hphase hsame]; rfl) hlost
    · exact .still rfl hlost
  · rw [card_enlist hending]
    split
    next hsame => exact .lists (hphase hsame) (Bool.eq_false_iff.2 hending) rfl hlost
    · exact .still rfl hlost

/-- The end of the listener goes one stage further. -/
theorem moves_close (listener : Listener) (id : ConnectionId) :
    (listener.card id).Moves (listener.close.card id) lost := by
  unfold close
  split
  · exact .flagged rfl hlost
  next hclosing => exact .deafens hclosing rfl hlost
  next hclosing =>
    rw [card_foldl card_doom]
    exact .emptied hclosing rfl hlost
  next doomed hclosing =>
    split
    · exact .cleared hclosing rfl hlost
    · exact .still rfl hlost
  · exact .still rfl hlost

end Moves

/-- A step does one of these things to the card of a number. -/
theorem moves_step (listener : Listener) (next : Step) (id : ConnectionId) :
    (listener.card id).Moves ((listener.step next).1.card id) (id ∈ listener.discards next) := by
  have hsame : ∀ {lost : Prop}, ¬ lost → (listener.card id).Moves (listener.card id) lost :=
    fun hlost => .still rfl hlost
  cases next with
  | collect => exact listener.moves_collect id
  | arrive peer datagram able =>
      exact moves_arrive List.not_mem_nil listener peer datagram able id
  | answer number =>
      simp only [step]
      split
      next attempt hfound =>
        obtain rfl := id_of_attempt? hfound
        split
        next hstarting =>
          exact moves_answer List.not_mem_nil hfound (by rw [hstarting]; rfl) id
        · exact hsame List.not_mem_nil
      · exact hsame List.not_mem_nil
  | confirm number datagram =>
      simp only [step]
      split
      next attempt hfound =>
        obtain rfl := id_of_attempt? hfound
        split
        next unconfirmed hwaiting =>
          exact moves_confirm List.not_mem_nil hfound (by rw [hwaiting]; rfl) unconfirmed datagram
            id
        · exact hsame List.not_mem_nil
      · exact hsame List.not_mem_nil
  | expire number =>
      simp only [step]
      split
      next attempt hfound =>
        obtain rfl := id_of_attempt? hfound
        split
        next unconfirmed hwaiting =>
          exact moves_forget List.not_mem_nil hfound (by rw [hwaiting]; rfl) id
        · exact hsame List.not_mem_nil
      · exact hsame List.not_mem_nil
  | start number able =>
      simp only [step]
      split
      next attempt hfound =>
        obtain rfl := id_of_attempt? hfound
        split
        next session haccepted =>
          exact moves_start List.not_mem_nil hfound (by rw [haccepted]; rfl) session able id
        · exact hsame List.not_mem_nil
      · exact hsame List.not_mem_nil
  | enlist number =>
      simp only [step]
      split
      next attempt hfound =>
        obtain rfl := id_of_attempt? hfound
        split
        next hstarted => exact moves_enlist List.not_mem_nil hfound hstarted id
        next hdropping =>
          split
          · rw [card_forget]
            split
            next hid =>
              subst hid
              exact .leaves (by rw [phase_of_attempt? hfound, hdropping]) rfl List.not_mem_nil
            · exact hsame List.not_mem_nil
          · exact hsame List.not_mem_nil
        · exact hsame List.not_mem_nil
      · exact hsame List.not_mem_nil
  | worker number next => exact listener.moves_stepWorker number next id List.not_mem_nil
  | terminate =>
      show Card.Moves _ (listener.terminate.card id) _
      unfold terminate
      split
      · exact hsame List.not_mem_nil
      · exact .enters rfl List.not_mem_nil
  | close => exact moves_close List.not_mem_nil listener id
  | region region frameNumber => exact hsame List.not_mem_nil
  | group => exact hsame List.not_mem_nil
  | rotate => exact hsame List.not_mem_nil

end Listener

end Luminaire
