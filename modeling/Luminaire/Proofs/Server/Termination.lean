/-
Nothing survives the end of a listener.

The danger is a handshake that completes while the listener ends: its
worker may start before the flag is up and come for its place in the table
after the table has been emptied. What excludes it is that the flag is up
before the table is taken, and that the completion asks for the flag where
it would take its place.

The invariant says of every worker who will see to its end
(`Listener.Charge`): its completion, which still runs; the table; or the
call that took the table. A worker that none of them has in its charge has
been shut down (`Watched.step`). When the call returns the table is empty
and stays so, hence what had been in it has been shut down, and whoever
comes later never gets there and is shut down by its completion
(`nothing_survives_terminate`).
-/
import Luminaire.Proofs.Server.Closing
import Luminaire.Proofs.Server.Collection
import Luminaire.Proofs.Server.Tenure

namespace Luminaire

-- ========================================================== at the table

/-- A connection that was put in the table has its completion behind it. -/
structure Card.Aboard (card : Card) : Prop where
  given : card.given = true
  told : card.told ≠ none
  phase : card.phase = none

namespace Card.Aboard

variable {card after : Card} {lost : Prop}

/-- And it never has another. -/
theorem moves (haboard : card.Aboard) (hmoves : card.Moves after lost) : after.Aboard := by
  have hnobody : ∀ {phase : AttemptPhase}, card.phase ≠ some phase := by
    intro phase hphase
    rw [haboard.phase] at hphase
    cases hphase
  cases hmoves with
  | still hafter =>
      rw [hafter]
      exact haboard
  | spent hafter =>
      subst hafter
      exact ⟨rfl, haboard.told, haboard.phase⟩
  | begins hfree =>
      rw [haboard.given] at hfree
      cases hfree
  | waits hphase => exact absurd hphase hnobody
  | fails hphase => exact absurd hphase hnobody
  | starts hphase => exact absurd hphase hnobody
  | lists hphase => exact absurd hphase hnobody
  | drops hphase => exact absurd hphase hnobody
  | leaves hphase => exact absurd hphase hnobody
  | hears cause htold hafter =>
      subst hafter
      exact ⟨haboard.given, Option.some_ne_none _, haboard.phase⟩
  | _ =>
      subst_vars
      exact ⟨haboard.given, haboard.told, haboard.phase⟩

/-- Whoever is in the table is one of these. -/
theorem of_seated (hseated : card.Seated) (hlisted : card.listed ≠ 0) : card.Aboard := by
  cases hseated with
  | outside _ habsent => exact absurd habsent hlisted
  | waiting _ _ habsent => exact absurd habsent hlisted
  | seated hgiven htold _ hphase => exact ⟨hgiven, htold, hphase⟩

end Card.Aboard

namespace Card.Moves

variable {card after : Card} {lost : Prop}

/-- An attempt that is gone had no worker, or its worker is in the table now, or
its completion has dropped it. -/
theorem of_phase_gone (hmoves : card.Moves after lost) (hphase : card.phase ≠ none)
    (hgone : after.phase = none) :
    (∃ phase, card.phase = some phase ∧ phase.isEarly = true)
      ∨ after.listed ≠ 0 ∨ card.phase = some .dropping := by
  cases hmoves with
  | begins hfree hafter =>
      rw [hafter] at hgone
      obtain ⟨phase, hsome⟩ := Option.ne_none_iff_exists'.1 hphase
      simp only [hsome, Option.some_or, reduceCtorEq] at hgone
  | waits hsome hearly => exact .inl ⟨_, hsome, hearly⟩
  | fails hsome hearly => exact .inl ⟨_, hsome, hearly⟩
  | starts hsome hearly => exact .inl ⟨_, hsome, hearly⟩
  | lists _ _ hafter =>
      rw [hafter]
      exact .inr (.inl (Nat.succ_ne_zero _))
  | drops _ _ hafter =>
      rw [hafter] at hgone
      cases hgone
  | leaves hdropping => exact .inr (.inr hdropping)
  | _ =>
      subst_vars
      exact absurd hgone hphase

/-- Whoever has left the table had an entry, or the table was taken. -/
theorem of_listed_gone (hmoves : card.Moves after lost) (hlisted : card.listed ≠ 0)
    (habsent : after.listed = 0) :
    card.entries ≠ [] ∨ card.closing = .deaf ∧ ∃ doomed, after.closing = .emptied doomed := by
  cases hmoves with
  | collected _ hentered => exact .inl hentered
  | emptied hclosing hafter =>
      rw [hafter]
      exact .inr ⟨hclosing, _, rfl⟩
  | lists _ _ hafter =>
      rw [hafter] at habsent
      exact absurd habsent (Nat.succ_ne_zero _)
  | _ =>
      subst_vars
      exact absurd habsent hlisted

/-- Whoever has a worker all at once is at the start of it. -/
theorem of_told_gained (hmoves : card.Moves after lost) (hnobody : card.told = none)
    (hsomebody : after.told ≠ none) : after.phase = some .started := by
  cases hmoves with
  | starts _ _ hafter =>
      subst hafter
      rfl
  | hears _ htold =>
      rw [hnobody] at htold
      cases htold
  | _ =>
      subst_vars
      exact absurd hnobody hsomebody

end Card.Moves

namespace Listener

variable {listener : Listener} {next : Listener.Step} {id : ConnectionId} {worker : Worker}
  {missed guest later : Prop}

/-- A completion that drops its worker does not end before the worker is gone. -/
theorem isGone_of_left (hdropping : (listener.card id).phase = some .dropping)
    (hleft : ((listener.step next).1.card id).phase = none) : listener.isGone id = true := by
  obtain ⟨attempt, hfound, hphase⟩ := Option.map_eq_some_iff.1 hdropping
  have hprogress : attempt.phase.inProgress = false := by rw [hphase]; rfl
  have hgone : (listener.step next).1.attempt? id = none := Option.map_eq_none_iff.1 hleft
  -- whoever sets a phase forgets nobody
  have hset : ∀ number phase, (listener.step next).1.attempts
      ≠ (listener.setPhase number phase).attempts := by
    intro number phase hattempts
    have hcard := congrArg Card.phase (listener.card_setPhase number id phase)
    have hsame : ((listener.setPhase number phase).card id).phase = none := by
      show ((listener.setPhase number phase).attempt? id).map _ = none
      rw [attempt?, ← hattempts]
      exact congrArg (Option.map Attempt.phase) hgone
    rw [hsame] at hcard
    split at hcard
    · rw [hdropping] at hcard
      cases hcard
    · rw [hdropping] at hcard
      cases hcard
  -- and whoever forgets somebody forgets nobody else
  have hforget : ∀ number, (listener.step next).1.attempts = (listener.forget number).attempts →
      number = id := by
    intro number hattempts
    by_contra hother
    have hcard := congrArg Card.phase (listener.card_forget number id)
    have hsame : ((listener.forget number).card id).phase = none := by
      show ((listener.forget number).attempt? id).map _ = none
      rw [attempt?, ← hattempts]
      exact congrArg (Option.map Attempt.phase) hgone
    rw [hsame, if_neg (Ne.symm hother), hdropping] at hcard
    cases hcard
  have hpassage := listener.passage_step next
  generalize listener.breakdown? next = broken at hpassage
  cases hpassage with
  | still hattempts =>
      rw [attempt?, hattempts] at hgone
      rw [attempt?, hgone] at hfound
      cases hfound
  | begins _ _ _ _ _ hafter =>
      rw [hafter, attempt?, List.find?_append] at hgone
      rw [attempt?] at hfound
      rw [hfound] at hgone
      cases hgone
  | waits _ _ hattempts => exact absurd hattempts (hset _ _)
  | succeeds _ _ hattempts => exact absurd hattempts (hset _ _)
  | serves _ _ _ hattempts => exact absurd hattempts (hset _ _)
  | fails hother hearly hattempts =>
      rw [hforget _ hattempts, hfound] at hother
      cases hother
      rw [hprogress] at hearly
      cases hearly
  | breaks hother hearly hattempts =>
      rw [hforget _ hattempts, hfound] at hother
      cases hother
      rw [hprogress] at hearly
      cases hearly
  | leaves hother _ hguard hattempts =>
      obtain rfl := hforget _ hattempts
      rw [hfound] at hother
      cases hother
      exact hguard hphase

-- ============================================================ the charge

/-- Who sees to the end of a worker. The last argument says whether its
connection has been in the table. -/
inductive Charge (listener : Listener) (id : ConnectionId) (worker : Worker) (guest : Prop) : Prop
  /-- The completion that started it. -/
  | waiting (hphase : (listener.card id).phase ≠ none) (hguest : ¬ guest)
  /-- The table. -/
  | seated (hactive : id ∈ listener.active) (hguest : guest)
  /-- The call that took the table. -/
  | doomed {doomed : List ConnectionId} (hclosing : listener.closing = .emptied doomed)
      (hdoomed : id ∈ doomed) (hguest : guest)
  /-- Nobody any more. -/
  | ended (hheard : worker.heard ≠ []) (hguest : guest)
  | dismissed (hover : worker.IsOver) (hguest : ¬ guest)

/-- What holds of a number all the time. -/
structure Watched (listener : Listener) (id : ConnectionId) (missed guest : Prop) : Prop where
  sound : (listener.card id).Sound missed
  aboard : guest → (listener.card id).Aboard
  coherent : ∀ worker, listener.worker? id = some worker → worker.Coherent 1
  charge : ∀ worker, listener.worker? id = some worker → listener.Charge id worker guest

section Hands

variable {lost : Prop} {later : Worker} (hwatched : listener.Watched id missed guest)
  (hmoves : (listener.card id).Moves ((listener.step next).1.card id) lost)
  (hbefore : listener.worker? id = some worker) (hlater : worker.Later later)
include hwatched hmoves hbefore hlater

/-- A completion that ends without a place in the table has dropped its worker. -/
theorem Watched.of_waiting (hphase : (listener.card id).phase ≠ none)
    (hgone : ((listener.step next).1.card id).phase = none)
    (habsent : ((listener.step next).1.card id).listed = 0) : later.IsOver := by
  rcases hmoves.of_phase_gone hphase hgone with ⟨phase, hsome, hearly⟩ | hlisted | hdropping
  · have htold := (hwatched.sound.seated.of_early hsome hearly).2.1
    rw [told_of_worker? hbefore] at htold
    cases htold
  · exact absurd habsent hlisted
  · exact hlater.ended (hwatched.coherent worker hbefore)
      (isOver_of_isGone hbefore (isGone_of_left hdropping hgone))

/-- Whoever leaves the table has ended, or the call that took it sees to them. -/
theorem Watched.of_seated (hactive : id ∈ listener.active)
    (habsent : ((listener.step next).1.card id).listed = 0) :
    later.heard ≠ []
      ∨ ∃ doomed, (listener.step next).1.closing = .emptied doomed ∧ id ∈ doomed := by
  rcases hmoves.of_listed_gone (listed_ne_zero.2 hactive) habsent with
    hentered | ⟨hdeaf, doomed, hemptied⟩
  · -- there is no entry but for what the callback has heard
    refine .inl (hlater.heard fun hquiet => hentered ?_)
    have htold := told_of_worker? hbefore
    cases hwatched.sound.booked with
    | nobody _ hnone => exact hnone
    | quiet _ hnone => exact hnone
    | dealt _ hnone => exact hnone
    | filed hheard =>
        rw [htold, hquiet] at hheard
        cases hheard
  · change listener.closing = .deaf at hdeaf
    change (listener.step next).1.closing = .emptied doomed at hemptied
    cases listener.closes_step next with
    | empties _ htaken => exact .inr ⟨_, htaken, hactive⟩
    | stays hsame =>
        rw [hsame, hdeaf] at hemptied
        cases hemptied
    | enters _ _ hother =>
        rw [hother] at hemptied
        cases hemptied
    | flags _ hother =>
        rw [hother] at hemptied
        cases hemptied
    | deafens _ hother =>
        rw [hother] at hemptied
        cases hemptied
    | ends _ _ hother =>
        rw [hother] at hemptied
        cases hemptied

end Hands

/-- The call that took the table lets go of nobody who is not over. -/
theorem closing_of_doomed {doomed : List ConnectionId}
    (hstate : listener.state = listener.closing.state)
    (hclosing : listener.closing = .emptied doomed) (hdoomed : id ∈ doomed)
    (hbefore : listener.worker? id = some worker) :
    (listener.step next).1.closing = .emptied doomed ∨ worker.IsOver := by
  rw [hclosing] at hstate
  cases listener.closes_step next with
  | stays hsame => exact .inl (hsame.trans hclosing)
  | enters _ hlistening => rw [hstate] at hlistening; cases hlistening
  | flags hother => rw [hclosing] at hother; cases hother
  | deafens hother => rw [hclosing] at hother; cases hother
  | empties hother => rw [hclosing] at hother; cases hother
  | ends hother hgone =>
      rw [hclosing] at hother
      cases hother
      exact .inr (isOver_of_isGone hbefore (hgone id hdoomed))

/-- A step leaves every worker in somebody's charge until it has been shut down. -/
theorem Watched.step (hwatched : listener.Watched id missed guest)
    (hstate : listener.state = listener.closing.state) (next : Step) :
    (listener.step next).1.Watched id (missed ∨ id ∈ listener.discards next)
      (guest ∨ id ∈ (listener.step next).1.active) := by
  have hmoves := listener.moves_step next id
  have hsound := hwatched.sound.moves hmoves
  have haboard : guest ∨ id ∈ (listener.step next).1.active →
      ((listener.step next).1.card id).Aboard := by
    rintro (hguest | hactive)
    · exact (hwatched.aboard hguest).moves hmoves
    · exact .of_seated hsound.seated (listed_ne_zero.2 hactive)
  have hstranger : ((listener.step next).1.card id).phase ≠ none →
      ¬ (guest ∨ id ∈ (listener.step next).1.active) :=
    fun hphase hguest => hphase (haboard hguest).phase
  have hkeeps := listener.keeps_step next id
  refine ⟨hsound, haboard, fun later hafter => ?_, fun later hafter => ?_⟩
  · cases hkeeps with
    | nobody _ hnobody => rw [hnobody] at hafter; cases hafter
    | hired _ hhired hcoherent =>
        rw [hhired] at hafter
        cases hafter
        exact hcoherent
    | kept hbefore hkept hlater =>
        rw [hkept] at hafter
        cases hafter
        exact hlater.coherent (hwatched.coherent _ hbefore)
  · -- a completion that still runs has its worker, and the table whom it holds
    by_cases hphase : ((listener.step next).1.card id).phase ≠ none
    · exact .waiting hphase (hstranger hphase)
    by_cases hlisted : ((listener.step next).1.card id).listed ≠ 0
    · exact .seated (listed_ne_zero.1 hlisted) (.inr (listed_ne_zero.1 hlisted))
    have hgone := not_not.1 hphase
    have habsent := not_not.1 hlisted
    have houtside : id ∉ (listener.step next).1.active := fun hactive =>
      listed_ne_zero.2 hactive habsent
    cases hkeeps with
    | nobody _ hnobody => rw [hnobody] at hafter; cases hafter
    | hired hbefore hhired =>
        have hstarted := hmoves.of_told_gained (congrArg (Option.map _) hbefore)
          (by rw [told_of_worker? hhired]; exact Option.some_ne_none _)
        rw [hgone] at hstarted
        cases hstarted
    | @kept worker _ hbefore hkept hlater =>
        rw [hkept] at hafter
        cases hafter
        cases hwatched.charge worker hbefore with
        | waiting hwaiting hguest =>
            exact .dismissed (hwatched.of_waiting hmoves hbefore hlater hwaiting hgone habsent)
              (not_or.2 ⟨hguest, houtside⟩)
        | seated hactive hguest =>
            rcases hwatched.of_seated hmoves hbefore hlater hactive habsent with
              hheard | ⟨doomed, hclosing, hdoomed⟩
            · exact .ended hheard (.inl hguest)
            · exact .doomed hclosing hdoomed (.inl hguest)
        | doomed hclosing hdoomed hguest =>
            rcases closing_of_doomed hstate hclosing hdoomed hbefore with hsame | hover
            · exact .doomed hsame hdoomed (.inl hguest)
            · have hcoherent := hwatched.coherent worker hbefore
              exact .ended (hlater.heard (hcoherent.heard_of_over hover)) (.inl hguest)
        | ended hheard hguest => exact .ended (hlater.heard hheard) (.inl hguest)
        | dismissed hover hguest =>
            exact .dismissed (hlater.ended (hwatched.coherent worker hbefore) hover)
              (not_or.2 ⟨hguest, houtside⟩)

section Returned

variable (hwatched : listener.Watched id missed guest) (hempty : listener.active = [])
  (hdone : listener.closing = .done)
include hwatched hempty hdone

/-- When the call has returned, whoever was in the table has been shut down. -/
theorem Watched.isShut_of_guest (hguest : guest) :
    ∃ worker, listener.worker? id = some worker ∧ worker.IsShut := by
  obtain ⟨told, htold⟩ := Option.ne_none_iff_exists'.1 (hwatched.aboard hguest).told
  obtain ⟨worker, hworker, -⟩ := Option.map_eq_some_iff.1 htold
  have hheard : worker.heard ≠ [] := by
    cases hwatched.charge worker hworker with
    | waiting _ hstranger => exact absurd hguest hstranger
    | seated hactive => rw [hempty] at hactive; cases hactive
    | doomed hother => rw [hdone] at hother; cases hother
    | ended hheard => exact hheard
    | dismissed _ hstranger => exact absurd hguest hstranger
  exact ⟨worker, hworker, (hwatched.coherent worker hworker).isShut hheard⟩

/-- Whoever was not is in the hands of its completion, or it has been shut down by
that. -/
theorem Watched.isShut_of_stranger (hstranger : ¬ guest)
    (hworker : listener.worker? id = some worker) :
    (∃ attempt, listener.attempt? id = some attempt
        ∧ (attempt.phase = .started ∨ attempt.phase = .dropping))
      ∨ worker.IsOver ∧ worker.IsShut := by
  have hcoherent := hwatched.coherent worker hworker
  cases hwatched.charge worker hworker with
  | waiting hphase =>
      obtain ⟨phase, hsome⟩ := Option.ne_none_iff_exists'.1 hphase
      obtain ⟨attempt, hfound, rfl⟩ := Option.map_eq_some_iff.1 hsome
      have hlate : attempt.phase.isEarly ≠ true := by
        intro hearly
        have hnobody := (hwatched.sound.seated.of_early hsome hearly).2.1
        rw [told_of_worker? hworker] at hnobody
        cases hnobody
      refine .inl ⟨attempt, hfound, ?_⟩
      cases hnow : attempt.phase with
      | started => exact .inl rfl
      | dropping => exact .inr rfl
      | _ =>
          rw [hnow] at hlate
          exact absurd rfl hlate
  | seated hactive => rw [hempty] at hactive; cases hactive
  | doomed hother => rw [hdone] at hother; cases hother
  | ended _ hguest => exact absurd hguest hstranger
  | dismissed hover =>
      exact .inr ⟨hover, hcoherent.isShut (hcoherent.heard_of_over hover)⟩

end Returned

-- ============================================================ whole runs

/-- Whoever has been in the table behind a step of a run. -/
def guests (listener : Listener) (steps : List Step) : List ConnectionId :=
  listener.along (fun listener next => (listener.step next).1.active) steps

section Runs

variable (rig : Rig Outlet) (link : Link) (registry : Registry HandlerKind) (cookies : CookieJar)
  (handshake : ServerHandshake)

/-- In every run of a listener that has just begun all workers are in somebody's
charge. -/
theorem watched_run (steps : List Step) (id : ConnectionId) :
    (((new rig link registry cookies handshake).run steps).1).Watched id
      (id ∈ (new rig link registry cookies handshake).overlooked steps)
      (id ∈ (new rig link registry cookies handshake).guests steps) := by
  induction steps using List.reverseRecOn with
  | nil =>
      have hnobody : ∀ worker, ((new rig link registry cookies handshake).run []).1.worker? id
          ≠ some worker := fun worker => (Option.some_ne_none worker).symm
      exact ⟨sound_run rig link registry cookies handshake [] id,
        fun hguest => absurd hguest List.not_mem_nil,
        fun worker hfound => absurd hfound (hnobody worker),
        fun worker hfound => absurd hfound (hnobody worker)⟩
  | append_singleton steps next ih =>
      have hstate := (aligned_run rig link registry cookies handshake steps).state
      have hstep := ih.step hstate next
      unfold overlooked guests at hstep ⊢
      rw [run_snoc, along_snoc, along_snoc, List.mem_append, List.mem_append]
      exact hstep

/-- Whoever's completion still runs has not been in the table. -/
theorem not_mem_guests_of_attempt? {steps : List Step} {attempt : Attempt}
    (hfound : ((new rig link registry cookies handshake).run steps).1.attempt? id
      = some attempt) :
    id ∉ (new rig link registry cookies handshake).guests steps := by
  intro hguest
  have hnone := ((watched_run rig link registry cookies handshake steps id).aboard hguest).phase
  rw [phase_of_attempt? hfound] at hnone
  cases hnone

/-- Whoever calls when the end has begun is not heard. -/
theorem step_of_called (steps : List Step) (hcalled : Step.terminate ∈ steps) :
    (((new rig link registry cookies handshake).run steps).1.step .terminate).1
      = ((new rig link registry cookies handshake).run steps).1 := by
  have hbegun := (closing_eq_no_iff rig link registry cookies handshake steps).not.2
    (not_not_intro hcalled)
  have hstate := (aligned_run rig link registry cookies handshake steps).state
  generalize ((new rig link registry cookies handshake).run steps).1 = listener at hbegun hstate
  show listener.terminate = listener
  unfold terminate transition
  cases hclosing : listener.closing with
  | no => exact absurd hclosing hbegun
  | _ =>
      rw [hstate, hclosing]
      rfl

/-- When the call has returned, the table is empty. -/
theorem active_of_done (steps : List Step)
    (hdone : ((new rig link registry cookies handshake).run steps).1.closing = .done) :
    ((new rig link registry cookies handshake).run steps).1.active = [] := by
  refine List.eq_nil_iff_forall_not_mem.2 fun id hactive => ?_
  have hshut := (sound_run rig link registry cookies handshake steps id).shut
  generalize ((new rig link registry cookies handshake).run steps).1 = listener
    at hdone hactive hshut
  unfold Card.Shut at hshut
  rw [show (listener.card id).closing = .done from hdone] at hshut
  exact listed_ne_zero.2 hactive hshut.2

/-- So nobody becomes a guest any more. -/
theorem guests_of_done (steps later : List Step)
    (hdone : ((new rig link registry cookies handshake).run steps).1.closing = .done) :
    (new rig link registry cookies handshake).guests (steps ++ later)
      = (new rig link registry cookies handshake).guests steps := by
  have hstate := (aligned_run rig link registry cookies handshake steps).state
  rw [hdone] at hstate
  induction later using List.reverseRecOn with
  | nil => rw [List.append_nil]
  | append_singleton later next ih =>
      have hlast : ((new rig link registry cookies handshake).run
          (steps ++ (later ++ [next]))).1.closing = .done := by
        rw [run_append]
        exact (closing_run_of_done hdone hstate (later ++ [next])).1
      have hactive := active_of_done rig link registry cookies handshake _ hlast
      rw [← List.append_assoc, run_snoc] at hactive
      unfold guests at ih ⊢
      rw [← List.append_assoc, along_snoc, ih, hactive, List.append_nil]

/-- Nothing survives the end of a listener. In every run from its beginning, with
any number of calls for the end among the steps, the first call begins it, every
other leaves the listener as it is, and the stages follow each other once and in
one order. When the call that began it has returned, and ever after, the table is
empty and the listener is closed. Every worker that had been in the table has been
shut down, once. Every worker that had not been there by then never gets there:
its completion still runs, or the worker is gone, shut down once. -/
theorem nothing_survives_terminate (steps later : List Step) :
    let begun := new rig link registry cookies handshake
    let last := (begun.run (steps ++ later)).1
    (begun.stages steps = [] ↔ Step.terminate ∉ steps)
      ∧ (Step.terminate ∈ steps →
        ((begun.run steps).1.step .terminate).1 = (begun.run steps).1)
      ∧ (∃ doomed, begun.stages steps
          <+: [.entered, .flagged, .deaf, .emptied doomed, .done])
      ∧ ((begun.run steps).1.closing = .done →
        (∃ doomed, begun.stages (steps ++ later)
            = [.entered, .flagged, .deaf, .emptied doomed, .done])
          ∧ last.active = [] ∧ last.closing = .done ∧ last.state = .closed
          ∧ (∀ id ∈ begun.guests steps, ∃ worker, last.worker? id = some worker ∧ worker.IsShut)
          ∧ ∀ id ∉ begun.guests steps, ∀ worker, last.worker? id = some worker →
              id ∉ begun.guests (steps ++ later)
                ∧ ((∃ attempt, last.attempt? id = some attempt
                      ∧ (attempt.phase = .started ∨ attempt.phase = .dropping))
                    ∨ worker.IsOver ∧ worker.IsShut)) := by
  intro begun last
  have haligned := aligned_run rig link registry cookies handshake steps
  have hstages : begun.stages steps = [] ↔ Step.terminate ∉ steps :=
    haligned.past.eq_nil_iff.trans (closing_eq_no_iff rig link registry cookies handshake steps)
  refine ⟨hstages, fun hcalled => ?_, haligned.past.exists_prefix, fun hdone => ?_⟩
  · exact step_of_called rig link registry cookies handshake steps hcalled
  have hstate := haligned.state
  rw [hdone] at hstate
  obtain ⟨hclosing, hclosed⟩ := closing_run_of_done hdone hstate later
  rw [← run_append] at hclosing hclosed
  have hempty := active_of_done rig link registry cookies handshake (steps ++ later) hclosing
  have hguests := guests_of_done rig link registry cookies handshake steps later hdone
  have hwatched := watched_run rig link registry cookies handshake (steps ++ later)
  refine ⟨?_, hempty, hclosing, hclosed, fun id hguest => ?_, fun id hguest worker hworker => ?_⟩
  · have hpast := (aligned_run rig link registry cookies handshake (steps ++ later)).past
    rw [hclosing] at hpast
    exact hpast.of_done
  · rw [← hguests] at hguest
    exact (hwatched id).isShut_of_guest hempty hclosing hguest
  · rw [← hguests] at hguest
    exact ⟨hguest, (hwatched id).isShut_of_stranger hempty hclosing hguest hworker⟩

end Runs

-- =========================================================== an example

/-- A call for the end, and what it does while the table is empty. -/
def swiftEnd : List Step := [.terminate, .close, .close, .close, .close]

/-- A listener after that. -/
def ended (listener : Listener) : Listener := { listener with
  terminating := true, accepting := false, finished := [], closing := .done, state := .closed }

theorem run_swiftEnd (hstate : listener.state = .listening) (hempty : listener.active = []) :
    (listener.run swiftEnd).1 = listener.ended := by
  obtain ⟨rig, link, registry, cookies, handshake, state, closing, terminating, accepting,
    handshaking, attempts, workers, active, finished, nextId⟩ := listener
  subst hstate hempty
  rfl

/-- A worker that comes for its place when the flag is up is dropped. -/
theorem phase_of_late {attempt : Attempt} (hfound : listener.attempt? id = some attempt)
    (hstarted : attempt.phase = .started) (hending : listener.terminating = true) :
    ((listener.step (.enlist id)).1.card id).phase = some .dropping := by
  obtain rfl := id_of_attempt? hfound
  have henlist : (listener.step (.enlist attempt.id)).1
      = (listener.stepWorker attempt.id .drop).setPhase attempt.id .dropping := by
    simp only [step, hfound, hstarted, enlist, hending, if_true]
  rw [henlist, card_setPhase, if_pos rfl, card_stepWorker_of_quiet (.inr rfl),
    phase_of_attempt? hfound]
  rfl

/-- What is left to do for a worker that was told to end and dropped: its shutdown
runs to the end, and the read loop leaves behind it. -/
def farewell : List Worker.Step :=
  [.advance, .advance, .advance, .breakOff, .release, .report, .finish]

/-- A worker takes its place, the table is taken with it, and the call waits for
the worker's end. -/
def awaitedEnd (id : ConnectionId) : List Step :=
  [.enlist id, .terminate, .close, .close, .close] ++ farewell.map (.worker id) ++ [.close]

/-- A listener whose call has taken one connection from the table. -/
def taken (listener : Listener) (id : ConnectionId) : Listener := { listener.forget id with
  terminating := true, accepting := false, active := [], closing := .emptied [id]
  state := .terminating }

section Awaited

variable {attempt : Attempt} (hfound : listener.attempt? id = some attempt)
  (hstarted : attempt.phase = .started) (hflag : listener.terminating = false)
include hfound hstarted hflag

theorem step_enlist :
    (listener.step (.enlist id)).1
      = { listener with active := listener.active ++ [id] }.forget id := by
  obtain rfl := id_of_attempt? hfound
  simp only [step, hfound, hstarted, enlist, hflag, Bool.false_eq_true, if_false]

/-- The connection gets to the table. -/
theorem mem_guests_awaitedEnd : id ∈ listener.guests (awaitedEnd id) := by
  refine List.mem_append_left _ ?_
  show id ∈ (listener.step (.enlist id)).1.active
  rw [step_enlist hfound hstarted hflag]
  exact List.mem_append_right _ List.mem_cons_self

variable (hstate : listener.state = .listening) (hempty : listener.active = [])
include hstate hempty

theorem run_taken :
    (listener.run [.enlist id, .terminate, .close, .close, .close]).1
      = (listener.taken id).doom id := by
  rw [run_cons, step_enlist hfound hstarted hflag]
  obtain ⟨rig, link, registry, cookies, handshake, state, closing, terminating, accepting,
    handshaking, attempts, workers, active, finished, nextId⟩ := listener
  subst hstate hempty
  rfl

/-- The call returns when the worker is gone. -/
theorem closing_awaitedEnd {worker : Worker} (hworker : listener.worker? id = some worker)
    (hreading : worker.phase = .reading) (hrunning : worker.state = .running) :
    (listener.run (awaitedEnd id)).1.closing = .done := by
  -- The two steps of the doom and the farewell are one run of the worker.
  have hdoom : ((listener.taken id).doom id).run (farewell.map (.worker id))
      = (listener.taken id).run ((.signal :: .drop :: farewell).map (.worker id)) := rfl
  have htaken : (listener.taken id).worker? id = some worker := hworker
  obtain ⟨workers, finished, hafter, hgone⟩ := run_worker htaken (.signal :: .drop :: farewell)
  have hover : (worker.run (listener.taken id).rig (.signal :: .drop :: farewell)).1.isFinished
      && (worker.run (listener.taken id).rig (.signal :: .drop :: farewell)).1.isReported := by
    obtain ⟨_, _, state, _, phase⟩ := worker
    subst hreading hrunning
    rfl
  unfold awaitedEnd
  rw [run_snoc, run_append, run_taken hfound hstarted hflag hstate hempty, hdoom]
  generalize ((listener.taken id).run ((.signal :: .drop :: farewell).map (.worker id))).1 = last
    at hafter hgone
  have hall : [id].all last.isGone = true := by
    rw [List.all_cons, List.all_nil, Bool.and_true, isGone, hgone]
    exact hover
  have hclosing : last.closing = .emptied [id] := congrArg closing hafter
  show last.close.closing = .done
  unfold close
  simp only [hclosing, hall, if_true]

end Awaited

/-- At the example meeting a worker starts, and the end is called for. If the worker
comes for its place after the table was taken, it never gets there, and its
completion drops it. If it comes before, it is taken with the table, and the call
returns when it has been shut down; whoever signals or drops it later changes
nothing. -/
theorem terminated_in_example :
    let node := Meeting.exampleMeeting
    let id := node.listener.nextId
    ∃ finished,
      (let steps := node.welcome finished ++ swiftEnd
        let last := (node.listener.run (steps ++ [.enlist id])).1
        (node.listener.run steps).1.closing = .done
          ∧ last.active = [] ∧ last.state = .closed
          ∧ id ∉ node.listener.guests (steps ++ [.enlist id])
          ∧ (last.card id).phase = some .dropping)
        ∧ let steps := node.welcome finished ++ awaitedEnd id
          let last := (node.listener.run (steps ++ [.worker id .signal, .worker id .drop])).1
          (node.listener.run steps).1.closing = .done
            ∧ last.active = [] ∧ last.state = .closed
            ∧ id ∈ node.listener.guests steps
            ∧ ∃ worker, last.worker? id = some worker ∧ worker.IsShut := by
  have honest := Meeting.honest_exampleMeeting
  obtain ⟨-, hbegun⟩ := Meeting.fresh_exampleMeeting
  have hfree : Meeting.exampleMeeting.listener.worker? Meeting.exampleMeeting.listener.nextId
      = none := rfl
  generalize Meeting.exampleMeeting = meeting at honest hbegun hfree ⊢
  obtain ⟨rig, link, registry, cookies, handshake, hbegun⟩ := hbegun
  obtain ⟨finished, entropy, hserving⟩ := honest.exists_welcomed
  have hnothing := nothing_survives_terminate rig link registry cookies handshake
  have hstate : (meeting.serving entropy).state = .listening := by
    show meeting.listener.state = .listening
    rw [hbegun]
    rfl
  have hempty : (meeting.serving entropy).active = [] := by
    show meeting.listener.active = []
    rw [hbegun]
    rfl
  have hflag : (meeting.serving entropy).terminating = false := by
    show meeting.listener.terminating = false
    rw [hbegun]
    rfl
  have hattempt := honest.attempt?_serving entropy
  obtain ⟨worker, hworker, hreading, hrunning, -⟩ := Meeting.exists_worker_serving entropy hfree
  refine ⟨finished, ?late, ?early⟩
  case late =>
    have hended : (meeting.listener.run (meeting.welcome finished ++ swiftEnd)).1
        = (meeting.serving entropy).ended := by
      rw [run_append, hserving]
      exact run_swiftEnd hstate hempty
    have hdone : (meeting.listener.run (meeting.welcome finished ++ swiftEnd)).1.closing
        = .done := by rw [hended]; rfl
    have hwaiting : (meeting.serving entropy).ended.attempt? meeting.listener.nextId
        = some (meeting.attempt .started) := hattempt
    have hthere : (meeting.serving entropy).ended.worker? meeting.listener.nextId
        = some worker := hworker
    have hphase := phase_of_late hwaiting rfl rfl
    obtain ⟨late, hlate⟩ := exists_worker_step hthere (.enlist meeting.listener.nextId)
    rw [← hended] at hwaiting hphase hlate
    rw [← run_snoc] at hphase hlate
    have hstranger : meeting.listener.nextId
        ∉ meeting.listener.guests (meeting.welcome finished ++ swiftEnd) := by
      rw [hbegun] at hwaiting ⊢
      exact not_mem_guests_of_attempt? rig link registry cookies handshake hwaiting
    rw [← hbegun] at hnothing
    obtain ⟨-, hactive, -, hclosed, -, hstrangers⟩ :=
      (hnothing (meeting.welcome finished ++ swiftEnd) [.enlist meeting.listener.nextId]).2.2.2
        hdone
    exact ⟨hdone, hactive, hclosed, (hstrangers _ hstranger late hlate).1, hphase⟩
  case early =>
    have hdone : (meeting.listener.run
        (meeting.welcome finished ++ awaitedEnd meeting.listener.nextId)).1.closing = .done := by
      rw [run_append, hserving]
      exact closing_awaitedEnd hattempt rfl hflag hstate hempty hworker hreading hrunning
    have hguest : meeting.listener.nextId ∈ meeting.listener.guests
        (meeting.welcome finished ++ awaitedEnd meeting.listener.nextId) := by
      unfold guests
      rw [along_append, hserving]
      exact List.mem_append_right _ (mem_guests_awaitedEnd hattempt rfl hflag)
    rw [← hbegun] at hnothing
    obtain ⟨-, hactive, -, hclosed, hguests, -⟩ :=
      (hnothing (meeting.welcome finished ++ awaitedEnd meeting.listener.nextId)
        [.worker meeting.listener.nextId .signal, .worker meeting.listener.nextId .drop]).2.2.2
        hdone
    exact ⟨hdone, hactive, hclosed, hguest, hguests _ hguest⟩

end Listener

end Luminaire
