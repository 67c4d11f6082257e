/-
What a step of the listener leaves to a worker.

Nothing that a listener does takes a worker away or turns it back: under a
number there is nobody yet, or a worker that has just been hired, or one
that is as far as it was or farther (`keeps_step`). Farther means
`Worker.Later`: it stays coherent, what its callback has heard stays
heard, and when it is over it is over for good.
-/
import Luminaire.Proofs.Server.Cards
import Luminaire.Proofs.Server.Stages

namespace Luminaire

namespace Worker

variable {worker middle after : Worker}

/-- A worker that is as far as another or farther. -/
structure Later (worker after : Worker) : Prop where
  coherent : worker.Coherent 1 → after.Coherent 1
  heard : worker.heard ≠ [] → after.heard ≠ []
  ended : worker.Coherent 1 → worker.IsOver → after.IsOver

theorem Later.refl (worker : Worker) : worker.Later worker :=
  ⟨fun hcoherent => hcoherent, fun hheard => hheard, fun _ hover => hover⟩

theorem Later.trans (hfirst : worker.Later middle) (hsecond : middle.Later after) :
    worker.Later after :=
  ⟨fun hcoherent => hsecond.coherent (hfirst.coherent hcoherent),
    fun hheard => hsecond.heard (hfirst.heard hheard),
    fun hcoherent hover => hsecond.ended (hfirst.coherent hcoherent)
      (hfirst.ended hcoherent hover)⟩

/-- Whoever is over has nothing left. -/
theorem IsOver.remaining_eq (hover : worker.IsOver) : worker.remaining = 0 := by
  obtain ⟨hphase, hstage⟩ := hover
  rw [remaining, hphase, hstage]
  rfl

/-- A step takes a worker no way back. -/
theorem later_step (worker : Worker) (rig : Rig Outlet) (next : Step) :
    worker.Later (worker.step rig next).1 := by
  have hdoes := worker.does_step rig next
  refine ⟨fun hcoherent => hcoherent.does hdoes, fun hheard => ?_, fun hcoherent hover => ?_⟩
  · cases worker.told_step rig next with
    | nothing _ _ hsame =>
        rw [hsame]
        exact hheard
    | cause cause _ _ hmore =>
        rw [hmore]
        exact List.append_ne_nil_of_left_ne_nil hheard _
  · rcases hcoherent.remaining_does hdoes with hless | ⟨hphase, hshutdown⟩
    · rw [hover.remaining_eq] at hless
      exact absurd hless (Nat.not_lt_zero _)
    · refine ⟨hphase.trans hover.1, ?_⟩
      rw [stage?, hshutdown]
      exact hover.2

/-- A worker that has just been hired. -/
theorem coherent_start (id : ConnectionId) (peer : SocketAddress) (session : Session)
    (registry : Registry HandlerKind) (callbacks : Nat) (rig : Rig Outlet) :
    (start id peer session registry callbacks rig).1.Coherent callbacks where
  running := iff_of_true rfl rfl
  closed := iff_of_false nofun nofun
  early _ := rfl
  stop := rfl
  told := rfl
  collectable := nofun

/-- The shutdown has run to its end, and one callback has heard the cause, once. -/
def IsShut (worker : Worker) : Prop :=
  ∃ cause, worker.shutdown = some (cause, .reported) ∧ worker.heard = [cause]

/-- The callback of a worker hears nothing else, and not before. -/
theorem Coherent.isShut (hcoherent : worker.Coherent 1) (hheard : worker.heard ≠ []) :
    worker.IsShut := by
  have htold := hcoherent.told
  unfold toldBy at htold
  split at htold
  next cause hshutdown => exact ⟨cause, hshutdown, congrArg Prod.fst htold⟩
  next => exact absurd (congrArg Prod.fst htold) hheard

/-- So it has once the worker is over. -/
theorem Coherent.heard_of_over (hcoherent : worker.Coherent 1) (hover : worker.IsOver) :
    worker.heard ≠ [] := by
  obtain ⟨⟨cause, stage⟩, hshutdown, hstage⟩ := Option.map_eq_some_iff.1 hover.2
  cases hstage
  have htold := hcoherent.told
  rw [hshutdown] at htold
  have hheard : worker.heard = [cause] := congrArg Prod.fst htold
  rw [hheard]
  exact List.cons_ne_nil cause []

end Worker

namespace Listener

variable {listener middle after : Listener} {id : ConnectionId}

/-- Nothing is left to wait for behind a worker that is over. -/
theorem isOver_of_isGone {worker : Worker} (hfound : listener.worker? id = some worker)
    (hgone : listener.isGone id = true) : worker.IsOver := by
  unfold isGone at hgone
  rw [hfound] at hgone
  obtain ⟨hfinished, hreported⟩ := Bool.and_eq_true_iff.1 hgone
  refine ⟨eq_of_beq hfinished, ?_⟩
  obtain ⟨⟨cause, stage⟩, hshutdown, hstage⟩ := (Option.any_eq_true ..).1 hreported
  rw [Worker.stage?, hshutdown]
  exact congrArg some (eq_of_beq hstage)

/-- What becomes of the worker of a number. -/
inductive Keeps (listener after : Listener) (id : ConnectionId) : Prop where
  | nobody (hbefore : listener.worker? id = none) (hafter : after.worker? id = none)
  | hired {worker : Worker} (hbefore : listener.worker? id = none)
      (hafter : after.worker? id = some worker) (hcoherent : worker.Coherent 1)
  | kept {worker later : Worker} (hbefore : listener.worker? id = some worker)
      (hafter : after.worker? id = some later) (hlater : worker.Later later)

/-- Whoever leaves the workers alone keeps them. -/
theorem Keeps.of_workers (hworkers : after.workers = listener.workers) :
    listener.Keeps after id := by
  have hsame : after.worker? id = listener.worker? id := by rw [worker?, hworkers, worker?]
  cases hfound : listener.worker? id with
  | none => exact .nobody hfound (hsame.trans hfound)
  | some worker => exact .kept hfound (hsame.trans hfound) (.refl worker)

theorem Keeps.trans (hfirst : listener.Keeps middle id) (hsecond : middle.Keeps after id) :
    listener.Keeps after id := by
  cases hfirst with
  | nobody hbefore hmiddle =>
      cases hsecond with
      | nobody _ hafter => exact .nobody hbefore hafter
      | hired _ hafter hcoherent => exact .hired hbefore hafter hcoherent
      | kept hother => rw [hmiddle] at hother; cases hother
  | hired hbefore hmiddle hcoherent =>
      cases hsecond with
      | nobody hother => rw [hmiddle] at hother; cases hother
      | hired hother => rw [hmiddle] at hother; cases hother
      | kept hsame hafter hlater =>
          rw [hmiddle] at hsame
          cases hsame
          exact .hired hbefore hafter (hlater.coherent hcoherent)
  | kept hbefore hmiddle hlater =>
      cases hsecond with
      | nobody hother => rw [hmiddle] at hother; cases hother
      | hired hother => rw [hmiddle] at hother; cases hother
      | kept hsame hafter hlater' =>
          rw [hmiddle] at hsame
          cases hsame
          exact .kept hbefore hafter (hlater.trans hlater')

theorem keeps_stepWorker (listener : Listener) (number : ConnectionId) (next : Worker.Step)
    (id : ConnectionId) : listener.Keeps (listener.stepWorker number next) id := by
  cases hfound : listener.worker? number with
  | none =>
      rw [stepWorker_of_none hfound]
      exact .of_workers rfl
  | some worker =>
      have hworker := worker?_stepWorker hfound next id
      by_cases hid : id = number
      · rw [if_pos hid] at hworker
        exact .kept (hid ▸ hfound) hworker (worker.later_step listener.rig next)
      · rw [if_neg hid] at hworker
        cases hother : listener.worker? id with
        | none => exact .nobody hother (hworker.trans hother)
        | some other => exact .kept hother (hworker.trans hother) (.refl other)

theorem Keeps.foldl {step : Listener → ConnectionId → Listener}
    (hstep : ∀ (listener : Listener) number, listener.Keeps (step listener number) id)
    (numbers : List ConnectionId) {start : Listener} (hworkers : start.workers = listener.workers) :
    listener.Keeps (numbers.foldl step start) id := by
  have hrest : start.Keeps (numbers.foldl step start) id := by
    clear hworkers
    induction numbers generalizing start with
    | nil => exact .of_workers rfl
    | cons number numbers ih => exact (hstep start number).trans ih
  exact (Keeps.of_workers hworkers).trans hrest

/-- A datagram hires nobody. -/
theorem keeps_arrive (listener : Listener) (peer : SocketAddress) (datagram : Bytes) (able : Bool)
    (id : ConnectionId) : listener.Keeps (listener.arrive peer datagram able).1 id := by
  have hsame : listener.Keeps listener id := .of_workers rfl
  unfold arrive
  split
  · split
    · split
      · exact hsame
      · unfold greeted
        split
        · split
          · exact hsame
          · split
            · exact .of_workers rfl
            · exact .of_workers rfl
        · exact hsame
    · exact hsame
  · exact hsame

/-- An attempt that has succeeded hires its worker. -/
theorem keeps_start (listener : Listener) (attempt : Attempt) (session : Session) (able : Bool)
    (id : ConnectionId) : listener.Keeps (listener.startWorker attempt session able) id := by
  unfold startWorker
  split
  · have hcoherent := Worker.coherent_start attempt.id attempt.peer session listener.registry 1
      listener.rig
    generalize Worker.start attempt.id attempt.peer session listener.registry 1 listener.rig
      = started at hcoherent
    obtain ⟨worker, kept, rig⟩ := started
    have hworker : worker? ({ listener with
        rig, workers := listener.workers ++ [worker] }.setPhase attempt.id .started) id
        = (listener.worker? id).or ([worker].find? (·.id == id)) := List.find?_append
    cases hfound : listener.worker? id with
    | some other =>
        rw [hfound, Option.some_or] at hworker
        exact .kept hfound hworker (.refl other)
    | none =>
        rw [hfound, Option.none_or] at hworker
        cases hhired : [worker].find? (·.id == id) with
        | none => exact .nobody hfound (hworker.trans hhired)
        | some found =>
            obtain rfl := List.mem_singleton.1 (List.mem_of_find?_eq_some hhired)
            exact .hired hfound (hworker.trans hhired) hcoherent
  · exact .of_workers rfl

/-- Who waits for a place in the table, or comes too late for one, is kept. -/
theorem keeps_enlist (listener : Listener) (attempt : Attempt) (id : ConnectionId) :
    listener.Keeps (listener.enlist attempt) id := by
  unfold enlist
  split
  · exact (listener.keeps_stepWorker attempt.id .drop id).trans (.of_workers rfl)
  · exact .of_workers rfl

theorem keeps_close (listener : Listener) (id : ConnectionId) :
    listener.Keeps listener.close id := by
  unfold close
  split
  · exact .of_workers rfl
  · exact .of_workers rfl
  · exact .foldl (fun listener number => (listener.keeps_stepWorker number .signal id).trans
      (keeps_stepWorker _ number .drop id)) listener.active rfl
  · split
    · exact .of_workers rfl
    · exact .of_workers rfl
  · exact .of_workers rfl

/-- Every step keeps the workers there are. -/
theorem keeps_step (listener : Listener) (next : Step) (id : ConnectionId) :
    listener.Keeps (listener.step next).1 id := by
  have hsame : listener.Keeps listener id := .of_workers rfl
  cases next with
  | arrive peer datagram able => exact listener.keeps_arrive peer datagram able id
  | answer number =>
      simp only [step]
      split
      · split
        · refine .of_workers ?_
          unfold answer
          simp only
          split
          · rfl
          · rfl
          · rfl
        · exact hsame
      · exact hsame
  | confirm number datagram =>
      simp only [step]
      split
      · split
        · refine .of_workers ?_
          unfold confirm
          split
          · rfl
          · rfl
          · rfl
        · exact hsame
      · exact hsame
  | expire number =>
      simp only [step]
      split
      · split
        · exact .of_workers rfl
        · exact hsame
      · exact hsame
  | start number able =>
      simp only [step]
      split
      · split
        · exact listener.keeps_start _ _ able id
        · exact hsame
      · exact hsame
  | enlist number =>
      simp only [step]
      split
      · split
        · exact listener.keeps_enlist _ id
        · split
          · exact .of_workers rfl
          · exact hsame
        · exact hsame
      · exact hsame
  | worker number next => exact listener.keeps_stepWorker number next id
  | collect => exact .foldl (fun listener number => listener.keeps_stepWorker number .drop id) _ rfl
  | terminate =>
      show listener.Keeps listener.terminate id
      unfold terminate
      split
      · exact hsame
      · exact .of_workers rfl
  | close => exact listener.keeps_close id
  | region region frameNumber => exact .of_workers rfl
  | group => exact .of_workers rfl
  | rotate => exact .of_workers rfl

/-- Whoever is there stays. -/
theorem exists_worker_step {listener : Listener} {id : ConnectionId} {worker : Worker}
    (hbefore : listener.worker? id = some worker) (next : Step) :
    ∃ later, (listener.step next).1.worker? id = some later := by
  cases listener.keeps_step next id with
  | nobody hother => rw [hbefore] at hother; cases hother
  | hired hother => rw [hbefore] at hother; cases hother
  | kept _ hafter => exact ⟨_, hafter⟩

end Listener

end Luminaire
