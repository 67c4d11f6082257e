/-
How a worker comes to its end, step by step.

# What a step can do

`Worker.Does` lists it: the read loop goes one phase on, somebody enters
the shutdown, or the shutdown goes one stage on. Only the loop that is
over and anyone outside try to enter (`attempt?`), and entering works as
long as the state is running, so the first attempt is the one that counts.

# What that keeps

`Worker.Coherent` ties the state, the flag that stops the loop and what
the callbacks have heard to the phase and the stage. It also says what a
cause tells: one that the loop found for itself is entered when the
handlers are gone, so whoever reads it finds the loop beyond them.

# How long it takes

`remaining` counts the phases and stages that are left. No step adds to
it, and each step that is due takes from it (`remaining_of_due`).
-/
import Luminaire.Server.Worker

namespace Luminaire

-- ====================================================== phases, stages

/-- The loop still has its handlers. -/
def LoopPhase.isStaffed : LoopPhase → Bool
  | .reading | .leaving _ => true
  | _ => false

/-- The loop has not tried to enter the shutdown yet. -/
def LoopPhase.isEarly : LoopPhase → Bool
  | .reading | .leaving _ | .released _ => true
  | _ => false

/-- How many phases are left. -/
def LoopPhase.left : LoopPhase → Nat
  | .reading => 4
  | .leaving _ => 3
  | .released _ => 2
  | .ending | .leaderless => 1
  | .finished => 0

/-- The session is closed by now. -/
def ShutdownStage.isSilent : ShutdownStage → Bool
  | .silent | .reported => true
  | _ => false

/-- How many stages are left. -/
def ShutdownStage.left : ShutdownStage → Nat
  | .entered => 3
  | .stopped => 2
  | .silent => 1
  | .reported => 0

namespace Worker

/-- Why the worker ends, once somebody has entered the shutdown. -/
def cause? (worker : Worker) : Option ShutdownCause := worker.shutdown.map Prod.fst

/-- How far the shutdown has come. -/
def stage? (worker : Worker) : Option ShutdownStage := worker.shutdown.map Prod.snd

/-- The shutdown has closed the session. -/
def isHushed (worker : Worker) : Bool := worker.stage?.any ShutdownStage.isSilent

/-- How many phases and stages are left. -/
def remaining (worker : Worker) : Nat :=
  worker.phase.left + worker.stage?.elim 4 ShutdownStage.left

/-- The end has begun: the loop is over, or the shutdown has been entered. -/
def HasBegun (worker : Worker) : Prop := worker.phase ≠ .reading ∨ worker.shutdown ≠ none

/-- Nothing is left to be done. -/
def IsOver (worker : Worker) : Prop :=
  worker.phase = .finished ∧ worker.stage? = some .reported

instance (worker : Worker) : Decidable worker.HasBegun := inferInstanceAs (Decidable (_ ∨ _))

instance (worker : Worker) : Decidable worker.IsOver := inferInstanceAs (Decidable (_ ∧ _))

-- ========================================================= single steps

/-- The cause with which a step tries to enter the shutdown. -/
def attempt? (worker : Worker) : Step → Option ShutdownCause
  | .signal => some .requested
  | .drop => some .dropped
  | .report =>
      match worker.phase with
      | .released cause => some cause
      | _ => none
  | _ => none

/-- What a step can do, given the attempt to enter that it makes. -/
inductive Does (before : Worker) : Option ShutdownCause → Worker → Prop where
  /-- Nothing, and an attempt comes too late. -/
  | nothing {attempt : Option ShutdownCause} (hlate : attempt = none ∨ before.state ≠ .running)
      (dropped : Bool) : Does before attempt { before with dropped }
  /-- The loop is over. -/
  | leaves (hphase : before.phase = .reading) (cause : ShutdownCause) :
      Does before none { before with phase := .leaving cause }
  /-- The loop releases its handlers. -/
  | releases {cause : ShutdownCause} (hphase : before.phase = .leaving cause) :
      Does before none { before with phase := .released cause }
  /-- Somebody else enters. -/
  | enters (hstate : before.state = .running) {cause : ShutdownCause}
      (houtside : cause.isCollectable = false) (dropped : Bool) :
      Does before (some cause)
        { before with state := .terminating, shutdown := some (cause, .entered), dropped }
  /-- The loop enters. -/
  | leads (hstate : before.state = .running) {cause : ShutdownCause}
      (hphase : before.phase = .released cause) :
      Does before (some cause)
        { before with
          state := .terminating, shutdown := some (cause, .entered), phase := .ending }
  /-- The loop comes too late. -/
  | yields (hstate : before.state ≠ .running) {cause : ShutdownCause}
      (hphase : before.phase = .released cause) :
      Does before (some cause) { before with phase := .leaderless }
  /-- The loop is told to stop. -/
  | stops {cause : ShutdownCause} (hshutdown : before.shutdown = some (cause, .entered)) :
      Does before none { before with stop := true, shutdown := some (cause, .stopped) }
  /-- The session is closed. -/
  | hushes {cause : ShutdownCause} (hshutdown : before.shutdown = some (cause, .stopped)) :
      Does before none { before with shutdown := some (cause, .silent) }
  /-- The callbacks run. -/
  | tells {cause : ShutdownCause} (hshutdown : before.shutdown = some (cause, .silent)) :
      Does before none
        { before with
          shutdown := some (cause, .reported)
          heard := before.heard ++ List.replicate before.callbacks cause
          callbacks := 0 }
  /-- The loop's last step. -/
  | finishes (hphase : before.phase = .leaderless
        ∨ before.phase = .ending ∧ before.stage? = some .reported) :
      Does before none
        { before with
          phase := .finished
          state := if before.state = .terminating then .closed else before.state }

theorem Does.refl (worker : Worker) : Does worker none worker :=
  .nothing (.inl rfl) worker.dropped

/-- An attempt works while the state is running. -/
theorem enter_eq (worker : Worker) (cause : ShutdownCause) :
    worker.enter cause = if worker.state = .running then
        (true, { worker with state := .terminating, shutdown := some (cause, .entered) })
      else (false, worker) := by
  unfold enter transition
  cases worker.state with
  | running => rfl
  | terminating => rfl
  | closed => rfl

variable (worker : Worker) (rig : Rig Outlet)

/-- A message leaves the worker as it is or ends its loop. -/
theorem dispatch_cases (message : Bytes) :
    (worker.dispatch rig message).1 = worker
      ∨ ∃ cause, (worker.dispatch rig message).1 = worker.leave cause := by
  unfold dispatch
  split
  · split
    · exact .inr ⟨_, rfl⟩
    · exact .inl rfl
  · split
    · exact .inl rfl
    · split
      · exact .inl rfl
      · exact .inl rfl
      · split
        · exact .inr ⟨_, rfl⟩
        · exact .inl rfl
      · exact .inl rfl

/-- A turn of the loop leaves the worker as it is or ends its loop. -/
theorem read_cases (arrival : Option Bytes) :
    (worker.read rig arrival).1 = worker
      ∨ worker.phase = .reading ∧ ∃ cause, (worker.read rig arrival).1 = worker.leave cause := by
  unfold read
  split
  · exact .inl rfl
  next hphase =>
    have hreading : worker.phase = .reading := Decidable.of_not_not hphase
    split
    · exact .inr ⟨hreading, _, rfl⟩
    · split
      · exact .inl rfl
      · simp only
        split
        · exact .inl rfl
        next message _ =>
          rcases worker.dispatch_cases _ message with hsame | ⟨cause, hleft⟩
          · exact .inl hsame
          · exact .inr ⟨hreading, cause, hleft⟩
        · exact .inr ⟨hreading, _, rfl⟩
        · exact .inr ⟨hreading, _, rfl⟩
        · exact .inr ⟨hreading, _, rfl⟩

theorem does_read (arrival : Option Bytes) :
    Does worker none (worker.read rig arrival).1 := by
  rcases worker.read_cases rig arrival with hsame | ⟨hreading, cause, hleft⟩
  · rw [hsame]
    exact .refl worker
  · rw [hleft]
    exact .leaves hreading cause

theorem does_report : Does worker (worker.attempt? .report) worker.report := by
  cases hphase : worker.phase with
  | released cause =>
      simp only [report, attempt?, hphase, enter_eq]
      by_cases hstate : worker.state = .running
      · rw [if_pos hstate]
        exact .leads hstate hphase
      · rw [if_neg hstate]
        exact .yields hstate hphase
  | _ =>
      simp only [report, attempt?, hphase]
      exact .refl worker

/-- Anyone may try to enter from outside. -/
theorem does_enter {cause : ShutdownCause} (houtside : cause.isCollectable = false)
    (dropped : Bool) : Does worker (some cause) { (worker.enter cause).2 with dropped } := by
  rw [enter_eq]
  by_cases hstate : worker.state = .running
  · rw [if_pos hstate]
    exact .enters hstate houtside dropped
  · rw [if_neg hstate]
    exact .nothing (.inr hstate) dropped

theorem does_advance : Does worker none (worker.advance rig).1 := by
  unfold advance
  split
  next hshutdown => exact .stops hshutdown
  next hshutdown => exact .hushes hshutdown
  next hshutdown => exact .tells hshutdown
  · exact .refl worker

/-- Only a worker that is terminating can close. -/
theorem closed_of_transition (state : WorkerState) :
    (match transition state .closed with
      | .ok next => next
      | .error _ => state) = if state = .terminating then .closed else state := by
  cases state with
  | running => rfl
  | terminating => rfl
  | closed => rfl

theorem does_finish : Does worker none worker.finish := by
  have hlast := congrArg (fun state => Does worker none { worker with phase := .finished, state })
    (closed_of_transition worker.state)
  unfold finish
  simp only
  split
  next hphase => exact hlast.mpr (.finishes (.inl hphase))
  next hphase hshutdown =>
    refine hlast.mpr (.finishes (.inr ⟨hphase, ?_⟩))
    rw [stage?, hshutdown]
    rfl
  · exact .refl worker

/-- There is nothing else that a step can do. -/
theorem does_step (next : Step) :
    Does worker (worker.attempt? next) (worker.step rig next).1 := by
  cases next with
  | read arrival => exact worker.does_read rig arrival
  | breakOff =>
      show Does worker none worker.breakOff
      unfold breakOff
      split
      next hphase => exact .leaves hphase .transport
      · exact .refl worker
  | release =>
      show Does worker none (worker.release rig).1
      unfold release
      split
      next hphase => exact .releases hphase
      · exact .refl worker
  | report => exact worker.does_report
  | signal =>
      have hdropped : (worker.enter .requested).2.dropped = worker.dropped := by
        rw [enter_eq]
        split
        · rfl
        · rfl
      have houtside : ShutdownCause.requested.isCollectable = false := rfl
      have hdoes := worker.does_enter houtside worker.dropped
      rw [← hdropped] at hdoes
      exact hdoes
  | drop => exact worker.does_enter rfl true
  | advance => exact worker.does_advance rig
  | finish => exact worker.does_finish

-- =========================================================== coherence

/-- What the callbacks of a worker have heard, and how many have not. -/
def toldBy (callbacks : Nat) : Option (ShutdownCause × ShutdownStage) → List ShutdownCause × Nat
  | some (cause, .reported) => (List.replicate callbacks cause, 0)
  | _ => ([], callbacks)

/-- The state, the flag and the callbacks of a worker that began with so many
are as the phase and the stage say. -/
structure Coherent (callbacks : Nat) (worker : Worker) : Prop where
  running : worker.state = .running ↔ worker.shutdown = none
  closed : worker.state = .closed ↔ worker.phase = .finished
  early : worker.shutdown = none → worker.phase.isEarly = true
  stop : worker.stop = worker.stage?.any (· != .entered)
  told : (worker.heard, worker.callbacks) = toldBy callbacks worker.shutdown
  /-- A cause that the loop found is entered when the loop has its handlers behind
  it. -/
  collectable : ∀ cause, worker.cause? = some cause → cause.isCollectable = true →
    worker.phase = .ending ∨ worker.phase = .finished

variable {worker after : Worker} {attempt : Option ShutdownCause} {callbacks : Nat}

/-- A loop that goes on without having tried to enter leaves everything else as
it was. -/
theorem Coherent.of_early (hcoherent : worker.Coherent callbacks)
    (hbefore : worker.phase.isEarly = true) {phase : LoopPhase} (hafter : phase.isEarly = true) :
    Coherent callbacks { worker with phase } := by
  have hopen : worker.phase ≠ .finished ∧ worker.phase ≠ .ending := by
    refine ⟨?_, ?_⟩
    · intro hphase
      rw [hphase] at hbefore
      cases hbefore
    · intro hphase
      rw [hphase] at hbefore
      cases hbefore
  refine ⟨hcoherent.running, ?_, fun _ => hafter, hcoherent.stop, hcoherent.told, ?_⟩
  · have hfinished : phase ≠ .finished := by
      rintro rfl
      cases hafter
    exact ⟨fun hclosed => absurd (hcoherent.closed.1 hclosed) hopen.1,
      fun hphase => absurd hphase hfinished⟩
  · intro cause hcause hfound
    rcases hcoherent.collectable cause hcause hfound with hending | hfinished
    · exact absurd hending hopen.2
    · exact absurd hfinished hopen.1

/-- A worker keeps its number. -/
theorem Does.id (hdoes : Does worker attempt after) : after.id = worker.id := by
  cases hdoes with
  | _ => rfl

/-- Every step keeps a worker coherent. -/
theorem Coherent.does (hcoherent : worker.Coherent callbacks)
    (hdoes : Does worker attempt after) : after.Coherent callbacks := by
  have hstate := hcoherent.running
  cases hdoes with
  | nothing _ dropped =>
      exact ⟨hcoherent.running, hcoherent.closed, hcoherent.early, hcoherent.stop,
        hcoherent.told, hcoherent.collectable⟩
  | leaves hphase cause => exact hcoherent.of_early (by rw [hphase]; rfl) rfl
  | releases hphase => exact hcoherent.of_early (by rw [hphase]; rfl) rfl
  | enters hrunning houtside dropped =>
      have hnone := hstate.1 hrunning
      have hunfinished : worker.phase ≠ .finished := by
        intro hfinished
        rw [hcoherent.closed.2 hfinished] at hrunning
        cases hrunning
      have htold := hcoherent.told
      rw [hnone] at htold
      refine ⟨⟨nofun, nofun⟩, ⟨nofun, fun h => absurd h hunfinished⟩, nofun, ?_, htold, ?_⟩
      · rw [hcoherent.stop, stage?, hnone]
        rfl
      · rintro cause hcause hfound
        cases hcause
        rw [houtside] at hfound
        cases hfound
  | leads hrunning hphase =>
      have hnone := hstate.1 hrunning
      have htold := hcoherent.told
      rw [hnone] at htold
      refine ⟨⟨nofun, nofun⟩, ⟨nofun, nofun⟩, nofun, ?_, htold, fun _ _ _ => .inl rfl⟩
      rw [hcoherent.stop, stage?, hnone]
      rfl
  | @yields hlate cause hphase =>
      refine ⟨hstate, ⟨fun hclosed => ?_, nofun⟩, fun hnone => absurd (hstate.2 hnone) hlate,
        hcoherent.stop, hcoherent.told, ?_⟩
      · have hfinished := hcoherent.closed.1 hclosed
        rw [hphase] at hfinished
        cases hfinished
      · intro cause hcause hfound
        rcases hcoherent.collectable cause hcause hfound with hending | hfinished
        · rw [hphase] at hending
          cases hending
        · rw [hphase] at hfinished
          cases hfinished
  | @stops cause hshutdown =>
      have hentered : worker.shutdown ≠ none := by rw [hshutdown]; exact nofun
      have htold := hcoherent.told
      rw [hshutdown] at htold
      refine ⟨⟨fun h => absurd (hstate.1 h) hentered, nofun⟩, hcoherent.closed, nofun, rfl,
        htold, ?_⟩
      intro found hcause
      refine hcoherent.collectable found ?_
      rw [← hcause, cause?, hshutdown]
      rfl
  | @hushes cause hshutdown =>
      have hentered : worker.shutdown ≠ none := by rw [hshutdown]; exact nofun
      have htold := hcoherent.told
      rw [hshutdown] at htold
      refine ⟨⟨fun h => absurd (hstate.1 h) hentered, nofun⟩, hcoherent.closed, nofun, ?_, htold,
        ?_⟩
      · rw [hcoherent.stop, stage?, hshutdown]
        rfl
      · intro found hcause
        refine hcoherent.collectable found ?_
        rw [← hcause, cause?, hshutdown]
        rfl
  | @tells cause hshutdown =>
      have hentered : worker.shutdown ≠ none := by rw [hshutdown]; exact nofun
      have htold := hcoherent.told
      rw [hshutdown] at htold
      obtain ⟨hheard, hleft⟩ := Prod.mk.inj htold
      refine ⟨⟨fun h => absurd (hstate.1 h) hentered, nofun⟩, hcoherent.closed, nofun, ?_, ?_,
        ?_⟩
      · rw [hcoherent.stop, stage?, hshutdown]
        rfl
      · rw [hheard, hleft]
        rfl
      · intro found hcause
        refine hcoherent.collectable found ?_
        rw [← hcause, cause?, hshutdown]
        rfl
  | finishes hphase =>
      have hentered : worker.shutdown ≠ none := by
        intro hnone
        have hearly := hcoherent.early hnone
        rcases hphase with hphase | ⟨hphase, -⟩
        · rw [hphase] at hearly
          cases hearly
        · rw [hphase] at hearly
          cases hearly
      have hclosing : worker.state = .terminating := by
        cases hnow : worker.state with
        | running => exact absurd (hstate.1 hnow) hentered
        | terminating => rfl
        | closed =>
            have hfinished := hcoherent.closed.1 hnow
            rcases hphase with hphase | ⟨hphase, -⟩
            · rw [hphase] at hfinished
              cases hfinished
            · rw [hphase] at hfinished
              cases hfinished
      refine ⟨?_, ?_, fun hnone => absurd hnone hentered, hcoherent.stop, hcoherent.told,
        fun _ _ _ => .inr rfl⟩
      · rw [if_pos hclosing]
        exact ⟨nofun, fun hnone => absurd hnone hentered⟩
      · rw [if_pos hclosing]
        exact ⟨fun _ => rfl, fun _ => rfl⟩

-- ============================================= causes and states, once

/-- The first attempt gives the cause, and no later one changes it. -/
theorem Coherent.cause_does (hcoherent : worker.Coherent callbacks)
    (hdoes : Does worker attempt after) : after.cause? = worker.cause?.or attempt := by
  have hsame : ∀ {shutdown : Option (ShutdownCause × ShutdownStage)},
      worker.state ≠ .running → shutdown = worker.shutdown →
        shutdown.map Prod.fst = worker.cause?.or attempt := by
    intro shutdown hlate hshutdown
    have hentered : worker.shutdown ≠ none := fun hnone => hlate (hcoherent.running.2 hnone)
    obtain ⟨entered, hentered⟩ := Option.ne_none_iff_exists'.1 hentered
    rw [hshutdown, cause?, hentered]
    rfl
  cases hdoes with
  | nothing hlate =>
      rcases hlate with rfl | hlate
      · exact (Option.or_none).symm
      · exact hsame hlate rfl
  | leaves => exact (Option.or_none).symm
  | releases => exact (Option.or_none).symm
  | enters hrunning =>
      rw [cause?, cause?, hcoherent.running.1 hrunning]
      rfl
  | leads hrunning =>
      rw [cause?, cause?, hcoherent.running.1 hrunning]
      rfl
  | yields hlate => exact hsame hlate rfl
  | stops hshutdown =>
      rw [cause?, cause?, hshutdown]
      rfl
  | hushes hshutdown =>
      rw [cause?, cause?, hshutdown]
      rfl
  | tells hshutdown =>
      rw [cause?, cause?, hshutdown]
      rfl
  | finishes => exact (Option.or_none).symm

/-- The state moves forward, if it moves. -/
theorem Does.forward (hdoes : Does worker attempt after) :
    after.state = worker.state ∨ Lifecycle.follows worker.state after.state = true := by
  cases hdoes with
  | enters hrunning =>
      right
      rw [hrunning]
      rfl
  | leads hrunning =>
      right
      rw [hrunning]
      rfl
  | finishes =>
      by_cases hclosing : worker.state = .terminating
      · right
        rw [if_pos hclosing, hclosing]
        rfl
      · left
        exact if_neg hclosing
  | _ => exact .inl rfl

/-- A loop without handlers stays without, and a closed session stays closed. -/
theorem Does.staffed (hdoes : Does worker attempt after)
    (hgone : worker.phase.isStaffed = false) : after.phase.isStaffed = false := by
  cases hdoes with
  | leaves hphase =>
      rw [hphase] at hgone
      cases hgone
  | releases => rfl
  | leads => rfl
  | yields => rfl
  | finishes => rfl
  | _ => exact hgone

theorem Does.hushed (hdoes : Does worker attempt after) (hhushed : worker.isHushed = true)
    (hcoherent : worker.Coherent callbacks) : after.isHushed = true := by
  have hentered : worker.shutdown ≠ none := by
    intro hnone
    rw [isHushed, stage?, hnone] at hhushed
    cases hhushed
  cases hdoes with
  | enters hrunning => exact absurd (hcoherent.running.1 hrunning) hentered
  | leads hrunning => exact absurd (hcoherent.running.1 hrunning) hentered
  | stops hshutdown =>
      rw [isHushed, stage?, hshutdown] at hhushed
      cases hhushed
  | hushes => rfl
  | tells => rfl
  | _ => exact hhushed

-- ============================================================ progress

/-- What is due, once the end has begun. -/
inductive Duty where
  | read
  | release
  | report
  | advance
  | finish
  deriving DecidableEq, Repr

/-- Whether a step does a duty. -/
def Duty.isDoneBy : Duty → Step → Bool
  | .read, .read _ | .release, .release | .report, .report | .advance, .advance
  | .finish, .finish => true
  | _, _ => false

/-- When each duty is due. -/
def DueWhen (worker : Worker) : Duty → Prop
  | .read => worker.phase = .reading ∧ worker.stage? = some .reported
  | .release => ∃ cause, worker.phase = .leaving cause
  | .report => ∃ cause, worker.phase = .released cause
  | .advance => ∃ cause stage, worker.shutdown = some (cause, stage) ∧ stage ≠ .reported
  | .finish => worker.phase = .leaderless
      ∨ worker.phase = .ending ∧ worker.stage? = some .reported

/-- Phase and stage alone decide what is due. -/
theorem DueWhen.of_same {duty : Duty} (hdue : worker.DueWhen duty)
    (hphase : after.phase = worker.phase) (hshutdown : after.shutdown = worker.shutdown) :
    after.DueWhen duty := by
  cases duty with
  | read => exact ⟨hphase.trans hdue.1, (congrArg _ hshutdown).trans hdue.2⟩
  | release =>
      obtain ⟨cause, hleaving⟩ := hdue
      exact ⟨cause, hphase.trans hleaving⟩
  | report =>
      obtain ⟨cause, hreleased⟩ := hdue
      exact ⟨cause, hphase.trans hreleased⟩
  | advance =>
      obtain ⟨cause, stage, hentered, hearlier⟩ := hdue
      exact ⟨cause, stage, hshutdown.trans hentered, hearlier⟩
  | finish =>
      rcases hdue with hleaderless | ⟨hending, hreported⟩
      · exact .inl (hphase.trans hleaderless)
      · exact .inr ⟨hphase.trans hending, (congrArg _ hshutdown).trans hreported⟩

/-- Once the end has begun, something is due until all is over. -/
theorem Coherent.exists_due (hcoherent : worker.Coherent callbacks) (hbegun : worker.HasBegun)
    (hunfinished : ¬ worker.IsOver) : ∃ duty, worker.DueWhen duty := by
  cases hshutdown : worker.shutdown with
  | none =>
      have hearly := hcoherent.early hshutdown
      cases hphase : worker.phase with
      | reading =>
          rcases hbegun with hleft | hentered
          · exact absurd hphase hleft
          · exact absurd hshutdown hentered
      | leaving cause => exact ⟨.release, cause, hphase⟩
      | released cause => exact ⟨.report, cause, hphase⟩
      | _ =>
          rw [hphase] at hearly
          cases hearly
  | some entered =>
      obtain ⟨cause, stage⟩ := entered
      by_cases hreported : stage = .reported
      · have hstage : worker.stage? = some .reported := by
          rw [stage?, hshutdown, hreported]
          rfl
        cases hphase : worker.phase with
        | reading => exact ⟨.read, hphase, hstage⟩
        | leaving cause => exact ⟨.release, cause, hphase⟩
        | released cause => exact ⟨.report, cause, hphase⟩
        | ending => exact ⟨.finish, .inr ⟨hphase, hstage⟩⟩
        | leaderless => exact ⟨.finish, .inl hphase⟩
        | finished => exact absurd ⟨hphase, hstage⟩ hunfinished
      · exact ⟨.advance, cause, stage, hshutdown, hreported⟩

/-- A step takes something from what is left, or leaves it as it was. -/
theorem Coherent.remaining_does (hcoherent : worker.Coherent callbacks)
    (hdoes : Does worker attempt after) :
    after.remaining < worker.remaining
      ∨ after.phase = worker.phase ∧ after.shutdown = worker.shutdown := by
  cases hdoes with
  | nothing => exact .inr ⟨rfl, rfl⟩
  | leaves hphase =>
      left
      simp only [remaining, stage?, hphase, LoopPhase.left]
      omega
  | releases hphase =>
      left
      simp only [remaining, stage?, hphase, LoopPhase.left]
      omega
  | enters hrunning =>
      left
      simp [remaining, stage?, hcoherent.running.1 hrunning, ShutdownStage.left]
  | leads hrunning hphase =>
      left
      simp [remaining, stage?, hcoherent.running.1 hrunning, hphase, LoopPhase.left,
        ShutdownStage.left]
  | yields _ hphase =>
      left
      simp only [remaining, stage?, hphase, LoopPhase.left]
      omega
  | stops hshutdown =>
      left
      simp [remaining, stage?, hshutdown, ShutdownStage.left]
  | hushes hshutdown =>
      left
      simp [remaining, stage?, hshutdown, ShutdownStage.left]
  | tells hshutdown =>
      left
      simp [remaining, stage?, hshutdown, ShutdownStage.left]
  | finishes hphase =>
      left
      rcases hphase with hphase | ⟨hphase, -⟩
      · simp only [remaining, stage?, hphase, LoopPhase.left]
        omega
      · simp only [remaining, stage?, hphase, LoopPhase.left]
        omega

/-- Phase and stage alone decide what is left. -/
theorem remaining_of_same (hphase : after.phase = worker.phase)
    (hshutdown : after.shutdown = worker.shutdown) : after.remaining = worker.remaining := by
  rw [remaining, remaining, stage?, stage?, hphase, hshutdown]

/-- A step that is due takes something from what is left. -/
theorem Coherent.remaining_of_due (hcoherent : worker.Coherent callbacks) {duty : Duty}
    (hdue : worker.DueWhen duty) {next : Step} (hdone : duty.isDoneBy next = true)
    (rig : Rig Outlet) : (worker.step rig next).1.remaining < worker.remaining := by
  rcases hcoherent.remaining_does (worker.does_step rig next) with hless | ⟨hphase, hshutdown⟩
  · exact hless
  exfalso
  cases duty with
  | read =>
      obtain ⟨hreading, hreported⟩ := hdue
      cases next with
      | read arrival =>
          have hstop : worker.stop = true := by
            rw [hcoherent.stop, hreported]
            rfl
          have hleft : worker.step rig (.read arrival) = (worker.leave .requested, rig) := by
            show worker.read rig arrival = _
            rw [read, if_neg (not_not_intro hreading), if_pos hstop]
          rw [hleft, hreading] at hphase
          cases hphase
      | _ => cases hdone
  | release =>
      obtain ⟨cause, hleaving⟩ := hdue
      cases next with
      | release =>
          change (worker.release rig).1.phase = _ at hphase
          simp only [release, hleaving] at hphase
          cases hphase
      | _ => cases hdone
  | report =>
      obtain ⟨cause, hreleased⟩ := hdue
      cases next with
      | report =>
          change worker.report.phase = _ at hphase
          simp only [report, hreleased, enter_eq] at hphase
          by_cases hstate : worker.state = .running
          · rw [if_pos hstate] at hphase
            cases hphase
          · rw [if_neg hstate] at hphase
            cases hphase
      | _ => cases hdone
  | advance =>
      obtain ⟨cause, stage, hentered, hearlier⟩ := hdue
      cases next with
      | advance =>
          change (worker.advance rig).1.shutdown = _ at hshutdown
          cases stage with
          | reported => exact hearlier rfl
          | _ =>
              simp only [advance, hentered] at hshutdown
              cases hshutdown
      | _ => cases hdone
  | finish =>
      cases next with
      | finish =>
          have hfinished : worker.finish.phase = .finished := by
            rcases hdue with hleaderless | ⟨hending, hreported⟩
            · simp only [finish, hleaderless, if_true]
            · obtain ⟨⟨cause, stage⟩, hentered, rfl⟩ := Option.map_eq_some_iff.1 hreported
              simp only [finish, hending, hentered, if_true]
          change worker.finish.phase = _ at hphase
          rw [hfinished] at hphase
          rcases hdue with hleaderless | ⟨hending, -⟩
          · rw [hleaderless] at hphase
            cases hphase
          · rw [hending] at hphase
            cases hphase
      | _ => cases hdone

/-- While the end has not begun, there are eight. -/
theorem hasBegun_of_remaining (hless : worker.remaining < 8) : worker.HasBegun := by
  by_cases hphase : worker.phase = .reading
  · cases hshutdown : worker.shutdown with
    | none =>
        rw [remaining, stage?, hphase, hshutdown] at hless
        exact absurd hless (Nat.lt_irrefl 8)
    | some entered => exact .inr (by rw [hshutdown]; exact nofun)
  · exact .inl hphase

/-- When nothing is left, all is over. -/
theorem isOver_of_remaining (hnone : worker.remaining = 0) : worker.IsOver := by
  have hphase : worker.phase.left = 0 := by
    unfold remaining at hnone
    omega
  have hstage : worker.stage?.elim 4 ShutdownStage.left = 0 := by
    unfold remaining at hnone
    omega
  refine ⟨?_, ?_⟩
  · cases hnow : worker.phase with
    | finished => rfl
    | _ =>
        rw [hnow] at hphase
        cases hphase
  · cases hnow : worker.stage? with
    | none =>
        rw [hnow] at hstage
        cases hstage
    | some stage =>
        rw [hnow] at hstage
        cases stage with
        | reported => rfl
        | _ => cases hstage

/-- Once the end has begun, there are at most seven phases and stages left. -/
theorem HasBegun.remaining_le (hbegun : worker.HasBegun) : worker.remaining ≤ 7 := by
  have hphase : worker.phase.left ≤ 4 := by
    cases worker.phase with
    | reading => exact Nat.le_refl 4
    | _ => simp [LoopPhase.left]
  have hstage : worker.stage?.elim 4 ShutdownStage.left ≤ 4 := by
    cases worker.stage? with
    | none => exact Nat.le_refl 4
    | some stage =>
        cases stage with
        | _ => simp [ShutdownStage.left]
  unfold remaining
  rcases hbegun with hleft | hentered
  · have hless : worker.phase.left ≤ 3 := by
      cases hnow : worker.phase with
      | reading => exact absurd hnow hleft
      | _ => simp [LoopPhase.left]
    omega
  · obtain ⟨⟨cause, stage⟩, hshutdown⟩ := Option.ne_none_iff_exists'.1 hentered
    have hless : worker.stage?.elim 4 ShutdownStage.left ≤ 3 := by
      rw [stage?, hshutdown]
      cases stage with
      | _ => simp [ShutdownStage.left]
    omega

end Worker

end Luminaire
