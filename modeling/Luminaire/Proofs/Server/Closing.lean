/-
The end of a listener, stage by stage.

Only one step in five matters here: `terminate` asks for the end, and each
`close` carries it a stage further, unless it has to wait (`Closes`). The
state of the listener goes along with the stage (`Closing.state`), and it
is the state that a call for the end asks. So the call that finds the
listener listening is the only one that begins anything, and the stages
follow each other in one order, each once (`past_run`).
-/
import Luminaire.Proofs.Server.Passages

namespace Luminaire

namespace Closing

/-- The state of a listener whose end is that far. -/
def state : Closing → ListenerState
  | .no => .listening
  | .entered | .flagged | .deaf | .emptied _ => .terminating
  | .done => .closed

/-- The stages a listener has come to when its end is that far, oldest first. -/
inductive Past : Closing → List Closing → Prop
  | no : Past .no []
  | entered : Past .entered [.entered]
  | flagged : Past .flagged [.entered, .flagged]
  | deaf : Past .deaf [.entered, .flagged, .deaf]
  | emptied (doomed : List ConnectionId) :
      Past (.emptied doomed) [.entered, .flagged, .deaf, .emptied doomed]
  | done (doomed : List ConnectionId) :
      Past .done [.entered, .flagged, .deaf, .emptied doomed, .done]

/-- They are the first of the five. -/
theorem Past.exists_prefix {closing : Closing} {stages : List Closing}
    (hpast : closing.Past stages) :
    ∃ doomed, stages <+: [.entered, .flagged, .deaf, .emptied doomed, .done] := by
  cases hpast with
  | no => exact ⟨[], _, rfl⟩
  | entered => exact ⟨[], _, rfl⟩
  | flagged => exact ⟨[], _, rfl⟩
  | deaf => exact ⟨[], _, rfl⟩
  | emptied doomed => exact ⟨doomed, _, rfl⟩
  | done doomed => exact ⟨doomed, _, rfl⟩

/-- There are none before the end has begun. -/
theorem Past.eq_nil_iff {closing : Closing} {stages : List Closing}
    (hpast : closing.Past stages) : stages = [] ↔ closing = .no := by
  cases hpast with
  | no => exact iff_of_true rfl rfl
  | _ => exact iff_of_false nofun nofun

/-- And all of them when it is done. -/
theorem Past.of_done {stages : List Closing} (hpast : Past .done stages) :
    ∃ doomed, stages = [.entered, .flagged, .deaf, .emptied doomed, .done] := by
  cases hpast with
  | done doomed => exact ⟨doomed, rfl⟩

end Closing

namespace Listener

variable {listener after : Listener} {next : Listener.Step}

-- ========================================================= single steps

/-- What a step can do for the end of the listener. -/
inductive Closes (listener : Listener) (next : Step) (after : Listener) : Prop where
  | stays (hclosing : after.closing = listener.closing) (hstate : after.state = listener.state)
      (hlate : next = .terminate → listener.state ≠ .listening)
  /-- The call is accepted. -/
  | enters (hnext : next = .terminate) (hlistening : listener.state = .listening)
      (hclosing : after.closing = .entered) (hstate : after.state = .terminating)
  | flags (hbefore : listener.closing = .entered) (hclosing : after.closing = .flagged)
      (hstate : after.state = listener.state)
  | deafens (hbefore : listener.closing = .flagged) (hclosing : after.closing = .deaf)
      (hstate : after.state = listener.state)
  /-- Everybody in the table is told to end. -/
  | empties (hbefore : listener.closing = .deaf)
      (hclosing : after.closing = .emptied listener.active) (hstate : after.state = listener.state)
  /-- There is nobody left to wait for. -/
  | ends {doomed : List ConnectionId} (hbefore : listener.closing = .emptied doomed)
      (hgone : ∀ id ∈ doomed, listener.isGone id = true) (hclosing : after.closing = .done)
      (hstate : listener.state = .terminating → after.state = .closed)

/-- Whoever does not ask for the end and does not carry it on leaves it where it
is. -/
theorem Closes.of_same (hclosing : after.closing = listener.closing)
    (hstate : after.state = listener.state) (hother : next ≠ .terminate) :
    listener.Closes next after :=
  .stays hclosing hstate fun hnext => absurd hnext hother

/-- Steps of workers do. -/
theorem Closes.foldl {step : Listener → ConnectionId → Listener}
    (hstep : ∀ (listener : Listener) id, ∃ rig workers finished,
      step listener id = { listener with rig, workers, finished })
    (ids : List ConnectionId) {start : Listener} (hclosing : start.closing = listener.closing)
    (hstate : start.state = listener.state) (hother : next ≠ .terminate) :
    listener.Closes next (ids.foldl step start) := by
  obtain ⟨rig, workers, finished, hfold⟩ := exists_foldl hstep ids start
  rw [hfold]
  exact .of_same hclosing hstate hother

theorem closes_arrive (listener : Listener) (peer : SocketAddress) (datagram : Bytes)
    (able : Bool) :
    listener.Closes (.arrive peer datagram able) (listener.arrive peer datagram able).1 := by
  have hsame : listener.Closes (.arrive peer datagram able) listener := .of_same rfl rfl (by simp)
  unfold arrive
  split
  · split
    · split
      · exact hsame
      · unfold greeted
        split
        · split
          · exact hsame
          · split
            · exact .of_same rfl rfl (by simp)
            · exact .of_same rfl rfl (by simp)
        · exact hsame
    · exact hsame
  · exact hsame

theorem closes_answer (listener : Listener) (attempt : Attempt) (hother : next ≠ .terminate) :
    listener.Closes next (listener.answer attempt).1 := by
  unfold answer
  simp only
  split
  · exact .of_same rfl rfl hother
  · exact .of_same rfl rfl hother
  · exact .of_same rfl rfl hother

theorem closes_confirm (listener : Listener) (attempt : Attempt) (unconfirmed : Unconfirmed)
    (datagram : Bytes) (hother : next ≠ .terminate) :
    listener.Closes next (listener.confirm attempt unconfirmed datagram).1 := by
  unfold confirm
  split
  · exact .of_same rfl rfl hother
  · exact .of_same rfl rfl hother
  · exact .of_same rfl rfl hother

theorem closes_start (listener : Listener) (attempt : Attempt) (session : Session) (able : Bool)
    (hother : next ≠ .terminate) :
    listener.Closes next (listener.startWorker attempt session able) := by
  unfold startWorker
  split
  · exact .of_same rfl rfl hother
  · exact .of_same rfl rfl hother

theorem closes_enlist (listener : Listener) (attempt : Attempt) (hother : next ≠ .terminate) :
    listener.Closes next (listener.enlist attempt) := by
  unfold enlist
  split
  · obtain ⟨rig, workers, finished, hdrop⟩ := listener.exists_stepWorker attempt.id .drop
    rw [hdrop]
    exact .of_same rfl rfl hother
  · exact .of_same rfl rfl hother

/-- A call for the end begins it if the listener listens. -/
theorem closes_terminate (listener : Listener) :
    listener.Closes .terminate listener.terminate := by
  unfold terminate transition
  cases hstate : listener.state with
  | listening => exact .enters rfl hstate rfl rfl
  | initializing => exact .stays rfl rfl (fun _ => by rw [hstate]; exact nofun)
  | terminating => exact .stays rfl rfl (fun _ => by rw [hstate]; exact nofun)
  | closed => exact .stays rfl rfl (fun _ => by rw [hstate]; exact nofun)

theorem closes_close (listener : Listener) : listener.Closes .close listener.close := by
  unfold close
  split
  next hbefore => exact .flags hbefore rfl rfl
  next hbefore => exact .deafens hbefore rfl rfl
  next hbefore =>
    obtain ⟨rig, workers, finished, hdoom⟩ := exists_foldl exists_doom listener.active
      { listener with active := [], closing := .emptied listener.active }
    rw [hdoom]
    exact .empties hbefore rfl rfl
  next doomed hbefore =>
    split
    next hgone =>
      refine .ends hbefore (List.all_eq_true.1 hgone) rfl fun hstate => ?_
      simp only [hstate]
      rfl
    · exact .of_same rfl rfl (by simp)
  · exact .of_same rfl rfl (by simp)

/-- There is nothing else that a step can do for it. -/
theorem closes_step (listener : Listener) (next : Step) :
    listener.Closes next (listener.step next).1 := by
  have hsame : ∀ {next : Step}, next ≠ .terminate → listener.Closes next listener :=
    fun hother => .of_same rfl rfl hother
  cases next with
  | arrive peer datagram able => exact listener.closes_arrive peer datagram able
  | answer id =>
      simp only [step]
      split
      · split
        · exact listener.closes_answer _ (by simp)
        · exact hsame (by simp)
      · exact hsame (by simp)
  | confirm id datagram =>
      simp only [step]
      split
      · split
        · exact listener.closes_confirm _ _ datagram (by simp)
        · exact hsame (by simp)
      · exact hsame (by simp)
  | expire id =>
      simp only [step]
      split
      · split
        · exact .of_same rfl rfl (by simp)
        · exact hsame (by simp)
      · exact hsame (by simp)
  | start id able =>
      simp only [step]
      split
      · split
        · exact listener.closes_start _ _ able (by simp)
        · exact hsame (by simp)
      · exact hsame (by simp)
  | enlist id =>
      simp only [step]
      split
      · split
        · exact listener.closes_enlist _ (by simp)
        · split
          · exact .of_same rfl rfl (by simp)
          · exact hsame (by simp)
        · exact hsame (by simp)
      · exact hsame (by simp)
  | worker id next =>
      obtain ⟨rig, workers, finished, hstep⟩ := listener.exists_stepWorker id next
      show listener.Closes _ (listener.stepWorker id next)
      rw [hstep]
      exact .of_same rfl rfl (by simp)
  | collect =>
      exact .foldl (fun listener id => listener.exists_stepWorker id .drop) _ rfl rfl (by simp)
  | terminate => exact listener.closes_terminate
  | close => exact listener.closes_close
  | region region frameNumber => exact .of_same rfl rfl (by simp)
  | group => exact .of_same rfl rfl (by simp)
  | rotate => exact .of_same rfl rfl (by simp)

-- ================================================================= runs

/-- The stages that the end of a listener comes to in a run, in order. -/
def stages (listener : Listener) (steps : List Step) : List Closing :=
  listener.along (fun listener next =>
    if (listener.step next).1.closing = listener.closing then []
    else [(listener.step next).1.closing]) steps

/-- The stage and the state of a listener are as its past says. -/
structure Aligned (listener : Listener) (stages : List Closing) : Prop where
  past : listener.closing.Past stages
  state : listener.state = listener.closing.state

/-- A step keeps them so. -/
theorem Aligned.step {stages : List Closing} (haligned : listener.Aligned stages) (next : Step) :
    (listener.step next).1.Aligned (stages
      ++ if (listener.step next).1.closing = listener.closing then []
        else [(listener.step next).1.closing]) := by
  have hpast := haligned.past
  have hbegun := haligned.state
  cases listener.closes_step next with
  | stays hclosing hstate =>
      rw [if_pos hclosing, List.append_nil]
      exact ⟨by rw [hclosing]; exact hpast, by rw [hstate, hclosing]; exact hbegun⟩
  | enters hnext hlistening hclosing hstate =>
      rw [hlistening] at hbegun
      cases hbefore : listener.closing with
      | no =>
          rw [hbefore] at hpast
          cases hpast
          rw [hclosing]
          exact ⟨by rw [hclosing]; exact .entered, by rw [hstate, hclosing]; rfl⟩
      | _ =>
          rw [hbefore] at hbegun
          cases hbegun
  | flags hbefore hclosing hstate =>
      rw [hbefore] at hpast hbegun
      cases hpast
      rw [hclosing, hbefore]
      exact ⟨by rw [hclosing]; exact .flagged, by rw [hstate, hclosing, hbegun]; rfl⟩
  | deafens hbefore hclosing hstate =>
      rw [hbefore] at hpast hbegun
      cases hpast
      rw [hclosing, hbefore]
      exact ⟨by rw [hclosing]; exact .deaf, by rw [hstate, hclosing, hbegun]; rfl⟩
  | empties hbefore hclosing hstate =>
      rw [hbefore] at hpast hbegun
      cases hpast
      rw [hclosing, hbefore]
      exact ⟨by rw [hclosing]; exact .emptied _, by rw [hstate, hclosing, hbegun]; rfl⟩
  | @ends doomed hbefore hgone hclosing hstate =>
      rw [hbefore] at hpast hbegun
      cases hpast
      rw [hclosing, hbefore]
      exact ⟨by rw [hclosing]; exact .done doomed, by rw [hstate hbegun, hclosing]; rfl⟩

/-- So it is in every run of a listener that has just begun. -/
theorem aligned_run (rig : Rig Outlet) (link : Link) (registry : Registry HandlerKind)
    (cookies : CookieJar) (handshake : ServerHandshake) (steps : List Step) :
    ((new rig link registry cookies handshake).run steps).1.Aligned
      ((new rig link registry cookies handshake).stages steps) := by
  induction steps using List.reverseRecOn with
  | nil => exact ⟨.no, rfl⟩
  | append_singleton steps next ih =>
      unfold stages
      rw [run_snoc, along_snoc]
      exact ih.step next

/-- The end begins with the first call for it. -/
theorem closing_eq_no_iff (rig : Rig Outlet) (link : Link) (registry : Registry HandlerKind)
    (cookies : CookieJar) (handshake : ServerHandshake) (steps : List Step) :
    ((new rig link registry cookies handshake).run steps).1.closing = .no
      ↔ Step.terminate ∉ steps := by
  induction steps using List.reverseRecOn with
  | nil => exact iff_of_true rfl List.not_mem_nil
  | append_singleton steps next ih =>
      have hstate := (aligned_run rig link registry cookies handshake steps).state
      rw [run_snoc, List.mem_append, List.mem_singleton, not_or, ← ih]
      generalize ((new rig link registry cookies handshake).run steps).1 = listener at hstate ⊢
      cases listener.closes_step next with
      | stays hclosing _ hlate =>
          rw [hclosing]
          refine ⟨fun hno => ⟨hno, fun hnext => hlate hnext.symm ?_⟩, And.left⟩
          rw [hstate, hno]
          rfl
      | enters hnext _ hclosing =>
          rw [hclosing]
          exact iff_of_false nofun fun hnone => hnone.2 hnext.symm
      | flags hbefore hclosing =>
          rw [hclosing, hbefore]
          exact iff_of_false nofun nofun
      | deafens hbefore hclosing =>
          rw [hclosing, hbefore]
          exact iff_of_false nofun nofun
      | empties hbefore hclosing =>
          rw [hclosing, hbefore]
          exact iff_of_false nofun nofun
      | ends hbefore _ hclosing =>
          rw [hclosing, hbefore]
          exact iff_of_false nofun nofun

/-- Once done, the end stays done. -/
theorem closing_run_of_done (hdone : listener.closing = .done) (hstate : listener.state = .closed)
    (later : List Step) :
    (listener.run later).1.closing = .done ∧ (listener.run later).1.state = .closed := by
  induction later using List.reverseRecOn with
  | nil => exact ⟨hdone, hstate⟩
  | append_singleton later next ih =>
      rw [run_snoc]
      generalize (listener.run later).1 = listener at ih ⊢
      cases listener.closes_step next with
      | stays hclosing hsame => exact ⟨hclosing.trans ih.1, hsame.trans ih.2⟩
      | enters _ hlistening =>
          rw [ih.2] at hlistening
          cases hlistening
      | flags hbefore => rw [ih.1] at hbefore; cases hbefore
      | deafens hbefore => rw [ih.1] at hbefore; cases hbefore
      | empties hbefore => rw [ih.1] at hbefore; cases hbefore
      | ends hbefore => rw [ih.1] at hbefore; cases hbefore

end Listener

end Luminaire
