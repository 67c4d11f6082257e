/-
What a step can do to the attempts of a listener.

An attempt begins with a hello that returned its cookie; then it waits,
succeeds, fails or breaks down, and one that has succeeded is served and
leaves. A step does at most one of these things to one attempt, and what
it does to the locked peers goes with it (`Passage`). Every step is a
passage (`passage_step`); what holds of attempts and locks in every run is
read off the passages, and not off the steps.

Numbers are given out once, so the attempts and the table never share one
(`Distinct`), and an attempt is found under its own.
-/
import Luminaire.Proofs.Server.Attempts

namespace Luminaire

namespace AttemptPhase

/-- The handshake is still in progress. -/
def inProgress : AttemptPhase → Bool
  | .starting | .awaiting _ => true
  | _ => false

/-- The attempt has no worker yet. -/
def isEarly : AttemptPhase → Bool
  | .starting | .awaiting _ | .accepted _ => true
  | _ => false

end AttemptPhase

namespace Listener

variable {listener after : Listener} {next : Listener.Step}

-- ================================================================ runs

theorem run_snoc (listener : Listener) (steps : List Step) (next : Step) :
    (listener.run (steps ++ [next])).1 = ((listener.run steps).1.step next).1 := by
  unfold run
  rw [List.foldl_append]
  rfl

/-- What is sent in a run is sent in its steps. -/
theorem run_snoc_snd (listener : Listener) (steps : List Step) (next : Step) :
    (listener.run (steps ++ [next])).2
      = (listener.run steps).2 ++ ((listener.run steps).1.step next).2 := by
  unfold run
  rw [List.foldl_append]
  rfl

theorem run_append (listener : Listener) (earlier later : List Step) :
    (listener.run (earlier ++ later)).1 = ((listener.run earlier).1.run later).1 := by
  induction later using List.reverseRecOn with
  | nil => exact congrArg (fun steps => (listener.run steps).1) (List.append_nil earlier)
  | append_singleton later next ih => rw [← List.append_assoc, run_snoc, ih, run_snoc]

theorem run_cons (listener : Listener) (next : Step) (steps : List Step) :
    (listener.run (next :: steps)).1 = ((listener.step next).1.run steps).1 :=
  listener.run_append [next] steps

/-- What is found at the steps of a run, in order. -/
def along {α : Type} (find : Listener → Step → List α) (listener : Listener) :
    List Step → List α
  | [] => []
  | next :: steps => find listener next ++ along find (listener.step next).1 steps

theorem along_append {α : Type} (find : Listener → Step → List α) (listener : Listener)
    (earlier later : List Step) :
    listener.along find (earlier ++ later)
      = listener.along find earlier ++ (listener.run earlier).1.along find later := by
  induction earlier generalizing listener with
  | nil => rfl
  | cons first earlier ih =>
      rw [List.cons_append, along, ih, along, run_cons, List.append_assoc]

theorem along_snoc {α : Type} (find : Listener → Step → List α) (listener : Listener)
    (steps : List Step) (next : Step) :
    listener.along find (steps ++ [next])
      = listener.along find steps ++ find (listener.run steps).1 next := by
  rw [along_append]
  exact congrArg (_ ++ ·) (List.append_nil _)

/-- The step of a worker changes the rig, the workers and the list of the
finished. -/
theorem exists_stepWorker (listener : Listener) (id : ConnectionId) (next : Worker.Step) :
    ∃ rig workers finished,
      listener.stepWorker id next = { listener with rig, workers, finished } := by
  unfold stepWorker
  split
  · exact ⟨_, _, _, rfl⟩
  · exact ⟨_, _, _, rfl⟩

/-- So do the steps of several. -/
theorem exists_foldl {step : Listener → ConnectionId → Listener}
    (hstep : ∀ (listener : Listener) id, ∃ rig workers finished,
      step listener id = { listener with rig, workers, finished })
    (ids : List ConnectionId) (listener : Listener) :
    ∃ rig workers finished,
      ids.foldl step listener = { listener with rig, workers, finished } := by
  induction ids generalizing listener with
  | nil => exact ⟨_, _, _, rfl⟩
  | cons id ids ih =>
      obtain ⟨rig, workers, finished, hfirst⟩ := hstep listener id
      obtain ⟨rig', workers', finished', hrest⟩ := ih (step listener id)
      refine ⟨rig', workers', finished', ?_⟩
      rw [List.foldl_cons, hrest, hfirst]

theorem exists_doom (listener : Listener) (id : ConnectionId) :
    ∃ rig workers finished, listener.doom id = { listener with rig, workers, finished } := by
  obtain ⟨rig, workers, finished, hsignal⟩ := listener.exists_stepWorker id .signal
  obtain ⟨rig', workers', finished', hdrop⟩ :=
    (listener.stepWorker id .signal).exists_stepWorker id .drop
  refine ⟨rig', workers', finished', ?_⟩
  unfold doom
  rw [hdrop, hsignal]

/-- The path, the registry, the cookies and what is brought to handshakes are
those of the listener before. -/
def Frame (before after : Listener) : Prop :=
  after = { after with
    link := before.link
    registry := before.registry
    cookies := before.cookies
    handshake := before.handshake }

-- ============================================================ passages

/-- The peer whose attempt breaks down over its secret in this step. -/
def breakdown? (listener : Listener) : Step → Option SocketAddress
  | .answer id =>
      match listener.attempt? id with
      | some attempt =>
          if attempt.phase = .starting
              ∧ (listener.handshake.answer listener.link attempt.hello attempt.raw
                listener.rig.venue.entropy).progress = .crashed then some attempt.peer
          else none
      | none => none
  | _ => none

/-- Whether a step is the arrival of a datagram. Only arrivals use up numbers. -/
def Step.isArrival : Step → Bool
  | .arrive .. => true
  | _ => false

/-- What a step does to the attempts and to the locked peers. The last index is
the peer whose attempt breaks down. -/
inductive Passage (listener : Listener) (next : Step) (after : Listener) :
    Option SocketAddress → Prop where
  | still (hattempts : after.attempts = listener.attempts)
      (hlocks : after.handshaking = listener.handshaking)
      (hnumber : listener.nextId ≤ after.nextId) (hframe : listener.Frame after)
      (hbound : after.nextId ≤ listener.nextId + [next].countP Step.isArrival) :
      Passage listener next after none
  /-- A hello returned its cookie. -/
  | begins {peer : SocketAddress} {datagram raw : Bytes} {hello : ClientHello}
      (hnext : next = .arrive peer datagram true)
      (hmessage : HandshakeMessage.ofDatagram? datagram = some (.clientHello hello, raw))
      (hvalid : hello.validate = .ok ())
      (hcookie : hello.cookie = some (listener.cookies.issue peer))
      (hidle : peer ∉ listener.handshaking)
      (hafter : after = { listener with
        handshaking := peer :: listener.handshaking
        nextId := listener.nextId + 1
        attempts := listener.attempts ++ [⟨listener.nextId, peer, hello, raw, .starting⟩] }) :
      Passage listener next after none
  | waits {attempt : Attempt} {unconfirmed : Unconfirmed}
      (hfound : listener.attempt? attempt.id = some attempt)
      (hprogress : attempt.phase.inProgress = true)
      (hattempts : after.attempts
        = (listener.setPhase attempt.id (.awaiting unconfirmed)).attempts)
      (hlocks : after.handshaking = listener.handshaking)
      (hnumber : after.nextId = listener.nextId) (hframe : listener.Frame after) :
      Passage listener next after none
  | succeeds {attempt : Attempt} {session : Session}
      (hfound : listener.attempt? attempt.id = some attempt)
      (hprogress : attempt.phase.inProgress = true)
      (hattempts : after.attempts = (listener.setPhase attempt.id (.accepted session)).attempts)
      (hlocks : after.handshaking = (listener.unlock attempt.peer).handshaking)
      (hnumber : after.nextId = listener.nextId) (hframe : listener.Frame after) :
      Passage listener next after none
  | fails {attempt : Attempt} (hfound : listener.attempt? attempt.id = some attempt)
      (hprogress : attempt.phase.inProgress = true)
      (hattempts : after.attempts = (listener.forget attempt.id).attempts)
      (hlocks : after.handshaking = (listener.unlock attempt.peer).handshaking)
      (hnumber : after.nextId = listener.nextId) (hframe : listener.Frame after) :
      Passage listener next after none
  /-- The attempt is gone, and its peer stays locked. -/
  | breaks {attempt : Attempt} (hfound : listener.attempt? attempt.id = some attempt)
      (hprogress : attempt.phase.inProgress = true)
      (hattempts : after.attempts = (listener.forget attempt.id).attempts)
      (hlocks : after.handshaking = listener.handshaking)
      (hnumber : after.nextId = listener.nextId) (hframe : listener.Frame after) :
      Passage listener next after (some attempt.peer)
  /-- The worker of an attempt is started or dropped. -/
  | serves {attempt : Attempt} {phase : AttemptPhase}
      (hfound : listener.attempt? attempt.id = some attempt)
      (hprogress : attempt.phase.inProgress = false) (hlate : phase.isEarly = false)
      (hattempts : after.attempts = (listener.setPhase attempt.id phase).attempts)
      (hlocks : after.handshaking = listener.handshaking)
      (hnumber : after.nextId = listener.nextId) (hframe : listener.Frame after) :
      Passage listener next after none
  /-- The attempt is over; behind a worker that came too late it waits. -/
  | leaves {attempt : Attempt} (hfound : listener.attempt? attempt.id = some attempt)
      (hprogress : attempt.phase.inProgress = false)
      (hgone : attempt.phase = .dropping → listener.isGone attempt.id = true)
      (hattempts : after.attempts = (listener.forget attempt.id).attempts)
      (hlocks : after.handshaking = listener.handshaking)
      (hnumber : after.nextId = listener.nextId) (hframe : listener.Frame after) :
      Passage listener next after none

/-- Nothing has happened to the attempts if only the rig, the workers and the
books of the finished have changed. -/
theorem Passage.of_eq {rig : Rig Outlet} {workers : List Worker} {active : List ConnectionId}
    {finished : List (ConnectionId × ShutdownCause)} {state : ListenerState} {closing : Closing}
    {terminating accepting : Bool}
    (hafter : after = { listener with
      rig, workers, active, finished, state, closing, terminating, accepting }) :
    listener.Passage next after none := by
  subst hafter
  exact .still rfl rfl (Nat.le_refl _) rfl (Nat.le_add_right ..)

/-- Nor if workers take their steps behind that. -/
theorem Passage.foldl {step : Listener → ConnectionId → Listener}
    (hstep : ∀ (listener : Listener) id, ∃ rig workers finished,
      step listener id = { listener with rig, workers, finished })
    (ids : List ConnectionId) {start : Listener} (hattempts : start.attempts = listener.attempts)
    (hlocks : start.handshaking = listener.handshaking) (hnumber : start.nextId = listener.nextId)
    (hframe : listener.Frame start) : listener.Passage next (ids.foldl step start) none := by
  obtain ⟨rig, workers, finished, hfold⟩ := exists_foldl hstep ids start
  have hkept : listener.Frame { start with rig, workers, finished } := by
    unfold Frame at hframe ⊢
    rw [hframe]
  rw [hfold]
  exact .still hattempts hlocks hnumber.ge hkept (Nat.le_add_right_of_le hnumber.le)

theorem passage_arrive (listener : Listener) (peer : SocketAddress) (datagram : Bytes)
    (able : Bool) :
    listener.Passage (.arrive peer datagram able) (listener.arrive peer datagram able).1 none := by
  have hsame : listener.Passage (.arrive peer datagram able) listener none := .of_eq rfl
  unfold arrive
  split
  · split
    next hello raw hmessage =>
      split
      · exact hsame
      next hvalid =>
        unfold greeted
        split
        next hgood =>
          split
          · exact hsame
          next hidle =>
            split
            next hable =>
              subst hable
              obtain ⟨cookie, hcookie, hverifies⟩ := (Option.any_eq_true ..).1 hgood
              rw [(listener.cookies.verifies_iff peer cookie).1 hverifies] at hcookie
              exact .begins rfl hmessage hvalid hcookie (by simpa using hidle) rfl
            · exact .still rfl rfl (Nat.le_succ _) rfl (Nat.le_refl _)
        · exact hsame
    · exact hsame
  · exact hsame

theorem passage_answer {attempt : Attempt} (hfound : listener.attempt? attempt.id = some attempt)
    (hstarting : attempt.phase = .starting) :
    listener.Passage (.answer attempt.id) (listener.answer attempt).1
      (listener.breakdown? (.answer attempt.id)) := by
  have hprogress : attempt.phase.inProgress = true := by rw [hstarting]; rfl
  unfold answer breakdown?
  simp only [hfound, hstarting, true_and]
  cases hanswer : (listener.handshake.answer listener.link attempt.hello attempt.raw
      listener.rig.venue.entropy).progress with
  | failed error =>
      simp only [reduceCtorEq, if_false]
      exact .fails hfound hprogress rfl rfl rfl rfl
  | crashed =>
      simp only [if_true]
      exact .breaks hfound hprogress rfl rfl rfl rfl
  | awaiting unconfirmed =>
      simp only [reduceCtorEq, if_false]
      exact .waits hfound hprogress rfl rfl rfl rfl

theorem passage_confirm {attempt : Attempt} {unconfirmed : Unconfirmed}
    (hfound : listener.attempt? attempt.id = some attempt)
    (hwaiting : attempt.phase = .awaiting unconfirmed) (datagram : Bytes) :
    listener.Passage next (listener.confirm attempt unconfirmed datagram).1 none := by
  have hprogress : attempt.phase.inProgress = true := by rw [hwaiting]; rfl
  unfold confirm
  split
  · exact .waits hfound hprogress rfl rfl rfl rfl
  · exact .fails hfound hprogress rfl rfl rfl rfl
  · exact .succeeds hfound hprogress rfl rfl rfl rfl

theorem passage_start {attempt : Attempt} {session : Session}
    (hfound : listener.attempt? attempt.id = some attempt)
    (haccepted : attempt.phase = .accepted session) (able : Bool) :
    listener.Passage next (listener.startWorker attempt session able) none := by
  have hprogress : attempt.phase.inProgress = false := by rw [haccepted]; rfl
  unfold startWorker
  split
  · have hlate : AttemptPhase.started.isEarly = false := rfl
    exact .serves hfound hprogress hlate rfl rfl rfl rfl
  · exact .leaves hfound hprogress (by rw [haccepted]; exact nofun) rfl rfl rfl rfl

theorem passage_enlist {attempt : Attempt} (hfound : listener.attempt? attempt.id = some attempt)
    (hstarted : attempt.phase = .started) :
    listener.Passage next (listener.enlist attempt) none := by
  have hprogress : attempt.phase.inProgress = false := by rw [hstarted]; rfl
  unfold enlist
  split
  · obtain ⟨rig, workers, finished, hdrop⟩ := listener.exists_stepWorker attempt.id .drop
    rw [hdrop]
    have hlate : AttemptPhase.dropping.isEarly = false := rfl
    exact .serves hfound hprogress hlate rfl rfl rfl rfl
  · exact .leaves hfound hprogress (by rw [hstarted]; exact nofun) rfl rfl rfl rfl

theorem passage_close (listener : Listener) : listener.Passage next listener.close none := by
  unfold close
  split
  · exact .of_eq rfl
  · exact .of_eq rfl
  · exact .foldl exists_doom listener.active rfl rfl rfl rfl
  · split
    · exact .of_eq rfl
    · exact .of_eq rfl
  · exact .of_eq rfl

theorem passage_collect (listener : Listener) :
    listener.Passage next listener.collect.2 none :=
  .foldl (fun listener id => listener.exists_stepWorker id .drop) _ rfl rfl rfl rfl

/-- What is found under a number has that number. -/
theorem id_of_attempt? {id : ConnectionId} {attempt : Attempt}
    (hfound : listener.attempt? id = some attempt) : attempt.id = id := by
  simpa using List.find?_some hfound

/-- Every step is a passage. -/
theorem passage_step (listener : Listener) (next : Step) :
    listener.Passage next (listener.step next).1 (listener.breakdown? next) := by
  have hsame : ∀ {next : Step}, listener.Passage next listener none := .of_eq rfl
  cases next with
  | arrive peer datagram able => exact listener.passage_arrive peer datagram able
  | answer id =>
      cases hfound : listener.attempt? id with
      | none =>
          have hwhole : listener.breakdown? (.answer id) = none := by
            simp only [breakdown?, hfound]
          simp only [step, hfound, hwhole]
          exact hsame
      | some attempt =>
          obtain rfl := id_of_attempt? hfound
          by_cases hstarting : attempt.phase = .starting
          · simp only [step, hfound, hstarting, if_true]
            exact passage_answer hfound hstarting
          · have hwhole : listener.breakdown? (.answer attempt.id) = none := by
              simp only [breakdown?, hfound, hstarting, false_and, if_false]
            simp only [step, hfound, hstarting, if_false, hwhole]
            exact hsame
  | confirm id datagram =>
      show listener.Passage _ _ none
      unfold step
      simp only
      split
      next attempt hfound =>
        obtain rfl := id_of_attempt? hfound
        split
        next unconfirmed hwaiting => exact passage_confirm hfound hwaiting datagram
        · exact hsame
      · exact hsame
  | expire id =>
      show listener.Passage _ _ none
      unfold step
      simp only
      split
      next attempt hfound =>
        obtain rfl := id_of_attempt? hfound
        split
        next unconfirmed hwaiting =>
          exact .fails hfound (by rw [hwaiting]; rfl) rfl rfl rfl rfl
        · exact hsame
      · exact hsame
  | start id able =>
      show listener.Passage _ _ none
      unfold step
      simp only
      split
      next attempt hfound =>
        obtain rfl := id_of_attempt? hfound
        split
        next session haccepted => exact passage_start hfound haccepted able
        · exact hsame
      · exact hsame
  | enlist id =>
      show listener.Passage _ _ none
      unfold step
      simp only
      split
      next attempt hfound =>
        obtain rfl := id_of_attempt? hfound
        split
        next hstarted => exact passage_enlist hfound hstarted
        next hdropping =>
          split
          next hgone =>
            exact .leaves hfound (by rw [hdropping]; rfl) (fun _ => hgone) rfl rfl rfl rfl
          · exact hsame
        · exact hsame
      · exact hsame
  | worker id step =>
      obtain ⟨rig, workers, finished, hstep⟩ := listener.exists_stepWorker id step
      show listener.Passage _ (listener.stepWorker id step) none
      rw [hstep]
      exact .of_eq rfl
  | collect => exact listener.passage_collect
  | terminate =>
      show listener.Passage _ listener.terminate none
      unfold terminate
      split
      · exact hsame
      · exact .of_eq rfl
  | close => exact listener.passage_close
  | region region frameNumber => exact .of_eq rfl
  | group => exact .of_eq rfl
  | rotate => exact .of_eq rfl

/-- No passage touches what the listener was set up with. -/
theorem Passage.frame {broken : Option SocketAddress}
    (hpassage : listener.Passage next after broken) : listener.Frame after := by
  cases hpassage with
  | begins _ _ _ _ _ hafter =>
      rw [hafter]
      rfl
  | _ => assumption

theorem Frame.cookies (hframe : listener.Frame after) : after.cookies = listener.cookies := by
  unfold Frame at hframe
  rw [hframe]

/-- Nor does any run. -/
theorem frame_run (listener : Listener) (steps : List Step) :
    listener.Frame (listener.run steps).1 := by
  induction steps using List.reverseRecOn with
  | nil => rfl
  | append_singleton steps next ih =>
      have hstep := ((listener.run steps).1.passage_step next).frame
      rw [run_snoc]
      unfold Frame at ih hstep ⊢
      rw [hstep, ih]

-- ============================================================= numbers

/-- A step uses up one number at most, and none if nothing arrives. -/
theorem Passage.nextId_le {broken : Option SocketAddress}
    (hpassage : listener.Passage next after broken) :
    after.nextId ≤ listener.nextId + [next].countP Step.isArrival := by
  cases hpassage with
  | still _ _ _ _ hbound => exact hbound
  | begins hnext _ _ _ _ hafter =>
      subst hnext hafter
      exact Nat.le_refl _
  | _ => exact Nat.le_add_right_of_le (Nat.le_of_eq (by assumption))

/-- So a run uses up no more numbers than there are arrivals. -/
theorem nextId_run_le (listener : Listener) (steps : List Step) :
    (listener.run steps).1.nextId ≤ listener.nextId + steps.countP Step.isArrival := by
  induction steps using List.reverseRecOn with
  | nil => exact Nat.le_refl _
  | append_singleton steps next ih =>
      rw [run_snoc, List.countP_append, ← Nat.add_assoc]
      apply Nat.le_trans ((listener.run steps).1.passage_step next).nextId_le
      exact Nat.add_le_add_right ih _

/-- An attempt among the others, the only one under its number. -/
structure Among (listener : Listener) (attempt : Attempt) (before later : List Attempt) :
    Prop where
  attempts : listener.attempts = before ++ attempt :: later
  alone : ∀ other ∈ before ++ later, other.id ≠ attempt.id

namespace Among

variable {attempt : Attempt} {before later : List Attempt}

theorem forget_eq (hamong : listener.Among attempt before later) :
    (listener.forget attempt.id).attempts = before ++ later := by
  have hothers : (before ++ later).filter (·.id ≠ attempt.id) = before ++ later :=
    List.filter_eq_self.2 fun other hother => decide_eq_true (hamong.alone other hother)
  show listener.attempts.filter (·.id ≠ attempt.id) = _
  rw [hamong.attempts, List.filter_append, List.filter_cons_of_neg (by simp),
    ← List.filter_append, hothers]

theorem setPhase_eq (hamong : listener.Among attempt before later) (phase : AttemptPhase) :
    (listener.setPhase attempt.id phase).attempts
      = before ++ { attempt with phase } :: later := by
  have hother : ∀ others : List Attempt, (∀ other ∈ others, other.id ≠ attempt.id) →
      others.map (fun other => if other.id = attempt.id then { other with phase } else other)
        = others :=
    fun others hothers => (List.map_congr_left fun other hother =>
      if_neg (hothers other hother)).trans (List.map_id' others)
  unfold setPhase
  simp only
  rw [hamong.attempts, List.map_append, List.map_cons, if_pos rfl,
    hother before fun other h => hamong.alone other (List.mem_append_left _ h),
    hother later fun other h => hamong.alone other (List.mem_append_right _ h)]

end Among

/-- No two attempts have the same number. -/
def Distinct (listener : Listener) : Prop := (listener.attempts.map Attempt.id).Nodup

/-- So an attempt that is found is the only one under its number. -/
theorem Distinct.exists_among (hdistinct : listener.Distinct) {id : ConnectionId}
    {attempt : Attempt} (hfound : listener.attempt? id = some attempt) :
    ∃ before later, listener.Among attempt before later := by
  obtain ⟨-, before, later, hattempts, -⟩ := List.find?_eq_some_iff_append.1 hfound
  refine ⟨before, later, hattempts, fun other hother hid => ?_⟩
  unfold Distinct at hdistinct
  rw [hattempts, List.map_append, List.map_cons] at hdistinct
  have hnot : attempt.id ∉ before.map Attempt.id ++ later.map Attempt.id :=
    (List.nodup_cons.1 (List.nodup_middle.1 hdistinct)).1
  rw [← List.map_append, ← hid] at hnot
  exact hnot (List.mem_map_of_mem hother)

/-- An attempt takes its number with it, and the others keep theirs. -/
theorem Distinct.passage {broken : Option SocketAddress} (hdistinct : listener.Distinct)
    (hnumbered : listener.Numbered) (hpassage : listener.Passage next after broken) :
    after.Distinct := by
  have hforget : ∀ attempt : Attempt, after.attempts = (listener.forget attempt.id).attempts →
      after.Distinct := by
    intro attempt hattempts
    unfold Distinct
    rw [hattempts]
    exact hdistinct.sublist (List.filter_sublist.map _)
  have hphase : ∀ (attempt : Attempt) phase,
      after.attempts = (listener.setPhase attempt.id phase).attempts → after.Distinct := by
    intro attempt phase hattempts
    have hids : after.attempts.map Attempt.id = listener.attempts.map Attempt.id := by
      rw [hattempts]
      unfold setPhase
      simp only [List.map_map]
      refine List.map_congr_left fun other _ => ?_
      show (if other.id = attempt.id then { other with phase } else other).id = other.id
      split <;> rfl
    unfold Distinct
    rw [hids]
    exact hdistinct
  cases hpassage with
  | still hattempts =>
      unfold Distinct
      rw [hattempts]
      exact hdistinct
  | begins _ _ _ _ _ hafter =>
      rw [hafter]
      unfold Distinct
      rw [List.map_append]
      refine List.Nodup.append hdistinct (List.nodup_singleton _) ?_
      intro id hid hnew
      obtain ⟨attempt, hattempt, rfl⟩ := List.mem_map.1 hid
      exact Nat.ne_of_lt (hnumbered attempt hattempt) (List.mem_singleton.1 hnew)
  | waits _ _ hattempts => exact hphase _ _ hattempts
  | succeeds _ _ hattempts => exact hphase _ _ hattempts
  | serves _ _ _ hattempts => exact hphase _ _ hattempts
  | fails _ _ hattempts => exact hforget _ hattempts
  | breaks _ _ hattempts => exact hforget _ hattempts
  | leaves _ _ _ hattempts => exact hforget _ hattempts

/-- In every run of a listener that has just begun no two attempts have the same
number. -/
theorem distinct_run (rig : Rig Outlet) (link : Link) (registry : Registry HandlerKind)
    (cookies : CookieJar) (handshake : ServerHandshake) (steps : List Step) :
    ((new rig link registry cookies handshake).run steps).1.Distinct := by
  induction steps using List.reverseRecOn with
  | nil => exact List.nodup_nil
  | append_singleton steps next ih =>
      rw [run_snoc]
      exact ih.passage (numbered_run rig link registry cookies handshake steps)
        (passage_step _ next)

end Listener

end Luminaire
