/-
The handshake attempts of a listener.

Attempts are numbered as they begin, so the number that is due is never
under way (`numbered_run`), and whatever becomes of the latest attempt
leaves the earlier ones alone (`Handles`). A datagram that is no message
at all leaves the listener as it was; a hello without a cookie is answered
with the request for one, and with the cookie it begins an attempt.
-/
import Mathlib.Data.List.Induction
import Luminaire.Server.Listener
import Luminaire.Proofs.Handshake.Confirmation

namespace Luminaire

/-- Whoever waits for the closing code does so on an open session. -/
def AttemptPhase.Steady : AttemptPhase → Prop
  | .awaiting unconfirmed => unconfirmed.session.closed = false
  | _ => True

namespace Listener

variable {listener : Listener}

-- ============================================================ numbers

/-- No attempt has the number that is due, or one behind it. -/
def Numbered (listener : Listener) : Prop :=
  ∀ attempt ∈ listener.attempts, attempt.id < listener.nextId

/-- Moving an attempt on leaves its number. -/
theorem Numbered.setPhase (hnumbered : listener.Numbered) (id : ConnectionId)
    (phase : AttemptPhase) : (listener.setPhase id phase).Numbered := by
  intro attempt hattempt
  obtain ⟨before, hbefore, rfl⟩ := List.mem_map.1 hattempt
  have hlt : before.id < listener.nextId := hnumbered before hbefore
  split
  · exact hlt
  · exact hlt

theorem Numbered.forget (hnumbered : listener.Numbered) (id : ConnectionId) :
    (listener.forget id).Numbered :=
  fun attempt hattempt => hnumbered attempt (List.mem_filter.1 hattempt).1

/-- Workers make no difference to attempts. -/
theorem attempts_stepWorker (listener : Listener) (id : ConnectionId) (next : Worker.Step) :
    (listener.stepWorker id next).attempts = listener.attempts
      ∧ (listener.stepWorker id next).nextId = listener.nextId := by
  unfold stepWorker
  split
  · exact ⟨rfl, rfl⟩
  · exact ⟨rfl, rfl⟩

theorem Numbered.stepWorker (hnumbered : listener.Numbered) (id : ConnectionId)
    (next : Worker.Step) : (listener.stepWorker id next).Numbered := by
  obtain ⟨hattempts, hnext⟩ := listener.attempts_stepWorker id next
  unfold Numbered
  rw [hattempts, hnext]
  exact hnumbered

theorem Numbered.foldl {step : Listener → ConnectionId → Listener}
    (hstep : ∀ listener id, Numbered listener → (step listener id).Numbered)
    (hnumbered : listener.Numbered) (ids : List ConnectionId) :
    (ids.foldl step listener).Numbered := by
  induction ids generalizing listener with
  | nil => exact hnumbered
  | cons id ids ih => exact ih (hstep listener id hnumbered)

theorem Numbered.arrive (hnumbered : listener.Numbered) (peer : SocketAddress)
    (datagram : Bytes) (able : Bool) : (listener.arrive peer datagram able).1.Numbered := by
  unfold Listener.arrive
  split
  · split
    · split
      · exact hnumbered
      · unfold greeted
        split
        · split
          · exact hnumbered
          · split
            · intro attempt hattempt
              rcases List.mem_append.1 hattempt with hold | hnew
              · exact Nat.lt_succ_of_lt (hnumbered attempt hold)
              · rw [List.mem_singleton.1 hnew]
                exact Nat.lt_succ_self _
            · exact fun attempt hattempt => Nat.lt_succ_of_lt (hnumbered attempt hattempt)
        · exact hnumbered
    · exact hnumbered
  · exact hnumbered

theorem Numbered.answer (hnumbered : listener.Numbered) (attempt : Attempt) :
    (listener.answer attempt).1.Numbered := by
  unfold Listener.answer
  simp only
  split
  · exact Numbered.forget hnumbered attempt.id
  · exact Numbered.forget hnumbered attempt.id
  · exact Numbered.setPhase hnumbered attempt.id _

theorem Numbered.confirm (hnumbered : listener.Numbered) (attempt : Attempt)
    (unconfirmed : Unconfirmed) (datagram : Bytes) :
    (listener.confirm attempt unconfirmed datagram).1.Numbered := by
  unfold Listener.confirm
  split
  · exact hnumbered.setPhase attempt.id _
  · exact hnumbered.forget attempt.id
  · exact hnumbered.setPhase attempt.id _

theorem Numbered.startWorker (hnumbered : listener.Numbered) (attempt : Attempt)
    (session : Session) (able : Bool) :
    (listener.startWorker attempt session able).Numbered := by
  unfold Listener.startWorker
  split
  · exact Numbered.setPhase hnumbered attempt.id .started
  · exact hnumbered.forget attempt.id

theorem Numbered.enlist (hnumbered : listener.Numbered) (attempt : Attempt) :
    (listener.enlist attempt).Numbered := by
  unfold Listener.enlist
  split
  · exact (hnumbered.stepWorker attempt.id .drop).setPhase attempt.id .dropping
  · exact Numbered.forget hnumbered attempt.id

theorem Numbered.close (hnumbered : listener.Numbered) : listener.close.Numbered := by
  unfold Listener.close
  split
  · exact hnumbered
  · exact hnumbered
  · refine Numbered.foldl (fun other id hother => ?_) ?_ listener.active
    · exact (hother.stepWorker id .signal).stepWorker id .drop
    · exact hnumbered
  · split
    · exact hnumbered
    · exact hnumbered
  · exact hnumbered

/-- Whatever happens to a listener, the number that is due stays free. -/
theorem Numbered.step (hnumbered : listener.Numbered) (next : Step) :
    (listener.step next).1.Numbered := by
  cases next with
  | arrive peer datagram able => exact hnumbered.arrive peer datagram able
  | answer id =>
      simp only [Listener.step]
      split
      · split
        · exact hnumbered.answer _
        · exact hnumbered
      · exact hnumbered
  | confirm id datagram =>
      simp only [Listener.step]
      split
      · split
        · exact hnumbered.confirm _ _ datagram
        · exact hnumbered
      · exact hnumbered
  | expire id =>
      simp only [Listener.step]
      split
      · split
        · exact hnumbered.forget id
        · exact hnumbered
      · exact hnumbered
  | start id able =>
      simp only [Listener.step]
      split
      · split
        · exact hnumbered.startWorker _ _ able
        · exact hnumbered
      · exact hnumbered
  | enlist id =>
      simp only [Listener.step]
      split
      · split
        · exact hnumbered.enlist _
        · split
          · exact hnumbered.forget id
          · exact hnumbered
        · exact hnumbered
      · exact hnumbered
  | worker id step => exact hnumbered.stepWorker id step
  | collect =>
      refine Numbered.foldl (fun other id hother => ?_) ?_ _
      · exact hother.stepWorker id .drop
      · exact hnumbered
  | terminate =>
      show listener.terminate.Numbered
      unfold Listener.terminate
      split
      · exact hnumbered
      · exact hnumbered
  | close => exact hnumbered.close
  | region region frameNumber => exact hnumbered
  | group => exact hnumbered
  | rotate => exact hnumbered

/-- So it does in every run of a listener that has just begun. -/
theorem numbered_run (rig : Rig Outlet) (link : Link) (registry : Registry HandlerKind)
    (cookies : CookieJar) (handshake : ServerHandshake) (steps : List Step) :
    ((new rig link registry cookies handshake).run steps).1.Numbered := by
  unfold run
  induction steps using List.reverseRecOn with
  | nil => exact fun attempt hattempt => absurd hattempt List.not_mem_nil
  | append_singleton steps next ih =>
      rw [List.foldl_append]
      exact ih.step next

-- ============================================================= hellos

section Hellos

variable {peer : SocketAddress} {datagram raw : Bytes} {hello : ClientHello}

/-- What is no message at all leaves the listener as it was. -/
theorem arrive_of_undecodable (listener : Listener) (peer : SocketAddress)
    (hjunk : HandshakeMessage.ofDatagram? datagram = none) (able : Bool) :
    listener.arrive peer datagram able = (listener, []) := by
  unfold Listener.arrive
  rw [hjunk]
  exact ite_self _

/-- A hello without a cookie is asked for one. -/
theorem arrive_without_cookie (haccepting : listener.accepting = true)
    (hmessage : HandshakeMessage.ofDatagram? datagram = some (.clientHello hello, raw))
    (hvalid : hello.validate = .ok ()) (hcookie : hello.cookie = none)
    (htakes : listener.link.takes (verifyRequest listener.cookies peer) = true) (able : Bool) :
    listener.arrive peer datagram able
      = (listener, [⟨.listening, peer, verifyRequest listener.cookies peer⟩]) := by
  unfold Listener.arrive greeted
  simp only [haccepting, hmessage, hvalid, hcookie, htakes, Option.any_none, Bool.false_eq_true,
    if_true, if_false]

/-- A hello with its cookie begins an attempt, if its peer has none. -/
theorem arrive_with_cookie (haccepting : listener.accepting = true)
    (hidle : peer ∉ listener.handshaking)
    (hmessage : HandshakeMessage.ofDatagram? datagram = some (.clientHello hello, raw))
    (hvalid : hello.validate = .ok ())
    (hcookie : hello.cookie = some (listener.cookies.issue peer)) :
    listener.arrive peer datagram true
      = ({ listener with
          handshaking := peer :: listener.handshaking
          nextId := listener.nextId + 1
          attempts := listener.attempts ++ [⟨listener.nextId, peer, hello, raw, .starting⟩] },
        []) := by
  have hverifies := (listener.cookies.verifies_iff peer _).2 rfl
  have hnot : listener.handshaking.contains peer = false := by simpa using hidle
  unfold Listener.arrive greeted
  simp only [haccepting, hmessage, hvalid, hcookie, hverifies, hnot, Option.any_some,
    Bool.false_eq_true, if_true, if_false]

end Hellos

-- =========================================================== attempts

/-- The latest attempt is the only one under its number. -/
structure Handles (listener : Listener) (earlier : List Attempt) (attempt : Attempt) : Prop where
  attempts : listener.attempts = earlier ++ [attempt]
  alone : ∀ other ∈ earlier, other.id ≠ attempt.id

namespace Handles

variable {earlier : List Attempt} {attempt : Attempt}

theorem attempt?_eq (hhandles : listener.Handles earlier attempt) :
    listener.attempt? attempt.id = some attempt := by
  have hnone : earlier.find? (·.id == attempt.id) = none :=
    List.find?_eq_none.2 fun other hother => by simpa using hhandles.alone other hother
  unfold Listener.attempt?
  rw [hhandles.attempts, List.find?_append, hnone, Option.none_or, List.find?_cons_of_pos]
  exact beq_self_eq_true _

/-- Moving the latest attempt on leaves the earlier ones alone. -/
theorem setPhase_eq (hhandles : listener.Handles earlier attempt) (phase : AttemptPhase) :
    listener.setPhase attempt.id phase
      = { listener with attempts := earlier ++ [{ attempt with phase }] } := by
  have hsame : earlier.map (fun other =>
      if other.id = attempt.id then { other with phase } else other) = earlier :=
    (List.map_congr_left fun other hother => if_neg (hhandles.alone other hother)).trans
      (List.map_id' earlier)
  unfold Listener.setPhase
  rw [hhandles.attempts, List.map_append, hsame, List.map_singleton, if_pos rfl]

/-- A datagram that does not open leaves an attempt that waits as it was. -/
theorem confirm_of_ignores (hhandles : listener.Handles earlier attempt)
    {unconfirmed : Unconfirmed} (hphase : attempt.phase = .awaiting unconfirmed)
    (hopen : unconfirmed.session.closed = false) {datagram : Bytes}
    (hignores : unconfirmed.session.Ignores datagram) :
    listener.step (.confirm attempt.id datagram) = (listener, []) := by
  have hstep : listener.confirm attempt unconfirmed datagram = (listener, []) := by
    unfold Listener.confirm
    rw [Unconfirmed.take_of_ignores hopen hignores]
    simp only
    rw [hhandles.setPhase_eq, ← hphase, ← hhandles.attempts]
  unfold Listener.step
  simp only [hhandles.attempt?_eq, hphase]
  exact hstep

/-- An attempt that has answered answers no more. -/
theorem answer_of_ne (hhandles : listener.Handles earlier attempt)
    (hphase : attempt.phase ≠ .starting) :
    listener.step (.answer attempt.id) = (listener, []) := by
  simp only [Listener.step, hhandles.attempt?_eq, hphase, if_false]

end Handles

/-- The number that is due is nobody's. -/
theorem Numbered.attempt?_eq_none (hnumbered : listener.Numbered) :
    listener.attempt? listener.nextId = none :=
  List.find?_eq_none.2 fun attempt hattempt => by
    simpa using Nat.ne_of_lt (hnumbered attempt hattempt)

theorem answer_of_none {id : ConnectionId} (hnone : listener.attempt? id = none) :
    listener.step (.answer id) = (listener, []) := by
  simp only [Listener.step, hnone]

-- =============================================================== junk

/-- A datagram that is junk on the path of an attempt: no genuine record while
the closing code is waited for. -/
def IgnoresOn (listener : Listener) (id : ConnectionId) (datagram : Bytes) : Prop :=
  ∀ attempt unconfirmed, listener.attempt? id = some attempt →
    attempt.phase = .awaiting unconfirmed → unconfirmed.session.Ignores datagram

/-- If the attempt waits for the closing code, it does so on an open session,
and it is the only one under its number. -/
def Steady (listener : Listener) (id : ConnectionId) : Prop :=
  ∀ attempt, listener.attempt? id = some attempt →
    attempt.phase.Steady ∧ ∃ earlier, listener.Handles earlier attempt

variable {id : ConnectionId}

theorem steady_of_none (hnone : listener.attempt? id = none) : listener.Steady id := by
  intro attempt hattempt
  rw [hnone] at hattempt
  cases hattempt

theorem Handles.steady {earlier : List Attempt} {attempt : Attempt}
    (hhandles : listener.Handles earlier attempt) (hphase : attempt.phase.Steady) :
    listener.Steady attempt.id := by
  intro other hother
  rw [hhandles.attempt?_eq] at hother
  obtain rfl := Option.some.inj hother
  exact ⟨hphase, earlier, hhandles⟩

/-- Junk on the path of an attempt changes nothing. -/
theorem confirm_of_ignores {datagram : Bytes} (hsteady : listener.Steady id)
    (hignores : listener.IgnoresOn id datagram) :
    listener.step (.confirm id datagram) = (listener, []) := by
  cases hattempt : listener.attempt? id with
  | none => simp only [Listener.step, hattempt]
  | some attempt =>
      cases hphase : attempt.phase with
      | awaiting unconfirmed =>
          obtain ⟨hopen, earlier, hhandles⟩ := hsteady attempt hattempt
          have hid : attempt.id = id := by simpa using List.find?_some hattempt
          rw [hphase] at hopen
          rw [← hid]
          exact hhandles.confirm_of_ignores hphase hopen
            (hignores attempt unconfirmed hattempt hphase)
      | _ => simp only [Listener.step, hattempt, hphase]

end Listener

end Luminaire
