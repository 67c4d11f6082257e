/-
Which peers a listener has locked.

While a handshake with a peer is in progress, further hellos of that peer
are passed over. Along every run the locked peers are the peers of the
attempts in progress, once each, and beside them those whose attempt broke
down over its secret (`locked_run`): that one way out does not unlock. So
a hello that returned its cookie is passed over exactly if its peer is
locked (`arrive_of_cookie`), and a peer whose attempt has broken down is
locked out for good (`locks_outlive_attempts`).
-/
import Luminaire.Proofs.Server.Passages

namespace Luminaire

/-- The peer that an attempt keeps locked. -/
def Attempt.locks? (attempt : Attempt) : Option SocketAddress :=
  if attempt.phase.inProgress then some attempt.peer else none

theorem AttemptPhase.over_of_late {phase : AttemptPhase} (hlate : phase.isEarly = false) :
    phase.inProgress = false := by
  cases phase with
  | starting => cases hlate
  | awaiting unconfirmed => cases hlate
  | _ => rfl

namespace Attempt

variable {attempt : Attempt}

theorem locks?_of_inProgress (hprogress : attempt.phase.inProgress = true) :
    attempt.locks? = some attempt.peer :=
  if_pos hprogress

theorem locks?_of_over (hover : attempt.phase.inProgress = false) : attempt.locks? = none := by
  unfold locks?
  rw [hover]
  rfl

theorem locks?_eq_some_iff {peer : SocketAddress} :
    attempt.locks? = some peer ↔ attempt.phase.inProgress = true ∧ attempt.peer = peer := by
  unfold locks?
  split
  next hprogress => rw [Option.some.injEq, and_iff_right hprogress]
  next hover => exact iff_of_false nofun fun hpeer => hover hpeer.1

end Attempt

namespace Listener

variable {listener after : Listener} {next : Listener.Step} {stuck : List SocketAddress}

-- ============================================================= breakdowns

/-- Peers whose attempt broke down over its secret, in order. -/
def breakdowns (listener : Listener) (steps : List Step) : List SocketAddress :=
  listener.along (fun listener next => (listener.breakdown? next).toList) steps

theorem breakdowns_snoc (listener : Listener) (steps : List Step) (next : Step) :
    listener.breakdowns (steps ++ [next])
      = listener.breakdowns steps ++ ((listener.run steps).1.breakdown? next).toList :=
  along_snoc ..

-- ================================================================== locks

/-- Peers with an attempt in progress. -/
def engaged (listener : Listener) : List SocketAddress :=
  listener.attempts.filterMap Attempt.locks?

/-- The locks are kept: no peer is locked twice, and those that are have an
attempt in progress or are stuck. -/
structure Locked (listener : Listener) (stuck : List SocketAddress) : Prop where
  nodup : listener.handshaking.Nodup
  perm : listener.handshaking.Perm (listener.engaged ++ stuck)

/-- One attempt and the others make up the engaged peers. -/
theorem engaged_perm {before later : List Attempt} {attempt : Attempt}
    (hattempts : listener.attempts = before ++ attempt :: later) :
    listener.engaged.Perm
      (attempt.locks?.toList ++ (before ++ later).filterMap Attempt.locks?) := by
  unfold engaged
  rw [hattempts]
  refine (List.perm_middle.filterMap Attempt.locks?).trans ?_
  rw [List.filterMap_cons]
  cases attempt.locks? with
  | none => exact .refl _
  | some peer => exact .refl _

/-- The engaged peers around an attempt: with it, with it moved on to a phase,
and without it. -/
theorem Distinct.exists_engaged (hdistinct : listener.Distinct) {id : ConnectionId}
    {attempt : Attempt} (hfound : listener.attempt? id = some attempt) :
    ∃ others, listener.engaged.Perm (attempt.locks?.toList ++ others)
      ∧ (∀ (after : Listener) phase,
        after.attempts = (listener.setPhase attempt.id phase).attempts →
          after.engaged.Perm ((Attempt.locks? { attempt with phase }).toList ++ others))
      ∧ ∀ after : Listener, after.attempts = (listener.forget attempt.id).attempts →
          after.engaged = others := by
  obtain ⟨before, later, hamong⟩ := hdistinct.exists_among hfound
  refine ⟨(before ++ later).filterMap Attempt.locks?, engaged_perm hamong.attempts,
    fun after phase hafter => ?_, fun after hafter => ?_⟩
  · exact engaged_perm (hafter.trans (hamong.setPhase_eq phase))
  · unfold engaged
    rw [hafter, hamong.forget_eq]

/-- Nothing changes for the locks while the same peers are engaged. -/
theorem Locked.of_engaged (hlocked : listener.Locked stuck)
    (hlocks : after.handshaking = listener.handshaking)
    (hengaged : listener.engaged.Perm after.engaged) : after.Locked stuck := by
  refine ⟨?_, ?_⟩
  · rw [hlocks]
    exact hlocked.nodup
  · rw [hlocks]
    exact hlocked.perm.trans (hengaged.append_right stuck)

/-- Unlocking takes away the peer of an attempt that was in progress. -/
theorem Locked.unlock {peer : SocketAddress} {others : List SocketAddress}
    (hlocked : listener.Locked stuck) (hengaged : listener.engaged.Perm (peer :: others))
    (hlocks : after.handshaking = (listener.unlock peer).handshaking)
    (hafter : after.engaged.Perm others) : after.Locked stuck := by
  have hperm : listener.handshaking.Perm (peer :: (others ++ stuck)) :=
    hlocked.perm.trans (hengaged.append_right stuck)
  have hnodup : (peer :: (others ++ stuck)).Nodup := hperm.nodup_iff.1 hlocked.nodup
  have hothers : (others ++ stuck).filter (· ≠ peer) = others ++ stuck := by
    refine List.filter_eq_self.2 fun other hother => decide_eq_true ?_
    rintro rfl
    exact (List.nodup_cons.1 hnodup).1 hother
  refine ⟨?_, ?_⟩
  · rw [hlocks]
    exact hlocked.nodup.filter _
  · rw [hlocks]
    refine (hperm.filter (· ≠ peer)).trans ?_
    rw [List.filter_cons_of_neg (by simp), hothers]
    exact (hafter.append_right stuck).symm

/-- An attempt that breaks down leaves its peer stuck. -/
theorem Locked.breaks {peer : SocketAddress} {others : List SocketAddress}
    (hlocked : listener.Locked stuck) (hengaged : listener.engaged.Perm (peer :: others))
    (hlocks : after.handshaking = listener.handshaking)
    (hafter : after.engaged.Perm others) : after.Locked (stuck ++ [peer]) := by
  refine ⟨?_, ?_⟩
  · rw [hlocks]
    exact hlocked.nodup
  · rw [hlocks]
    refine (hlocked.perm.trans (hengaged.append_right stuck)).trans ?_
    refine List.Perm.trans ?_ ((hafter.append_right (stuck ++ [peer])).symm)
    rw [List.cons_append, ← List.append_assoc]
    exact (List.perm_append_singleton peer _).symm

/-- The locks are kept in every step. -/
theorem Locked.passage {broken : Option SocketAddress} (hlocked : listener.Locked stuck)
    (hdistinct : listener.Distinct) (hpassage : listener.Passage next after broken) :
    after.Locked (stuck ++ broken.toList) := by
  cases hpassage with
  | still hattempts hlocks =>
      rw [Option.toList_none, List.append_nil]
      refine hlocked.of_engaged hlocks ?_
      unfold engaged
      rw [hattempts]
  | @begins peer _ _ _ _ _ _ _ hidle hafter =>
      have hengaged : after.engaged = listener.engaged ++ [peer] := by
        rw [hafter]
        exact List.filterMap_append
      have hlocks : after.handshaking = peer :: listener.handshaking := by rw [hafter]
      rw [Option.toList_none, List.append_nil]
      refine ⟨?_, ?_⟩
      · rw [hlocks]
        exact List.nodup_cons.2 ⟨hidle, hlocked.nodup⟩
      · rw [hlocks, hengaged, List.append_assoc]
        exact (hlocked.perm.cons peer).trans List.perm_middle.symm
  | waits hfound hprogress hattempts hlocks =>
      obtain ⟨others, hengaged, hphase, -⟩ := hdistinct.exists_engaged hfound
      rw [Attempt.locks?_of_inProgress hprogress] at hengaged
      rw [Option.toList_none, List.append_nil]
      exact hlocked.of_engaged hlocks (hengaged.trans (hphase after _ hattempts).symm)
  | succeeds hfound hprogress hattempts hlocks =>
      obtain ⟨others, hengaged, hphase, -⟩ := hdistinct.exists_engaged hfound
      rw [Attempt.locks?_of_inProgress hprogress] at hengaged
      rw [Option.toList_none, List.append_nil]
      exact hlocked.unlock hengaged hlocks (hphase after _ hattempts)
  | fails hfound hprogress hattempts hlocks =>
      obtain ⟨others, hengaged, -, hforget⟩ := hdistinct.exists_engaged hfound
      rw [Attempt.locks?_of_inProgress hprogress] at hengaged
      rw [Option.toList_none, List.append_nil]
      exact hlocked.unlock hengaged hlocks (.of_eq (hforget after hattempts))
  | breaks hfound hprogress hattempts hlocks =>
      obtain ⟨others, hengaged, -, hforget⟩ := hdistinct.exists_engaged hfound
      rw [Attempt.locks?_of_inProgress hprogress] at hengaged
      exact hlocked.breaks hengaged hlocks (.of_eq (hforget after hattempts))
  | @serves attempt phase hfound hprogress hlate hattempts hlocks =>
      obtain ⟨others, hengaged, hphase, -⟩ := hdistinct.exists_engaged hfound
      rw [Attempt.locks?_of_over hprogress] at hengaged
      have hafter := hphase after _ hattempts
      rw [Attempt.locks?_of_over (AttemptPhase.over_of_late hlate)] at hafter
      rw [Option.toList_none, List.append_nil]
      exact hlocked.of_engaged hlocks (hengaged.trans hafter.symm)
  | leaves hfound hprogress _ hattempts hlocks =>
      obtain ⟨others, hengaged, -, hforget⟩ := hdistinct.exists_engaged hfound
      rw [Attempt.locks?_of_over hprogress] at hengaged
      rw [Option.toList_none, List.append_nil]
      exact hlocked.of_engaged hlocks (hengaged.trans (.of_eq (hforget after hattempts).symm))

section Runs

variable (rig : Rig Outlet) (link : Link) (registry : Registry HandlerKind) (cookies : CookieJar)
  (handshake : ServerHandshake) (steps : List Step)

/-- In every run of a listener that has just begun, the locked peers are those
with an attempt in progress and those whose attempt broke down. -/
theorem locked_run :
    ((new rig link registry cookies handshake).run steps).1.Locked
      ((new rig link registry cookies handshake).breakdowns steps) := by
  induction steps using List.reverseRecOn with
  | nil => exact ⟨List.nodup_nil, .refl _⟩
  | append_singleton steps next ih =>
      rw [run_snoc, breakdowns_snoc]
      exact ih.passage (distinct_run rig link registry cookies handshake steps)
        (passage_step _ next)

end Runs

/-- A hello that returned its cookie is passed over exactly if its peer is
locked. -/
theorem arrive_of_cookie {peer : SocketAddress} {datagram raw : Bytes} {hello : ClientHello}
    (haccepting : listener.accepting = true)
    (hmessage : HandshakeMessage.ofDatagram? datagram = some (.clientHello hello, raw))
    (hvalid : hello.validate = .ok ())
    (hcookie : hello.cookie = some (listener.cookies.issue peer)) :
    listener.arrive peer datagram true = (listener, []) ↔ peer ∈ listener.handshaking := by
  by_cases hlocked : peer ∈ listener.handshaking
  · have hverifies := (listener.cookies.verifies_iff peer _).2 rfl
    have hcontains : listener.handshaking.contains peer = true := List.contains_iff_mem.2 hlocked
    refine iff_of_true ?_ hlocked
    unfold arrive greeted
    simp only [haccepting, hmessage, hvalid, hcookie, hverifies, hcontains, Option.any_some,
      if_true]
  · refine iff_of_false (fun hsame => ?_) hlocked
    rw [arrive_with_cookie haccepting hlocked hmessage hvalid hcookie] at hsame
    have hnumber := congrArg (fun outcome => outcome.1.nextId) hsame
    exact Nat.succ_ne_self _ hnumber

/-- An attempt in progress keeps its peer engaged, and no other one does. -/
theorem Locked.unique (hlocked : listener.Locked stuck) {attempt other : Attempt}
    (hattempt : attempt ∈ listener.attempts) (hprogress : attempt.phase.inProgress = true)
    (hother : other ∈ listener.attempts) (hbusy : other.phase.inProgress = true)
    (hpeer : other.peer = attempt.peer) : other = attempt := by
  obtain ⟨before, later, hattempts⟩ := List.append_of_mem hattempt
  have hengaged := engaged_perm hattempts
  rw [Attempt.locks?_of_inProgress hprogress] at hengaged
  have hnodup : (attempt.peer :: (before ++ later).filterMap Attempt.locks?).Nodup :=
    hengaged.nodup_iff.1 (List.nodup_append.1 (hlocked.perm.nodup_iff.1 hlocked.nodup)).1
  by_contra hne
  have hmem : other ∈ before ++ later := by
    rw [hattempts] at hother
    rcases List.mem_append.1 hother with hbefore | hlater
    · exact List.mem_append_left _ hbefore
    · rcases List.mem_cons.1 hlater with hsame | hlater
      · exact absurd hsame hne
      · exact List.mem_append_right _ hlater
  exact (List.nodup_cons.1 hnodup).1
    (List.mem_filterMap.2 ⟨other, hmem, Attempt.locks?_eq_some_iff.2 ⟨hbusy, hpeer⟩⟩)

/-- What is locked, said of single peers. -/
theorem Locked.mem_iff (hlocked : listener.Locked stuck) (peer : SocketAddress) :
    peer ∈ listener.handshaking
      ↔ (∃ attempt ∈ listener.attempts, attempt.phase.inProgress = true ∧ attempt.peer = peer)
        ∨ peer ∈ stuck := by
  rw [hlocked.perm.mem_iff, List.mem_append]
  refine or_congr ?_ Iff.rfl
  unfold engaged
  rw [List.mem_filterMap]
  exact exists_congr fun attempt => and_congr_right fun _ => Attempt.locks?_eq_some_iff

/-- Whatever arrives from whom, and however attempts end: no peer is locked
twice, and a peer is locked exactly if it has an attempt in progress or its
attempt broke down over its secret. No peer has two attempts in progress, and
one whose attempt broke down has none. A hello that returned its cookie is
passed over exactly if its peer is locked. -/
theorem locked_iff_engaged_or_broken (rig : Rig Outlet) (link : Link)
    (registry : Registry HandlerKind) (cookies : CookieJar) (handshake : ServerHandshake)
    (steps : List Step) :
    let begun := new rig link registry cookies handshake
    let after := (begun.run steps).1
    after.handshaking.Nodup
      ∧ (∀ peer, peer ∈ after.handshaking ↔
          (∃ attempt ∈ after.attempts, attempt.phase.inProgress = true ∧ attempt.peer = peer)
            ∨ peer ∈ begun.breakdowns steps)
      ∧ (∀ attempt ∈ after.attempts, attempt.phase.inProgress = true →
          attempt.peer ∉ begun.breakdowns steps
            ∧ ∀ other ∈ after.attempts, other.phase.inProgress = true →
              other.peer = attempt.peer → other = attempt)
      ∧ ∀ peer datagram raw hello, after.accepting = true →
          HandshakeMessage.ofDatagram? datagram = some (.clientHello hello, raw) →
          hello.validate = .ok () → hello.cookie = some (after.cookies.issue peer) →
          (after.arrive peer datagram true = (after, []) ↔ peer ∈ after.handshaking) := by
  intro begun after
  have hlocked := locked_run rig link registry cookies handshake steps
  refine ⟨hlocked.nodup, hlocked.mem_iff, fun attempt hattempt hprogress => ⟨fun hstuck => ?_,
    fun other hother hbusy hpeer => hlocked.unique hattempt hprogress hother hbusy hpeer⟩,
    fun peer datagram raw hello haccepting hmessage hvalid hcookie =>
      arrive_of_cookie haccepting hmessage hvalid hcookie⟩
  have hengaged : attempt.peer ∈ after.engaged :=
    List.mem_filterMap.2 ⟨attempt, hattempt, Attempt.locks?_of_inProgress hprogress⟩
  exact (List.nodup_append.1 (hlocked.perm.nodup_iff.1 hlocked.nodup)).2.2 _ hengaged _ hstuck rfl

-- ============================================================ an example

/-- A listener with randomness for the random of one hello, but not for the
secret behind it. -/
def exhausted : Listener :=
  .new ⟨⟨.empty, ⟨[], .empty⟩, none, 0, List.replicate 32 3⟩, []⟩ .up .empty
    ⟨List.replicate 32 5⟩ ⟨⟨List.replicate 32 6, [[7]]⟩, [.chacha]⟩

def examplePeer : SocketAddress := ⟨.loopback, 6000⟩

/-- The hello of the peer, with its cookie. -/
def exampleHello : ClientHello :=
  ⟨handshakeVersion, List.replicate 32 1, some (exhausted.cookies.issue examplePeer),
    List.replicate 32 9, [.chacha]⟩

def exampleDatagram : Bytes := Cbor.encode (HandshakeMessage.clientHello exampleHello)

/-- The hello arrives, and its attempt breaks down. -/
def exampleSteps : List Step := [.arrive examplePeer exampleDatagram true, .answer 1]

theorem new_exhausted :
    new exhausted.rig .up .empty exhausted.cookies exhausted.handshake = exhausted :=
  rfl

-- One statement, so that the run is evaluated once.
theorem exhausted_run :
    (exhausted.run exampleSteps).1.handshaking = [examplePeer]
      ∧ (exhausted.run exampleSteps).1.attempts = []
      ∧ (exhausted.run exampleSteps).1.accepting = true
      ∧ exhausted.breakdowns exampleSteps = [examplePeer]
      ∧ HandshakeMessage.ofDatagram? exampleDatagram
        = some (.clientHello exampleHello, exampleDatagram) := by
  decide +kernel

/-- Nobody has an attempt in progress, and yet the hello is passed over. -/
theorem locked_out_in_example :
    let after := (exhausted.run exampleSteps).1
    after.attempts = [] ∧ exhausted.breakdowns exampleSteps = [examplePeer]
      ∧ after.arrive examplePeer exampleDatagram true = (after, []) := by
  intro after
  obtain ⟨hlocks, hattempts, haccepting, hbroken, hmessage⟩ := exhausted_run
  have hlockedIff := locked_iff_engaged_or_broken exhausted.rig .up .empty exhausted.cookies
    exhausted.handshake exampleSteps
  rw [new_exhausted] at hlockedIff
  obtain ⟨-, -, -, harrive⟩ := hlockedIff
  have hlocked : examplePeer ∈ (exhausted.run exampleSteps).1.handshaking := by
    rw [hlocks]
    exact List.mem_singleton_self _
  have hcookie : exampleHello.cookie
      = some ((exhausted.run exampleSteps).1.cookies.issue examplePeer) := by
    rw [(exhausted.frame_run exampleSteps).cookies]
    rfl
  exact ⟨hattempts, hbroken, (harrive examplePeer exampleDatagram exampleDatagram exampleHello
    haccepting hmessage rfl hcookie).2 hlocked⟩

/-- So a peer can be locked with no attempt in progress. -/
theorem locks_outlive_attempts :
    ¬ ∀ (rig : Rig Outlet) (link : Link) (registry : Registry HandlerKind) (cookies : CookieJar)
        (handshake : ServerHandshake) (steps : List Step) (peer : SocketAddress),
      let after := ((new rig link registry cookies handshake).run steps).1
      peer ∈ after.handshaking ↔
        ∃ attempt ∈ after.attempts, attempt.phase.inProgress = true ∧ attempt.peer = peer := by
  intro hengaged
  obtain ⟨hlocks, hattempts, -⟩ := exhausted_run
  have hexample := hengaged exhausted.rig .up .empty exhausted.cookies exhausted.handshake
    exampleSteps examplePeer
  simp only [new_exhausted, hlocks, hattempts] at hexample
  obtain ⟨attempt, hattempt, -⟩ := hexample.1 (List.mem_singleton_self _)
  cases hattempt

end Listener

end Luminaire
