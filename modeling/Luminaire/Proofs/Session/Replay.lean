/-
A hostile network can neither replay records nor disturb a session with
junk.

# The receiver of record

`Session.accept?` is the receiver as one would write it with unlimited
memory: it keeps the list of every number it has accepted, and takes a
datagram exactly if it opens, its number is not on the list, and no
number on the list is sixty-four or more above it. The session keeps
sixty-four bits instead. `ReplayWindow.Tracks` says that nothing is lost
by that, and `receiveRecord_eq` turns it into an equation: what a session
does with a datagram is what the receiver of record does, and a datagram
that is not taken leaves no trace in the session at all.

# Junk

Since junk leaves no trace in the session, taking it out of the traffic
takes it out of the trace of the run and changes nothing else
(`run_genuine`).
-/
import Luminaire.Proofs.Record.Window
import Luminaire.Proofs.Session.Traffic

namespace Luminaire.Session

-- ================================================ the receiver of record

/-- Type, number and content of a datagram that has to be taken by a
receiver that has accepted these numbers. -/
def accept? (incoming : Protection) (accepted : List UInt64) (datagram : Bytes) :
    Option (ContentType × UInt64 × Bytes) :=
  match incoming.openRecord datagram with
  | .error _ => none
  | .ok (content, sequence, plain) =>
      if sequence ∈ accepted
          ∨ ∃ number ∈ accepted, sequence.toNat + 64 ≤ number.toNat then none
      else some (content, sequence, plain)

/-- The accepted numbers after an event, latest first. -/
def remember (incoming : Protection) (accepted : List UInt64) : Event → List UInt64
  | .send _ _ => accepted
  | .arrive datagram =>
      match accept? incoming accepted datagram with
      | none => accepted
      | some (_, sequence, _) => sequence :: accepted
  | .path _ => accepted

/-- The traffic without the datagrams that do not have to be taken. -/
def genuine (incoming : Protection) : (accepted : List UInt64) → List Event → List Event
  | _, [] => []
  | accepted, .send content plain :: events =>
      .send content plain :: genuine incoming accepted events
  | accepted, .arrive datagram :: events =>
      match accept? incoming accepted datagram with
      | none => genuine incoming accepted events
      | some (_, sequence, _) =>
          .arrive datagram :: genuine incoming (sequence :: accepted) events
  | accepted, .path link :: events => .path link :: genuine incoming accepted events

/-- An open session that has accepted exactly these numbers. -/
structure Accepting (session : Session) (accepted : List UInt64) : Prop where
  isOpen : session.closed = false
  tracks : session.window.Tracks accepted

theorem accepting_establish (link : Link) (suite : CipherSuite) (role : Role)
    (keys : SessionKeys) : (establish link suite role keys).Accepting [] :=
  ⟨rfl, ReplayWindow.tracks_empty⟩

-- ========================================================= single events

/-- A session treats a datagram as the receiver of record does, and one
that is not taken leaves it as it was. -/
theorem receiveRecord_eq {session : Session} {accepted : List UInt64}
    (haccepting : session.Accepting accepted) (datagram : Bytes) :
    session.receiveRecord (some datagram)
      = match accept? session.incoming accepted datagram with
        | none => (.ok none, session)
        | some (content, sequence, plain) =>
            (.ok (some (content, plain)),
              { session with window := session.window.mark sequence }) := by
  have hfresh := haccepting.tracks.isFresh_iff
  unfold receiveRecord accept?
  rw [haccepting.isOpen]
  simp only [Bool.false_eq_true, if_false]
  cases session.incoming.openRecord datagram with
  | error fault => rfl
  | ok opened =>
      obtain ⟨content, sequence, plain⟩ := opened
      by_cases hstale : sequence ∈ accepted
          ∨ ∃ number ∈ accepted, sequence.toNat + 64 ≤ number.toNat
      · have hnot : ¬ session.window.isFresh sequence = true := by
          rw [hfresh]
          rintro ⟨hnew, hyoung⟩
          rcases hstale with hmem | ⟨number, hnumber, hold⟩
          · exact hnew hmem
          · have := hyoung number hnumber
            omega
        simp only [hnot, hstale, if_true]
        rfl
      · have hyes : session.window.isFresh sequence = true := by
          rw [hfresh]
          refine ⟨fun hmem => hstale (.inl hmem), fun number hnumber => ?_⟩
          rcases Nat.lt_or_ge number.toNat (sequence.toNat + 64) with hlt | hold
          · exact hlt
          · exact absurd (.inr ⟨number, hnumber, hold⟩) hstale
        simp only [hyes, hstale, if_true, if_false]

/-- An open session stays open, keeps its keys and remembers what the
receiver of record would. -/
theorem Accepting.act {session : Session} {accepted : List UInt64}
    (haccepting : session.Accepting accepted) (event : Event) :
    (session.act event).2.Accepting (remember session.incoming accepted event)
      ∧ (session.act event).2.incoming = session.incoming := by
  cases event with
  | send content plain =>
      rw [act_send, remember]
      rcases session.sendRecord_snd content plain with hsame | hnext
      · rw [hsame]
        exact ⟨haccepting, rfl⟩
      · rw [hnext]
        exact ⟨⟨haccepting.isOpen, haccepting.tracks⟩, rfl⟩
  | arrive datagram =>
      rw [act_arrive, receiveRecord_eq haccepting, remember]
      cases accept? session.incoming accepted datagram with
      | none => exact ⟨haccepting, rfl⟩
      | some opened =>
          obtain ⟨content, sequence, plain⟩ := opened
          exact ⟨⟨haccepting.isOpen, haccepting.tracks.mark sequence⟩, rfl⟩
  | path link => exact ⟨⟨haccepting.isOpen, haccepting.tracks⟩, rfl⟩

/-- What `Accepting.act` says of one event, of a whole run. -/
theorem Accepting.run {session : Session} {accepted : List UInt64}
    (haccepting : session.Accepting accepted) (events : List Event) :
    (session.run events).2.Accepting
        (events.foldl (remember session.incoming) accepted)
      ∧ (session.run events).2.incoming = session.incoming := by
  induction events generalizing session accepted with
  | nil => exact ⟨haccepting, rfl⟩
  | cons event events ih =>
      obtain ⟨hstep, hkeys⟩ := haccepting.act event
      obtain ⟨hrest, hsame⟩ := ih hstep
      rw [run_cons, List.foldl_cons]
      rw [hkeys] at hrest hsame
      exact ⟨hrest, hsame⟩

-- ===================================================== at most once each

/-- The number of a datagram for which something was returned. -/
def returnedNumber? (incoming : Protection) : Event × Report → Option UInt64
  | (.arrive datagram, .received (.ok (some _))) =>
      (incoming.openRecord datagram).toOption.map fun opened => opened.2.1
  | _ => none

/-- The numbers of the datagrams for which something was returned, oldest
first. -/
def returnedNumbers (session : Session) (events : List Event) : List UInt64 :=
  (session.run events).1.filterMap (returnedNumber? session.incoming)

/-- A datagram that has to be taken opens, under a number that is new. -/
theorem of_accept? {incoming : Protection} {accepted : List UInt64}
    {datagram plain : Bytes} {content : ContentType} {sequence : UInt64}
    (haccept : accept? incoming accepted datagram = some (content, sequence, plain)) :
    incoming.openRecord datagram = .ok (content, sequence, plain)
      ∧ sequence ∉ accepted := by
  unfold accept? at haccept
  split at haccept
  · cases haccept
  next hopened =>
    split at haccept
    · cases haccept
    next hnot =>
      cases haccept
      exact ⟨hopened, fun hmem => hnot (.inl hmem)⟩

/-- The receiver of record remembers exactly the numbers for which the
session returned something. -/
theorem foldl_remember {session : Session} {accepted : List UInt64}
    (haccepting : session.Accepting accepted) (events : List Event) :
    events.foldl (remember session.incoming) accepted
      = (session.returnedNumbers events).reverse ++ accepted := by
  induction events generalizing session accepted with
  | nil => rfl
  | cons event events ih =>
      obtain ⟨hstep, hkeys⟩ := haccepting.act event
      have hrest := ih hstep
      unfold returnedNumbers at hrest ⊢
      rw [hkeys] at hrest
      rw [List.foldl_cons, hrest, run_cons]
      cases event with
      | send content plain => rfl
      | path link => rfl
      | arrive datagram =>
          rw [act_arrive, receiveRecord_eq haccepting, remember]
          cases haccept : accept? session.incoming accepted datagram with
          | none => rfl
          | some opened =>
              obtain ⟨content, sequence, plain⟩ := opened
              obtain ⟨hopened, -⟩ := of_accept? haccept
              simp only [List.filterMap_cons, returnedNumber?, hopened, Except.toOption,
                Option.map_some, List.reverse_cons, List.append_assoc, List.cons_append,
                List.nil_append]

/-- The receiver of record never remembers a number twice. -/
theorem nodup_foldl_remember {incoming : Protection} {accepted : List UInt64}
    (hnodup : accepted.Nodup) (events : List Event) :
    (events.foldl (remember incoming) accepted).Nodup := by
  induction events generalizing accepted with
  | nil => exact hnodup
  | cons event events ih =>
      rw [List.foldl_cons]
      apply ih
      cases event with
      | send content plain => exact hnodup
      | path link => exact hnodup
      | arrive datagram =>
          rw [remember]
          cases haccept : accept? incoming accepted datagram with
          | none => exact hnodup
          | some opened =>
              obtain ⟨content, sequence, plain⟩ := opened
              exact List.nodup_cons.2 ⟨(of_accept? haccept).2, hnodup⟩

-- ============================================================== junk

/-- Without the junk a run has the same trace, but for the junk, and ends in
the same session. -/
theorem run_genuine {session : Session} {accepted : List UInt64}
    (haccepting : session.Accepting accepted) (events : List Event) :
    session.run (genuine session.incoming accepted events)
      = ((session.run events).1.filter (·.2 ≠ .received (.ok none)),
          (session.run events).2) := by
  induction events generalizing session accepted with
  | nil => rfl
  | cons event events ih =>
      obtain ⟨hstep, hkeys⟩ := haccepting.act event
      have hrest := ih hstep
      rw [hkeys] at hrest
      cases event with
      | send content plain =>
          simp only [remember] at hrest
          rw [genuine, run_cons, run_cons, hrest]
          rfl
      | path link =>
          simp only [remember] at hrest
          rw [genuine, run_cons, run_cons, hrest]
          rfl
      | arrive datagram =>
          rw [act_arrive, receiveRecord_eq haccepting, remember] at hrest
          rw [genuine, run_cons, act_arrive, receiveRecord_eq haccepting]
          cases haccept : accept? session.incoming accepted datagram with
          | none =>
              simp only [haccept] at hrest ⊢
              rw [hrest, List.filter_cons_of_neg (by simp)]
          | some opened =>
              obtain ⟨content, sequence, plain⟩ := opened
              simp only [haccept] at hrest ⊢
              rw [run_cons, act_arrive, receiveRecord_eq haccepting, haccept]
              rw [hrest, List.filter_cons_of_pos (by simp)]

/-- Whatever a session has sent, over whatever path, and whatever has
arrived at it, it returned something at most once for each number. A
datagram that does not open, or whose number was returned for before or
lies sixty-four or more below such a number, is answered with nothing and
leaves the whole session as it was; any other one is returned and marked.
So the junk in what follows can be taken out, and every other event is
reported as it was with the junk. -/
theorem replay_and_junk_are_dropped (link : Link) (suite : CipherSuite)
    (role : Role) (keys : SessionKeys) (past : List Event) :
    let established := establish link suite role keys
    let session := (established.run past).2
    let accepted := (established.returnedNumbers past).reverse
    (established.returnedNumbers past).Nodup
      ∧ session.closed = false
      ∧ (∀ datagram, session.receiveRecord (some datagram)
          = match accept? established.incoming accepted datagram with
            | none => (.ok none, session)
            | some (content, sequence, plain) =>
                (.ok (some (content, plain)),
                  { session with window := session.window.mark sequence }))
      ∧ ∀ future, session.run (genuine established.incoming accepted future)
          = ((session.run future).1.filter (·.2 ≠ .received (.ok none)),
              (session.run future).2) := by
  intro established session accepted
  have hstart : established.Accepting [] := accepting_establish link suite role keys
  have hnumbers : past.foldl (remember established.incoming) [] = accepted := by
    rw [foldl_remember hstart past, List.append_nil]
  obtain ⟨haccepting, hkeys⟩ := hstart.run past
  rw [hnumbers] at haccepting
  refine ⟨?_, haccepting.isOpen, ?_, ?_⟩
  · have hnodup : (past.foldl (remember established.incoming) []).Nodup :=
      nodup_foldl_remember List.nodup_nil past
    rw [hnumbers] at hnodup
    exact (List.reverse_perm _).nodup_iff.1 hnodup
  · intro datagram
    rw [← hkeys]
    exact receiveRecord_eq haccepting datagram
  · intro future
    rw [← hkeys]
    exact run_genuine haccepting future

end Luminaire.Session
