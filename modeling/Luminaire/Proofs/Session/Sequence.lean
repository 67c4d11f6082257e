/-
Every record of a session is sealed under a number of its own.

A call is accepted if the session is still open and what is to be sent
fits a record. The accepted calls are numbered from zero, without gaps, and
the number is what their records are sealed under (`handed_eq`). Every
other call is refused: it seals nothing and takes no number. Closing is
accepted once, seals the notice like any other content, and everything
behind it is refused.

Whether the network takes a record is not up to the session: one that it
refuses was sealed, and its number is spent. So `handed` has what a session
gives to the network, which is what leaves as long as the path is up, and
`left` has what the network takes of it (`left?_eq`).
-/
import Luminaire.Proofs.Record.Nonces
import Luminaire.Proofs.Session.Traffic

namespace Luminaire.Session

-- ================================================================ calls

/-- What is done with a session, and what happens to it. -/
inductive Call where
  | send (plain : Bytes)
  | sendRecord (content : ContentType) (plain : Bytes)
  | close
  | arrive (datagram : Bytes)
  /-- The path to the peer comes up or goes down. -/
  | path (link : Link)
  deriving DecidableEq, Repr

/-- What a call asks a session to send. -/
def Call.message? : Call → Option (ContentType × Bytes)
  | .send plain => some (.applicationData, plain)
  | .sendRecord content plain => some (content, plain)
  | .close => some (.alert, closeNotice)
  | .arrive _ => none
  | .path _ => none

/-- What an open session accepts of it. -/
def Call.accepted? (call : Call) : Option (ContentType × Bytes) :=
  call.message?.filter fun message => decide (message.2.length ≤ maxRecordContent)

/-- One call: the record that leaves, if one does, and the session after it. -/
def perform (session : Session) : Call → Option Bytes × Session
  | .send plain => ((session.send plain).1.toOption, (session.send plain).2)
  | .sendRecord content plain =>
      ((session.sendRecord content plain).1.toOption, (session.sendRecord content plain).2)
  | .close => session.close
  | .arrive datagram => (none, (session.receiveRecord (some datagram)).2)
  | .path link => (none, { session with link := link })

/-- The record that leaves at a call. -/
def left? (session : Session) (call : Call) : Option Bytes := (session.perform call).1

/-- The record that a call gives to the network: what leaves over a path that
takes it. -/
def handed? (session : Session) (call : Call) : Option Bytes :=
  { session with link := .up }.left? call

/-- The session after a list of calls. -/
def after (session : Session) : List Call → Session
  | [] => session
  | call :: calls => (session.perform call).2.after calls

/-- What leaves during a list of calls, in order. -/
def left (session : Session) : List Call → List Bytes
  | [] => []
  | call :: calls => (session.left? call).toList ++ (session.perform call).2.left calls

/-- What is given to the network during a list of calls, in order. -/
def handed (session : Session) : List Call → List Bytes
  | [] => []
  | call :: calls => (session.handed? call).toList ++ (session.perform call).2.handed calls

/-- What a session accepts of a list of calls: whatever fits, up to the notice
of the first closing. -/
def accepted : List Call → List (ContentType × Bytes)
  | [] => []
  | .close :: _ => [(.alert, closeNotice)]
  | call :: calls => call.accepted?.toList ++ accepted calls

variable {session : Session} {call : Call} {message : ContentType × Bytes}

theorem after_append (session : Session) (earlier later : List Call) :
    session.after (earlier ++ later) = (session.after earlier).after later := by
  induction earlier generalizing session with
  | nil => rfl
  | cons call earlier ih => exact ih _

theorem handed_append (session : Session) (earlier later : List Call) :
    session.handed (earlier ++ later)
      = session.handed earlier ++ (session.after earlier).handed later := by
  induction earlier generalizing session with
  | nil => rfl
  | cons call earlier ih =>
      rw [List.cons_append, handed, handed, ih, List.append_assoc]
      rfl

-- ============================================================= one call

theorem Call.accepted?_eq_some_iff : call.accepted? = some message
    ↔ call.message? = some message ∧ message.2.length ≤ maxRecordContent := by
  rw [accepted?, Option.filter_eq_some_iff, decide_eq_true_iff]

theorem Call.accepted?_close : Call.close.accepted? = some (.alert, closeNotice) := by
  decide

/-- Closing is never too large. -/
theorem Call.ne_close (hnone : call.accepted? = none) : call ≠ .close := by
  rintro rfl
  rw [accepted?_close] at hnone
  cases hnone

/-- An accepted call seals its message under the next number. -/
theorem perform_of_accepted (hopen : session.closed = false)
    (haccepted : call.accepted? = some message) :
    ∃ record, session.outgoing.sealRecord message.1 session.nextSequence message.2 = .ok record
      ∧ record.length ≤ Link.largestDatagram
      ∧ session.perform call
        = (if session.link.takes record then some record else none,
            { session with
              nextSequence := session.nextSequence + 1
              closed := decide (call = .close) }) := by
  obtain ⟨hmessage, hfits⟩ := Call.accepted?_eq_some_iff.1 haccepted
  obtain ⟨record, hsealed, hshort, hsend⟩ := sendRecord_of_fits hopen message.1 hfits
  refine ⟨record, hsealed, hshort, ?_⟩
  have hsent : (if session.link.takes record then Except.ok record
      else Except.error SessionError.io).toOption
        = if session.link.takes record then some record else none := by
    split
    · rfl
    · rfl
  cases call with
  | send plain =>
      cases hmessage
      simp only [perform, send, hsend, hsent, hopen]
      rfl
  | sendRecord content plain =>
      cases hmessage
      simp only [perform, hsend, hsent, hopen]
      rfl
  | close =>
      cases hmessage
      simp only [perform, close, hopen, hsend, hsent, Bool.false_eq_true, if_false]
      rfl
  | arrive datagram => cases hmessage
  | path link => cases hmessage

/-- What is not accepted changes the path or the window at most, and a session
that was asked to send does not change at all. -/
structure Refuses (session : Session) (call : Call) : Prop where
  nothing : session.left? call = none
  same : ∃ link window, (session.perform call).2
    = { session with link := link, window := window }
  untouched : call.message? ≠ none → (session.perform call).2 = session

theorem refuses_arrive (session : Session) (datagram : Bytes) :
    session.Refuses (.arrive datagram) := by
  obtain ⟨window, hwindow⟩ := session.receiveRecord_snd (some datagram)
  exact ⟨rfl, ⟨session.link, window, hwindow⟩, fun hasked => absurd rfl hasked⟩

theorem refuses_path (session : Session) (link : Link) : session.Refuses (.path link) :=
  ⟨rfl, ⟨link, session.window, rfl⟩, fun hasked => absurd rfl hasked⟩

theorem refuses_of_perform (hperform : session.perform call = (none, session)) :
    session.Refuses call where
  nothing := congrArg Prod.fst hperform
  same := ⟨session.link, session.window, congrArg Prod.snd hperform⟩
  untouched := fun _ => congrArg Prod.snd hperform

theorem refuses_of_not_accepted (hopen : session.closed = false)
    (hrefused : call.accepted? = none) : session.Refuses call := by
  have hlarge : ∀ message, call.message? = some message →
      maxRecordContent < message.2.length := by
    intro message hmessage
    by_contra hfits
    rw [Call.accepted?_eq_some_iff.2 ⟨hmessage, Nat.not_lt.1 hfits⟩] at hrefused
    cases hrefused
  cases call with
  | send plain =>
      refine refuses_of_perform ?_
      rw [perform, send, sendRecord_of_too_large hopen .applicationData (hlarge _ rfl)]
      rfl
  | sendRecord content plain =>
      refine refuses_of_perform ?_
      rw [perform, sendRecord_of_too_large hopen content (hlarge _ rfl)]
      rfl
  | close => exact absurd rfl (Call.ne_close hrefused)
  | arrive datagram => exact session.refuses_arrive datagram
  | path link => exact session.refuses_path link

theorem sendRecord_of_closed (hclosed : session.closed = true) (content : ContentType)
    (plain : Bytes) : session.sendRecord content plain = (.error .closed, session) := by
  unfold sendRecord
  rw [hclosed]
  rfl

theorem refuses_of_closed (hclosed : session.closed = true) (call : Call) :
    session.Refuses call := by
  cases call with
  | send plain =>
      refine refuses_of_perform ?_
      rw [perform, send, sendRecord_of_closed hclosed]
      rfl
  | sendRecord content plain =>
      refine refuses_of_perform ?_
      rw [perform, sendRecord_of_closed hclosed]
      rfl
  | close =>
      refine refuses_of_perform ?_
      unfold perform close
      rw [hclosed]
      rfl
  | arrive datagram => exact session.refuses_arrive datagram
  | path link => exact session.refuses_path link

theorem refuses (hrefused : session.closed = true ∨ call.accepted? = none) :
    session.Refuses call := by
  cases hclosed : session.closed with
  | true => exact refuses_of_closed hclosed call
  | false =>
      rw [hclosed] at hrefused
      exact refuses_of_not_accepted hclosed (hrefused.resolve_left Bool.false_ne_true)

/-- Every call is accepted or refused. -/
theorem perform_cases (session : Session) (call : Call) :
    (∃ message, session.closed = false ∧ call.accepted? = some message)
      ∨ (session.closed = true ∨ call.accepted? = none) := by
  cases session.closed with
  | true => exact .inr (.inl rfl)
  | false =>
      cases call.accepted? with
      | none => exact .inr (.inr rfl)
      | some message => exact .inl ⟨message, rfl, rfl⟩

-- ====================================================== what is given away

theorem handed?_of_refused (hrefused : session.closed = true ∨ call.accepted? = none) :
    session.handed? call = none := by
  have hrefuses : Refuses { session with link := .up } call := refuses hrefused
  exact hrefuses.nothing

theorem handed?_of_accepted (hopen : session.closed = false)
    (haccepted : call.accepted? = some message) :
    ∃ record, session.outgoing.sealRecord message.1 session.nextSequence message.2 = .ok record
      ∧ session.handed? call = some record := by
  have hup : Session.closed { session with link := .up } = false := hopen
  obtain ⟨record, hsealed, hshort, hperform⟩ := perform_of_accepted hup haccepted
  refine ⟨record, hsealed, ?_⟩
  rw [handed?, left?, hperform]
  exact if_pos (takes_of_up rfl hshort)

/-- What leaves is what is given to the network and taken by it. -/
theorem left?_eq (session : Session) (call : Call) :
    session.left? call = (session.handed? call).filter session.link.takes := by
  rcases session.perform_cases call with ⟨message, hopen, haccepted⟩ | hrefused
  · obtain ⟨record, hsealed, hhanded⟩ := handed?_of_accepted hopen haccepted
    obtain ⟨record', hsealed', -, hperform⟩ := perform_of_accepted hopen haccepted
    obtain rfl : record = record' := by
      rw [hsealed] at hsealed'
      exact Except.ok.inj hsealed'
    rw [hhanded, left?, hperform]
    rfl
  · rw [handed?_of_refused hrefused, (refuses hrefused).nothing]
    rfl

/-- Nothing leaves that was not given to the network, and nothing overtakes. -/
theorem left_sublist (session : Session) (calls : List Call) :
    (session.left calls).Sublist (session.handed calls) := by
  induction calls generalizing session with
  | nil => exact List.Sublist.slnil
  | cons call calls ih =>
      have hnow : (session.left? call).toList.Sublist (session.handed? call).toList := by
        rw [left?_eq, Option.toList_filter]
        exact List.filter_sublist
      exact hnow.append (ih _)

-- ============================================================ many calls

/-- The keys stay, and only closing closes. -/
theorem perform_snd (session : Session) (call : Call) :
    (session.perform call).2.outgoing = session.outgoing
      ∧ (session.perform call).2.closed = (session.closed || decide (call = .close)) := by
  rcases session.perform_cases call with ⟨message, hopen, haccepted⟩ | hrefused
  · obtain ⟨record, -, -, hperform⟩ := perform_of_accepted hopen haccepted
    rw [hperform, hopen]
    exact ⟨rfl, rfl⟩
  · obtain ⟨link, window, hsame⟩ := (refuses hrefused).same
    rw [hsame]
    refine ⟨rfl, ?_⟩
    rcases hrefused with hclosed | hnone
    · rw [hclosed]
      rfl
    · rw [decide_eq_false (Call.ne_close hnone), Bool.or_false]

theorem after_snd (session : Session) (calls : List Call) :
    (session.after calls).outgoing = session.outgoing
      ∧ (session.after calls).closed = (session.closed || decide (.close ∈ calls)) := by
  induction calls generalizing session with
  | nil => exact ⟨rfl, (Bool.or_false _).symm⟩
  | cons call calls ih =>
      obtain ⟨hkeys, hclosed⟩ := ih (session.perform call).2
      obtain ⟨hkeys', hclosed'⟩ := session.perform_snd call
      refine ⟨hkeys.trans hkeys', hclosed.trans ?_⟩
      rw [hclosed', Bool.or_assoc, ← Bool.decide_or]
      simp only [List.mem_cons, eq_comm]

/-- Nothing is given to the network once a session is closed. -/
theorem handed_of_closed (hclosed : session.closed = true) (calls : List Call) :
    session.handed calls = [] := by
  induction calls generalizing session with
  | nil => rfl
  | cons call calls ih =>
      have hstays : (session.perform call).2.closed = true := by
        rw [(session.perform_snd call).2, hclosed]
        rfl
      rw [handed, handed?_of_refused (.inl hclosed), ih hstays]
      rfl

theorem accepted_cons (hother : call ≠ .close) (calls : List Call) :
    accepted (call :: calls) = call.accepted?.toList ++ accepted calls := by
  cases call with
  | close => exact absurd rfl hother
  | _ => rfl

/-- The accepted calls are sealed one after the other, each under the next
number. -/
theorem handed_eq (hopen : session.closed = false) {start : Nat}
    (hstart : session.nextSequence = start.toUInt64) (calls : List Call) :
    (session.handed calls).map .ok = ((accepted calls).zipIdx start).map fun entry =>
      session.outgoing.sealRecord entry.1.1 entry.2.toUInt64 entry.1.2 := by
  induction calls generalizing session start with
  | nil => rfl
  | cons call calls ih =>
      rcases session.perform_cases call with ⟨message, -, haccepted⟩ | hrefused
      · obtain ⟨record, hsealed, hhanded⟩ := handed?_of_accepted hopen haccepted
        obtain ⟨_, -, -, hperform⟩ := perform_of_accepted hopen haccepted
        rw [hstart] at hsealed
        by_cases hclose : call = .close
        · -- nothing follows the notice
          subst hclose
          obtain rfl := Option.some.inj (Call.accepted?_close.symm.trans haccepted)
          have hrest : (session.perform .close).2.handed calls = [] :=
            handed_of_closed (by rw [hperform]; rfl) calls
          rw [handed, hhanded, hrest]
          exact congrArg (fun record => [record]) hsealed.symm
        · have hrest := @ih
            { session with nextSequence := session.nextSequence + 1 } hopen (start + 1)
            (by rw [hstart]; exact (UInt64.ofNat_add start 1).symm)
          have hnext : (session.perform call).2
              = { session with nextSequence := session.nextSequence + 1 } := by
            rw [hperform, decide_eq_false hclose, ← hopen]
          rw [handed, hhanded, hnext, accepted_cons hclose, haccepted, Option.toList_some,
            Option.toList_some, List.singleton_append, List.singleton_append, List.map_cons,
            List.zipIdx_cons, List.map_cons, hrest, hsealed]
      · have hnone : call.accepted? = none :=
          hrefused.resolve_left fun hclosed => by rw [hopen] at hclosed; cases hclosed
        obtain ⟨link, window, hsame⟩ := (refuses hrefused).same
        rw [handed, handed?_of_refused hrefused, hsame, accepted_cons (Call.ne_close hnone),
          hnone]
        exact @ih { session with link := link, window := window } hopen start hstart

/-- A number is taken for every record that is given to the network. -/
theorem nextSequence_after {start : Nat} (hstart : session.nextSequence = start.toUInt64)
    (calls : List Call) :
    (session.after calls).nextSequence = (start + (session.handed calls).length).toUInt64 := by
  induction calls generalizing session start with
  | nil => exact hstart
  | cons call calls ih =>
      rw [after, handed, List.length_append]
      rcases session.perform_cases call with ⟨message, hopen, haccepted⟩ | hrefused
      · obtain ⟨record, -, hhanded⟩ := handed?_of_accepted hopen haccepted
        obtain ⟨_, -, -, hperform⟩ := perform_of_accepted hopen haccepted
        have hnext : (session.perform call).2.nextSequence = (start + 1).toUInt64 := by
          rw [hperform]
          exact (congrArg (· + 1) hstart).trans (UInt64.ofNat_add start 1).symm
        rw [ih hnext, hhanded, Option.toList_some, List.length_singleton, Nat.add_assoc]
      · obtain ⟨link, window, hsame⟩ := (refuses hrefused).same
        have hnext : (session.perform call).2.nextSequence = start.toUInt64 := by
          rw [hsame]
          exact hstart
        rw [ih hnext, handed?_of_refused hrefused, Option.toList_none, List.length_nil,
          Nat.zero_add]

/-- The first closing seals one notice, and nothing is sealed behind it. -/
theorem handed_closing {earlier : List Call} (hopen : (session.after earlier).closed = false)
    (later : List Call) :
    ∃ notice, session.outgoing.sealRecord .alert (session.after earlier).nextSequence closeNotice
        = .ok notice
      ∧ session.handed (earlier ++ .close :: later) = session.handed earlier ++ [notice] := by
  obtain ⟨notice, hsealed, hhanded⟩ := handed?_of_accepted hopen Call.accepted?_close
  rw [(session.after_snd earlier).1] at hsealed
  have hrest : ((session.after earlier).perform .close).2.handed later = [] := by
    refine handed_of_closed ?_ later
    rw [((session.after earlier).perform_snd .close).2, hopen]
    rfl
  refine ⟨notice, hsealed, ?_⟩
  rw [handed_append, handed, hhanded, hrest]
  rfl

-- ================================================= while the path is up

theorem link_perform (hup : session.link = .up) (hstays : call ≠ .path .down) :
    (session.perform call).2.link = .up := by
  rcases session.perform_cases call with ⟨message, hopen, haccepted⟩ | hrefused
  · obtain ⟨record, -, -, hperform⟩ := perform_of_accepted hopen haccepted
    rw [hperform]
    exact hup
  · cases call with
    | arrive datagram =>
        obtain ⟨window, hwindow⟩ := session.receiveRecord_snd (some datagram)
        rw [perform, hwindow]
        exact hup
    | path link =>
        cases link with
        | up => rfl
        | down => exact absurd rfl hstays
    | _ =>
        rw [(refuses hrefused).untouched (Option.some_ne_none _)]
        exact hup

/-- While the path stays up, everything leaves that is given to the network. -/
theorem left_of_up (hup : session.link = .up) {calls : List Call}
    (hstays : .path .down ∉ calls) : session.left calls = session.handed calls := by
  induction calls generalizing session with
  | nil => rfl
  | cons call calls ih =>
      rw [List.mem_cons, not_or] at hstays
      have hnow : session.left? call = session.handed? call := by
        rw [handed?, ← hup]
      rw [left, handed, hnow, ih (link_perform hup (Ne.symm hstays.1)) hstays.2]

-- =========================================================== the session

/-- Every record of a session is sealed under a fresh number. The `i`-th record
it gives to the network is the `i`-th accepted call sealed under number `i`,
and these leave, in order, except where the network refuses. Calls that are
too large, and calls behind the first closing, seal nothing and leave the
session as it was, so they take no number. The first closing seals one
notice, and nothing is sealed behind it. So no nonce is used twice, for
either suite. -/
theorem records_freshly_numbered {link : Link} {suite : CipherSuite} {role : Role}
    {keys : SessionKeys} (hiv : (keys.outgoing role).iv.length = KeyUse.iv.length)
    {calls : List Call} (hfew : (accepted calls).length ≤ 2 ^ 64) :
    let session := establish link suite role keys
    ((session.handed calls).map .ok = (accepted calls).mapIdx fun i message =>
        session.outgoing.sealRecord message.1 i.toUInt64 message.2)
      ∧ ((List.range (session.handed calls).length).map fun i =>
          session.outgoing.nonce i.toUInt64).Nodup
      ∧ (session.left calls).Sublist (session.handed calls)
      ∧ (link = .up → .path .down ∉ calls → session.left calls = session.handed calls)
      ∧ (∀ earlier call later, calls = earlier ++ call :: later →
          .close ∈ earlier ∨ call.accepted? = none →
            (session.after earlier).handed? call = none
              ∧ (session.after earlier).Refuses call)
      ∧ ∀ earlier later, calls = earlier ++ .close :: later → .close ∉ earlier →
          ∃ notice, session.outgoing.sealRecord .alert (session.handed earlier).length.toUInt64
              closeNotice = .ok notice
            ∧ session.handed calls = session.handed earlier ++ [notice] := by
  intro session
  have hopen : session.closed = false := rfl
  have hstart : session.nextSequence = (0 : Nat).toUInt64 := rfl
  have hnumbered : ∀ calls, (session.handed calls).map .ok
      = (accepted calls).mapIdx fun i message =>
        session.outgoing.sealRecord message.1 i.toUInt64 message.2 := by
    intro calls
    rw [handed_eq hopen hstart, List.mapIdx_eq_zipIdx_map]
  have hclosed : ∀ earlier, (session.after earlier).closed = decide (.close ∈ earlier) :=
    fun earlier => (session.after_snd earlier).2.trans (Bool.false_or _)
  refine ⟨hnumbered calls, ?_, session.left_sublist calls, fun hup => left_of_up hup, ?_, ?_⟩
  · have hlength := congrArg List.length (hnumbered calls)
    rw [List.length_map, List.length_mapIdx] at hlength
    exact nodup_numbered (Protection.nonce_injective hiv) (hlength ▸ hfew)
  · intro earlier call later _ hrefused
    have hlate : (session.after earlier).closed = true ∨ call.accepted? = none := by
      rwa [hclosed, decide_eq_true_iff]
    exact ⟨handed?_of_refused hlate, refuses hlate⟩
  · rintro earlier later rfl hfirst
    have hstays : (session.after earlier).closed = false := by
      rw [hclosed, decide_eq_false hfirst]
    have hnotice := handed_closing hstays later
    rwa [nextSequence_after hstart, Nat.zero_add] at hnotice

/-- A session under derived keys: a message, a closing, and then two calls that
come too late. -/
theorem records_numbered_in_example :
    let keys := SessionKeys.derive [1] [2] [3] CipherSuite.xchacha.name
    let session := establish .up .xchacha .server keys
    let calls : List Call := [.send [5, 6], .close, .send [7], .close]
    (keys.outgoing .server).iv.length = KeyUse.iv.length
      ∧ (accepted calls).length ≤ 2 ^ 64
      ∧ (session.left calls).map .ok
        = [session.outgoing.sealRecord .applicationData 0 [5, 6],
            session.outgoing.sealRecord .alert 1 closeNotice] := by
  intro keys session calls
  have hiv : (keys.outgoing .server).iv.length = KeyUse.iv.length :=
    SessionKeys.length_iv ..
  have hfew : (accepted calls).length ≤ 2 ^ 64 := by decide
  obtain ⟨hnumbered, -, -, hleft, -⟩ :=
    @records_freshly_numbered .up .xchacha .server keys hiv calls hfew
  refine ⟨hiv, hfew, ?_⟩
  rw [hleft rfl (by decide)]
  exact hnumbered

end Luminaire.Session
