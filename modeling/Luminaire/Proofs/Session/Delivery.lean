/-
What one side sends comes out at the other side exactly once.

# Arrivals

An order of arrival is a list of departures, with repetitions. `Prompt`
bounds the reordering: a record that arrives for the first time is never
sixty-four or more behind one that arrived before it. Under it the window
never gives up on a record that is still under way, so an arrival is
answered with its content exactly if nothing with its number arrived
before (`answers_of_prompt`).

Numbers have sixty-four bits. Up to 2^64 of them they tell departures
apart, and then `firstArrivals` by number is `firstArrivals` by departure.
-/
import Mathlib.Data.List.Perm.Basic
import Mathlib.Data.List.Nodup
import Luminaire.Proofs.Session.Departures
import Luminaire.Proofs.Session.Replay

namespace Luminaire.Session

-- ======================================================= first arrivals

section FirstArrivals

variable {κ : Type} [DecidableEq κ]

/-- What arrivals in this order are to be answered with, after those in
`earlier`: the message of a departure if nothing that `key` cannot tell
from it arrived before, nothing otherwise. -/
def firstArrivals (key : Departure → κ) :
    (earlier : List κ) → (order : List Departure) → List (Option (ContentType × Bytes))
  | _, [] => []
  | earlier, departure :: order =>
      (if key departure ∈ earlier then none else some departure.message)
        :: firstArrivals key (key departure :: earlier) order

/-- A key that tells arrivals apart may be replaced by the departure. -/
theorem firstArrivals_of_injective {key : Departure → κ}
    {earlier order : List Departure}
    (hkey : ∀ first ∈ earlier ++ order, ∀ second ∈ earlier ++ order,
      key first = key second → first = second) :
    firstArrivals key (earlier.map key) order = firstArrivals id earlier order := by
  induction order generalizing earlier with
  | nil => rfl
  | cons departure order ih =>
      have hmem : key departure ∈ earlier.map key ↔ departure ∈ earlier := by
        rw [List.mem_map]
        refine ⟨?_, fun hseen => ⟨departure, hseen, rfl⟩⟩
        rintro ⟨other, hother, hsame⟩
        have heq : other = departure := hkey other (List.mem_append_left _ hother)
          departure (List.mem_append_right _ List.mem_cons_self) hsame
        exact heq ▸ hother
      have hrest : firstArrivals key ((departure :: earlier).map key) order
          = firstArrivals id (departure :: earlier) order := by
        apply ih
        have hsub : ∀ other ∈ departure :: earlier ++ order,
            other ∈ earlier ++ departure :: order := by
          intro other hother
          exact List.perm_middle.mem_iff.2 hother
        exact fun first hfirst second hsecond =>
          hkey first (hsub first hfirst) second (hsub second hsecond)
      rw [List.map_cons] at hrest
      simp only [firstArrivals, hmem, hrest, id]

/-- The messages handed out are those of the departures that arrived, each
once, in the order of their first arrival. -/
theorem filterMap_firstArrivals (earlier order : List Departure) :
    (firstArrivals id earlier order).filterMap id
      = (order.filter (· ∉ earlier)).eraseDups.map Departure.message := by
  induction order generalizing earlier with
  | nil => rfl
  | cons departure order ih =>
      rw [firstArrivals, id]
      by_cases hseen : departure ∈ earlier
      · have hsame : order.filter (· ∉ departure :: earlier)
            = order.filter (· ∉ earlier) := by
          apply List.filter_congr
          intro other _
          simp only [List.mem_cons, decide_eq_decide]
          refine ⟨fun hnot hother => hnot (.inr hother), ?_⟩
          rintro hnot (rfl | hother)
          · exact hnot hseen
          · exact hnot hother
        rw [if_pos hseen, List.filterMap_cons_none rfl, ih, hsame,
          List.filter_cons_of_neg (by simp [hseen])]
      · have hrest : (order.filter (· ∉ earlier)).filter
              (fun other => !other == departure)
            = order.filter (· ∉ departure :: earlier) := by
          rw [List.filter_filter]
          apply List.filter_congr
          intro other _
          by_cases hother : other = departure
          · simp [hother]
          · simp [hother]
        rw [if_neg hseen, List.filter_cons_of_pos (by simp [hseen]),
          List.eraseDups_cons, hrest, List.map_cons, List.filterMap_cons, ih]
        rfl

/-- Taking repetitions out leaves none. -/
theorem nodup_eraseDups : ∀ order : List κ, order.eraseDups.Nodup
  | [] => List.nodup_nil
  | first :: order => by
      rw [List.eraseDups_cons, List.nodup_cons]
      refine ⟨fun hmem => ?_, nodup_eraseDups _⟩
      rw [List.mem_eraseDups, List.mem_filter] at hmem
      simp at hmem
termination_by order => order.length
decreasing_by
  exact Nat.lt_succ_of_le (List.length_filter_le _ _)

/-- In an order without repetitions every arrival is the first. -/
theorem firstArrivals_of_nodup {earlier order : List Departure}
    (hnew : ∀ departure ∈ order, departure ∉ earlier) (hnodup : order.Nodup) :
    firstArrivals id earlier order = order.map (some ·.message) := by
  induction order generalizing earlier with
  | nil => rfl
  | cons departure order ih =>
      obtain ⟨hfirst, hnodup⟩ := List.nodup_cons.1 hnodup
      have hrest : ∀ other ∈ order, other ∉ departure :: earlier := by
        intro other hother hmem
        rcases List.mem_cons.1 hmem with rfl | hmem
        · exact hfirst hother
        · exact hnew other (List.mem_cons_of_mem _ hother) hmem
      rw [firstArrivals, id, if_neg (hnew departure List.mem_cons_self), ih hrest hnodup,
        List.map_cons]

/-- Every departure that arrives at all is handed out exactly once. -/
theorem perm_of_all_arrived {sent order : List Departure} (hnodup : sent.Nodup)
    (hleft : ∀ departure ∈ order, departure ∈ sent)
    (hall : ∀ departure ∈ sent, departure ∈ order) :
    (order.eraseDups.map Departure.message).Perm (sent.map Departure.message) := by
  apply List.Perm.map
  apply (List.perm_ext_iff_of_nodup (nodup_eraseDups order) hnodup).2
  intro departure
  rw [List.mem_eraseDups]
  exact ⟨hleft departure, hall departure⟩

end FirstArrivals

-- ============================================================ arrivals

/-- The datagrams that arrive in a run. -/
def arrivals (events : List Event) : List Bytes :=
  events.filterMap fun
    | .arrive datagram => some datagram
    | .send _ _ => none
    | .path _ => none

theorem arrivals_arrive (datagrams : List Bytes) :
    arrivals (datagrams.map .arrive) = datagrams := by
  rw [arrivals, List.filterMap_map]
  exact List.filterMap_some

/-- What was reported for the datagrams of a run. -/
def answers (trace : List (Event × Report)) :
    List (Except SessionError (Option (ContentType × Bytes))) :=
  trace.filterMap fun
    | (_, .received result) => some result
    | (_, .sent _) => none
    | (_, .noted) => none

/-- The answers of the receiver of record. -/
def judged (incoming : Protection) :
    (accepted : List UInt64) → List Bytes → List (Option (ContentType × Bytes))
  | _, [] => []
  | accepted, datagram :: datagrams =>
      match accept? incoming accepted datagram with
      | none => none :: judged incoming accepted datagrams
      | some (content, sequence, plain) =>
          some (content, plain) :: judged incoming (sequence :: accepted) datagrams

/-- A session answers what arrives as the receiver of record does, whatever
it sends in between. -/
theorem answers_run {session : Session} {accepted : List UInt64}
    (haccepting : session.Accepting accepted) (events : List Event) :
    answers (session.run events).1
      = (judged session.incoming accepted (arrivals events)).map .ok := by
  induction events generalizing session accepted with
  | nil => rfl
  | cons event events ih =>
      obtain ⟨hstep, hkeys⟩ := haccepting.act event
      have hrest := ih hstep
      rw [hkeys] at hrest
      cases event with
      | send content plain =>
          simp only [remember] at hrest
          exact hrest
      | path link =>
          simp only [remember] at hrest
          exact hrest
      | arrive datagram =>
          rw [act_arrive, receiveRecord_eq haccepting, remember] at hrest
          rw [run_cons, act_arrive, receiveRecord_eq haccepting]
          show answers (_ :: _)
            = (judged session.incoming accepted (datagram :: arrivals events)).map .ok
          rw [judged]
          cases haccept : accept? session.incoming accepted datagram with
          | none =>
              simp only [haccept] at hrest ⊢
              exact congrArg (List.cons (.ok none)) hrest
          | some opened =>
              obtain ⟨content, sequence, plain⟩ := opened
              simp only [haccept] at hrest ⊢
              exact congrArg (List.cons (.ok (some (content, plain)))) hrest

/-- A record that arrives for the first time is never sixty-four or more
behind one that arrived before it. -/
def Prompt (order : List Departure) : Prop :=
  ∀ earlier departure later, order = earlier ++ departure :: later →
    departure.number ∉ earlier.map Departure.number →
      ∀ other ∈ earlier, other.number.toNat < departure.number.toNat + 64

/-- Of records that arrive promptly, the receiver of record takes exactly
those whose number did not arrive before. -/
theorem judged_of_prompt {incoming : Protection} {accepted : List UInt64}
    {past order : List Departure}
    (hopens : ∀ departure ∈ order, incoming.openRecord departure.record
      = .ok (departure.content, departure.number, departure.plain))
    (haccepted : ∀ number, number ∈ accepted ↔ number ∈ past.map Departure.number)
    (hprompt : Prompt (past.reverse ++ order)) :
    judged incoming accepted (order.map Departure.record)
      = firstArrivals Departure.number (past.map Departure.number) order := by
  induction order generalizing accepted past with
  | nil => rfl
  | cons departure order ih =>
      have hsplit : (departure :: past).reverse ++ order
          = past.reverse ++ departure :: order := by
        rw [List.reverse_cons, List.append_assoc, List.singleton_append]
      have hlater : ∀ other ∈ order, incoming.openRecord other.record
          = .ok (other.content, other.number, other.plain) :=
        fun other hother => hopens other (List.mem_cons_of_mem _ hother)
      rw [List.map_cons, judged, accept?, firstArrivals,
        hopens departure List.mem_cons_self]
      by_cases hseen : departure.number ∈ past.map Departure.number
      · have hnumbers : ∀ number, number ∈ accepted
            ↔ number ∈ (departure :: past).map Departure.number := by
          intro number
          rw [haccepted, List.map_cons, List.mem_cons]
          refine ⟨.inr, ?_⟩
          rintro (rfl | hmem)
          · exact hseen
          · exact hmem
        have htail := ih hlater hnumbers (hsplit ▸ hprompt)
        simp only [haccepted, hseen, true_or, if_true]
        rw [htail, List.map_cons]
      · have hnew : departure.number ∉ accepted :=
          fun hmem => hseen ((haccepted _).1 hmem)
        have hyoung : ¬ ∃ number ∈ accepted,
            departure.number.toNat + 64 ≤ number.toNat := by
          rintro ⟨number, hnumber, hold⟩
          obtain ⟨other, hother, rfl⟩ := List.mem_map.1 ((haccepted number).1 hnumber)
          have hlt := hprompt past.reverse departure order rfl
            (by rwa [List.map_reverse, List.mem_reverse]) other
            (List.mem_reverse.2 hother)
          omega
        have hnumbers : ∀ number, number ∈ departure.number :: accepted
            ↔ number ∈ (departure :: past).map Departure.number := by
          intro number
          rw [List.map_cons, List.mem_cons, List.mem_cons, haccepted]
        have htail := ih hlater hnumbers (hsplit ▸ hprompt)
        simp only [hnew, hyoung, hseen, or_self, if_false]
        rw [htail, List.map_cons]
        rfl

/-- Receiving one datagram after the other for application data. -/
def receiveEach (session : Session) :
    List Bytes → List (Except SessionError (Option Bytes))
  | [] => []
  | datagram :: datagrams =>
      let (result, session) := session.receive (some datagram)
      result :: session.receiveEach datagrams

/-- An application is told what the session answers. -/
theorem receiveEach_eq (session : Session) (datagrams : List Bytes) :
    session.receiveEach datagrams
      = (answers (session.run (datagrams.map .arrive)).1).map surfaced := by
  induction datagrams generalizing session with
  | nil => rfl
  | cons datagram datagrams ih =>
      rw [receiveEach, receive_eq]
      show _ :: _ = _
      rw [ih]
      rfl

-- ============================================================ delivery

section Delivery

variable {link peerLink : Link} {suite : CipherSuite} {role : Role} {keys : SessionKeys}
  {calls : List Event}

/-- No departure is the same as another. -/
theorem nodup_departures (hfew : (fitting calls).length ≤ 2 ^ 64) :
    ((establish link suite role keys).departures calls).Nodup := by
  refine (numbers_increase hfew).imp ?_
  rintro departure _ hlt rfl
  exact UInt64.lt_irrefl _ hlt

/-- Records that keep the order in which they left arrive promptly. -/
theorem prompt_departures (hfew : (fitting calls).length ≤ 2 ^ 64) :
    Prompt ((establish link suite role keys).departures calls) := by
  intro earlier departure later hsplit _ other hother
  have hincrease : (earlier ++ departure :: later).Pairwise (·.number < ·.number) := by
    rw [← hsplit]
    exact numbers_increase hfew
  have hlt := (List.pairwise_append.1 hincrease).2.2 other hother departure
    List.mem_cons_self
  have := UInt64.lt_iff_toNat_lt.1 hlt
  omega

/-- Up to 2^64 numbers the number of a departure stands for it. -/
theorem firstArrivals_of_few (hfew : (fitting calls).length ≤ 2 ^ 64)
    {order : List Departure}
    (hleft : ∀ departure ∈ order,
      departure ∈ (establish link suite role keys).departures calls) :
    firstArrivals Departure.number [] order = firstArrivals id [] order := by
  have hnumbers : (((establish link suite role keys).departures calls).map
      Departure.number).Nodup := by
    refine (List.pairwise_map.2 (numbers_increase hfew)).imp ?_
    exact fun hlt => UInt64.ne_of_lt hlt
  have hkey : ∀ first ∈ [] ++ order, ∀ second ∈ [] ++ order,
      first.number = second.number → first = second := by
    intro first hfirst second hsecond hsame
    exact List.inj_on_of_nodup_map hnumbers (hleft first hfirst) (hleft second hsecond)
      hsame
  exact firstArrivals_of_injective hkey

/-- A session's answers to its peer's records, whatever it sends in
between, if they arrive promptly. -/
theorem answers_of_prompt {events : List Event} {order : List Departure}
    (hleft : ∀ departure ∈ order,
      departure ∈ (establish link suite role keys).departures calls)
    (hrecords : arrivals events = order.map Departure.record) (hprompt : Prompt order) :
    answers ((establish peerLink suite role.peer keys).run events).1
      = (firstArrivals Departure.number [] order).map .ok := by
  rw [answers_run (accepting_establish peerLink suite role.peer keys) events, hrecords]
  congr 1
  have hstart : Prompt (([] : List Departure).reverse ++ order) := hprompt
  exact judged_of_prompt (fun departure hmem => opens_at_peer (hleft departure hmem))
    (fun number => Iff.rfl) hstart

/-- The messages among a session's answers. -/
def handedOut (heard : List (Except SessionError (Option (ContentType × Bytes)))) :
    List (ContentType × Bytes) :=
  heard.filterMap fun
    | .ok message => message
    | .error _ => none

theorem handedOut_ok (messages : List (Option (ContentType × Bytes))) :
    handedOut (messages.map .ok) = messages.filterMap id := by
  rw [handedOut, List.filterMap_map]
  rfl

/-- What an application is told of a record that reached it. -/
def Departure.outcome (departure : Departure) : Except SessionError (Option Bytes) :=
  match departure.content with
  | .applicationData => .ok (some departure.plain)
  | .handshake => .ok none
  | .alert => .error .peerClosed

/-- Over a path that neither loses nor reorders anything, an application is
told every departure in turn. -/
theorem receiveEach_departures (hfew : (fitting calls).length ≤ 2 ^ 64) :
    (establish peerLink suite role.peer keys).receiveEach
        (((establish link suite role keys).departures calls).map Departure.record)
      = ((establish link suite role keys).departures calls).map Departure.outcome := by
  have hprompt : Prompt ((establish link suite role keys).departures calls) :=
    prompt_departures hfew
  have hnodup : ((establish link suite role keys).departures calls).Nodup :=
    nodup_departures hfew
  have hleft : ∀ departure ∈ (establish link suite role keys).departures calls,
      departure ∈ (establish link suite role keys).departures calls :=
    fun _ hmem => hmem
  have hfirst := firstArrivals_of_few hfew hleft
  rw [firstArrivals_of_nodup (fun _ _ => List.not_mem_nil) hnodup] at hfirst
  rw [receiveEach_eq, answers_of_prompt hleft (arrivals_arrive _) hprompt, hfirst,
    List.map_map, List.map_map]
  apply List.map_congr_left
  intro departure _
  obtain ⟨content, plain, number, record⟩ := departure
  cases content with
  | alert => rfl
  | handshake => rfl
  | applicationData => rfl

end Delivery

/-- What leaves one side of a session comes out at the other exactly once.
What leaves is what fits, in the order in which it was sent, and all of it
while the path stays up. However the records are reordered and repeated on
the way, if none arrives for the first time sixty-four or more numbers
behind one that arrived before it, then each arrival is answered with its
content if nothing with its number arrived before, and with nothing
otherwise.

Up to 2^64 contents a number is a departure. Then the contents handed out
are those of the departures that arrived, in the order of their first
arrival, and if all arrived they are what left, each exactly once. If they
arrive in the order in which they left, the application is told each in
turn and then, once the sender has closed, that the peer closed. -/
theorem exactly_once_delivery (link peerLink : Link) (suite : CipherSuite) (role : Role)
    (keys : SessionKeys) (calls : List Event) :
    let sender := establish link suite role keys
    let receiver := establish peerLink suite role.peer keys
    let sent := sender.departures calls
    (sent.map Departure.message).Sublist (fitting calls)
      ∧ (link = .up → .path .down ∉ calls → sent.map Departure.message = fitting calls)
      ∧ (∀ events order,
          (∀ departure ∈ order, departure ∈ sent) →
          arrivals events = order.map Departure.record →
          Prompt order →
          let heard := answers (receiver.run events).1
          heard = (firstArrivals Departure.number [] order).map .ok
            ∧ ((fitting calls).length ≤ 2 ^ 64 →
                heard = (firstArrivals id [] order).map .ok
                  ∧ handedOut heard = order.eraseDups.map Departure.message
                  ∧ ((∀ departure ∈ sent, departure ∈ order) →
                      (handedOut heard).Perm (sent.map Departure.message))))
      ∧ ((sender.run calls).2.link = .up → (fitting calls).length < 2 ^ 64 →
          ∃ notice, (sender.run calls).2.close.1 = some notice
            ∧ receiver.receiveEach (sent.map Departure.record ++ [notice])
              = sent.map Departure.outcome ++ [.error .peerClosed]) := by
  intro sender receiver sent
  refine ⟨?_, ?_, ?_, ?_⟩
  · exact @messages_sublist sender rfl 0 rfl calls
  · intro hup hstays
    exact messages_of_up rfl hup hstays
  · intro events order hleft hrecords hprompt heard
    have hheard : heard = (firstArrivals Departure.number [] order).map .ok :=
      answers_of_prompt hleft hrecords hprompt
    refine ⟨hheard, fun hfew => ?_⟩
    rw [firstArrivals_of_few hfew hleft] at hheard
    have hout : handedOut heard = order.eraseDups.map Departure.message := by
      rw [hheard, handedOut_ok, filterMap_firstArrivals]
      congr 2
      exact List.filter_eq_self.2 (by simp)
    refine ⟨hheard, hout, fun hall => ?_⟩
    rw [hout]
    exact perm_of_all_arrived (nodup_departures hfew) hleft hall
  · intro hup hfew
    obtain ⟨last, hclose, halert, hdepartures⟩ := departures_closing
      (show sender.closed = false from rfl) hup
    refine ⟨last.record, hclose, ?_⟩
    have hlength : (fitting (calls ++ [.send .alert closeNotice])).length
        = (fitting calls).length + 1 := by
      rw [fitting, List.filterMap_append, List.length_append]
      rfl
    have htold : receiver.receiveEach ((sender.departures
          (calls ++ [.send .alert closeNotice])).map Departure.record)
        = (sender.departures (calls ++ [.send .alert closeNotice])).map
            Departure.outcome :=
      receiveEach_departures (Nat.le_trans (Nat.le_of_eq hlength) hfew)
    rw [hdepartures, List.map_append, List.map_append] at htold
    have houtcome : last.outcome = .error .peerClosed := by
      rw [Departure.outcome, halert]
    rw [List.map_singleton, List.map_singleton, houtcome] at htold
    exact htold

/-- Two records that arrive the wrong way round, the second of them twice;
the path was down for what was to leave between them. -/
theorem delivery_in_example :
    let direction := DirectionKeys.mk (List.replicate 32 1) (List.replicate 24 2) []
    let keys := SessionKeys.mk direction direction
    let sender := establish .up .chacha .client keys
    let receiver := establish .up .chacha .server keys
    let sent := sender.departures [.send .applicationData [], .path .down,
      .send .applicationData [7], .path .up, .send .handshake [1]]
    let events := (sent.reverse ++ sent.drop 1).map (Event.arrive ·.record)
    answers (receiver.run events).1
      = [.ok (some (.handshake, [1])), .ok (some (.applicationData, [])), .ok none] := by
  intro direction keys sender receiver sent events
  obtain ⟨-, -, harrive, -⟩ := exactly_once_delivery .up .up .chacha .client keys
    [.send .applicationData [], .path .down, .send .applicationData [7], .path .up,
      .send .handshake [1]]
  have hsent : sent.map (fun departure => (departure.message, departure.number))
      = [((.applicationData, []), 0), ((.handshake, [1]), 2)] := by
    decide +kernel
  obtain ⟨first, rest, hpair, hfirst, hrest⟩ := List.map_eq_cons_iff.1 hsent
  obtain ⟨second, others, rfl, hsecond, hnone⟩ := List.map_eq_cons_iff.1 hrest
  obtain rfl := List.map_eq_nil_iff.1 hnone
  obtain ⟨hempty, hzero⟩ := Prod.mk.inj hfirst
  obtain ⟨hone, htwo⟩ := Prod.mk.inj hsecond
  have hleft : ∀ departure ∈ [second, first, second], departure ∈ sent := by
    rw [hpair]
    simp
  have hrecords : arrivals events = [second, first, second].map Departure.record := by
    simp only [events, hpair]
    rfl
  have hprompt : Prompt [second, first, second] := by
    intro earlier departure later hsplit _ other hother
    have hmem : other ∈ [second, first, second] :=
      hsplit ▸ List.mem_append_left _ hother
    have hsmall : other.number.toNat ≤ 2 := by
      simp only [List.mem_cons, List.not_mem_nil, or_false] at hmem
      rcases hmem with rfl | rfl | rfl
      · rw [htwo]
        decide
      · rw [hzero]
        decide
      · rw [htwo]
        decide
    omega
  have htold : firstArrivals Departure.number [] [second, first, second]
      = [some second.message, some first.message, none] := by
    simp [firstArrivals, hzero, htwo]
  have hheard : answers (receiver.run events).1
      = (firstArrivals Departure.number [] [second, first, second]).map .ok :=
    (harrive events _ hleft hrecords hprompt).1
  rw [hheard, htold, hempty, hone]
  rfl

end Luminaire.Session
