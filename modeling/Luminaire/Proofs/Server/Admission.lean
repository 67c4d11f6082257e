/-
Nothing is kept for a peer without its cookie.

A datagram is either no hello that can be used, a hello without its
cookie, or one with it, and only the last leaves a trace in the listener:
the first is passed over and the second is answered with the request for
the cookie (`arrive_of_uncookied`). So a whole run of them leaves the
listener as it was (`run_of_uncookied`), and every attempt, every station
and every worker of a run goes back to a hello that came from its peer
with the cookie of that peer (`vetted_run`). What leaves the listening
port is the request for a cookie, and depends on the secret and the
address alone (`port_run`).
-/
import Luminaire.Proofs.Server.Accord
import Luminaire.Proofs.Server.Peers
import Luminaire.Proofs.Server.Reports
import Luminaire.Proofs.Server.Welcome

namespace Luminaire

/-- The hello in a datagram, if it decodes to one that passes the checks. -/
def greeting? (datagram : Bytes) : Option ClientHello :=
  match HandshakeMessage.ofDatagram? datagram with
  | some (.clientHello hello, _) =>
      match hello.validate with
      | .ok () => some hello
      | .error _ => none
  | _ => none

theorem greeting?_eq_some_iff {datagram : Bytes} {hello : ClientHello} :
    greeting? datagram = some hello
      ↔ (∃ raw, HandshakeMessage.ofDatagram? datagram = some (.clientHello hello, raw))
        ∧ hello.validate = .ok () := by
  unfold greeting?
  split
  next found raw hmessage =>
    split
    next hvalid =>
      constructor
      · intro hsome
        cases hsome
        exact ⟨⟨raw, hmessage⟩, hvalid⟩
      · rintro ⟨⟨raw', hsame⟩, -⟩
        rw [hmessage] at hsame
        cases hsame
        rfl
    next fault hfault =>
      refine iff_of_false nofun ?_
      rintro ⟨⟨raw', hsame⟩, hvalid⟩
      rw [hmessage] at hsame
      cases hsame
      rw [hfault] at hvalid
      cases hvalid
  next hother =>
    refine iff_of_false nofun ?_
    rintro ⟨⟨raw, hmessage⟩, -⟩
    exact hother hello raw hmessage

namespace Listener

variable {listener after : Listener} {next : Listener.Step}

-- ======================================================== single datagrams

/-- The request for the cookie of a peer. -/
def request (secret : Bytes) (peer : SocketAddress) : Bytes :=
  Cbor.encode (HandshakeMessage.helloVerifyRequest
    ⟨hmac secret (peer.ip.octets ++ bigEndianBytes 2 peer.port.toNat)⟩)

theorem verifyRequest_eq (cookies : CookieJar) (peer : SocketAddress) :
    verifyRequest cookies peer = request cookies.secret peer :=
  rfl

/-- A datagram that is no hello with the cookie of its peer. -/
def Uncookied (secret : Bytes) (peer : SocketAddress) (datagram : Bytes) : Prop :=
  ∀ hello, greeting? datagram = some hello →
    hello.cookie ≠ some (hmac secret (peer.ip.octets ++ bigEndianBytes 2 peer.port.toNat))

/-- What a datagram without its cookie is answered with. -/
def rebuff (listener : Listener) (peer : SocketAddress) (datagram : Bytes) : List Departure :=
  if (greeting? datagram).isSome ∧ listener.accepting ∧ listener.link = .up then
    [⟨.listening, peer, request listener.cookies.secret peer⟩]
  else []

/-- A path that is up takes the request for a cookie. -/
theorem takes_request (link : Link) (secret : Bytes) (peer : SocketAddress) :
    link.takes (request secret peer) = true ↔ link = .up := by
  cases link with
  | up =>
      exact iff_of_true (Meeting.takes_of_short
        (HandshakeMessage.length_helloVerifyRequest_le (length_hmac ..))) rfl
  | down => exact iff_of_false Bool.false_ne_true nofun

/-- A datagram that is no hello leaves the listener as it was and is not
answered. -/
theorem arrive_of_no_greeting (listener : Listener) (peer : SocketAddress) {datagram : Bytes}
    (hnone : greeting? datagram = none) (able : Bool) :
    listener.arrive peer datagram able = (listener, []) := by
  unfold arrive
  unfold greeting? at hnone
  split
  · split
    next hello raw hmessage =>
      rw [hmessage] at hnone
      simp only at hnone
      split
      · rfl
      next hvalid =>
        rw [hvalid] at hnone
        cases hnone
    · rfl
  · rfl

/-- Without its cookie a datagram leaves the listener as it was, and is answered
with the request for the cookie at most. -/
theorem arrive_of_uncookied {peer : SocketAddress} {datagram : Bytes}
    (huncookied : Uncookied listener.cookies.secret peer datagram) (able : Bool) :
    listener.arrive peer datagram able = (listener, listener.rebuff peer datagram) := by
  cases hgreeting : greeting? datagram with
  | none =>
      rw [arrive_of_no_greeting listener peer hgreeting, rebuff, hgreeting]
      rfl
  | some hello =>
      obtain ⟨⟨raw, hmessage⟩, hvalid⟩ := greeting?_eq_some_iff.1 hgreeting
      have hbad : (hello.cookie.any fun cookie => listener.cookies.verifies peer cookie)
          = false := by
        refine Bool.eq_false_iff.2 fun hgood => ?_
        obtain ⟨cookie, hcookie, hverifies⟩ := (Option.any_eq_true ..).1 hgood
        rw [(listener.cookies.verifies_iff peer cookie).1 hverifies] at hcookie
        exact huncookied hello hgreeting hcookie
      unfold arrive greeted rebuff
      simp only [hmessage, hvalid, hbad, hgreeting, Option.isSome_some, true_and,
        Bool.false_eq_true, if_false, verifyRequest_eq]
      cases listener.accepting with
      | false => rfl
      | true => simp only [if_true, true_and, takes_request]

-- ========================================================= whole traffics

/-- A datagram on its way to the listening port; the flag says whether an
attempt could be started. -/
structure Knock where
  peer : SocketAddress
  datagram : Bytes
  able : Bool
  deriving DecidableEq, Repr

/-- Its arrival. -/
def Knock.step (knock : Knock) : Step := .arrive knock.peer knock.datagram knock.able

/-- Any number of datagrams without their cookies leaves the listener as it was,
and each is answered by itself. -/
theorem run_of_uncookied (knocks : List Knock)
    (huncookied : ∀ knock ∈ knocks,
      Uncookied listener.cookies.secret knock.peer knock.datagram) :
    listener.run (knocks.map Knock.step)
      = (listener, knocks.flatMap fun knock => listener.rebuff knock.peer knock.datagram) := by
  induction knocks using List.reverseRecOn with
  | nil => rfl
  | append_singleton knocks knock ih =>
      have hearlier := ih fun other hother => huncookied other (List.mem_append_left _ hother)
      have hlast : listener.step knock.step
          = (listener, listener.rebuff knock.peer knock.datagram) :=
        arrive_of_uncookied (huncookied knock
          (List.mem_append_right _ (List.mem_singleton_self _))) knock.able
      have hstate := listener.run_snoc (knocks.map Knock.step) knock.step
      have hsent := listener.run_snoc_snd (knocks.map Knock.step) knock.step
      rw [hearlier, hlast] at hstate hsent
      rw [List.map_append, List.flatMap_append]
      exact Prod.ext hstate (hsent.trans (by rw [List.flatMap_singleton]))

-- ================================================================ workers

/-- What a step does to the workers and to who is at the other end of them. To
the rig it is something that can happen at any. -/
inductive Staffing (listener after : Listener) : Prop where
  | stays (hevolves : listener.rig.Evolves after.rig) (hrig : listener.rig.Stays after.rig)
      (hworkers : after.workers.map Worker.id = listener.workers.map Worker.id) :
      Staffing listener after
  /-- The worker of an attempt that has succeeded starts. -/
  | hires {attempt : Attempt} (hevolves : listener.rig.Evolves after.rig)
      (hmem : attempt ∈ listener.attempts)
      (hids : after.rig.stations.map Station.id
        = listener.rig.stations.map Station.id ++ [attempt.id])
      (hpeers : after.rig.peers = listener.rig.peers ++ [(attempt.id, attempt.peer)])
      (hworkers : after.workers.map Worker.id = listener.workers.map Worker.id ++ [attempt.id]) :
      Staffing listener after

theorem Staffing.evolves (hstaffing : Staffing listener after) :
    listener.rig.Evolves after.rig := by
  cases hstaffing with
  | stays hevolves => exact hevolves
  | hires hevolves => exact hevolves

/-- Nothing has happened to the workers if they and the stations are the same, and
the same regions are observed. -/
theorem Staffing.of_eq (hstations : after.rig.stations = listener.rig.stations)
    (hworkers : after.workers = listener.workers)
    (hobservers : after.rig.venue.framebuffer.observers
      = listener.rig.venue.framebuffer.observers) : Staffing listener after := by
  refine .stays ?_ (.of_stations hstations) (by rw [hworkers])
  have hrig : after.rig = { listener.rig with venue := after.rig.venue } :=
    congrArg (Rig.mk after.rig.venue) hstations
  rw [hrig]
  exact .single (.turns hobservers)

theorem stays_stepWorker (listener : Listener) (id : ConnectionId) (next : Worker.Step) :
    listener.rig.Stays (listener.stepWorker id next).rig := by
  unfold stepWorker
  split
  · exact .of_stations rfl
  next worker _ => exact worker.stays_step listener.rig next

theorem evolves_stepWorker (listener : Listener) (id : ConnectionId) (next : Worker.Step) :
    listener.rig.Evolves (listener.stepWorker id next).rig := by
  unfold stepWorker
  split
  · exact .refl listener.rig
  next worker _ => exact worker.evolves_step listener.rig next

/-- The workers of some connections take their steps, one after the other. -/
theorem Staffing.foldl {step : Listener → ConnectionId → Listener}
    (hstep : ∀ (listener : Listener) id, listener.rig.Evolves (step listener id).rig
      ∧ listener.rig.Stays (step listener id).rig
      ∧ (step listener id).workers.map Worker.id = listener.workers.map Worker.id)
    (ids : List ConnectionId) {start : Listener} (hrig : start.rig = listener.rig)
    (hworkers : start.workers = listener.workers) :
    Staffing listener (ids.foldl step start) := by
  suffices hfold : listener.rig.Evolves (ids.foldl step start).rig
      ∧ listener.rig.Stays (ids.foldl step start).rig
      ∧ (ids.foldl step start).workers.map Worker.id = listener.workers.map Worker.id from
    .stays hfold.1 hfold.2.1 hfold.2.2
  rw [← hrig, ← hworkers]
  clear hrig hworkers
  induction ids generalizing start with
  | nil => exact ⟨.refl start.rig, .of_stations rfl, rfl⟩
  | cons id ids ih =>
      obtain ⟨hevolves, hstays, hids⟩ := hstep start id
      obtain ⟨hevolvesRest, hstaysRest, hidsRest⟩ := @ih (step start id)
      exact ⟨hevolves.trans hevolvesRest, hstays.trans hstaysRest, hidsRest.trans hids⟩

theorem staffing_answer (listener : Listener) (attempt : Attempt) :
    Staffing listener (listener.answer attempt).1 := by
  unfold answer
  simp only
  split
  · exact .of_eq rfl rfl rfl
  · exact .of_eq rfl rfl rfl
  · exact .of_eq rfl rfl rfl

theorem staffing_confirm (listener : Listener) (attempt : Attempt) (unconfirmed : Unconfirmed)
    (datagram : Bytes) : Staffing listener (listener.confirm attempt unconfirmed datagram).1 := by
  unfold confirm
  split
  · exact .of_eq rfl rfl rfl
  · exact .of_eq rfl rfl rfl
  · exact .of_eq rfl rfl rfl

theorem staffing_arrive (listener : Listener) (peer : SocketAddress) (datagram : Bytes)
    (able : Bool) : Staffing listener (listener.arrive peer datagram able).1 := by
  have hsame : Staffing listener listener := .of_eq rfl rfl rfl
  unfold arrive
  split
  · split
    · split
      · exact hsame
      · unfold greeted
        split
        · split
          · exact hsame
          · split
            · exact .of_eq rfl rfl rfl
            · exact .of_eq rfl rfl rfl
        · exact hsame
    · exact hsame
  · exact hsame

theorem staffing_start {attempt : Attempt} (hmem : attempt ∈ listener.attempts)
    (session : Session) (able : Bool) :
    Staffing listener (listener.startWorker attempt session able) := by
  unfold startWorker
  split
  · exact .hires (Worker.evolves_start attempt.id attempt.peer session listener.registry 1 _) hmem
      List.map_append List.map_append List.map_append
  · exact .of_eq rfl rfl rfl

theorem staffing_stepWorker (listener : Listener) (id : ConnectionId) (next : Worker.Step) :
    Staffing listener (listener.stepWorker id next) :=
  .stays (listener.evolves_stepWorker id next) (listener.stays_stepWorker id next)
    (listener.ids_stepWorker id next)

theorem staffing_close (listener : Listener) : Staffing listener listener.close := by
  unfold close
  split
  · exact .of_eq rfl rfl rfl
  · exact .of_eq rfl rfl rfl
  · refine .foldl (fun other id => ⟨?_, ?_, ?_⟩) listener.active rfl rfl
    · exact (other.evolves_stepWorker id .signal).trans (evolves_stepWorker _ id .drop)
    · exact (other.stays_stepWorker id .signal).trans (stays_stepWorker _ id .drop)
    · exact (ids_stepWorker _ id .drop).trans (other.ids_stepWorker id .signal)
  · split
    · exact .of_eq rfl rfl rfl
    · exact .of_eq rfl rfl rfl
  · exact .of_eq rfl rfl rfl

/-- In every step the workers stay, or one is hired for an attempt. -/
theorem staffing_step (listener : Listener) (next : Step) :
    Staffing listener (listener.step next).1 := by
  have hsame : Staffing listener listener := .of_eq rfl rfl rfl
  cases next with
  | arrive peer datagram able => exact listener.staffing_arrive peer datagram able
  | answer id =>
      simp only [step]
      split
      · split
        · exact listener.staffing_answer _
        · exact hsame
      · exact hsame
  | confirm id datagram =>
      simp only [step]
      split
      · split
        · exact listener.staffing_confirm _ _ datagram
        · exact hsame
      · exact hsame
  | expire id =>
      simp only [step]
      split
      · split
        · exact .of_eq rfl rfl rfl
        · exact hsame
      · exact hsame
  | start id able =>
      simp only [step]
      split
      next attempt hfound =>
        split
        · exact staffing_start (List.mem_of_find?_eq_some hfound) _ able
        · exact hsame
      · exact hsame
  | enlist id =>
      simp only [step]
      split
      · split
        · unfold enlist
          split
          · exact .stays (listener.evolves_stepWorker _ .drop) (listener.stays_stepWorker _ .drop)
              (listener.ids_stepWorker _ .drop)
          · exact .of_eq rfl rfl rfl
        · split
          · exact .of_eq rfl rfl rfl
          · exact hsame
        · exact hsame
      · exact hsame
  | worker id step => exact listener.staffing_stepWorker id step
  | collect =>
      exact .foldl (fun other id => ⟨other.evolves_stepWorker id .drop,
        other.stays_stepWorker id .drop, other.ids_stepWorker id .drop⟩) _ rfl rfl
  | terminate =>
      show Staffing listener listener.terminate
      unfold terminate
      split
      · exact hsame
      · exact .of_eq rfl rfl rfl
  | close => exact listener.staffing_close
  | region region frameNumber =>
      exact .stays (listener.rig.evolves_finish region frameNumber)
        (listener.rig.stays_finish region frameNumber) rfl
  | group => exact .stays listener.rig.evolves_work listener.rig.stays_work rfl
  | rotate => exact .stays listener.rig.evolves_rotate listener.rig.stays_rotate rfl

-- ============================================================== origins

/-- What admits a connection: a hello came from its peer, with the cookie of
that peer, when its number was due. -/
def Admitted (begun : Listener) (steps : List Step) (id : ConnectionId) (peer : SocketAddress) :
    Prop :=
  ∃ earlier datagram later hello, steps = earlier ++ .arrive peer datagram true :: later
    ∧ greeting? datagram = some hello
    ∧ hello.cookie = some (hmac begun.cookies.secret
      (peer.ip.octets ++ bigEndianBytes 2 peer.port.toNat))
    ∧ (begun.run earlier).1.nextId = id

theorem Admitted.snoc {begun : Listener} {steps : List Step} {id : ConnectionId}
    {peer : SocketAddress} (hadmitted : Admitted begun steps id peer) (next : Step) :
    Admitted begun (steps ++ [next]) id peer := by
  obtain ⟨earlier, datagram, later, hello, rfl, hgreeting, hcookie, hnumber⟩ := hadmitted
  exact ⟨earlier, datagram, later ++ [next], hello, by rw [List.append_assoc, List.cons_append],
    hgreeting, hcookie, hnumber⟩

/-- An attempt was there before, or begins with a hello that returned its
cookie. -/
theorem Passage.origin {broken : Option SocketAddress} {attempt : Attempt}
    (hpassage : listener.Passage next after broken) (hmem : attempt ∈ after.attempts) :
    (∃ old ∈ listener.attempts, old.id = attempt.id ∧ old.peer = attempt.peer)
      ∨ ∃ datagram hello, next = .arrive attempt.peer datagram true
        ∧ greeting? datagram = some hello
        ∧ hello.cookie = some (listener.cookies.issue attempt.peer)
        ∧ attempt.id = listener.nextId := by
  have hforget : ∀ gone : Attempt, after.attempts = (listener.forget gone.id).attempts →
      ∃ old ∈ listener.attempts, old.id = attempt.id ∧ old.peer = attempt.peer := by
    intro gone hattempts
    rw [hattempts] at hmem
    exact ⟨attempt, (List.mem_filter.1 hmem).1, rfl, rfl⟩
  have hphase : ∀ (moved : Attempt) phase,
      after.attempts = (listener.setPhase moved.id phase).attempts →
      ∃ old ∈ listener.attempts, old.id = attempt.id ∧ old.peer = attempt.peer := by
    intro moved phase hattempts
    rw [hattempts] at hmem
    obtain ⟨old, hold, rfl⟩ := List.mem_map.1 hmem
    refine ⟨old, hold, ?_⟩
    split
    · exact ⟨rfl, rfl⟩
    · exact ⟨rfl, rfl⟩
  cases hpassage with
  | still hattempts =>
      rw [hattempts] at hmem
      exact .inl ⟨attempt, hmem, rfl, rfl⟩
  | begins hnext hmessage hvalid hcookie _ hafter =>
      rw [hafter] at hmem
      rcases List.mem_append.1 hmem with hold | hnew
      · exact .inl ⟨attempt, hold, rfl, rfl⟩
      · obtain rfl := List.mem_singleton.1 hnew
        exact .inr ⟨_, _, hnext, greeting?_eq_some_iff.2 ⟨⟨_, hmessage⟩, hvalid⟩, hcookie, rfl⟩
  | waits _ _ hattempts => exact .inl (hphase _ _ hattempts)
  | succeeds _ _ hattempts => exact .inl (hphase _ _ hattempts)
  | serves _ _ _ hattempts => exact .inl (hphase _ _ hattempts)
  | fails _ _ hattempts => exact .inl (hforget _ hattempts)
  | breaks _ _ hattempts => exact .inl (hforget _ hattempts)
  | leaves _ _ _ hattempts => exact .inl (hforget _ hattempts)

/-- Everyone that a listener keeps something for was admitted. -/
structure Vetted (begun : Listener) (steps : List Step) (listener : Listener) : Prop where
  attempts : ∀ attempt ∈ listener.attempts, Admitted begun steps attempt.id attempt.peer
  peers : ∀ entry ∈ listener.rig.peers, Admitted begun steps entry.1 entry.2
  /-- A worker has its station. -/
  workers : ∀ id ∈ listener.workers.map Worker.id, id ∈ listener.rig.stations.map Station.id

/-- A step keeps it so. -/
theorem Vetted.step {begun : Listener} {steps : List Step}
    (hvetted : Vetted begun steps (begun.run steps).1) (next : Step) :
    Vetted begun (steps ++ [next]) ((begun.run steps).1.step next).1 := by
  refine ⟨fun attempt hattempt => ?_, fun entry hentry => ?_, fun id hid => ?_⟩
  · rcases ((begun.run steps).1.passage_step next).origin hattempt with
      ⟨old, hold, hid, hpeer⟩ | ⟨datagram, hello, hnext, hgreeting, hcookie, hid⟩
    · rw [← hid, ← hpeer]
      exact (hvetted.attempts old hold).snoc next
    · rw [(begun.frame_run steps).cookies] at hcookie
      exact ⟨steps, datagram, [], hello, by rw [hnext], hgreeting, hcookie, hid.symm⟩
  · cases (begun.run steps).1.staffing_step next with
    | stays _ hrig => exact (hvetted.peers entry (hrig.peers entry hentry)).snoc next
    | hires _ hmem _ hpeers =>
        rw [hpeers] at hentry
        rcases List.mem_append.1 hentry with hold | hnew
        · exact (hvetted.peers entry hold).snoc next
        · rw [List.mem_singleton.1 hnew]
          exact (hvetted.attempts _ hmem).snoc next
  · cases (begun.run steps).1.staffing_step next with
    | stays _ hrig hworkers =>
        rw [hworkers] at hid
        rw [hrig.ids]
        exact hvetted.workers id hid
    | hires _ _ hids _ hworkers =>
        rw [hworkers] at hid
        rw [hids]
        rcases List.mem_append.1 hid with hold | hnew
        · exact List.mem_append_left _ (hvetted.workers id hold)
        · exact List.mem_append_right _ hnew

/-- So it is in every run of a listener that has just begun. -/
theorem vetted_run (venue : Venue) (link : Link) (registry : Registry HandlerKind)
    (cookies : CookieJar) (handshake : ServerHandshake) (steps : List Step) :
    Vetted (new ⟨venue, []⟩ link registry cookies handshake) steps
      ((new ⟨venue, []⟩ link registry cookies handshake).run steps).1 := by
  induction steps using List.reverseRecOn with
  | nil =>
      exact ⟨fun _ hattempt => absurd hattempt List.not_mem_nil,
        fun _ hentry => absurd hentry List.not_mem_nil,
        fun _ hid => absurd hid List.not_mem_nil⟩
  | append_singleton steps next ih =>
      rw [run_snoc]
      exact ih.step next

-- ============================================================= numbers

/-- Whoever was admitted has a number no greater than the number of arrivals. -/
theorem Admitted.number_le {begun : Listener} {steps : List Step} {id : ConnectionId}
    {peer : SocketAddress} (hadmitted : Admitted begun steps id peer) (hfirst : begun.nextId = 1) :
    id ≤ steps.countP Step.isArrival := by
  obtain ⟨earlier, datagram, later, hello, rfl, -, -, rfl⟩ := hadmitted
  have hbound : (begun.run earlier).1.nextId ≤ 1 + earlier.countP Step.isArrival :=
    hfirst ▸ begun.nextId_run_le earlier
  have harrival : Step.isArrival (.arrive peer datagram true) = true := rfl
  rw [List.countP_append, List.countP_cons_of_pos harrival]
  apply Nat.le_trans hbound
  omega

/-- So numbers counted in words of 64 bits are told apart like these, as long as
fewer datagrams than there are words have arrived. -/
theorem numbers_fit (venue : Venue) (link : Link) (registry : Registry HandlerKind)
    (cookies : CookieJar) (handshake : ServerHandshake) (steps : List Step)
    (hfew : steps.countP Step.isArrival < UInt64.size) :
    let listener := ((new ⟨venue, []⟩ link registry cookies handshake).run steps).1
    (∀ attempt ∈ listener.attempts, attempt.id.toUInt64.toNat = attempt.id)
      ∧ (∀ station ∈ listener.rig.stations, station.id.toUInt64.toNat = station.id)
      ∧ ∀ worker ∈ listener.workers, worker.id.toUInt64.toNat = worker.id := by
  intro listener
  have hvetted := vetted_run venue link registry cookies handshake steps
  have hfits : ∀ {id peer}, Admitted (new ⟨venue, []⟩ link registry cookies handshake) steps id
      peer → id.toUInt64.toNat = id := by
    intro id peer hadmitted
    exact UInt64.toNat_ofNat_of_lt' (Nat.lt_of_le_of_lt (hadmitted.number_le rfl) hfew)
  have hstations : ∀ id ∈ listener.rig.stations.map Station.id, id.toUInt64.toNat = id := by
    intro id hid
    obtain ⟨station, hstation, rfl⟩ := List.mem_map.1 hid
    exact hfits (hvetted.peers _ (List.mem_map_of_mem hstation))
  refine ⟨fun attempt hattempt => hfits (hvetted.attempts attempt hattempt), ?_, ?_⟩
  · intro station hstation
    exact hstations _ (List.mem_map_of_mem hstation)
  · intro worker hworker
    exact hstations _ (hvetted.workers _ (List.mem_map_of_mem hworker))

-- ============================================================== departures

/-- An arrival is answered with the request for the cookie at most. -/
theorem departures_arrive {peer : SocketAddress} {datagram : Bytes} {able : Bool}
    {departure : Departure} (hsent : departure ∈ (listener.arrive peer datagram able).2) :
    departure = ⟨.listening, peer, request listener.cookies.secret peer⟩ := by
  unfold arrive at hsent
  split at hsent
  · split at hsent
    · split at hsent
      · cases hsent
      · unfold greeted at hsent
        split at hsent
        · split at hsent
          · cases hsent
          · split at hsent
            · cases hsent
            · cases hsent
        · simp only at hsent
          split at hsent
          · exact List.mem_singleton.1 hsent
          · cases hsent
    · cases hsent
  · cases hsent

/-- An attempt sends on a path of its own. -/
theorem port_answer {attempt : Attempt} {departure : Departure}
    (hsent : departure ∈ (listener.answer attempt).2) : departure.port = .own attempt.id := by
  have hown : ∀ sent : Option Bytes, departure ∈ sent.toList.map
      (fun datagram => (⟨.own attempt.id, attempt.peer, datagram⟩ : Departure)) →
      departure.port = .own attempt.id := by
    intro sent hmem
    obtain ⟨datagram, -, rfl⟩ := List.mem_map.1 hmem
    rfl
  unfold answer at hsent
  simp only at hsent
  split at hsent
  · exact hown _ hsent
  · exact hown _ hsent
  · exact hown _ hsent

theorem port_confirm {attempt : Attempt} {unconfirmed : Unconfirmed} {datagram : Bytes}
    {departure : Departure}
    (hsent : departure ∈ (listener.confirm attempt unconfirmed datagram).2) :
    departure.port = .own attempt.id := by
  unfold confirm at hsent
  split at hsent
  · cases hsent
  · cases hsent
  · obtain ⟨datagram, -, rfl⟩ := List.mem_map.1 hsent
    rfl

/-- What leaves the listening port is the request for the cookie of a peer, in
answer to a datagram of that peer. -/
theorem port_step {departure : Departure} (hsent : departure ∈ (listener.step next).2)
    (hport : departure.port = .listening) :
    departure.datagram = request listener.cookies.secret departure.peer
      ∧ ∃ datagram able, next = .arrive departure.peer datagram able := by
  cases next with
  | arrive peer datagram able =>
      rw [departures_arrive hsent]
      exact ⟨rfl, datagram, able, rfl⟩
  | answer id =>
      simp only [step] at hsent
      split at hsent
      · split at hsent
        · rw [port_answer hsent] at hport
          cases hport
        · cases hsent
      · cases hsent
  | confirm id datagram =>
      simp only [step] at hsent
      split at hsent
      · split at hsent
        · rw [port_confirm hsent] at hport
          cases hport
        · cases hsent
      · cases hsent
  | expire id =>
      simp only [step] at hsent
      split at hsent
      · split at hsent
        · cases hsent
        · cases hsent
      · cases hsent
  | start id able =>
      simp only [step] at hsent
      split at hsent
      · split at hsent
        · cases hsent
        · cases hsent
      · cases hsent
  | enlist id =>
      simp only [step] at hsent
      split at hsent
      · split at hsent
        · cases hsent
        · cases hsent
        · cases hsent
      · cases hsent
  | _ => cases hsent

/-- The request that a peer receives depends on nothing that has happened. -/
theorem port_run (listener : Listener) (steps : List Step) :
    ∀ departure ∈ (listener.run steps).2, departure.port = .listening →
      departure.datagram = request listener.cookies.secret departure.peer
        ∧ ∃ datagram able, .arrive departure.peer datagram able ∈ steps := by
  induction steps using List.reverseRecOn with
  | nil => exact nofun
  | append_singleton steps next ih =>
      intro departure hsent hport
      rw [run_snoc_snd] at hsent
      rcases List.mem_append.1 hsent with hearlier | hlast
      · obtain ⟨hrequest, datagram, able, hmem⟩ := ih departure hearlier hport
        exact ⟨hrequest, datagram, able, List.mem_append_left _ hmem⟩
      · obtain ⟨hrequest, datagram, able, hnext⟩ := port_step hlast hport
        rw [(listener.frame_run steps).cookies] at hrequest
        exact ⟨hrequest, datagram, able,
          List.mem_append_right _ (by rw [hnext]; exact List.mem_singleton_self _)⟩

/-- A worker has a station under its number, and who is at the other end of it
was admitted. -/
theorem Vetted.exists_station {begun : Listener} {steps : List Step}
    (hvetted : Vetted begun steps listener) {worker : Worker} (hmem : worker ∈ listener.workers) :
    ∃ station, listener.rig.station? worker.id = some station
      ∧ Admitted begun steps worker.id station.connection.peer := by
  obtain ⟨first, hfirst, hid⟩ :=
    List.mem_map.1 (hvetted.workers worker.id (List.mem_map_of_mem hmem))
  have hsome : (listener.rig.station? worker.id).isSome = true :=
    List.find?_isSome.2 ⟨first, hfirst, by simpa using hid⟩
  obtain ⟨station, hstation⟩ := Option.isSome_iff_exists.1 hsome
  obtain ⟨hstands, hnumber⟩ := Rig.mem_of_station? hstation
  refine ⟨station, hstation, ?_⟩
  rw [← hnumber]
  exact hvetted.peers _ (Rig.mem_peers hstands)

/-- Nothing is kept for a peer without its cookie. A datagram that is no hello,
or a hello that does not pass the checks, leaves any listener as it was and is
not answered. A hello without its cookie leaves it as it was too, and is answered
with the request for that cookie, over a path that takes it. So does any number
of such datagrams. In every run an attempt and a worker go back to a hello that
came from their peer with the cookie of that peer; and the request that a peer
receives depends on the secret and the address alone. -/
theorem nothing_kept_without_cookie :
    (∀ (listener : Listener) (peer : SocketAddress) (datagram : Bytes) (able : Bool),
      (greeting? datagram = none → listener.arrive peer datagram able = (listener, []))
        ∧ ∀ hello, greeting? datagram = some hello →
          hello.cookie ≠ some (hmac listener.cookies.secret
            (peer.ip.octets ++ bigEndianBytes 2 peer.port.toNat)) →
          listener.arrive peer datagram able
            = (listener, if listener.accepting ∧ listener.link = .up then
                [⟨.listening, peer, request listener.cookies.secret peer⟩] else []))
      ∧ (∀ (listener : Listener) (knocks : List Knock),
        (∀ knock ∈ knocks, Uncookied listener.cookies.secret knock.peer knock.datagram) →
          listener.run (knocks.map Knock.step)
            = (listener, knocks.flatMap fun knock => listener.rebuff knock.peer knock.datagram))
      ∧ ∀ (venue : Venue) (link : Link) (registry : Registry HandlerKind) (cookies : CookieJar)
          (handshake : ServerHandshake) (steps : List Step),
        let begun := new ⟨venue, []⟩ link registry cookies handshake
        let after := (begun.run steps).1
        (∀ attempt ∈ after.attempts, Admitted begun steps attempt.id attempt.peer)
          ∧ (∀ worker ∈ after.workers, ∃ station, after.rig.station? worker.id = some station
              ∧ Admitted begun steps worker.id station.connection.peer)
          ∧ ∀ departure ∈ (begun.run steps).2, departure.port = .listening →
            departure.datagram = request cookies.secret departure.peer
              ∧ ∃ datagram able, .arrive departure.peer datagram able ∈ steps := by
  refine ⟨fun listener peer datagram able => ⟨fun hnone => ?_, fun hello hgreeting hbad => ?_⟩,
    fun listener knocks huncookied => run_of_uncookied knocks huncookied,
    fun venue link registry cookies handshake steps => ?_⟩
  · exact listener.arrive_of_no_greeting peer hnone able
  · have huncookied : Uncookied listener.cookies.secret peer datagram := by
      intro other hother
      obtain rfl := Option.some.inj (hgreeting.symm.trans hother)
      exact hbad
    rw [arrive_of_uncookied huncookied able, rebuff, hgreeting]
    simp only [Option.isSome_some, true_and]
  · have hvetted := vetted_run venue link registry cookies handshake steps
    exact ⟨hvetted.attempts, fun worker hworker => hvetted.exists_station hworker,
      port_run (new ⟨venue, []⟩ link registry cookies handshake) steps⟩

/-- At an honest meeting junk is passed over, the first hello is asked for its
cookie, and the worker goes back to the second. -/
theorem admission_in_example :
    let listener := Meeting.exampleMeeting.listener
    let node := Meeting.exampleMeeting.network.node
    listener.arrive node [255] true = (listener, [])
      ∧ listener.arrive node (Meeting.exampleMeeting.helloDatagram none) true
        = (listener, [⟨.listening, node, request listener.cookies.secret node⟩])
      ∧ ∃ steps, let after := (listener.run steps).1
        ∃ worker ∈ after.workers, ∃ station, after.rig.station? worker.id = some station
          ∧ Admitted listener steps worker.id station.connection.peer := by
  have honest := Meeting.honest_exampleMeeting
  have hbegun : ∃ venue link registry cookies handshake, Meeting.exampleMeeting.listener
      = new ⟨venue, []⟩ link registry cookies handshake := ⟨_, _, _, _, _, rfl⟩
  generalize Meeting.exampleMeeting = meeting at honest hbegun ⊢
  intro listener node
  obtain ⟨hsingle, -, hruns⟩ := nothing_kept_without_cookie
  refine ⟨?_, ?_, ?_⟩
  · exact (hsingle listener node [255] true).1 (by decide)
  · have hmessage : HandshakeMessage.ofDatagram? (meeting.helloDatagram none)
        = some (.clientHello (meeting.hello none), meeting.helloDatagram none) :=
      HandshakeMessage.ofDatagram?_encode (honest.hello_short (.inl rfl))
    have hgreeting : greeting? (meeting.helloDatagram none) = some (meeting.hello none) :=
      greeting?_eq_some_iff.2 ⟨⟨_, hmessage⟩, Meeting.validate_hello none⟩
    have harrive := (hsingle listener node (meeting.helloDatagram none) true).2 _ hgreeting nofun
    rw [if_pos ⟨honest.accepting, honest.up⟩] at harrive
    exact harrive
  · obtain ⟨finished, entropy, hserving⟩ := honest.exists_welcomed
    obtain ⟨venue, link, registry, cookies, handshake, hbegun⟩ := hbegun
    have hid : meeting.listener.nextId
        ∈ (listener.run (meeting.welcome finished)).1.workers.map Worker.id := by
      rw [hserving, meeting.workers_serving]
      exact List.mem_append_right _ (List.mem_singleton_self _)
    obtain ⟨worker, hworker, -⟩ := List.mem_map.1 hid
    have hworkers := (hruns venue link registry cookies handshake (meeting.welcome finished)).2.1
    rw [← hbegun] at hworkers
    exact ⟨meeting.welcome finished, worker, hworker, hworkers worker hworker⟩

end Listener

end Luminaire
