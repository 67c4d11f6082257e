/-
A worker's shutdown happens exactly once.

# What can happen

Around a connection its worker goes through its steps, in any order: the
loop reads and ends, anyone signals, the owner drops the worker, and the
shutdown goes on, whoever runs it. Between those steps other connections'
workers go through theirs, connections are taken in and the backstage is at
work (`Happening`). Nothing is assumed about the order.

# What is shown

Every run is looked at moment by moment. `Host.EndsOnce` holds after every
run: one cause, the first that anyone came with; one notice to the
callbacks, one closing of the session, one departure for each handler; a
state that only moves forward; and a cause that the loop found for itself
is entered when the loop has its handlers behind it.

`Host.Ended` says that all of it has come about. It does, once the end has
begun and every party has had its turn seven times: each round takes a
phase or a stage from the seven that are left (`Host.remaining_rounds`).
-/
import Luminaire.Proofs.Server.Service
import Luminaire.Proofs.Server.Strangers

namespace Luminaire

-- ============================================================ happenings

/-- What can happen around a connection. -/
inductive Happening (id : ConnectionId) where
  /-- A step of its worker, or something backstage. -/
  | here (occurrence : Occurrence)
  /-- A step of another connection's worker. -/
  | elsewhere (worker : Worker) (hother : worker.id ≠ id) (now : UInt64) (entropy : Entropy)
      (next : Worker.Step)
  /-- Another connection is taken in. -/
  | joined (other : ConnectionId) (hother : other ≠ id) (peer : SocketAddress)
      (session : Session) (registry : Registry HandlerKind) (callbacks : Nat)

/-- The step of the connection's own worker, if it is one. -/
def Happening.step? {id : ConnectionId} : Happening id → Option Worker.Step
  | .here (.step _ _ next) => some next
  | _ => none

namespace Host

variable {id : ConnectionId}

/-- A rig takes in a connection, with the handlers that are registered. -/
def welcome (id : ConnectionId) (peer : SocketAddress) (session : Session)
    (registry : Registry HandlerKind) (callbacks : Nat) (rig : Rig Outlet) : Host :=
  let started := Worker.start id peer session registry callbacks rig
  ⟨started.1, started.2.2⟩

def happen (host : Host) : Happening id → Host
  | .here occurrence => host.occur occurrence
  | .elsewhere worker _ now entropy next =>
      { host with rig := (worker.step (host.rig.tuned now entropy) next).2 }
  | .joined other _ peer session registry callbacks =>
      { host with rig := (Worker.start other peer session registry callbacks host.rig).2.2 }

/-- All that happens, in order. -/
def follow (host : Host) (happenings : List (Happening id)) : Host :=
  happenings.foldl happen host

/-- The endpoints of the handlers that a connection has. -/
def endpoints (host : Host) (id : ConnectionId) : List Endpoint :=
  ((host.rig.handlers? id).getD []).map Handler.endpoint

end Host

-- =============================================================== moments

/-- Something that happens, and the host at which it does. -/
structure Moment (id : ConnectionId) where
  before : Host
  happening : Happening id

namespace Moment

variable {id : ConnectionId} (moment : Moment id)

def after : Host := moment.before.happen moment.happening

/-- The cause with which somebody tries to enter the shutdown. -/
def attempt? : Option ShutdownCause := moment.happening.step?.bind moment.before.worker.attempt?

/-- The session is closed. -/
def closes : Bool :=
  moment.before.rig.closed? id == some false && moment.after.rig.closed? id == some true

/-- The endpoints of the handlers that the connection loses. -/
def departures : List Endpoint :=
  (moment.before.endpoints id).diff (moment.after.endpoints id)

/-- The state stays or goes on to one that may follow. -/
def IsForward : Prop :=
  moment.after.worker.state = moment.before.worker.state
    ∨ Lifecycle.follows moment.before.worker.state moment.after.worker.state = true

end Moment

namespace Host

variable {id : ConnectionId}

/-- A run, moment by moment. -/
def moments (host : Host) : List (Happening id) → List (Moment id)
  | [] => []
  | happening :: happenings => ⟨host, happening⟩ :: (host.happen happening).moments happenings

/-- The causes with which anyone tried to enter the shutdown, oldest first. -/
def attempts (host : Host) (happenings : List (Happening id)) : List ShutdownCause :=
  (host.moments happenings).filterMap Moment.attempt?

/-- How often the session was closed. -/
def closings (host : Host) (happenings : List (Happening id)) : Nat :=
  (host.moments happenings).countP Moment.closes

/-- The handlers that the connection has lost, by their endpoints. -/
def departures (host : Host) (happenings : List (Happening id)) : List Endpoint :=
  (host.moments happenings).flatMap Moment.departures

/-- Whatever of a shutdown has happened has happened once. -/
structure EndsOnce (start : Host) (callbacks : Nat) (happenings : List (Happening id)) :
    Prop where
  /-- The first who came gives the cause. -/
  cause : (start.follow happenings).worker.cause? = (start.attempts happenings).head?
  /-- Callbacks hear it together, and none hears it again. -/
  told : (start.follow happenings).worker.heard = []
      ∧ (start.follow happenings).worker.callbacks = callbacks
    ∨ ∃ cause, (start.attempts happenings).head? = some cause
      ∧ (start.follow happenings).worker.heard = List.replicate callbacks cause
      ∧ (start.follow happenings).worker.callbacks = 0
  closings : start.closings happenings
    = if (start.follow happenings).rig.closed? id = some true then 1 else 0
  forward : ∀ moment ∈ start.moments happenings, moment.IsForward
  closed : (start.follow happenings).worker.state = .closed
    ↔ (start.follow happenings).worker.phase = .finished
  departures : start.departures happenings ++ (start.follow happenings).endpoints id
    = start.endpoints id
  /-- A cause that the loop found comes after the loop and its handlers. -/
  collectable : ∀ cause, (start.follow happenings).worker.cause? = some cause →
    cause.isCollectable = true →
      ((start.follow happenings).worker.phase = .ending
          ∨ (start.follow happenings).worker.phase = .finished)
        ∧ (start.follow happenings).rig.handlers? id = some []
        ∧ (start.follow happenings).rig.venue.Ignores id

/-- All of a shutdown has happened. -/
structure Ended (start : Host) (callbacks : Nat) (happenings : List (Happening id)) :
    Prop where
  finished : (start.follow happenings).worker.phase = .finished
  state : (start.follow happenings).worker.state = .closed
  told : ∃ cause, (start.attempts happenings).head? = some cause
    ∧ (start.follow happenings).worker.heard = List.replicate callbacks cause
  closings : start.closings happenings = 1
  departures : start.departures happenings = start.endpoints id
  ignored : (start.follow happenings).rig.venue.Ignores id

end Host

/-- Among what happens, every party has its turn. -/
def IsRound {id : ConnectionId} (happenings : List (Happening id)) : Prop :=
  ∀ duty : Worker.Duty, ∃ happening ∈ happenings, ∃ next, happening.step? = some next
    ∧ duty.isDoneBy next = true

-- ========================================================== what is kept

namespace Host

variable {id : ConnectionId}

/-- A worker and its rig, in keeping with each other. -/
structure Sound (host : Host) (id : ConnectionId) (endpoints : List Endpoint)
    (callbacks : Nat) : Prop where
  id : host.worker.id = id
  coherent : host.worker.Coherent callbacks
  served : host.worker.IsServed host.rig endpoints

namespace Sound

variable {host : Host} {endpoints : List Endpoint} {callbacks : Nat}

theorem serves (hsound : host.Sound id endpoints callbacks) :
    host.rig.Serves id (host.worker.staff endpoints) host.worker.isHushed := by
  have hserved := hsound.served
  unfold Worker.IsServed at hserved
  rw [hsound.id] at hserved
  exact hserved

theorem closed?_eq (hsound : host.Sound id endpoints callbacks) :
    host.rig.closed? id = some host.worker.isHushed := hsound.serves.session

theorem endpoints_eq (hsound : host.Sound id endpoints callbacks) :
    host.endpoints id = host.worker.staff endpoints := by
  obtain ⟨handlers, hhandlers, hendpoints, -⟩ := hsound.serves.staff
  unfold Host.endpoints
  rw [hhandlers]
  exact hendpoints

/-- A loop that has released its handlers leaves nothing of them. -/
theorem released (hsound : host.Sound id endpoints callbacks)
    (hgone : host.worker.phase.isStaffed = false) :
    host.rig.handlers? id = some [] ∧ host.rig.venue.Ignores id := by
  obtain ⟨handlers, hhandlers, hendpoints, haccounts⟩ := hsound.serves.staff
  have hnone : host.worker.staff endpoints = [] := by
    unfold Worker.staff
    rw [hgone]
    rfl
  rw [hnone] at hendpoints
  obtain rfl := List.map_eq_nil_iff.1 hendpoints
  exact ⟨hhandlers, Venue.accounts_nil_iff.1 haccounts⟩

/-- Everything that is not a step of the worker leaves it as it is. -/
theorem of_spares {rig : Rig Outlet} (hsound : host.Sound id endpoints callbacks)
    (hspares : Rig.Spares id host.rig rig) :
    Sound { host with rig } id endpoints callbacks := by
  refine ⟨hsound.id, hsound.coherent, ?_⟩
  have hserves := hsound.serves.of_spares hspares
  rw [← hsound.id] at hserves
  exact hserves

/-- Whatever happens keeps worker and rig together. -/
theorem happen (hsound : host.Sound id endpoints callbacks) (happening : Happening id) :
    (host.happen happening).Sound id endpoints callbacks := by
  cases happening with
  | here occurrence =>
      cases occurrence with
      | step now entropy next =>
          have htuned := hsound.of_spares (Rig.spares_tuned id host.rig now entropy)
          let rig := host.rig.tuned now entropy
          have hdoes := host.worker.does_step rig next
          have hid : (host.worker.step rig next).1.id = id :=
            hdoes.id.trans hsound.id
          exact ⟨hid, hsound.coherent.does hdoes, htuned.served.step hsound.coherent next⟩
      | apart event => exact hsound.of_spares (Rig.spares_apart id host.rig event)
  | elsewhere worker hother now entropy next =>
      refine hsound.of_spares ?_
      exact (Rig.spares_tuned id host.rig now entropy).trans
        (Worker.spares_step hother (host.rig.tuned now entropy) next)
  | joined other hother peer session registry more =>
      exact hsound.of_spares (Worker.spares_start hother peer session registry more host.rig)

theorem follow (hsound : host.Sound id endpoints callbacks)
    (happenings : List (Happening id)) :
    (host.follow happenings).Sound id endpoints callbacks := by
  induction happenings generalizing host with
  | nil => exact hsound
  | cons happening happenings ih => exact ih (hsound.happen happening)

end Sound

end Host

-- ========================================================= single moments

/-- Nothing is missing from what is still there. -/
theorem diff_self {α : Type} [BEq α] [LawfulBEq α] (entries : List α) :
    entries.diff entries = [] := by
  induction entries with
  | nil => rfl
  | cons entry entries ih => rw [List.diff_cons, List.erase_cons_head, ih]

namespace Moment

variable {id : ConnectionId} {endpoints : List Endpoint} {callbacks : Nat}

/-- The worker does what a step can do, or nothing. -/
theorem does (moment : Moment id) :
    Worker.Does moment.before.worker moment.attempt? moment.after.worker := by
  obtain ⟨host, happening⟩ := moment
  cases happening with
  | here occurrence =>
      cases occurrence with
      | step now entropy next => exact host.worker.does_step (host.rig.tuned now entropy) next
      | apart event => exact .refl host.worker
  | elsewhere worker hother now entropy next => exact .refl host.worker
  | joined other hother peer session registry more => exact .refl host.worker

variable {moment : Moment id}

/-- A moment closes the session if the shutdown closes it then. -/
theorem closes_add (hsound : moment.before.Sound id endpoints callbacks) :
    moment.before.worker.isHushed.toNat + moment.closes.toNat
      = moment.after.worker.isHushed.toNat := by
  have hafter : moment.after.Sound id endpoints callbacks := hsound.happen moment.happening
  have hstays : moment.before.worker.isHushed = true → moment.after.worker.isHushed = true :=
    fun hhushed => moment.does.hushed hhushed hsound.coherent
  unfold closes
  rw [hsound.closed?_eq, hafter.closed?_eq]
  cases hbefore : moment.before.worker.isHushed with
  | true =>
      rw [hstays hbefore]
      rfl
  | false =>
      cases moment.after.worker.isHushed with
      | true => rfl
      | false => rfl

/-- A moment takes all handlers or none. -/
theorem departures_append (hsound : moment.before.Sound id endpoints callbacks) :
    moment.departures ++ moment.after.endpoints id = moment.before.endpoints id := by
  have hafter : moment.after.Sound id endpoints callbacks := hsound.happen moment.happening
  have hstays : moment.before.worker.phase.isStaffed = false →
      moment.after.worker.phase.isStaffed = false := moment.does.staffed
  unfold departures
  rw [hsound.endpoints_eq, hafter.endpoints_eq]
  unfold Worker.staff
  cases hbefore : moment.before.worker.phase.isStaffed with
  | false =>
      rw [hstays hbefore]
      rfl
  | true =>
      cases moment.after.worker.phase.isStaffed with
      | true => simp [diff_self]
      | false => simp

end Moment

-- ============================================================ whole runs

namespace Host

variable {id : ConnectionId} {host : Host} {endpoints : List Endpoint} {callbacks : Nat}

/-- The first attempt gives the cause, unless there has been one before. -/
theorem Sound.cause_follow (hsound : host.Sound id endpoints callbacks)
    (happenings : List (Happening id)) :
    (host.follow happenings).worker.cause?
      = host.worker.cause?.or (host.attempts happenings).head? := by
  induction happenings generalizing host with
  | nil => exact (Option.or_none).symm
  | cons happening happenings ih =>
      let moment : Moment id := ⟨host, happening⟩
      have hnow : (host.happen happening).worker.cause?
          = host.worker.cause?.or moment.attempt? := hsound.coherent.cause_does moment.does
      have hlater := ih (hsound.happen happening)
      rw [hnow, Option.or_assoc] at hlater
      have hfirst : (host.attempts (happening :: happenings)).head?
          = moment.attempt?.or ((host.happen happening).attempts happenings).head? := by
        show (List.filterMap Moment.attempt?
          (moment :: (host.happen happening).moments happenings)).head? = _
        rw [List.filterMap_cons]
        cases moment.attempt? with
        | none => rfl
        | some cause => rfl
      rw [hfirst]
      exact hlater

theorem Sound.closings_follow (hsound : host.Sound id endpoints callbacks)
    (happenings : List (Happening id)) :
    host.worker.isHushed.toNat + host.closings happenings
      = (host.follow happenings).worker.isHushed.toNat := by
  induction happenings generalizing host with
  | nil => rfl
  | cons happening happenings ih =>
      let moment : Moment id := ⟨host, happening⟩
      have hnow : host.worker.isHushed.toNat + moment.closes.toNat
          = (host.happen happening).worker.isHushed.toNat := moment.closes_add hsound
      have hlater := ih (hsound.happen happening)
      have hcount : host.closings (happening :: happenings)
          = (host.happen happening).closings happenings + moment.closes.toNat := by
        show List.countP Moment.closes (moment :: (host.happen happening).moments happenings) = _
        rw [List.countP_cons]
        cases moment.closes with
        | true => rfl
        | false => rfl
      show _ = ((host.happen happening).follow happenings).worker.isHushed.toNat
      omega

theorem Sound.departures_follow (hsound : host.Sound id endpoints callbacks)
    (happenings : List (Happening id)) :
    host.departures happenings ++ (host.follow happenings).endpoints id
      = host.endpoints id := by
  induction happenings generalizing host with
  | nil => rfl
  | cons happening happenings ih =>
      let moment : Moment id := ⟨host, happening⟩
      have hnow : moment.departures ++ (host.happen happening).endpoints id
          = host.endpoints id := moment.departures_append hsound
      have hlater := ih (hsound.happen happening)
      show (moment.departures ++ (host.happen happening).departures happenings)
        ++ ((host.happen happening).follow happenings).endpoints id = host.endpoints id
      rw [List.append_assoc, hlater, hnow]

theorem isForward_moments (host : Host) (happenings : List (Happening id)) :
    ∀ moment ∈ host.moments happenings, moment.IsForward := by
  induction happenings generalizing host with
  | nil => exact fun moment hmoment => absurd hmoment List.not_mem_nil
  | cons happening happenings ih =>
      intro moment hmoment
      rcases List.mem_cons.1 hmoment with rfl | hmoment
      · exact (Moment.mk host happening).does.forward
      · exact ih (host.happen happening) moment hmoment

/-- What the callbacks have heard, and how many have not. -/
theorem Sound.told_follow (hsound : host.Sound id endpoints callbacks) :
    host.worker.heard = [] ∧ host.worker.callbacks = callbacks
      ∨ ∃ cause, host.worker.cause? = some cause
        ∧ host.worker.heard = List.replicate callbacks cause ∧ host.worker.callbacks = 0 := by
  have htold := hsound.coherent.told
  cases hshutdown : host.worker.shutdown with
  | none =>
      rw [hshutdown] at htold
      exact .inl (Prod.mk.inj htold)
  | some entered =>
      obtain ⟨cause, stage⟩ := entered
      rw [hshutdown] at htold
      cases stage with
      | reported =>
          right
          obtain ⟨hheard, hleft⟩ := Prod.mk.inj htold
          refine ⟨cause, ?_, hheard, hleft⟩
          rw [Worker.cause?, hshutdown]
          rfl
      | _ => exact .inl (Prod.mk.inj htold)

/-- A worker that nobody has tried to end. -/
theorem sound_welcome {rig : Rig Outlet} (hfresh : rig.Fresh id) (peer : SocketAddress)
    {session : Session} (hopen : session.closed = false) (registry : Registry HandlerKind)
    (callbacks : Nat) :
    let start := welcome id peer session registry callbacks rig
    start.Sound id (start.endpoints id) callbacks := by
  intro start
  have hserves := Worker.serves_start hfresh peer session registry callbacks
  rw [hopen] at hserves
  let attached := Worker.attach id (registry.entries.map Prod.snd) .empty rig.venue
  have hworker : start.worker = { id := id, slots := attached.1.slots, state := .running
                                  stop := false, phase := .reading, shutdown := none
                                  callbacks := callbacks, heard := [], dropped := false } := rfl
  have hcoherent : start.worker.Coherent callbacks := by
    rw [hworker]
    exact ⟨⟨fun _ => rfl, fun _ => rfl⟩, ⟨nofun, nofun⟩, fun _ => rfl, rfl, rfl, nofun⟩
  refine ⟨congrArg Worker.id hworker, hcoherent, ?_⟩
  unfold Worker.IsServed
  rw [hworker]
  exact hserves

-- =============================================================== progress

/-- What is left never grows. -/
theorem Sound.remaining_follow (hsound : host.Sound id endpoints callbacks)
    (happenings : List (Happening id)) :
    (host.follow happenings).worker.remaining ≤ host.worker.remaining := by
  induction happenings generalizing host with
  | nil => exact Nat.le_refl _
  | cons happening happenings ih =>
      have hlater := ih (hsound.happen happening)
      have hnow : (host.happen happening).worker.remaining ≤ host.worker.remaining := by
        rcases hsound.coherent.remaining_does (Moment.mk host happening).does with
          hless | ⟨hphase, hshutdown⟩
        · exact Nat.le_of_lt hless
        · exact Nat.le_of_eq (Worker.remaining_of_same hphase hshutdown)
      exact Nat.le_trans hlater hnow

/-- What is due gets done when its turn comes. -/
theorem Sound.remaining_of_due (hsound : host.Sound id endpoints callbacks)
    {duty : Worker.Duty} (hdue : host.worker.DueWhen duty) {round : List (Happening id)}
    (hturn : ∃ happening ∈ round, ∃ next, happening.step? = some next
      ∧ duty.isDoneBy next = true) :
    (host.follow round).worker.remaining < host.worker.remaining := by
  induction round generalizing host with
  | nil =>
      obtain ⟨happening, hhappening, -⟩ := hturn
      cases hhappening
  | cons first round ih =>
      have hlater := (hsound.happen first).remaining_follow round
      rcases hsound.coherent.remaining_does (Moment.mk host first).does with
        hless | ⟨hphase, hshutdown⟩
      · exact Nat.lt_of_le_of_lt hlater hless
      · obtain ⟨happening, hhappening, next, hnext, hdone⟩ := hturn
        rcases List.mem_cons.1 hhappening with rfl | hhappening
        · refine Nat.lt_of_le_of_lt hlater ?_
          cases happening with
          | here occurrence =>
              cases occurrence with
              | step now entropy step =>
                  cases hnext
                  exact hsound.coherent.remaining_of_due hdue hdone _
              | apart event => cases hnext
          | _ => cases hnext
        · have hstill : (host.happen first).worker.DueWhen duty :=
            hdue.of_same hphase hshutdown
          have hrest := ih (hsound.happen first) hstill ⟨happening, hhappening, next, hnext, hdone⟩
          exact Nat.lt_of_lt_of_eq hrest (Worker.remaining_of_same hphase hshutdown)

/-- Once the end has begun, each round takes something from what is left. -/
theorem Sound.remaining_rounds (hsound : host.Sound id endpoints callbacks)
    (hbegun : host.worker.HasBegun) {rounds : List (List (Happening id))}
    (hrounds : ∀ round ∈ rounds, IsRound round) :
    (host.follow rounds.flatten).worker.remaining ≤ host.worker.remaining - rounds.length := by
  induction rounds generalizing host with
  | nil => exact Nat.le_refl _
  | cons round rounds ih =>
      have hsplit : host.follow (round :: rounds).flatten
          = (host.follow round).follow rounds.flatten := by
        unfold Host.follow
        rw [List.flatten_cons, List.foldl_append]
      have hmonotone := hsound.remaining_follow round
      have hlater := (hsound.follow round).remaining_follow rounds.flatten
      rw [hsplit, List.length_cons]
      by_cases hover : host.worker.remaining = 0
      · omega
      · have hunfinished : ¬ host.worker.IsOver := by
          rintro ⟨hphase, hstage⟩
          refine hover ?_
          rw [Worker.remaining, hphase, hstage]
          rfl
        obtain ⟨duty, hdue⟩ := hsound.coherent.exists_due hbegun hunfinished
        have hless := hsound.remaining_of_due hdue (hrounds round List.mem_cons_self duty)
        have hstill : (host.follow round).worker.HasBegun := by
          refine Worker.hasBegun_of_remaining ?_
          have hseven := hbegun.remaining_le
          omega
        have hrest := ih (hsound.follow round) hstill fun other hother =>
          hrounds other (List.mem_cons_of_mem _ hother)
        omega

-- ============================================================ the result

/-- After every run, whatever has happened of the shutdown has happened once. -/
theorem Sound.endsOnce {start : Host} (hsound : start.Sound id (start.endpoints id) callbacks)
    (hcalm : start.worker.cause? = none) (hopen : start.worker.isHushed = false)
    (happenings : List (Happening id)) : start.EndsOnce callbacks happenings := by
  have hafter := hsound.follow happenings
  have hcause : (start.follow happenings).worker.cause? = (start.attempts happenings).head? := by
    rw [hsound.cause_follow happenings, hcalm, Option.none_or]
  have hclosings := hsound.closings_follow happenings
  rw [hopen] at hclosings
  refine
    { cause := hcause
      told := ?_
      closings := ?_
      forward := isForward_moments start happenings
      closed := hafter.coherent.closed
      departures := hsound.departures_follow happenings
      collectable := ?_ }
  · rw [← hcause]
    exact hafter.told_follow
  · rw [hafter.closed?_eq]
    cases hhushed : (start.follow happenings).worker.isHushed with
    | true =>
        rw [hhushed] at hclosings
        simpa using hclosings
    | false =>
        rw [hhushed] at hclosings
        simpa using hclosings
  · intro cause hreported hfound
    have hover := hafter.coherent.collectable cause hreported hfound
    refine ⟨hover, hafter.released ?_⟩
    rcases hover with hending | hfinished
    · rw [hending]
      rfl
    · rw [hfinished]
      rfl

/-- A worker for which all is over has ended, in all respects. -/
theorem Sound.ended {start : Host} (hsound : start.Sound id (start.endpoints id) callbacks)
    {happenings : List (Happening id)} (honce : start.EndsOnce callbacks happenings)
    (hover : (start.follow happenings).worker.IsOver) :
    start.Ended callbacks happenings := by
  obtain ⟨hfinished, hreported⟩ := hover
  have hafter := hsound.follow happenings
  have hgone : (start.follow happenings).worker.phase.isStaffed = false := by
    rw [hfinished]
    rfl
  obtain ⟨hhandlers, hignored⟩ := hafter.released hgone
  obtain ⟨⟨cause, stage⟩, hshutdown, rfl⟩ := Option.map_eq_some_iff.1 hreported
  refine
    { finished := hfinished
      state := honce.closed.2 hfinished
      told := ?_
      closings := ?_
      departures := ?_
      ignored := hignored }
  · refine ⟨cause, ?_, ?_⟩
    · rw [← honce.cause, Worker.cause?, hshutdown]
      rfl
    · have htold := hafter.coherent.told
      rw [hshutdown] at htold
      exact (Prod.mk.inj htold).1
  · have hhushed : (start.follow happenings).worker.isHushed = true := by
      rw [Worker.isHushed, hreported]
      rfl
    rw [honce.closings, hafter.closed?_eq, hhushed]
    rfl
  · have hnone : (start.follow happenings).endpoints id = [] := by
      rw [Host.endpoints, hhandlers]
      rfl
    rw [← honce.departures, hnone, List.append_nil]

end Host

/-- A worker's shutdown happens exactly once, in whatever order its loop, the
signals, the drop and the shutdown itself go on, and whatever goes on
elsewhere: so much of it as has happened has happened once, and all of it
happens, once the end has begun and every party has had its turns. -/
theorem worker_ends_once {rig : Rig Outlet} {id : ConnectionId} (hfresh : rig.Fresh id)
    (peer : SocketAddress) {session : Session} (hopen : session.closed = false)
    (registry : Registry HandlerKind) (callbacks : Nat) :
    let start := Host.welcome id peer session registry callbacks rig
    (∀ happenings : List (Happening id), start.EndsOnce callbacks happenings)
      ∧ ∀ (happenings : List (Happening id)) (rounds : List (List (Happening id))),
        (start.follow happenings).worker.HasBegun → (∀ round ∈ rounds, IsRound round) →
          7 ≤ rounds.length → start.Ended callbacks (happenings ++ rounds.flatten) := by
  intro start
  have hsound : start.Sound id (start.endpoints id) callbacks :=
    Host.sound_welcome hfresh peer hopen registry callbacks
  have honce : ∀ happenings : List (Happening id), start.EndsOnce callbacks happenings :=
    fun happenings => hsound.endsOnce rfl rfl happenings
  refine ⟨honce, ?_⟩
  intro happenings rounds hbegun hrounds hseven
  refine hsound.ended (honce _) (Worker.isOver_of_remaining ?_)
  have hfew := hbegun.remaining_le
  have hless := (hsound.follow happenings).remaining_rounds hbegun hrounds
  have hsplit : start.follow (happenings ++ rounds.flatten)
      = (start.follow happenings).follow rounds.flatten := List.foldl_append
  rw [hsplit]
  omega

/-- A turn for every party, when no datagram comes. -/
def exampleRound : List (Happening 1) :=
  [.read none, .release, .report, .advance, .finish].map fun next => .here (.step 6 [] next)

theorem isRound_exampleRound : IsRound exampleRound := by
  intro duty
  cases duty with
  | read => exact ⟨.here (.step 6 [] (.read none)), by simp [exampleRound], _, rfl, rfl⟩
  | release => exact ⟨.here (.step 6 [] .release), by simp [exampleRound], _, rfl, rfl⟩
  | report => exact ⟨.here (.step 6 [] .report), by simp [exampleRound], _, rfl, rfl⟩
  | advance => exact ⟨.here (.step 6 [] .advance), by simp [exampleRound], _, rfl, rfl⟩
  | finish => exact ⟨.here (.step 6 [] .finish), by simp [exampleRound], _, rfl, rfl⟩

/-- Two callbacks wait for the end of a connection. Reading fails, somebody
signals, and the worker is dropped before the loop comes to report: they hear
of the signal, and all four handlers leave. -/
theorem worker_ends_in_example :
    let session := Session.establish .up .chacha .server exampleKeys
    let rig := exampleRig [] 4 7251 ⟨1, List.replicate 32 1, List.replicate 16 2⟩
    let start := Host.welcome 1 ⟨.loopback, 5000⟩ session standardRegistry 2 rig
    let happenings : List (Happening 1) := [.here (.step 5 [] .breakOff),
      .here (.step 5 [] .signal), .here (.step 5 [] .drop)]
    let rounds := List.replicate 7 exampleRound
    start.Ended 2 (happenings ++ rounds.flatten)
      ∧ start.attempts (happenings ++ rounds.flatten) = [.requested, .dropped, .transport]
      ∧ start.endpoints 1
        = [.default, .authentication, .pixelData, .multicastControl] := by
  intro session rig start happenings rounds
  have hfresh : rig.Fresh 1 := by
    refine ⟨rfl, ⟨?_, ?_⟩⟩
    · intro entry hentry
      cases hentry
    · intro group hgroup entry hentry
      cases hgroup
      cases hentry
  have hbegun : (start.follow happenings).worker.HasBegun := by decide +kernel
  have hrounds : ∀ round ∈ rounds, IsRound round := by
    intro round hround
    rw [List.eq_of_mem_replicate hround]
    exact isRound_exampleRound
  have hopen : session.closed = false := rfl
  obtain ⟨-, hended⟩ := worker_ends_once hfresh ⟨.loopback, 5000⟩ hopen standardRegistry 2
  exact ⟨hended happenings rounds hbegun hrounds (Nat.le_refl 7), by decide +kernel,
    by decide +kernel⟩

end Luminaire
