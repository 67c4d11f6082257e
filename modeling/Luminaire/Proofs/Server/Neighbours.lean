/-
Connections do not interfere.

# Houses

A house is one rig and the workers of all connections served at it. They
are taken in, and their workers take their steps, in any order: messages
arrive, anyone signals, loops end, shutdowns go on. In between the renderer
draws and finishes regions. Each step comes with the time and with the
randomness it may draw from.

# Alone

What concerns one connection is taken out of such a run and happens again
at a house where nobody else is served. Two houses are alike to a
connection (`House.Alike`) when its worker is the same and so is what it
makes out of the rig. What concerns the connection keeps them alike
(`House.Alike.occur`), because a step of its worker comes to the same at
both (`Worker.concur_step`); what does not happens at the one only, and
the connection does not notice (`House.Alike.occur_elsewhere`).
-/
import Luminaire.Proofs.Server.Outlook
import Luminaire.Proofs.Server.Reports
import Luminaire.Proofs.Server.Uniform

namespace Luminaire

-- =========================================================== workers

namespace Worker

/-- A step of a worker concerns its own connection. -/
theorem minds_step (worker : Worker) (rig : Rig Outlet) (next : Step) :
    Rig.Minds worker.id rig (worker.step rig next).2 :=
  (worker.acts_step rig next).minds

/-- So does its beginning. -/
theorem minds_start (id : ConnectionId) (peer : SocketAddress) (session : Session)
    (registry : Registry HandlerKind) (callbacks : Nat) (rig : Rig Outlet) :
    Rig.Minds id rig (start id peer session registry callbacks rig).2.2 :=
  .adjoin rig id (registry.entries.map Prod.snd) (.new peer ⟨session, []⟩)

end Worker

-- ============================================================= twins

/-- Two settled rigs that look the same to a connection, at the same time and
with the same randomness to draw from. -/
structure Rig.Twins (id : ConnectionId) (left right : Rig Outlet) : Prop where
  alike : left.Alike id right
  settledLeft : left.Settled
  settledRight : right.Settled
  now : left.venue.now = right.venue.now
  entropy : left.venue.entropy = right.venue.entropy

theorem Rig.minds_tuned (id : ConnectionId) (rig : Rig Outlet) (now : UInt64)
    (entropy : Entropy) : Minds id rig (rig.tuned now entropy) :=
  ⟨fun hsettled => hsettled.of_venue rfl, fun _ _ _ => ⟨rfl, rfl⟩, fun _ => .of_observers rfl, rfl⟩

theorem Rig.Alike.tuned {id : ConnectionId} {left right : Rig Outlet}
    (halike : left.Alike id right) (hleft : left.Settled) (hright : right.Settled)
    (now : UInt64) (entropy : Entropy) :
    (left.tuned now entropy).Twins id (right.tuned now entropy) where
  alike := ⟨halike.station, halike.venue.owed, halike.venue.ground⟩
  settledLeft := (minds_tuned id left now entropy).settled hleft
  settledRight := (minds_tuned id right now entropy).settled hright
  now := rfl
  entropy := rfl

/-- The connection changes at both. -/
theorem Rig.Twins.modify {id : ConnectionId} {left right : Rig Outlet}
    (htwins : left.Twins id right) (change : Connection Outlet → Connection Outlet) :
    (left.modify id fun station =>
      { station with connection := change station.connection }).Twins id
        (right.modify id fun station =>
          { station with connection := change station.connection }) where
  alike := htwins.alike.modify change
  settledLeft := (Rig.Minds.modify left id _).settled htwins.settledLeft
  settledRight := (Rig.Minds.modify right id _).settled htwins.settledRight
  now := htwins.now
  entropy := htwins.entropy

namespace Worker

/-- The worker is the same afterwards, and the rigs look the same to its
connection. -/
def Concur (id : ConnectionId) (left right : Worker × Rig Outlet) : Prop :=
  left.1 = right.1 ∧ left.2.Alike id right.2

variable (worker : Worker) {left right : Rig Outlet}

theorem concur_heed (halike : left.Alike worker.id right) (header : Header) (outcome : Outcome) :
    Concur worker.id (worker.heed header outcome left) (worker.heed header outcome right) := by
  unfold heed
  split
  · exact ⟨rfl, halike.modify fun connection => (connection.refuse header .unsupported).2⟩
  · split
    · exact ⟨rfl, halike⟩
    · exact ⟨rfl, halike⟩
  · exact ⟨rfl, halike⟩

variable (htwins : left.Twins worker.id right)
include htwins

theorem concur_dispatch (message : Bytes) :
    Concur worker.id (worker.dispatch left message) (worker.dispatch right message) := by
  cases hread : unframe (H := Header) message with
  | error fault =>
      simp only [dispatch, hread]
      split
      · exact ⟨rfl, htwins.alike⟩
      · exact ⟨rfl, htwins.alike⟩
  | ok opened =>
      obtain ⟨header, payload⟩ := opened
      cases hslot : worker.slots.lookup header.endpoint with
      | none =>
          simp only [dispatch, hread, hslot]
          exact ⟨rfl, htwins.alike⟩
      | some position =>
          obtain ⟨hleft, hright⟩ | ⟨outcome, left', right', hleft, hright, halike⟩ :=
            htwins.alike.handleAt htwins.settledLeft htwins.settledRight htwins.now
              htwins.entropy position header payload
          · simp only [dispatch, hread, hslot, hleft, hright]
            exact ⟨rfl, htwins.alike⟩
          · rw [dispatch_of_handleAt hread hslot hleft, dispatch_of_handleAt hread hslot hright]
            exact worker.concur_heed halike header outcome

theorem concur_takeIn (received : Except SessionError (Option Bytes)) :
    Concur worker.id (worker.takeIn received left) (worker.takeIn received right) := by
  unfold takeIn
  split
  · exact ⟨rfl, htwins.alike⟩
  · exact worker.concur_dispatch htwins _
  · exact ⟨rfl, htwins.alike⟩
  · exact ⟨rfl, htwins.alike⟩
  · exact ⟨rfl, htwins.alike⟩

theorem concur_read (arrival : Option Bytes) :
    Concur worker.id (worker.read left arrival) (worker.read right arrival) := by
  by_cases hphase : worker.phase = .reading
  · cases hstop : worker.stop with
    | true =>
        simp only [read, hphase, hstop]
        exact ⟨rfl, htwins.alike⟩
    | false =>
        obtain ⟨hleft, hright⟩ | ⟨mine, yours, hleft, hright, hbare⟩ := htwins.alike.stations
        · simp only [read, hphase, hstop, hleft, hright]
          exact ⟨rfl, htwins.alike⟩
        · obtain ⟨-, hconnection, -⟩ := Station.mk.inj hbare
          rw [read_of_station hphase hstop hleft, read_of_station hphase hstop hright,
            ← hconnection]
          exact worker.concur_takeIn (htwins.modify (resumed _)) _
  · simp only [read, if_pos hphase]
    exact ⟨rfl, htwins.alike⟩

theorem concur_release : Concur worker.id (worker.release left) (worker.release right) := by
  unfold release
  split
  · exact ⟨rfl, htwins.alike.detachAll htwins.settledLeft htwins.settledRight⟩
  · exact ⟨rfl, htwins.alike⟩

theorem concur_advance : Concur worker.id (worker.advance left) (worker.advance right) := by
  unfold advance
  split
  · exact ⟨rfl, htwins.alike⟩
  · exact ⟨rfl, htwins.alike.modify fun connection =>
      { connection with sink := connection.sink.close }⟩
  · exact ⟨rfl, htwins.alike⟩
  · exact ⟨rfl, htwins.alike⟩

/-- A step of the worker comes to the same at both. -/
theorem concur_step (next : Step) :
    Concur worker.id (worker.step left next) (worker.step right next) := by
  cases next with
  | read arrival => exact worker.concur_read htwins arrival
  | release => exact worker.concur_release htwins
  | advance => exact worker.concur_advance htwins
  | _ => exact ⟨rfl, htwins.alike⟩

omit htwins in
/-- A connection is taken in the same way at both. -/
theorem concur_start {id : ConnectionId} (halike : left.Alike id right)
    (hleft : left.station? id = none) (hright : right.station? id = none)
    (peer : SocketAddress) (session : Session) (callbacks : Nat) :
    let mine := start id peer session standardRegistry callbacks left
    let yours := start id peer session standardRegistry callbacks right
    Concur id (mine.1, mine.2.2) (yours.1, yours.2.2) := by
  obtain ⟨hslots, hhandlers⟩ := attach_standard_alike id halike.venue.ground
  let kinds := standardRegistry.entries.map Prod.snd
  have hmine := given_attach id kinds left.venue
  have hyours := given_attach id kinds right.venue
  refine ⟨?_, ?_, ?_, ?_⟩
  · exact congrArg (fun slots => Worker.mk id slots .running false .reading none callbacks [] false)
      hslots
  · show ((left.adjoin id kinds (.new peer ⟨session, []⟩)).station? id).map Station.bare
      = ((right.adjoin id kinds (.new peer ⟨session, []⟩)).station? id).map Station.bare
    rw [Rig.station?_adjoin, Rig.station?_adjoin, hleft, hright, if_pos rfl, if_pos rfl]
    exact congrArg (fun handlers => some (Station.mk id _ handlers)) hhandlers
  · exact (congrArg (Framebuffer.owed · id) hmine.framebuffer).trans
      (halike.venue.owed.trans (congrArg (Framebuffer.owed · id) hyours.framebuffer).symm)
  · exact hmine.ground.trans (halike.venue.ground.trans hyours.ground.symm)

end Worker

-- ============================================================ houses

/-- A rig, and the workers of the connections that are served at it. -/
structure House where
  worker? : ConnectionId → Option Worker
  rig : Rig Outlet

/-- What happens at a house. -/
inductive Deed where
  /-- A connection is taken in, unless there is one of that number. -/
  | join (id : ConnectionId) (peer : SocketAddress) (session : Session) (callbacks : Nat)
  /-- A connection's worker takes a step, at a time and with randomness to
  draw from. -/
  | step (id : ConnectionId) (now : UInt64) (entropy : Entropy) (next : Worker.Step)
  /-- The renderer draws. -/
  | draw (start : UInt32) (pixels : List Pixel)
  /-- The renderer has finished a region. -/
  | finish (region : Region) (frameNumber : UInt64)

/-- Whether a connection is concerned. What the renderer does concerns
everyone. -/
def Deed.concerns (id : ConnectionId) : Deed → Bool
  | .join other .. => other == id
  | .step other .. => other == id
  | .draw .. => true
  | .finish .. => true

namespace House

/-- A house where nobody is served yet and no region is observed. -/
def opening (venue : Venue) : House :=
  ⟨fun _ => none,
    ⟨{ venue with framebuffer := ⟨venue.framebuffer.pixels, .empty⟩ }, []⟩⟩

/-- Keeps a connection's worker, and the rig. -/
def keep (house : House) (id : ConnectionId) (kept : Worker × Rig Outlet) : House :=
  ⟨fun other => if other = id then some kept.1 else house.worker? other, kept.2⟩

def occur (house : House) : Deed → House
  | .join id peer session callbacks =>
      match house.rig.station? id with
      | some _ => house
      | none =>
          let (worker, _, rig) :=
            Worker.start id peer session standardRegistry callbacks house.rig
          house.keep id (worker, rig)
  | .step id now entropy next =>
      match house.worker? id with
      | none => house
      | some worker => house.keep id (worker.step (house.rig.tuned now entropy) next)
  | .draw start pixels => { house with rig := house.rig.apart (.draw start pixels) }
  | .finish region frameNumber =>
      { house with rig := house.rig.apart (.finish region frameNumber) }

/-- All that happens, in order. -/
def run (house : House) (deeds : List Deed) : House := deeds.foldl occur house

/-- A connection, with all that was sent on it. -/
def connection? (house : House) (id : ConnectionId) : Option (Connection Outlet) :=
  (house.rig.station? id).map Station.connection

/-- How far a connection's authentication has come. -/
def authState? (house : House) (id : ConnectionId) : Option AuthState :=
  (house.rig.station? id).bind Station.authState?

/-- The channels that a connection is subscribed to, each with what is
registered at the framebuffer for it. -/
def subscriptions (house : House) (id : ConnectionId) :
    List (UInt32 × Option (RegionObserver Watcher)) :=
  (house.rig.held id).map fun subscription =>
    (subscription.channel,
      house.rig.venue.framebuffer.observers.entries.lookup subscription.token)

-- ======================================================== alike houses

/-- The rig is settled, and workers are kept under their numbers. -/
structure Sound (house : House) : Prop where
  settled : house.rig.Settled
  numbers : ∀ id worker, house.worker? id = some worker → worker.id = id

/-- Two houses that are the same to a connection, tokens aside. -/
structure Alike (id : ConnectionId) (left right : House) : Prop where
  worker : left.worker? id = right.worker? id
  rig : left.rig.Alike id right.rig

variable {house left right : House} {id other : ConnectionId}

theorem sound_opening (venue : Venue) : (opening venue).Sound where
  settled := Rig.settled_vacant venue
  numbers := nofun

theorem worker?_keep_self (house : House) (id : ConnectionId) (kept : Worker × Rig Outlet) :
    (house.keep id kept).worker? id = some kept.1 := if_pos rfl

theorem worker?_keep_of_ne (house : House) (hne : other ≠ id) (kept : Worker × Rig Outlet) :
    (house.keep id kept).worker? other = house.worker? other := if_neg hne

/-- Workers stay under their numbers. -/
theorem Sound.numbers_keep (hsound : house.Sound) {kept : Worker × Rig Outlet}
    (hid : kept.1.id = id) (other : ConnectionId) (worker : Worker)
    (hworker : (house.keep id kept).worker? other = some worker) : worker.id = other := by
  by_cases hne : other = id
  · rw [hne, worker?_keep_self] at hworker
    cases hworker
    exact hid.trans hne.symm
  · rw [worker?_keep_of_ne house hne] at hworker
    exact hsound.numbers other worker hworker

/-- What is done for a connection at both houses, and comes to the same. -/
theorem alike_keep {mine yours : Worker × Rig Outlet} (hconcur : Worker.Concur id mine yours)
    (left right : House) : (left.keep id mine).Alike id (right.keep id yours) := by
  refine ⟨?_, hconcur.2⟩
  rw [worker?_keep_self, worker?_keep_self, hconcur.1]

/-- What is done for another connection, at one of the houses. -/
theorem Alike.keep_elsewhere (halike : left.Alike id right) (hleft : left.Sound)
    (hne : id ≠ other) {kept : Worker × Rig Outlet}
    (hminds : Rig.Minds other left.rig kept.2) : (left.keep other kept).Alike id right := by
  refine ⟨?_, halike.rig.of_minds hleft.settled hminds hne⟩
  rw [worker?_keep_of_ne left hne]
  exact halike.worker

/-- To the rig a deed is something that can happen at any. -/
theorem evolves_occur (house : House) (deed : Deed) :
    house.rig.Evolves (house.occur deed).rig := by
  cases deed with
  | join id peer session callbacks =>
      unfold occur
      simp only
      split
      · exact .refl house.rig
      · exact Worker.evolves_start id peer session standardRegistry callbacks house.rig
  | step id now entropy next =>
      unfold occur
      simp only
      split
      · exact .refl house.rig
      next worker _ =>
        exact (house.rig.evolves_tuned now entropy).trans (worker.evolves_step _ next)
  | draw start pixels => exact house.rig.evolves_apart (.draw start pixels)
  | finish region frameNumber => exact house.rig.evolves_apart (.finish region frameNumber)

/-- Whatever happens leaves a house sound. -/
theorem Sound.occur (hsound : house.Sound) (deed : Deed) : (house.occur deed).Sound := by
  refine ⟨(house.evolves_occur deed).settled hsound.settled, ?_⟩
  cases deed with
  | join id peer session callbacks =>
      unfold House.occur
      simp only
      cases house.rig.station? id with
      | some station => exact hsound.numbers
      | none => exact hsound.numbers_keep rfl
  | step id now entropy next =>
      unfold House.occur
      simp only
      cases hworker : house.worker? id with
      | none => exact hsound.numbers
      | some worker =>
          exact hsound.numbers_keep ((Worker.id_step next).trans (hsound.numbers id worker hworker))
  | draw start pixels => exact hsound.numbers
  | finish region frameNumber => exact hsound.numbers

/-- What concerns a connection is the same at houses that are alike to it. -/
theorem Alike.occur (halike : left.Alike id right) (hleft : left.Sound) (hright : right.Sound)
    {deed : Deed} (hconcerns : deed.concerns id = true) :
    (left.occur deed).Alike id (right.occur deed) := by
  cases deed with
  | join other peer session callbacks =>
      obtain rfl : other = id := beq_iff_eq.1 hconcerns
      unfold House.occur
      simp only
      obtain ⟨hmine, hyours⟩ | ⟨mine, yours, hmine, hyours, -⟩ := halike.rig.stations
      · rw [hmine, hyours]
        exact alike_keep
          (Worker.concur_start halike.rig hmine hyours peer session callbacks) left right
      · rw [hmine, hyours]
        exact halike
  | step other now entropy next =>
      obtain rfl : other = id := beq_iff_eq.1 hconcerns
      unfold House.occur
      simp only
      rw [← halike.worker]
      cases hworker : left.worker? other with
      | none => exact halike
      | some worker =>
          obtain rfl := hleft.numbers other worker hworker
          have htwins := halike.rig.tuned hleft.settled hright.settled now entropy
          exact alike_keep (worker.concur_step htwins next) left right
  | draw start pixels => exact ⟨halike.worker, halike.rig.draw start pixels⟩
  | finish region frameNumber =>
      exact ⟨halike.worker,
        halike.rig.finish hleft.settled hright.settled region frameNumber⟩

/-- What concerns others at one of the houses goes unnoticed. -/
theorem Alike.occur_elsewhere (halike : left.Alike id right) (hleft : left.Sound) {deed : Deed}
    (hconcerns : deed.concerns id = false) : (left.occur deed).Alike id right := by
  cases deed with
  | join other peer session callbacks =>
      have hne : id ≠ other := (beq_eq_false_iff_ne.1 hconcerns).symm
      unfold House.occur
      simp only
      cases hnew : left.rig.station? other with
      | some station => exact halike
      | none =>
          exact halike.keep_elsewhere hleft hne
            (Worker.minds_start other peer session standardRegistry callbacks _)
  | step other now entropy next =>
      have hne : id ≠ other := (beq_eq_false_iff_ne.1 hconcerns).symm
      unfold House.occur
      simp only
      cases hworker : left.worker? other with
      | none => exact halike
      | some worker =>
          obtain rfl := hleft.numbers other worker hworker
          exact halike.keep_elsewhere hleft hne
            ((Rig.minds_tuned worker.id left.rig now entropy).trans (worker.minds_step _ next))
  | draw start pixels => cases hconcerns
  | finish region frameNumber => cases hconcerns

/-- A run and what of it concerns a connection leave houses alike to it. -/
theorem Alike.run (halike : left.Alike id right) (hleft : left.Sound) (hright : right.Sound)
    (deeds : List Deed) :
    (left.run deeds).Alike id (right.run (deeds.filter (Deed.concerns id))) := by
  induction deeds generalizing left right with
  | nil => exact halike
  | cons deed deeds ih =>
      cases hconcerns : deed.concerns id with
      | true =>
          rw [List.filter_cons_of_pos hconcerns]
          exact ih (halike.occur hleft hright hconcerns) (hleft.occur deed) (hright.occur deed)
      | false =>
          rw [List.filter_cons_of_neg (Bool.not_eq_true _ ▸ hconcerns)]
          exact ih (halike.occur_elsewhere hleft hconcerns) (hleft.occur deed) hright

theorem Sound.run (hsound : house.Sound) (deeds : List Deed) : (house.run deeds).Sound := by
  induction deeds generalizing house with
  | nil => exact hsound
  | cons deed deeds ih => exact ih (hsound.occur deed)

-- ======================================================== what shows

theorem Alike.connection? (halike : left.Alike id right) :
    left.connection? id = right.connection? id := by
  have hstation := congrArg (Option.map Station.connection) halike.rig.station
  rw [Option.map_map, Option.map_map] at hstation
  exact hstation

theorem Alike.authState? (halike : left.Alike id right) :
    left.authState? id = right.authState? id := by
  have hbare : ∀ house : House, house.authState? id
      = ((house.rig.station? id).map Station.bare).bind Station.authState? := by
    intro house
    rw [Option.bind_map]
    exact congrArg (Option.bind (house.rig.station? id))
      (funext fun station => station.authState?_bare.symm)
  rw [hbare left, hbare right, halike.rig.station]

/-- What a connection is subscribed to is what it is owed. -/
theorem Sound.subscriptions_eq (hsound : house.Sound) (id : ConnectionId) :
    house.subscriptions id
      = ((house.rig.venue.framebuffer.owed id).map fun delivery =>
          (delivery.channel, some ⟨delivery.region, .delivery delivery⟩)).reverse :=
  (hsound.settled.agrees id).registered

/-- Connections do not interfere. Any number of connections are served at one
directory, framebuffer and group; messages arrive on them, their workers
are signalled and dropped, their loops end and their shutdowns go on, in
any order, and meanwhile the renderer draws and finishes regions. At any
moment a connection's worker, with the cause it ended for, everything that
was sent on the connection, its node, its authentication and its
subscriptions are what they are when what concerns the connection happens
to it alone, at the same times and with the same randomness. -/
theorem connections_do_not_interfere (venue : Venue) (deeds : List Deed) (id : ConnectionId) :
    let crowded := (opening venue).run deeds
    let alone := (opening venue).run (deeds.filter (Deed.concerns id))
    crowded.worker? id = alone.worker? id
      ∧ crowded.connection? id = alone.connection? id
      ∧ crowded.authState? id = alone.authState? id
      ∧ crowded.subscriptions id = alone.subscriptions id := by
  intro crowded alone
  have hopening := sound_opening venue
  have halike : crowded.Alike id alone :=
    Alike.run ⟨rfl, rfl, rfl, rfl⟩ hopening hopening deeds
  refine ⟨halike.worker, halike.connection?, halike.authState?, ?_⟩
  rw [(hopening.run deeds).subscriptions_eq, (hopening.run _).subscriptions_eq,
    halike.rig.venue.owed]

-- Two connections turn out to be the same node, which takes up one channel on
-- both: each is told three times, and only the tokens tell them apart.
example :
    let node : Bytes := List.replicate 16 9
    let drawn : Entropy := List.replicate 48 1
    let venue : Venue := ⟨⟨[⟨12, ⟨node, rfl⟩, [115, 51], "stage-left"⟩], [⟨12, 0, 4, 1, .rgb⟩]⟩,
      .dark 6, none, 0, []⟩
    let keys : SessionKeys := ⟨⟨List.replicate 32 1, List.replicate 24 2, []⟩,
      ⟨List.replicate 32 3, List.replicate 24 4, []⟩⟩
    let session := Session.establish .up .chacha .server keys
    let first := (Session.establish .up .chacha .client keys).send
      (framed (Header.new .authentication (Message.messageType AuthRequest) 3)
        (Cbor.encode (AuthRequest.mk ⟨node, rfl⟩ ["hmac-sha256"])))
    let second := first.2.send
      (framed (Header.new .authentication (Message.messageType AuthResponse) 4)
        (Cbor.encode (AuthResponse.mk (hmac [115, 51] drawn))))
    let third := second.2.send
      (framed (Header.new .pixelData (Message.messageType Subscribe) 5)
        (Cbor.encode (Subscribe.mk 0 1 2 PixelFormat.rgb.code)))
    let both := fun (record : Except SessionError Bytes) =>
      [Deed.step 8 5 drawn (.read record.toOption), .step 3 5 drawn (.read record.toOption)]
    let house := (opening venue).run
      ([.join 3 ⟨.loopback, 5000⟩ session 0, .join 8 ⟨.loopback, 5001⟩ session 0]
        ++ both first.1 ++ both second.1 ++ both third.1)
    [3, 8].map (fun id =>
        (house.rig.held id, (house.connection? id).map (·.sink.sent.length)))
      = [([⟨0, 2⟩], some 3), ([⟨0, 1⟩], some 3)] := by
  decide +kernel

end House

end Luminaire
