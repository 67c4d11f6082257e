/-
The stage: a rig with an audience.

Rehearsals drive the parts of a controller step by step and watch what
happens. The audience are outside observers of regions and keys. Each may
have a label, and keeps to one habit when it is told something: it may
withdraw, bring in another observer, or disturb a connection in the middle
of a delivery. Who is due has been settled before the first is told, so
none of this changes who is told. Those with a label remember what they
were told until they are asked, whatever it was that had them told.
-/
import Luminaire.Connection.Station

namespace Luminaire.Rehearsal

/-- What an outside observer does once it has been told. -/
inductive Habit where
  | watch
  /-- Ends the latest registration under its own label. -/
  | withdraw
  /-- Registers another observer in the same place, whose registration
  nobody can end. -/
  | recruit
  /-- Takes the pixel handler away from a connection. -/
  | dropPixels (connection : ConnectionId)
  /-- Hands a connection's pixel handler the wish to give up a channel. -/
  | unsubscribe (connection : ConnectionId) (channel : UInt32)
  deriving DecidableEq, Repr

structure Spectator where
  label : Option String
  habit : Habit
  deriving DecidableEq, Repr

/-- Spectators who are told one kind of news. -/
structure Audience (ν : Type) where
  /-- Everyone, by number. -/
  spectators : List Spectator
  /-- The latest registration under each label, recruits apart. -/
  tokens : List (String × Token)
  /-- What the spectators with a label have heard since they were last
  asked, in the order they heard it. -/
  heard : List (String × ν)
  deriving DecidableEq, Repr

namespace Audience

variable {ν : Type}

def empty : Audience ν := ⟨[], [], []⟩

/-- The number of the next spectator. -/
def next (audience : Audience ν) : Nat := audience.spectators.length

/-- Takes in the next spectator. -/
def join (audience : Audience ν) (spectator : Spectator) : Audience ν :=
  { audience with spectators := audience.spectators ++ [spectator] }

/-- Makes a registration the latest under its label. -/
def enter (audience : Audience ν) (label : Option String) (token : Token) : Audience ν :=
  { audience with tokens := (label.map (·, token)).toList ++ audience.tokens }

/-- The latest registration under a label. -/
def token? (audience : Audience ν) (label : String) : Option Token :=
  audience.tokens.lookup label

/-- A spectator hears some news. -/
def hear (audience : Audience ν) (spectator : Spectator) (news : ν) : Audience ν :=
  { audience with heard := audience.heard ++ (spectator.label.map (·, news)).toList }

/-- Asks everyone what they have heard. -/
def ask (audience : Audience ν) : List (String × ν) × Audience ν :=
  (audience.heard, { audience with heard := [] })

end Audience

/-- The spectator whom one that recruits brings in. -/
def Spectator.recruit (spectator : Spectator) : Spectator :=
  ⟨spectator.label.map (· ++ "+"), .watch⟩

structure Stage (κ : Type) where
  rig : Rig κ
  /-- Who watches regions, and hears of frames. -/
  regions : Audience UInt64
  /-- Who watches keys, and hears of their identifiers. -/
  keys : Audience UInt32

namespace Stage

variable {κ : Type} [Sink κ]

/-- A stage without an audience. -/
def empty (rig : Rig κ) : Stage κ := ⟨rig, .empty, .empty⟩

def framebuffer (stage : Stage κ) : Framebuffer Watcher := stage.rig.venue.framebuffer

def withFramebuffer (stage : Stage κ) (framebuffer : Framebuffer Watcher) : Stage κ :=
  { stage with rig := { stage.rig with venue := { stage.rig.venue with framebuffer } } }

def withDirectory (stage : Stage κ) (directory : Directory) : Stage κ :=
  { stage with rig := { stage.rig with venue := { stage.rig.venue with directory } } }

/-- Sets the clock. -/
def withNow (stage : Stage κ) (now : UInt64) : Stage κ :=
  { stage with rig := { stage.rig with venue := { stage.rig.venue with now } } }

-- ========================================================== regions

/-- Seats a spectator of a region. -/
def seat (stage : Stage κ) (spectator : Spectator) (region : Region) : Token × Stage κ :=
  let (token, framebuffer) := stage.framebuffer.observe region (.outsider stage.regions.next)
  (token, { stage.withFramebuffer framebuffer with regions := stage.regions.join spectator })

/-- Registers a spectator of a region under its label. -/
def observe (stage : Stage κ) (spectator : Spectator) (region : Region) : Token × Stage κ :=
  let (token, stage) := stage.seat spectator region
  (token, { stage with regions := stage.regions.enter spectator.label token })

/-- Ends the latest registration under a label, and tells whether it was
still there; nothing is told of a label never used. -/
def unobserve (stage : Stage κ) (label : String) : Option Bool × Stage κ :=
  match stage.regions.token? label with
  | none => (none, stage)
  | some token =>
      (some (stage.framebuffer.observers.contains token),
        stage.withFramebuffer (stage.framebuffer.unobserve token))

/-- The tag of the messages that spectators send. -/
def spectatorTag : UInt8 := 0xab

/-- Hands a message to the pixel handler of a station. -/
def sendPixelHandler (rig : Rig κ) (connection : ConnectionId) (request : Unsubscribe) : Rig κ :=
  let position := do
    let station ← rig.station? connection
    station.handlers.findIdx? fun handler => handler.endpoint = .pixelData
  match position with
  | none => rig
  | some position =>
      match rig.handleAt connection position
        (.new .pixelData (Message.messageType Unsubscribe) spectatorTag) (Cbor.encode request) with
      | none => rig
      | some (_, rig) => rig

/-- A spectator of a region follows its habit. -/
def react (stage : Stage κ) (spectator : Spectator) (region : Region) : Stage κ :=
  match spectator.habit with
  | .watch => stage
  | .withdraw =>
      match spectator.label with
      | none => stage
      | some label => (stage.unobserve label).2
  | .recruit => (stage.seat spectator.recruit region).2
  | .dropPixels connection => { stage with rig := stage.rig.detach connection .pixelData }
  | .unsubscribe connection channel =>
      { stage with rig := sendPixelHandler stage.rig connection ⟨some channel⟩ }

/-- Tells one observer that a region is finished. -/
def tell (frameNumber : UInt64) (stage : Stage κ) (entry : Token × RegionObserver Watcher) :
    Stage κ :=
  match entry.2.observer with
  | .delivery _ => { stage with rig := stage.rig.tell frameNumber entry.1 entry.2.observer }
  | .outsider number =>
      match stage.regions.spectators[number]? with
      | none => stage
      | some spectator =>
          { stage with regions := stage.regions.hear spectator frameNumber }.react spectator
            entry.2.region

/-- The renderer has finished a region. Returns how many were told. -/
def finish (stage : Stage κ) (region : Region) (frameNumber : UInt64) : Nat × Stage κ :=
  stage.framebuffer.complete (tell frameNumber) region stage

/-- Asks those who watch regions which frames they have heard of. -/
def framesHeard (stage : Stage κ) : List (String × UInt64) × Stage κ :=
  let (heard, regions) := stage.regions.ask
  (heard, { stage with regions })

-- ============================================================= keys

def group? (stage : Stage κ) : Option (Broadcaster KeyWatcher) := stage.rig.venue.group

def withGroup (stage : Stage κ) (group : Broadcaster KeyWatcher) (entropy : Entropy) : Stage κ :=
  { stage with
    rig := { stage.rig with venue := { stage.rig.venue with group := some group, entropy } } }

/-- Seats a spectator of the keys, where there are any. -/
def seatForKeys (stage : Stage κ) (spectator : Spectator) : Option Token × Stage κ :=
  match stage.group? with
  | none => (none, stage)
  | some group =>
      let (token, group) := group.observe (.outsider stage.keys.next)
      (some token, { stage.withGroup group stage.rig.venue.entropy with
        keys := stage.keys.join spectator })

/-- Registers a spectator of the keys under its label. -/
def observeKeys (stage : Stage κ) (spectator : Spectator) : Stage κ :=
  match stage.seatForKeys spectator with
  | (none, stage) => stage
  | (some token, stage) => { stage with keys := stage.keys.enter spectator.label token }

/-- Ends the latest registration of a spectator of the keys. -/
def unobserveKeys (stage : Stage κ) (label : String) : Option Bool × Stage κ :=
  match stage.group?, stage.keys.token? label with
  | some group, some token =>
      (some (group.observers.contains token),
        stage.withGroup (group.unobserve token) stage.rig.venue.entropy)
  | _, _ => (none, stage)

/-- Tells one observer about a new key. -/
def tellKey (group : Broadcaster KeyWatcher) (id : UInt32) (stage : Stage κ)
    (watcher : KeyWatcher) : Stage κ :=
  match watcher with
  | .connection _ => { stage with rig := stage.rig.tellKey group id watcher }
  | .outsider number =>
      match stage.keys.spectators[number]? with
      | none => stage
      | some spectator =>
          let stage := { stage with keys := stage.keys.hear spectator id }
          if spectator.habit = .recruit then (stage.seatForKeys spectator.recruit).2 else stage

/-- Asks those who watch keys which new ones they have heard of. -/
def keysHeard (stage : Stage κ) : List (String × UInt32) × Stage κ :=
  let (heard, keys) := stage.keys.ask
  (heard, { stage with keys })

/-- What came of asking for new keys. -/
structure Rotation where
  /-- Whether the request was accepted. -/
  queued : Bool
  /-- The new key, if there is one. -/
  id : Option UInt32

/-- A key that is new is told to everyone. -/
def announce (stage : Stage κ) (key : GroupKey) : Stage κ :=
  match stage.group? with
  | none => stage
  | some group => group.observers.toList.foldl (tellKey group key.id) stage

/-- Takes over what the broadcaster did, and tells everyone if there is a new
key. -/
def takeOver (stage : Stage κ) (done : Broadcaster.Work × Broadcaster KeyWatcher × Entropy) :
    Broadcaster.Work × Stage κ :=
  let (work, group, entropy) := done
  let stage := stage.withGroup group entropy
  match work with
  | .rotated key => (work, stage.announce key)
  | _ => (work, stage)

/-- The keys rotate on their own. -/
def rotate (stage : Stage κ) : Broadcaster.Work × Stage κ :=
  match stage.group? with
  | none => (.idle, stage)
  | some group => stage.takeOver (group.elapse stage.rig.venue.entropy)

/-- Works off the broadcaster's oldest request. -/
def work (stage : Stage κ) : Broadcaster.Work × Stage κ :=
  match stage.group? with
  | none => (.idle, stage)
  | some group => stage.takeOver (group.work stage.rig.venue.now stage.rig.venue.entropy)

/-- Puts a request to the broadcaster. -/
def request (stage : Stage κ) (item : GroupRequest) : Bool × Stage κ :=
  match stage.group? with
  | none => (false, stage)
  | some group =>
      let (accepted, group) := group.request item
      (accepted, stage.withGroup group stage.rig.venue.entropy)

/-- The keys rotate until one cannot be drawn, at most `count` times. -/
def rotateAll : (count : Nat) → Stage κ → Stage κ
  | 0, stage => stage
  | count + 1, stage =>
      match stage.rotate with
      | (.rotated _, stage) => rotateAll count stage
      | (_, stage) => stage

/-- The keys rotate until the randomness is used up: every key takes some
of it. -/
def exhaust (stage : Stage κ) : Stage κ :=
  rotateAll (stage.rig.venue.entropy.length + 1) stage

/-- Asks for new keys and lets the request be worked off. -/
def rekey (stage : Stage κ) : Rotation × Stage κ :=
  match stage.request .rotate with
  | (false, stage) => (⟨false, none⟩, stage)
  | (true, stage) =>
      match stage.work with
      | (.rotated key, stage) => (⟨true, some key.id⟩, stage)
      | (_, stage) => (⟨true, none⟩, stage)

/-- What came of noting a frame. -/
inductive Note where
  | refused
  | sent (datagram : Bytes)
  /-- Accepted, but nothing left. -/
  | lost

/-- Notes that a frame is done and lets the note be worked off. -/
def note (stage : Stage κ) (frameNumber : UInt64) : Note × Stage κ :=
  match stage.request (.note frameNumber) with
  | (false, stage) => (.refused, stage)
  | (true, stage) =>
      match stage.work with
      | (.sent datagram, stage) => (.sent datagram, stage)
      | (_, stage) => (.lost, stage)

/-- Tells the broadcaster to end, and lets it. -/
def terminate (stage : Stage κ) : Stage κ :=
  match stage.group? with
  | none => stage
  | some group => (stage.withGroup group.terminate stage.rig.venue.entropy).work.2

end Stage

end Luminaire.Rehearsal
