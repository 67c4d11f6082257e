/-
A scene: any number of connections at one framebuffer, and everything that
happens to them.

Peers connect, messages are handed to any handler in any order, handlers
are taken away, keys rotate, channels are laid out anew, and the renderer
draws. A finished region can also be taken apart: who is due is settled
first, and the callbacks run later, one by one and in any order, with
other cues in between.

Every cue is something that can happen at any rig (`evolves_step`), so
the books agree. Every cue keeps the rig's tags as well (`Rig.Kept`), and
every callback that is under way stays the delivery it was settled for
(`Scene.Kept`).
-/
import Mathlib.Data.List.Induction
import Luminaire.Proofs.Server.Ledger

namespace Luminaire

-- ============================================================== cues

/-- A callback that is under way: whom to tell that a region is finished. -/
structure Callback where
  frameNumber : UInt64
  token : Token
  watcher : Watcher

structure Scene where
  rig : Rig Tape
  /-- The callbacks that have yet to run. -/
  underway : List Callback

/-- What can happen at a scene. -/
inductive Cue where
  /-- A peer connects. -/
  | enter (peer : SocketAddress)
  /-- A message is handed to a handler. -/
  | message (id : ConnectionId) (position : Nat) (header : Header) (payload : Bytes)
  /-- A message of unknown type is refused. -/
  | refuse (id : ConnectionId) (header : Header)
  /-- The handler of an endpoint is taken away. -/
  | detach (id : ConnectionId) (endpoint : Endpoint)
  /-- All handlers of a connection are taken away. -/
  | leave (id : ConnectionId)
  /-- Something happens apart from any connection's messages. -/
  | apart (event : Backstage)
  /-- The renderer has finished a region: settles who is due. -/
  | finish (region : Region) (frameNumber : UInt64)
  /-- One of the callbacks runs. -/
  | tell (index : Nat)

namespace Scene

/-- The scene before anyone connects. -/
def opening (venue : Venue) : Scene :=
  ⟨⟨{ venue with framebuffer := ⟨venue.framebuffer.pixels, .empty⟩ }, []⟩, []⟩

def step (scene : Scene) : Cue → Scene
  | .enter peer => { scene with rig := scene.rig.enter peer }
  | .message id position header payload =>
      { scene with rig := scene.rig.serve id position header payload }
  | .refuse id header =>
      { scene with
        rig := scene.rig.modify id fun station =>
          { station with connection := (station.connection.refuse header .unsupported).2 } }
  | .detach id endpoint => { scene with rig := scene.rig.detach id endpoint }
  | .leave id => { scene with rig := scene.rig.detachAll id }
  | .apart event => { scene with rig := scene.rig.apart event }
  | .finish region frameNumber =>
      { scene with
        underway := scene.underway
          ++ (scene.rig.venue.framebuffer.due region).map fun entry =>
            ⟨frameNumber, entry.1, entry.2.observer⟩ }
  | .tell index =>
      match scene.underway[index]? with
      | none => scene
      | some callback =>
          ⟨scene.rig.tell callback.frameNumber callback.token callback.watcher,
            scene.underway.eraseIdx index⟩

/-- The scene after these cues. -/
def after (venue : Venue) (cues : List Cue) : Scene := cues.foldl step (opening venue)

theorem after_append (venue : Venue) (cues more : List Cue) :
    after venue (cues ++ more) = more.foldl step (after venue cues) :=
  List.foldl_append

theorem after_snoc (venue : Venue) (cues : List Cue) (cue : Cue) :
    after venue (cues ++ [cue]) = (after venue cues).step cue :=
  after_append venue cues [cue]

theorem step_tell {scene : Scene} {index : Nat} {callback : Callback}
    (hcallback : scene.underway[index]? = some callback) :
    scene.step (.tell index)
      = ⟨scene.rig.tell callback.frameNumber callback.token callback.watcher,
        scene.underway.eraseIdx index⟩ := by
  simp only [step, hcallback]

theorem step_tell_of_none {scene : Scene} {index : Nat}
    (hcallback : scene.underway[index]? = none) : scene.step (.tell index) = scene := by
  simp only [step, hcallback]

end Scene

-- ========================================================= invariant

/-- The rig is kept, and every callback under way is a delivery that can be
carried, under a token that was given; whoever has this token now is whom
it was given to. -/
structure Scene.Kept (scene : Scene) : Prop where
  rig : scene.rig.Kept
  underway : ∀ callback ∈ scene.underway, ∃ delivery,
    callback.watcher = .delivery delivery ∧ delivery.Carried
      ∧ callback.token < scene.rig.venue.framebuffer.observers.next
      ∧ ∀ entry ∈ scene.rig.venue.framebuffer.observers.entries,
        entry.1 = callback.token → entry.2 = ⟨delivery.region, .delivery delivery⟩

namespace Scene

theorem kept_opening (venue : Venue) : (opening venue).Kept where
  rig := ⟨Rig.settled_vacant venue, nofun, rfl, nofun⟩
  underway := nofun

variable {scene : Scene}

/-- Callbacks that were under way are so at any rig whose observers follow. -/
theorem Kept.of_follows (hkept : scene.Kept) {rig : Rig Tape} (hrig : rig.Kept)
    (hfollows : rig.venue.framebuffer.Follows scene.rig.venue.framebuffer)
    {underway : List Callback} (hunderway : ∀ callback ∈ underway, callback ∈ scene.underway) :
    Kept ⟨rig, underway⟩ := by
  refine ⟨hrig, fun callback hcallback => ?_⟩
  obtain ⟨delivery, hdelivery, hcarried, hgiven, hsame⟩ :=
    hkept.underway callback (hunderway callback hcallback)
  refine ⟨delivery, hdelivery, hcarried, Nat.lt_of_lt_of_le hgiven hfollows.next_le,
    fun entry hentry htoken => ?_⟩
  rcases hfollows.old_or_new entry hentry with hold | hnew
  · exact hsame entry hold htoken
  · exact absurd (htoken ▸ hnew) (Nat.not_le_of_lt hgiven)

/-- A callback leaves the observers alone. -/
theorem observers_tell (scene : Scene) (index : Nat) :
    (scene.step (.tell index)).rig.venue.framebuffer.observers
      = scene.rig.venue.framebuffer.observers := by
  cases hcallback : scene.underway[index]? with
  | none => rw [step_tell_of_none hcallback]
  | some callback =>
      rw [step_tell hcallback]
      cases callback.watcher with
      | delivery delivery => rfl
      | outsider number => rfl

/-- Every cue is something that can happen at a rig. -/
theorem evolves_step (scene : Scene) (cue : Cue) :
    scene.rig.Evolves (scene.step cue).rig := by
  cases cue with
  | enter peer => exact .single (.joins _ _ (Connection.new peer Tape.blank))
  | message id position header payload =>
      exact .of_acts (scene.rig.acts_serve id position header payload)
  | refuse id header => exact .single (.acts (.changes _))
  | detach id endpoint => exact .single (.acts (.detaches endpoint))
  | leave id => exact .single (.acts .leaves)
  | apart event => exact scene.rig.evolves_apart event
  | finish region frameNumber => exact .refl scene.rig
  | tell index =>
      cases hcallback : scene.underway[index]? with
      | none =>
          rw [step_tell_of_none hcallback]
          exact .refl scene.rig
      | some callback =>
          rw [step_tell hcallback]
          exact scene.rig.evolves_tell callback.frameNumber callback.token callback.watcher

/-- Every cue keeps the invariant, and the observers of a scene follow those
of the scene before. -/
theorem Kept.step (hkept : scene.Kept) (cue : Cue) :
    (scene.step cue).Kept
      ∧ (scene.step cue).rig.venue.framebuffer.Follows scene.rig.venue.framebuffer := by
  have hall : ∀ callback ∈ scene.underway, callback ∈ scene.underway := fun _ h => h
  have hfollows := (scene.evolves_step cue).follows hkept.rig.settled
  refine ⟨?_, hfollows⟩
  cases cue with
  | enter peer => exact hkept.of_follows (hkept.rig.enter peer) hfollows hall
  | message id position header payload =>
      exact hkept.of_follows (hkept.rig.serve id position header payload) hfollows hall
  | refuse id header =>
      exact hkept.of_follows (hkept.rig.refuse id header .unsupported) hfollows hall
  | detach id endpoint => exact hkept.of_follows (hkept.rig.detach id endpoint) hfollows hall
  | leave id => exact hkept.of_follows (hkept.rig.detachAll id) hfollows hall
  | apart event => exact hkept.of_follows (hkept.rig.apart event).kept hfollows hall
  | finish region frameNumber =>
      refine ⟨hkept.rig, fun callback hcallback => ?_⟩
      rcases List.mem_append.1 hcallback with hcallback | hcallback
      · exact hkept.underway callback hcallback
      · obtain ⟨entry, hentry, rfl⟩ := List.mem_map.1 hcallback
        have hmem := (List.mem_filter.1 hentry).1
        obtain ⟨delivery, howned, -, hcarried⟩ := hkept.rig.orderly.owned entry hmem
        refine ⟨delivery, congrArg RegionObserver.observer howned, hcarried,
          hkept.rig.orderly.issued entry hmem, fun other hother htoken => ?_⟩
        rw [List.inj_on_of_nodup_map hkept.rig.orderly.tokens hother hmem htoken]
        exact howned
  | tell index =>
      cases hcallback : scene.underway[index]? with
      | none =>
          rw [step_tell_of_none hcallback]
          exact hkept
      | some callback =>
          obtain ⟨delivery, hdelivery, hcarried, -⟩ :=
            hkept.underway callback (List.mem_of_getElem? hcallback)
          have hwatched : ∀ delivery, callback.watcher = .delivery delivery →
              delivery.Carried :=
            fun other hother => by rw [hdelivery] at hother; cases hother; exact hcarried
          have htold := Rig.KeptWith.tell ⟨hkept.rig, rfl⟩ hwatched
            callback.frameNumber callback.token
          rw [step_tell hcallback] at hfollows ⊢
          exact hkept.of_follows htold.kept hfollows
            fun other hother => List.mem_of_mem_eraseIdx hother

/-- So does every run. -/
theorem kept_after (venue : Venue) (cues : List Cue) : (after venue cues).Kept := by
  induction cues using List.reverseRecOn with
  | nil => exact kept_opening venue
  | append_singleton cues cue ih =>
      rw [after_snoc]
      exact (ih.step cue).1

theorem follows_after (venue : Venue) (cues more : List Cue) :
    (after venue (cues ++ more)).rig.venue.framebuffer.Follows
      (after venue cues).rig.venue.framebuffer := by
  induction more using List.reverseRecOn with
  | nil =>
      rw [List.append_nil]
      exact .of_observers rfl
  | append_singleton more cue ih =>
      rw [← List.append_assoc, after_snoc]
      exact ((kept_after venue (cues ++ more)).step cue).2.trans ih

end Scene

end Luminaire
