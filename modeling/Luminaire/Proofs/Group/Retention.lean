/-
Every broadcast can be opened with the key its header names, for as many
rotations as the ring is deep.

Of all that can happen to a broadcaster only rotations touch the ring and
the cipher, and a rotation replaces both or neither (`step_cases`). So at
any time the ring holds the newest keys of all that were ever issued
(`keys_after`): the key of a broadcast is handed out until as many others
have been issued as the ring is deep, and is gone from then on.
-/
import Luminaire.Connection.GroupKeys
import Luminaire.Proofs.Group.Broadcasts

namespace Luminaire.Broadcaster

variable {ω : Type}

-- ============================================================= runs

/-- What can happen to a broadcaster. -/
inductive Event (ω : Type) where
  | request (item : GroupRequest)
  | terminate
  | observe (observer : ω)
  | unobserve (token : Token)
  /-- Works off the oldest request. -/
  | work (now : UInt64) (entropy : Entropy)
  /-- The time between two rotations has passed. -/
  | elapse (entropy : Entropy)

/-- What came of an event, and the broadcaster behind it. -/
def step (broadcaster : Broadcaster ω) : Event ω → Work × Broadcaster ω
  | .request item => (.idle, (broadcaster.request item).2)
  | .terminate => (.idle, broadcaster.terminate)
  | .observe observer => (.idle, (broadcaster.observe observer).2)
  | .unobserve token => (.idle, broadcaster.unobserve token)
  | .work now entropy =>
      let done := broadcaster.work now entropy
      (done.1, done.2.1)
  | .elapse entropy =>
      let done := broadcaster.elapse entropy
      (done.1, done.2.1)

/-- The broadcaster after some events. -/
def after (broadcaster : Broadcaster ω) (events : List (Event ω)) : Broadcaster ω :=
  events.foldl (fun broadcaster event => (broadcaster.step event).2) broadcaster

/-- The key that was issued, if the keys were rotated. -/
def Work.issued? : Work → Option GroupKey
  | .rotated key => some key
  | _ => none

/-- The keys that are issued in the course of some events, oldest first. -/
def issued (broadcaster : Broadcaster ω) : List (Event ω) → List GroupKey
  | [] => []
  | event :: events =>
      (broadcaster.step event).1.issued?.toList ++ (broadcaster.step event).2.issued events

/-- The same keys, for ring and cipher. -/
structure SameKeys (later earlier : Broadcaster ω) : Prop where
  ring : later.ring = earlier.ring
  cipher : later.cipher = earlier.cipher

/-- Work that issues no key. A note fails at the socket only, and a rotation
for lack of randomness only. -/
def Work.Keeps : Work → Prop
  | .idle | .sent _ | .stopped => True
  | .unsent fault => fault = .socket
  | .unrotated fault => fault = .entropy .groupKey
  | .rotated _ => False

variable {broadcaster : Broadcaster ω}

theorem Work.issued?_of_keeps {work : Work} (hkeeps : work.Keeps) : work.issued? = none := by
  cases work with
  | rotated key => exact hkeeps.elim
  | _ => rfl

/-- Working off a note writes it under the current key, with the next number and
the next tag. -/
theorem work_note (hkeyed : broadcaster.Keyed) (hrunning : broadcaster.running = true)
    {frameNumber : UInt64} {requests : List GroupRequest}
    (hrequests : broadcaster.requests = .note frameNumber :: requests) (now : UInt64)
    (entropy : Entropy) :
    ∃ key datagram, broadcaster.ring.current? = some key
      ∧ Broadcast.write (.new noteType broadcaster.tag key.id) key.key key.iv
          broadcaster.sequence (Cbor.encode (SyncOutput.mk frameNumber now)) = .ok datagram
      ∧ broadcaster.work now entropy
        = (if broadcaster.link = .up then .sent datagram else .unsent .socket,
          { broadcaster with
            requests := requests
            sequence := broadcaster.sequence + 1
            tag := broadcaster.tag + 1 }, entropy) := by
  have hkept : { broadcaster with requests }.Keyed := ⟨hkeyed.orderly, hkeyed.current⟩
  obtain ⟨key, datagram, hcurrent, hwrite, hnote⟩ := note_eq_write hkept now frameNumber
  refine ⟨key, datagram, hcurrent, hwrite, ?_⟩
  unfold work
  simp only [hrunning, hrequests] at hnote ⊢
  rw [hnote]
  by_cases hup : broadcaster.link = .up
  · simp only [if_pos hup]
  · simp only [if_neg hup]

/-- A note that is worked off becomes a datagram that reads back with the
current key. -/
theorem step_note (hkeyed : broadcaster.Keyed) (hrunning : broadcaster.running = true)
    {frameNumber : UInt64} {requests : List GroupRequest}
    (hrequests : broadcaster.requests = .note frameNumber :: requests) (now : UInt64)
    (entropy : Entropy) :
    ∃ key header datagram, broadcaster.ring.current? = some key ∧ header.keyId = key.id
      ∧ Broadcast.read datagram key.key key.iv = .ok (header, ⟨frameNumber, now⟩)
      ∧ (broadcaster.step (.work now entropy)).1
        = (if broadcaster.link = .up then .sent datagram else .unsent .socket)
      ∧ (broadcaster.step (.work now entropy)).2.SameKeys broadcaster := by
  obtain ⟨key, datagram, hcurrent, hwrite, hwork⟩ :=
    work_note hkeyed hrunning hrequests now entropy
  obtain ⟨length, hread⟩ := Broadcast.read_write rfl hwrite
  refine ⟨key, _, datagram, hcurrent, ?_, hread, ?_⟩
  · rfl
  · simp only [step, hwork]
    exact ⟨trivial, rfl, rfl⟩

/-- What is worked off is a note, or a wish for new keys, or it leaves the keys
alone. -/
theorem work_cases (broadcaster : Broadcaster ω) (now : UInt64) (entropy : Entropy) :
    (∃ frameNumber requests, broadcaster.running = true
        ∧ broadcaster.requests = .note frameNumber :: requests)
      ∨ (∃ requests, broadcaster.work now entropy = { broadcaster with requests }.renew entropy)
      ∨ (broadcaster.work now entropy).1.Keeps
        ∧ (broadcaster.work now entropy).2.1.SameKeys broadcaster := by
  obtain ⟨config, link, ring, cipher, observers, requests, sequence, tag, terminated, running⟩
    := broadcaster
  cases running with
  | false => exact .inr (.inr ⟨trivial, rfl, rfl⟩)
  | true =>
      cases requests with
      | nil => exact .inr (.inr ⟨trivial, rfl, rfl⟩)
      | cons request requests =>
          cases request with
          | note frameNumber => exact .inl ⟨frameNumber, requests, rfl, rfl⟩
          | rotate => exact .inr (.inl ⟨requests, rfl⟩)
          | stop => exact .inr (.inr ⟨trivial, rfl, rfl⟩)

/-- A renewal issues a key for ring and cipher, or leaves both as they were. -/
theorem renew_cases_of_sameKeys {other : Broadcaster ω} (hsame : other.SameKeys broadcaster)
    (entropy : Entropy) :
    (∃ key, broadcaster.ring.Draws key ∧ (other.renew entropy).1 = .rotated key
        ∧ (other.renew entropy).2.1.ring = broadcaster.ring.push key
        ∧ (other.renew entropy).2.1.cipher = ⟨some key.key⟩)
      ∨ (other.renew entropy).1.Keeps ∧ (other.renew entropy).2.1.SameKeys broadcaster := by
  obtain ⟨key, left, hdraws, hrenew⟩ | ⟨left, hrenew⟩ := other.renew_cases entropy
  · rw [hrenew]
    exact .inl ⟨key, hsame.ring ▸ hdraws, rfl, congrArg (KeyRing.push · key) hsame.ring, rfl⟩
  · rw [hrenew]
    exact .inr ⟨rfl, hsame⟩

/-- So does every event. -/
theorem step_cases (hkeyed : broadcaster.Keyed) (event : Event ω) :
    (∃ key, broadcaster.ring.Draws key ∧ (broadcaster.step event).1 = .rotated key
        ∧ (broadcaster.step event).2.ring = broadcaster.ring.push key
        ∧ (broadcaster.step event).2.cipher = ⟨some key.key⟩)
      ∨ (broadcaster.step event).1.Keeps ∧ (broadcaster.step event).2.SameKeys broadcaster := by
  cases event with
  | request item =>
      refine .inr ⟨trivial, ?_⟩
      show (broadcaster.request item).2.SameKeys broadcaster
      unfold Broadcaster.request
      split
      · exact ⟨rfl, rfl⟩
      · exact ⟨rfl, rfl⟩
  | terminate =>
      refine .inr ⟨trivial, ?_⟩
      show broadcaster.terminate.SameKeys broadcaster
      unfold Broadcaster.terminate
      split
      · exact ⟨rfl, rfl⟩
      · exact ⟨rfl, rfl⟩
  | observe observer => exact .inr ⟨trivial, rfl, rfl⟩
  | unobserve token => exact .inr ⟨trivial, rfl, rfl⟩
  | work now entropy =>
      obtain ⟨frameNumber, requests, hrunning, hrequests⟩ | ⟨requests, hrenew⟩ | hkeeps :=
        broadcaster.work_cases now entropy
      · obtain ⟨_, _, datagram, -, -, -, hwork, hsame⟩ :=
          step_note hkeyed hrunning hrequests now entropy
        refine .inr ⟨?_, hsame⟩
        rw [hwork]
        split
        · trivial
        · rfl
      · have hsame : { broadcaster with requests }.SameKeys broadcaster := ⟨rfl, rfl⟩
        simp only [step, hrenew]
        exact renew_cases_of_sameKeys hsame entropy
      · exact .inr hkeeps
  | elapse entropy =>
      simp only [step, Broadcaster.elapse]
      split
      · exact renew_cases_of_sameKeys ⟨rfl, rfl⟩ entropy
      · exact .inr ⟨trivial, rfl, rfl⟩

-- ============================================================= ring

theorem Keyed.step (hkeyed : broadcaster.Keyed) (event : Event ω) :
    (broadcaster.step event).2.Keyed := by
  obtain ⟨key, hdraws, -, hring, hcipher⟩ | ⟨-, hring, hcipher⟩ := step_cases hkeyed event
  · refine ⟨?_, key, ?_, hcipher⟩
    · rw [hring]
      exact hkeyed.orderly.push hdraws
    · rw [hring]
      exact hkeyed.orderly.current?_push key
  · refine ⟨?_, ?_⟩
    · rw [hring]
      exact hkeyed.orderly
    · rw [hring, hcipher]
      exact hkeyed.current

/-- After any events the ring holds the newest of the keys that were on it and
those that were issued since. -/
theorem keys_after (hkeyed : broadcaster.Keyed) (events : List (Event ω)) :
    (broadcaster.after events).Keyed
      ∧ (broadcaster.after events).ring.depth = broadcaster.ring.depth
      ∧ (broadcaster.after events).ring.keys
        = KeyRing.newest broadcaster.ring.depth
          (broadcaster.ring.keys ++ broadcaster.issued events) := by
  induction events generalizing broadcaster with
  | nil =>
      refine ⟨hkeyed, rfl, ?_⟩
      rw [issued, List.append_nil, KeyRing.newest_of_le hkeyed.orderly.bounded]
      rfl
  | cons event events ih =>
      obtain ⟨hlater, hdepth, hkeys⟩ := ih (hkeyed.step event)
      obtain ⟨key, -, hwork, hring, -⟩ | ⟨hkeeps, hring, -⟩ := step_cases hkeyed event
      · rw [hring] at hdepth hkeys
        refine ⟨hlater, hdepth, hkeys.trans ?_⟩
        rw [issued, hwork, KeyRing.keys_push, ← List.append_assoc]
        exact KeyRing.newest_newest_append ..
      · rw [hring] at hdepth hkeys
        refine ⟨hlater, hdepth, hkeys.trans ?_⟩
        rw [issued, Work.issued?_of_keeps hkeeps]
        rfl

variable {key : GroupKey}

/-- The current key stays on the ring until as many others have been issued as
the ring is deep. -/
theorem get?_of_few (hkeyed : broadcaster.Keyed)
    (hcurrent : broadcaster.ring.current? = some key) {events : List (Event ω)}
    (hfew : (broadcaster.issued events).length < broadcaster.ring.depth) :
    (broadcaster.after events).ring.get? key.id = some key := by
  obtain ⟨hlater, -, hkeys⟩ := keys_after hkeyed events
  refine hlater.orderly.get?_of_mem ?_
  obtain ⟨front, hfront⟩ := List.getLast?_eq_some_iff.1 hcurrent
  rw [hkeys, hfront, List.append_assoc, KeyRing.newest, List.drop_append_of_le_length]
  · exact List.mem_append_right _ List.mem_cons_self
  · rw [List.length_append, List.length_append, List.length_singleton]
    omega

/-- Then it is gone, unless its identifier was drawn again. -/
theorem get?_of_many (hkeyed : broadcaster.Keyed) {events : List (Event ω)}
    (hmany : broadcaster.ring.depth ≤ (broadcaster.issued events).length) {id : UInt32}
    (hother : ∀ key ∈ broadcaster.issued events, key.id ≠ id) :
    (broadcaster.after events).ring.get? id = none := by
  obtain ⟨-, -, hkeys⟩ := keys_after hkeyed events
  refine List.find?_eq_none.2 fun key hmem hid => ?_
  have hgone : broadcaster.ring.keys.length
      ≤ (broadcaster.ring.keys ++ broadcaster.issued events).length - broadcaster.ring.depth := by
    rw [List.length_append]
    omega
  rw [hkeys, KeyRing.newest, List.drop_append, List.drop_eq_nil_of_le hgone,
    List.nil_append] at hmem
  exact hother key (List.mem_of_mem_drop hmem) (beq_iff_eq.1 hid)

-- ========================================================== requests

/-- What an authenticated node that asks for a key is answered. -/
def Answers (broadcaster : Broadcaster ω) (id : UInt32) (data : KeyData) : Prop :=
  ∀ {κ : Type} [Sink κ] (connection : Connection κ) (node : Node) (header : Header)
    (payload : Bytes), connection.node = some node →
      header.messageType = Message.messageType GetKey →
        Cbor.decode? payload = some (GetKey.mk id) →
          GroupKeys.handle connection broadcaster header payload
            = connection.replyWith header data

theorem answers_of_get? (hget : broadcaster.ring.get? key.id = some key) :
    broadcaster.Answers key.id ⟨.success, key.id, key.key, key.iv⟩ := by
  intro κ _ connection node header payload hnode htype hrequest
  unfold GroupKeys.handle GroupKeys.key
  rw [htype, if_neg (by decide), if_pos rfl, hrequest]
  simp only [Connection.requireNode, hnode, material?, hget, Option.map_some]

theorem answers_of_none {id : UInt32} (hget : broadcaster.ring.get? id = none) :
    broadcaster.Answers id (GroupKeys.noKey .invalidKeyId id) := by
  intro κ _ connection node header payload hnode htype hrequest
  unfold GroupKeys.handle GroupKeys.key
  rw [htype, if_neg (by decide), if_pos rfl, hrequest]
  simp only [Connection.requireNode, hnode, material?, hget, Option.map_none]

-- ============================================================ start

/-- Settings that are in order keep one key at least. -/
theorem keyHistory_of_validate {config : GroupConfig} (hvalid : config.validate = .ok ()) :
    0 < config.keyHistory.toNat := by
  unfold GroupConfig.validate at hvalid
  split at hvalid
  · cases hvalid
  · split at hvalid
    · cases hvalid
    · split at hvalid
      · cases hvalid
      · split at hvalid
        · cases hvalid
        next hzero =>
          exact Nat.pos_of_ne_zero fun hsame => hzero (UInt64.toNat_inj.1 hsame)

/-- A broadcaster starts with nothing to do and nobody to tell, and its counters at
zero. -/
theorem eq_of_start {config : GroupConfig} {link : Link} {target : IpAddress}
    {entropy left : Entropy} (hstart : start config link target entropy
      = .running (broadcaster, left)) :
    ∃ ring cipher, broadcaster = {
      config := config
      link := link
      ring := ring
      cipher := cipher
      observers := .empty
      requests := []
      sequence := 0
      tag := 0
      terminated := false
      running := true } := by
  unfold start at hstart
  split at hstart
  · cases hstart
  · split at hstart
    · split at hstart
      · cases hstart
      · split at hstart
        · cases hstart
        · cases hstart
          exact ⟨_, _, rfl⟩
    · cases hstart

/-- A broadcaster starts under a first key, on a ring as deep as it is
configured. -/
theorem keyed_start {config : GroupConfig} {link : Link} {target : IpAddress}
    {entropy left : Entropy} (hstart : start config link target entropy
      = .running (broadcaster, left)) :
    broadcaster.Keyed ∧ broadcaster.ring.depth = config.keyHistory.toNat := by
  unfold start at hstart
  split at hstart
  · cases hstart
  next hvalid =>
    split at hstart
    · cases hring : KeyRing.new? config.keyHistory.toNat with
      | none =>
          rw [hring] at hstart
          cases hstart
      | some ring =>
          obtain rfl : KeyRing.new config.keyHistory.toNat = ring := by
            unfold KeyRing.new? at hring
            split at hring
            · exact Option.some.inj hring
            · cases hring
          have horderly := KeyRing.orderly_new config.keyHistory.toNat
          have hdepth : (KeyRing.new config.keyHistory.toNat).depth
              = config.keyHistory.toNat := Nat.max_eq_left (keyHistory_of_validate hvalid)
          obtain ⟨key, rest, hdraws, hrotate⟩ | ⟨rest, hrotate⟩ :=
            rotateKeys_cases (KeyRing.new config.keyHistory.toNat) .empty entropy
          · rw [hring] at hstart
            simp only [hrotate] at hstart
            cases hstart
            exact ⟨⟨horderly.push hdraws, key, horderly.current?_push key, rfl⟩, hdepth⟩
          · rw [hring] at hstart
            simp only [hrotate] at hstart
            cases hstart
    · cases hstart

/-- Every broadcast can be opened with the key its header names, for exactly as
many rotations as the ring is deep. At any time of a run the cipher works
with the current key; a rotation that fails leaves ring and cipher alone,
and a note fails at the socket only, so no frame is ever too long. A note
that is worked off becomes a datagram, and as long as fewer keys have been
issued since than the ring is deep, a node that asks for the key its header
names is answered with what opens it. From then on the answer is that there
is no such key, unless its identifier has been issued again. -/
theorem broadcasts_open_while_keys_last {config : GroupConfig} {link : Link}
    {target : IpAddress} {entropy left : Entropy} {first : Broadcaster ω}
    (hstart : start config link target entropy = .running (first, left))
    (events : List (Event ω)) :
    let broadcaster := first.after events
    (∃ key, broadcaster.ring.current? = some key ∧ broadcaster.cipher = ⟨some key.key⟩)
      ∧ (∀ event fault, (broadcaster.step event).1 = .unrotated fault →
        (broadcaster.step event).2.SameKeys broadcaster)
      ∧ (∀ event fault, (broadcaster.step event).1 = .unsent fault → fault = .socket)
      ∧ ∀ frameNumber requests now entropy, broadcaster.running = true →
        broadcaster.requests = .note frameNumber :: requests →
          let later := (broadcaster.step (.work now entropy)).2
          ∃ header datagram,
            (broadcaster.step (.work now entropy)).1
                = (if broadcaster.link = .up then .sent datagram else .unsent .socket)
              ∧ (∀ more, (later.issued more).length < config.keyHistory.toNat → ∃ key iv,
                (later.after more).Answers header.keyId ⟨.success, header.keyId, key, iv⟩
                  ∧ Broadcast.read datagram key iv = .ok (header, ⟨frameNumber, now⟩))
              ∧ ∀ more, config.keyHistory.toNat ≤ (later.issued more).length →
                (∀ key ∈ later.issued more, key.id ≠ header.keyId) →
                  (later.after more).Answers header.keyId
                    (GroupKeys.noKey .invalidKeyId header.keyId) := by
  intro broadcaster
  obtain ⟨hfirst, hconfigured⟩ := keyed_start hstart
  obtain ⟨hkeyed, hdepth, -⟩ := keys_after hfirst events
  have hkeeps : ∀ event, (broadcaster.step event).1.issued? = none →
      (broadcaster.step event).1.Keeps ∧ (broadcaster.step event).2.SameKeys broadcaster := by
    intro event hnone
    obtain ⟨key, -, hrotated, -⟩ | hkeeps := step_cases hkeyed event
    · rw [hrotated] at hnone
      cases hnone
    · exact hkeeps
  refine ⟨hkeyed.current, fun event fault hwork => ?_, fun event fault hwork => ?_, ?_⟩
  · exact (hkeeps event (by rw [hwork]; rfl)).2
  · have hfault := (hkeeps event (by rw [hwork]; rfl)).1
    rw [hwork] at hfault
    exact hfault
  · intro frameNumber requests now entropy hrunning hrequests later
    obtain ⟨key, header, datagram, hcurrent, hid, hread, hwork, hring, -⟩ :=
      step_note hkeyed hrunning hrequests now entropy
    have hlater : later.Keyed := hkeyed.step _
    have hlaterDepth : later.ring.depth = config.keyHistory.toNat := by
      rw [← hconfigured, ← hdepth]
      exact congrArg KeyRing.depth hring
    refine ⟨header, datagram, hwork, fun more hfew => ?_, fun more hmany hother => ?_⟩
    · have hrung := (congrArg KeyRing.current? hring).trans hcurrent
      have hget := get?_of_few hlater hrung (hlaterDepth ▸ hfew)
      rw [hid]
      exact ⟨key.key, key.iv, answers_of_get? hget, hread⟩
    · exact answers_of_none (get?_of_many hlater (hlaterDepth ▸ hmany) hother)

/-- The first frame of a broadcaster with the standard settings: the note of it
is sent, and whoever asks for the key gets what opens it. -/
theorem broadcast_opens_in_example :
    let entropy : Entropy := List.replicate 52 7
    let first : Broadcaster Nat :=
      { config := .standard
        link := .up
        ring := ⟨3, [⟨0x07070707, List.replicate 32 7, List.replicate 16 7⟩]⟩
        cipher := ⟨some (List.replicate 32 7)⟩
        observers := .empty
        requests := []
        sequence := 0
        tag := 0
        terminated := false
        running := true }
    let waiting := first.after [.request (.note 41)]
    start .standard .up .anyV4 entropy = .running (first, [])
      ∧ ∃ header datagram, (waiting.step (.work 5 [])).1 = .sent datagram
        ∧ ∃ key iv, (waiting.step (.work 5 [])).2.Answers header.keyId
            ⟨.success, header.keyId, key, iv⟩
          ∧ Broadcast.read datagram key iv = .ok (header, ⟨41, 5⟩) := by
  intro entropy first waiting
  have hstart : start .standard .up .anyV4 entropy = .running (first, []) := by rfl
  obtain ⟨-, -, -, hnotes⟩ := broadcasts_open_while_keys_last hstart [.request (.note 41)]
  obtain ⟨header, datagram, hsent, hopens, -⟩ := hnotes 41 [] 5 [] rfl rfl
  exact ⟨hstart, header, datagram, hsent, hopens [] (by decide)⟩

end Luminaire.Broadcaster
