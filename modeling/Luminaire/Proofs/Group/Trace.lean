/-
The broadcasts of a whole run, from the start to the end.

Three counters advance at rates of their own: the number and the tag with
every note, the key with every rotation that succeeds. None of them sets
another back (`Counts.step`). So the `i`-th broadcast carries the frame of
the `i`-th note that was accepted, the number `i`, the tag `i` modulo 256,
and the key of the last rotation before it (`Counts.traced`), and no two
notes under one key and base share an initial value.

Requests are worked off in the order in which they were accepted
(`queue_after`). Being told to end is the last that is accepted, so it is
worked off behind everything else, and nothing happens afterwards
(`Phase`).
-/
import Luminaire.Proofs.Group.Retention
import Luminaire.Proofs.Record.Nonces

namespace Luminaire

/-- The frame that a request wants noted. -/
def GroupRequest.frame? : GroupRequest → Option UInt64
  | .note frame => some frame
  | _ => none

namespace Broadcaster

variable {ω : Type} {broadcaster : Broadcaster ω}

-- ============================================================= records

/-- What comes of each event. -/
def works (broadcaster : Broadcaster ω) : List (Event ω) → List Work
  | [] => []
  | event :: events => (broadcaster.step event).1 :: (broadcaster.step event).2.works events

/-- The datagram that was sent, if one was. -/
def Work.sent? : Work → Option Bytes
  | .sent datagram => some datagram
  | _ => none

/-- The broadcasts of a run, in order. -/
def sent (broadcaster : Broadcaster ω) (events : List (Event ω)) : List Bytes :=
  (broadcaster.works events).filterMap Work.sent?

/-- What an event puts into the queue. -/
def accepts (broadcaster : Broadcaster ω) : Event ω → List GroupRequest
  | .request item => if (broadcaster.request item).1 then [item] else []
  | .terminate => if broadcaster.terminated then [] else [.stop]
  | _ => []

/-- What is accepted in the course of some events, in order. -/
def accepted (broadcaster : Broadcaster ω) : List (Event ω) → List GroupRequest
  | [] => []
  | event :: events =>
      broadcaster.accepts event ++ (broadcaster.step event).2.accepted events

/-- The frames of the notes among them. -/
def noted (broadcaster : Broadcaster ω) (events : List (Event ω)) : List UInt64 :=
  (broadcaster.accepted events).filterMap GroupRequest.frame?

/-- The request that an event works off, with what comes of it. -/
def serves (broadcaster : Broadcaster ω) : Event ω → List (GroupRequest × Work)
  | .work now entropy =>
      if broadcaster.running then
        broadcaster.requests.head?.toList.map fun item =>
          (item, (broadcaster.work now entropy).1)
      else []
  | _ => []

/-- What is worked off in the course of some events, in order. -/
def served (broadcaster : Broadcaster ω) : List (Event ω) → List (GroupRequest × Work)
  | [] => []
  | event :: events => broadcaster.serves event ++ (broadcaster.step event).2.served events

/-- What a request may come to. -/
def Work.Settles : GroupRequest → Work → Prop
  | .note _, .sent _ => True
  | .rotate, .rotated _ => True
  | .rotate, .unrotated _ => True
  | .stop, .stopped => True
  | _, _ => False

/-- For each broadcast the key of the last rotation before it. -/
def keysInUse (current : GroupKey) : List Work → List GroupKey
  | [] => []
  | .sent _ :: works => current :: keysInUse current works
  | .rotated key :: works => keysInUse key works
  | _ :: works => keysInUse current works

-- ======================================================== what work does

theorem note_snd (broadcaster : Broadcaster ω) (now frameNumber : UInt64) :
    ∃ sequence tag, (broadcaster.note now frameNumber).2
      = { broadcaster with sequence := sequence, tag := tag } := by
  unfold note
  simp only
  split
  · exact ⟨_, _, rfl⟩
  · split
    · exact ⟨_, _, rfl⟩
    · split
      · exact ⟨_, _, rfl⟩
      · split
        · exact ⟨_, _, rfl⟩
        · exact ⟨_, _, rfl⟩

theorem renew_snd (broadcaster : Broadcaster ω) (entropy : Entropy) :
    ∃ ring cipher, (broadcaster.renew entropy).2.1
      = { broadcaster with ring := ring, cipher := cipher } := by
  obtain ⟨key, left, -, hrenew⟩ | ⟨left, hrenew⟩ := broadcaster.renew_cases entropy
  · exact ⟨_, _, congrArg (·.2.1) hrenew⟩
  · exact ⟨_, _, congrArg (·.2.1) hrenew⟩

theorem elapse_snd (broadcaster : Broadcaster ω) (entropy : Entropy) :
    ∃ ring cipher, (broadcaster.elapse entropy).2.1
      = { broadcaster with ring := ring, cipher := cipher } := by
  unfold elapse
  split
  · exact broadcaster.renew_snd entropy
  · exact ⟨_, _, rfl⟩

theorem work_of_idle (hidle : broadcaster.running = false ∨ broadcaster.requests = [])
    (now : UInt64) (entropy : Entropy) :
    broadcaster.work now entropy = (.idle, broadcaster, entropy) := by
  unfold work
  rcases hidle with hstopped | hempty
  · simp only [hstopped]
  · rw [hempty]
    cases broadcaster.running with
    | true => rfl
    | false => rfl

theorem work_of_rotate (hrunning : broadcaster.running = true) {requests : List GroupRequest}
    (hrequests : broadcaster.requests = .rotate :: requests) (now : UInt64)
    (entropy : Entropy) :
    broadcaster.work now entropy = { broadcaster with requests := requests }.renew entropy := by
  unfold work
  simp only [hrunning, hrequests]

theorem work_of_stop (hrunning : broadcaster.running = true) {requests : List GroupRequest}
    (hrequests : broadcaster.requests = .stop :: requests) (now : UInt64) (entropy : Entropy) :
    broadcaster.work now entropy
      = (.stopped, { broadcaster with requests := requests, running := false }, entropy) := by
  unfold work
  simp only [hrunning, hrequests]

/-- Work takes the oldest request off the queue. Only the end ends it. -/
theorem work_snd (hrunning : broadcaster.running = true) {item : GroupRequest}
    {requests : List GroupRequest} (hrequests : broadcaster.requests = item :: requests)
    (now : UInt64) (entropy : Entropy) :
    ∃ ring cipher sequence tag, (broadcaster.work now entropy).2.1
      = { broadcaster with
          ring := ring
          cipher := cipher
          requests := requests
          sequence := sequence
          tag := tag
          running := decide (item ≠ .stop) } := by
  cases item with
  | note frameNumber =>
      obtain ⟨sequence, tag, hnote⟩ :=
        note_snd { broadcaster with requests := requests } now frameNumber
      refine ⟨broadcaster.ring, broadcaster.cipher, sequence, tag, ?_⟩
      unfold work
      simp only [hrunning, hrequests] at hnote ⊢
      split
      next hdone =>
        rw [hdone] at hnote
        exact hnote
      next hdone =>
        rw [hdone] at hnote
        exact hnote
  | rotate =>
      obtain ⟨ring, cipher, hrenew⟩ :=
        renew_snd { broadcaster with requests := requests } entropy
      refine ⟨ring, cipher, broadcaster.sequence, broadcaster.tag, ?_⟩
      rw [work_of_rotate hrunning hrequests, hrenew]
      simp only [hrunning]
      rfl
  | stop =>
      rw [work_of_stop hrunning hrequests]
      exact ⟨_, _, _, _, rfl⟩

-- ============================================================ the queue

/-- An event puts requests in at the back and takes them out at the front. -/
theorem queue_step (broadcaster : Broadcaster ω) (event : Event ω) :
    broadcaster.requests ++ broadcaster.accepts event
      = (broadcaster.serves event).map Prod.fst ++ (broadcaster.step event).2.requests := by
  cases event with
  | request item =>
      simp only [accepts, serves, step, Broadcaster.request]
      split
      · exact List.append_nil _
      · rfl
  | terminate =>
      simp only [accepts, serves, step, Broadcaster.terminate]
      split
      · exact List.append_nil _
      · rfl
  | observe observer => exact List.append_nil _
  | unobserve token => exact List.append_nil _
  | elapse entropy =>
      obtain ⟨ring, cipher, helapse⟩ := broadcaster.elapse_snd entropy
      simp only [accepts, serves, step, helapse]
      exact List.append_nil _
  | work now entropy =>
      simp only [accepts, serves, step]
      rw [List.append_nil]
      cases hrunning : broadcaster.running with
      | false =>
          rw [work_of_idle (.inl hrunning)]
          rfl
      | true =>
          cases hrequests : broadcaster.requests with
          | nil =>
              rw [work_of_idle (.inr hrequests), hrequests]
              rfl
          | cons item requests =>
              obtain ⟨ring, cipher, sequence, tag, hwork⟩ :=
                work_snd hrunning hrequests now entropy
              rw [hwork]
              rfl

/-- What has been accepted is worked off in order, or still waits. -/
theorem queue_after (broadcaster : Broadcaster ω) (events : List (Event ω)) :
    broadcaster.requests ++ broadcaster.accepted events
      = (broadcaster.served events).map Prod.fst ++ (broadcaster.after events).requests := by
  induction events generalizing broadcaster with
  | nil => exact List.append_nil _
  | cons event events ih =>
      rw [accepted, served, ← List.append_assoc, queue_step, List.append_assoc, ih,
        List.map_append, List.append_assoc]
      rfl

theorem serves_of_idle (hidle : broadcaster.running = false ∨ broadcaster.requests = [])
    (now : UInt64) (entropy : Entropy) : broadcaster.serves (.work now entropy) = [] := by
  unfold serves
  rcases hidle with hstopped | hempty
  · rw [hstopped]
    rfl
  · rw [hempty]
    exact ite_self []

theorem serves_of_head (hrunning : broadcaster.running = true) {item : GroupRequest}
    {requests : List GroupRequest} (hrequests : broadcaster.requests = item :: requests)
    (now : UInt64) (entropy : Entropy) :
    broadcaster.serves (.work now entropy) = [(item, (broadcaster.work now entropy).1)] := by
  unfold serves
  rw [hrunning, hrequests]
  rfl

-- ========================================================== the counters

/-- After `count` notes, under a key. -/
structure Counts (broadcaster : Broadcaster ω) (count : Nat) (key : GroupKey) : Prop where
  keyed : broadcaster.Keyed
  up : broadcaster.link = .up
  sequence : broadcaster.sequence = count.toUInt64
  tag : broadcaster.tag = count.toUInt8
  current : broadcaster.ring.current? = some key

/-- A broadcast says that a frame is done: sealed under a key with a number,
behind a header with the tag of that number, and readable with the key. -/
def IsNote (datagram : Bytes) (count : Nat) (frame : UInt64) (key : GroupKey) : Prop :=
  ∃ now length, key.iv.length = GroupCipher.ivLength
    ∧ Broadcast.write (.new noteType count.toUInt8 key.id) key.key key.iv count.toUInt64
        (Cbor.encode (SyncOutput.mk frame now)) = .ok datagram
    ∧ Broadcast.read datagram key.key key.iv
        = .ok ({ GroupHeader.new noteType count.toUInt8 key.id with length := length },
            ⟨frame, now⟩)

/-- Broadcasts with their frames and keys, numbered from `count` on. -/
inductive Traced : (count : Nat) → List Bytes → List UInt64 → List GroupKey → Prop where
  | nil (count : Nat) : Traced count [] [] []
  | cons {count : Nat} {datagram : Bytes} {frame : UInt64} {key : GroupKey}
      {datagrams : List Bytes} {frames : List UInt64} {keys : List GroupKey}
      (hnote : IsNote datagram count frame key)
      (hrest : Traced (count + 1) datagrams frames keys) :
      Traced count (datagram :: datagrams) (frame :: frames) (key :: keys)

variable {count : Nat} {key : GroupKey}

theorem Traced.lengths {datagrams : List Bytes} {frames : List UInt64}
    {keys : List GroupKey} (htraced : Traced count datagrams frames keys) :
    frames.length = datagrams.length ∧ keys.length = datagrams.length := by
  induction htraced with
  | nil count => exact ⟨rfl, rfl⟩
  | cons hnote hrest ih => exact ⟨congrArg (· + 1) ih.1, congrArg (· + 1) ih.2⟩

/-- The `i`-th of them has the `i`-th frame, the `i`-th key and number `i`. -/
theorem Traced.at {datagrams : List Bytes} {frames : List UInt64} {keys : List GroupKey}
    (htraced : Traced count datagrams frames keys) {i : Nat} {datagram : Bytes}
    (hi : datagrams[i]? = some datagram) :
    ∃ frame key, frames[i]? = some frame ∧ keys[i]? = some key
      ∧ IsNote datagram (count + i) frame key := by
  induction htraced generalizing i with
  | nil count => cases hi
  | cons hnote hrest ih =>
      cases i with
      | zero =>
          cases hi
          exact ⟨_, _, rfl, rfl, hnote⟩
      | succ i =>
          obtain ⟨frame, key, hframe, hkey, hthis⟩ := ih hi
          rw [Nat.add_assoc, Nat.add_comm 1] at hthis
          exact ⟨frame, key, hframe, hkey, hthis⟩

theorem Traced.iv_lengths {datagrams : List Bytes} {frames : List UInt64}
    {keys : List GroupKey} (htraced : Traced count datagrams frames keys) :
    ∀ key ∈ keys, key.iv.length = GroupCipher.ivLength := by
  induction htraced with
  | nil count => exact fun key hmem => absurd hmem List.not_mem_nil
  | cons hnote hrest ih =>
      obtain ⟨_, _, hlength, -⟩ := hnote
      exact List.forall_mem_cons.2 ⟨hlength, ih⟩

theorem Counts.of_same {later : Broadcaster ω} (hcounts : broadcaster.Counts count key)
    (hkeys : later.SameKeys broadcaster) (hlink : later.link = broadcaster.link)
    (hsequence : later.sequence = broadcaster.sequence) (htag : later.tag = broadcaster.tag) :
    later.Counts count key where
  keyed := by
    refine ⟨?_, ?_⟩
    · rw [hkeys.ring]
      exact hcounts.keyed.orderly
    · rw [hkeys.ring, hkeys.cipher]
      exact hcounts.keyed.current
  up := hlink.trans hcounts.up
  sequence := hsequence.trans hcounts.sequence
  tag := htag.trans hcounts.tag
  current := (congrArg KeyRing.current? hkeys.ring).trans hcounts.current

/-- What is worked off without a broadcast. -/
def Quiet (entries : List (GroupRequest × Work)) : Prop :=
  ∀ entry ∈ entries, entry.1.frame? = none ∧ entry.2.Settles entry.1

theorem quiet_nil : Quiet [] := fun _ hmem => absurd hmem List.not_mem_nil

/-- What a step does to the counters. -/
inductive Ticks (broadcaster : Broadcaster ω) (event : Event ω) (count : Nat)
    (key : GroupKey) : Prop where
  /-- A note goes out under the key in use; number and tag advance. -/
  | notes (frame : UInt64) (datagram : Bytes)
      (hserves : broadcaster.serves event = [(.note frame, .sent datagram)])
      (hwork : (broadcaster.step event).1 = .sent datagram)
      (hnote : IsNote datagram count frame key)
      (hcounts : (broadcaster.step event).2.Counts (count + 1) key)
  /-- The keys rotate; number and tag go on. -/
  | rotates (next : GroupKey)
      (hserves : Quiet (broadcaster.serves event))
      (hwork : (broadcaster.step event).1 = .rotated next)
      (hcounts : (broadcaster.step event).2.Counts count next)
  /-- Neither happens. -/
  | keeps (hserves : Quiet (broadcaster.serves event))
      (hsent : (broadcaster.step event).1.sent? = none)
      (hissued : (broadcaster.step event).1.issued? = none)
      (hcounts : (broadcaster.step event).2.Counts count key)

theorem Counts.renew (hcounts : broadcaster.Counts count key) (entropy : Entropy) :
    (∃ next, (broadcaster.renew entropy).1 = .rotated next
        ∧ (broadcaster.renew entropy).2.1.Counts count next)
      ∨ (∃ fault, (broadcaster.renew entropy).1 = .unrotated fault)
        ∧ (broadcaster.renew entropy).2.1.Counts count key := by
  obtain ⟨next, left, hdraws, hrenew⟩ | ⟨left, hrenew⟩ := broadcaster.renew_cases entropy
  · rw [hrenew]
    have hcurrent := hcounts.keyed.orderly.current?_push next
    exact .inl ⟨next, rfl, ⟨hcounts.keyed.orderly.push hdraws, next, hcurrent, rfl⟩,
      hcounts.up, hcounts.sequence, hcounts.tag, hcurrent⟩
  · rw [hrenew]
    exact .inr ⟨⟨_, rfl⟩, hcounts⟩

theorem Counts.ticks_of_idle (hcounts : broadcaster.Counts count key) {event : Event ω}
    (hserves : broadcaster.serves event = [])
    (hstep : broadcaster.step event = (.idle, broadcaster)) :
    broadcaster.Ticks event count key := by
  refine .keeps ?_ ?_ ?_ ?_
  · rw [hserves]
    exact quiet_nil
  · rw [hstep]
    rfl
  · rw [hstep]
    rfl
  · rw [hstep]
    exact hcounts

/-- A step that renews the keys, of this broadcaster or of one like it. -/
theorem Counts.ticks_of_renew {other : Broadcaster ω} (hcounts : other.Counts count key)
    {event : Event ω} (entropy : Entropy) (hserves : ∀ entry ∈ broadcaster.serves event,
      entry = (.rotate, (broadcaster.step event).1))
    (hstep : broadcaster.step event
      = ((other.renew entropy).1, (other.renew entropy).2.1)) :
    broadcaster.Ticks event count key := by
  obtain ⟨next, hwork, hlater⟩ | ⟨⟨fault, hwork⟩, hlater⟩ := hcounts.renew entropy
  · refine .rotates next (fun entry hmem => ?_) ?_ ?_
    · rw [hserves entry hmem, hstep, hwork]
      exact ⟨rfl, trivial⟩
    · rw [hstep, hwork]
    · rw [hstep]
      exact hlater
  · refine .keeps (fun entry hmem => ?_) ?_ ?_ ?_
    · rw [hserves entry hmem, hstep, hwork]
      exact ⟨rfl, trivial⟩
    · rw [hstep, hwork]
      rfl
    · rw [hstep, hwork]
      rfl
    · rw [hstep]
      exact hlater

theorem Counts.step (hcounts : broadcaster.Counts count key) (event : Event ω) :
    broadcaster.Ticks event count key := by
  have hlike : ∀ requests running, { broadcaster with
      requests := requests, running := running }.Counts count key :=
    fun requests running => hcounts.of_same ⟨rfl, rfl⟩ rfl rfl rfl
  cases event with
  | request item =>
      refine .keeps quiet_nil rfl rfl ?_
      simp only [Broadcaster.step, Broadcaster.request]
      split
      · exact hcounts
      · exact hlike _ _
  | terminate =>
      refine .keeps quiet_nil rfl rfl ?_
      simp only [Broadcaster.step, Broadcaster.terminate]
      split
      · exact hcounts
      · exact hcounts.of_same ⟨rfl, rfl⟩ rfl rfl rfl
  | observe observer =>
      exact .keeps quiet_nil rfl rfl (hcounts.of_same ⟨rfl, rfl⟩ rfl rfl rfl)
  | unobserve token =>
      exact .keeps quiet_nil rfl rfl (hcounts.of_same ⟨rfl, rfl⟩ rfl rfl rfl)
  | elapse entropy =>
      cases hrunning : broadcaster.running with
      | false =>
          refine hcounts.ticks_of_idle rfl ?_
          simp only [Broadcaster.step, elapse, hrunning, Bool.false_eq_true, if_false]
      | true =>
          refine hcounts.ticks_of_renew entropy ?_ ?_
          · exact fun entry hmem => absurd hmem List.not_mem_nil
          · simp only [Broadcaster.step, elapse, hrunning, if_true]
  | work now entropy =>
      cases hrunning : broadcaster.running with
      | false =>
          refine hcounts.ticks_of_idle (serves_of_idle (.inl hrunning) now entropy) ?_
          rw [Broadcaster.step, work_of_idle (.inl hrunning)]
      | true =>
          cases hrequests : broadcaster.requests with
          | nil =>
              refine hcounts.ticks_of_idle (serves_of_idle (.inr hrequests) now entropy) ?_
              rw [Broadcaster.step, work_of_idle (.inr hrequests)]
          | cons item requests =>
              have hserves := serves_of_head hrunning hrequests now entropy
              cases item with
              | note frame =>
                  obtain ⟨current, datagram, hcurrent, hwrite, hwork⟩ :=
                    work_note hcounts.keyed hrunning hrequests now entropy
                  obtain rfl := Option.some.inj (hcurrent.symm.trans hcounts.current)
                  rw [if_pos hcounts.up] at hwork
                  rw [hwork] at hserves
                  rw [hcounts.tag, hcounts.sequence] at hwrite
                  obtain ⟨length, hread⟩ := Broadcast.read_write rfl hwrite
                  have hlength := (hcounts.keyed.orderly.lengths _
                    (List.mem_of_getLast? hcurrent)).2
                  refine .notes frame datagram hserves ?_
                    ⟨now, length, hlength, hwrite, hread⟩ ?_
                  · rw [Broadcaster.step, hwork]
                  · rw [Broadcaster.step, hwork]
                    refine ⟨⟨hcounts.keyed.orderly, hcounts.keyed.current⟩, hcounts.up, ?_, ?_,
                      hcounts.current⟩
                    · exact (congrArg (· + 1) hcounts.sequence).trans
                        (UInt64.ofNat_add count 1).symm
                    · exact (congrArg (· + 1) hcounts.tag).trans
                        (UInt8.ofNat_add count 1).symm
              | rotate =>
                  refine (hlike requests true).ticks_of_renew entropy ?_ ?_
                  · rw [hserves]
                    exact fun entry hmem => List.mem_singleton.1 hmem
                  · rw [Broadcaster.step, work_of_rotate hrunning hrequests, ← hrunning]
              | stop =>
                  refine .keeps ?_ ?_ ?_ ?_
                  · rw [hserves, work_of_stop hrunning hrequests]
                    rintro entry hmem
                    rw [List.mem_singleton.1 hmem]
                    exact ⟨rfl, trivial⟩
                  · rw [Broadcaster.step, work_of_stop hrunning hrequests]
                    rfl
                  · rw [Broadcaster.step, work_of_stop hrunning hrequests]
                    rfl
                  · rw [Broadcaster.step, work_of_stop hrunning hrequests]
                    exact hlike requests false

theorem keysInUse_of_keeps {work : Work} (hsent : work.sent? = none)
    (hissued : work.issued? = none) (works : List Work) :
    keysInUse key (work :: works) = keysInUse key works := by
  cases work with
  | sent datagram => cases hsent
  | rotated next => cases hissued
  | _ => rfl

/-- The frames of what was worked off. -/
def framesOf (entries : List (GroupRequest × Work)) : List UInt64 :=
  (entries.map Prod.fst).filterMap GroupRequest.frame?

theorem framesOf_append_of_quiet {entries : List (GroupRequest × Work)}
    (hquiet : Quiet entries) (more : List (GroupRequest × Work)) :
    framesOf (entries ++ more) = framesOf more := by
  have hnone : framesOf entries = [] := by
    refine List.filterMap_eq_nil_iff.2 fun item hmem => ?_
    obtain ⟨entry, hentry, rfl⟩ := List.mem_map.1 hmem
    exact (hquiet entry hentry).1
  rw [framesOf, List.map_append, List.filterMap_append]
  exact congrArg (· ++ framesOf more) hnone

/-- The broadcasts of a run are those of the notes that were worked off, in
order, each under the key of the last rotation before it; and whatever else
is worked off comes to what it should. -/
theorem Counts.traced (hcounts : broadcaster.Counts count key) (events : List (Event ω)) :
    Traced count (broadcaster.sent events) (framesOf (broadcaster.served events))
        (keysInUse key (broadcaster.works events))
      ∧ ∀ entry ∈ broadcaster.served events, entry.2.Settles entry.1 := by
  induction events generalizing broadcaster count key with
  | nil => exact ⟨.nil count, fun entry hmem => absurd hmem List.not_mem_nil⟩
  | cons event events ih =>
      rw [sent, works, served]
      cases hcounts.step event with
      | notes frame datagram hserves hwork hnote hlater =>
          obtain ⟨htraced, hsettles⟩ := ih hlater
          rw [hserves, hwork]
          exact ⟨.cons hnote htraced, List.forall_mem_cons.2 ⟨trivial, hsettles⟩⟩
      | rotates next hserves hwork hlater =>
          obtain ⟨htraced, hsettles⟩ := ih hlater
          rw [framesOf_append_of_quiet hserves, hwork]
          refine ⟨htraced, List.forall_mem_append.2 ⟨fun entry hmem => ?_, hsettles⟩⟩
          exact (hserves entry hmem).2
      | keeps hserves hsent hissued hlater =>
          obtain ⟨htraced, hsettles⟩ := ih hlater
          rw [framesOf_append_of_quiet hserves, keysInUse_of_keeps hsent hissued,
            List.filterMap_cons_none hsent]
          refine ⟨htraced, List.forall_mem_append.2 ⟨fun entry hmem => ?_, hsettles⟩⟩
          exact (hserves entry hmem).2

/-- Under one key and base no initial value comes twice, whatever the keys: up to
2^64 notes. -/
theorem nodup_ivs {keys : List GroupKey}
    (hlengths : ∀ key ∈ keys, key.iv.length = GroupCipher.ivLength)
    (hfew : keys.length ≤ 2 ^ 64) :
    (keys.mapIdx fun i key => (key.key, key.iv, Broadcast.iv key.iv i.toUInt64)).Nodup := by
  rw [List.Nodup, List.pairwise_iff_getElem]
  intro i j hi hj hlt hsame
  rw [List.length_mapIdx] at hi hj
  rw [List.getElem_mapIdx, List.getElem_mapIdx] at hsame
  obtain ⟨-, hbase, hiv⟩ : _ ∧ _ ∧ _ := by simpa only [Prod.mk.injEq] using hsame
  rw [hbase] at hiv
  have hwide : 8 ≤ keys[j].iv.length := by
    rw [hlengths _ (List.getElem_mem hj)]
    decide
  exact absurd (toUInt64_inj (Nat.lt_of_lt_of_le hi hfew) (Nat.lt_of_lt_of_le hj hfew)
    (sequenceNonce_injective hwide hiv)) (Nat.ne_of_lt hlt)

-- ============================================================== the end

/-- How far a broadcaster is from its end. -/
inductive Phase (broadcaster : Broadcaster ω) : Prop where
  /-- It has not been told to end. -/
  | serving (hterminated : broadcaster.terminated = false)
      (hrunning : broadcaster.running = true) (hstop : .stop ∉ broadcaster.requests)
  /-- It has, and works off what was accepted before. -/
  | ending (hterminated : broadcaster.terminated = true)
      (hrunning : broadcaster.running = true) (waiting : List GroupRequest)
      (hrequests : broadcaster.requests = waiting ++ [.stop]) (hstop : .stop ∉ waiting)
  /-- It has done so. -/
  | ended (hterminated : broadcaster.terminated = true)
      (hrunning : broadcaster.running = false) (hrequests : broadcaster.requests = [])

theorem request_of_terminated (hterminated : broadcaster.terminated = true)
    (item : GroupRequest) : broadcaster.request item = (false, broadcaster) := if_pos hterminated

theorem terminate_of_terminated (hterminated : broadcaster.terminated = true) :
    broadcaster.terminate = broadcaster := if_pos hterminated

/-- A change of anything but queue and state of the end leaves the phase. -/
theorem Phase.of_same {later : Broadcaster ω} (hphase : broadcaster.Phase)
    (hterminated : later.terminated = broadcaster.terminated)
    (hrunning : later.running = broadcaster.running)
    (hrequests : later.requests = broadcaster.requests) : later.Phase := by
  cases hphase with
  | serving hopen hworks hstop =>
      exact .serving (hterminated.trans hopen) (hrunning.trans hworks) (hrequests ▸ hstop)
  | ending htold hworks waiting hwaiting hstop =>
      exact .ending (hterminated.trans htold) (hrunning.trans hworks) waiting
        (hrequests.trans hwaiting) hstop
  | ended htold hdone hempty =>
      exact .ended (hterminated.trans htold) (hrunning.trans hdone) (hrequests.trans hempty)

theorem Phase.work (hphase : broadcaster.Phase) (now : UInt64) (entropy : Entropy) :
    (broadcaster.work now entropy).2.1.Phase := by
  cases hphase with
  | serving hopen hrunning hstop =>
      cases hrequests : broadcaster.requests with
      | nil =>
          rw [work_of_idle (.inr hrequests)]
          exact .serving hopen hrunning hstop
      | cons item requests =>
          obtain ⟨ring, cipher, sequence, tag, hwork⟩ := work_snd hrunning hrequests now entropy
          rw [hrequests, List.mem_cons, not_or] at hstop
          rw [hwork]
          exact .serving hopen (decide_eq_true (Ne.symm hstop.1)) hstop.2
  | ending htold hrunning waiting hwaiting hstop =>
      cases waiting with
      | nil =>
          rw [work_of_stop hrunning hwaiting]
          exact .ended htold rfl rfl
      | cons item waiting =>
          obtain ⟨ring, cipher, sequence, tag, hwork⟩ := work_snd hrunning hwaiting now entropy
          rw [List.mem_cons, not_or] at hstop
          rw [hwork]
          exact .ending htold (decide_eq_true (Ne.symm hstop.1)) waiting rfl hstop.2
  | ended htold hdone hempty =>
      rw [work_of_idle (.inl hdone)]
      exact .ended htold hdone hempty

/-- Nobody but `terminate` asks for the end. -/
theorem Phase.step (hphase : broadcaster.Phase) {event : Event ω}
    (hcall : event ≠ .request .stop) : (broadcaster.step event).2.Phase := by
  cases event with
  | request item =>
      cases hphase with
      | serving hopen hrunning hstop =>
          have haccepts : broadcaster.request item
              = (true, { broadcaster with requests := broadcaster.requests ++ [item] }) := by
            rw [request, hopen]
            rfl
          rw [Broadcaster.step, haccepts]
          refine .serving hopen hrunning fun hmem => ?_
          rcases List.mem_append.1 hmem with hold | hnew
          · exact hstop hold
          · exact hcall (congrArg Event.request (List.mem_singleton.1 hnew).symm)
      | ending htold hrunning waiting hwaiting hstop =>
          rw [Broadcaster.step, request_of_terminated htold]
          exact .ending htold hrunning waiting hwaiting hstop
      | ended htold hdone hempty =>
          rw [Broadcaster.step, request_of_terminated htold]
          exact .ended htold hdone hempty
  | terminate =>
      cases hphase with
      | serving hopen hrunning hstop =>
          have hends : broadcaster.terminate = { broadcaster with
              terminated := true, requests := broadcaster.requests ++ [.stop] } := by
            rw [terminate, hopen]
            rfl
          rw [Broadcaster.step, hends]
          exact .ending rfl hrunning broadcaster.requests rfl hstop
      | ending htold hrunning waiting hwaiting hstop =>
          rw [Broadcaster.step, terminate_of_terminated htold]
          exact .ending htold hrunning waiting hwaiting hstop
      | ended htold hdone hempty =>
          rw [Broadcaster.step, terminate_of_terminated htold]
          exact .ended htold hdone hempty
  | observe observer => exact hphase.of_same rfl rfl rfl
  | unobserve token => exact hphase.of_same rfl rfl rfl
  | work now entropy => exact hphase.work now entropy
  | elapse entropy =>
      obtain ⟨ring, cipher, helapse⟩ := broadcaster.elapse_snd entropy
      rw [Broadcaster.step]
      simp only [helapse]
      exact hphase.of_same rfl rfl rfl

theorem after_append (broadcaster : Broadcaster ω) (earlier later : List (Event ω)) :
    broadcaster.after (earlier ++ later) = (broadcaster.after earlier).after later :=
  List.foldl_append

theorem Phase.after (hphase : broadcaster.Phase) {events : List (Event ω)}
    (hcalls : .request .stop ∉ events) : (broadcaster.after events).Phase := by
  induction events generalizing broadcaster with
  | nil => exact hphase
  | cons event events ih =>
      rw [List.mem_cons, not_or] at hcalls
      exact ih (hphase.step (Ne.symm hcalls.1)) hcalls.2

theorem terminated_work (broadcaster : Broadcaster ω) (now : UInt64) (entropy : Entropy) :
    (broadcaster.work now entropy).2.1.terminated = broadcaster.terminated := by
  cases hrunning : broadcaster.running with
  | false => rw [work_of_idle (.inl hrunning)]
  | true =>
      cases hrequests : broadcaster.requests with
      | nil => rw [work_of_idle (.inr hrequests)]
      | cons item requests =>
          obtain ⟨ring, cipher, sequence, tag, hwork⟩ := work_snd hrunning hrequests now entropy
          rw [hwork]

theorem terminated_step (broadcaster : Broadcaster ω) (event : Event ω) :
    (broadcaster.step event).2.terminated = true
      ↔ broadcaster.terminated = true ∨ event = .terminate := by
  have hother : ∀ {later : Broadcaster ω}, later.terminated = broadcaster.terminated →
      event ≠ .terminate →
        (later.terminated = true ↔ broadcaster.terminated = true ∨ event = .terminate) := by
    intro later hsame hevent
    rw [hsame, or_iff_left hevent]
  cases event with
  | request item =>
      refine hother ?_ (fun h => by cases h)
      simp only [step, request]
      split
      · rfl
      · rfl
  | terminate =>
      refine iff_of_true ?_ (.inr rfl)
      simp only [step, terminate]
      split
      next htold => exact htold
      · rfl
  | observe observer => exact hother rfl (fun h => by cases h)
  | unobserve token => exact hother rfl (fun h => by cases h)
  | work now entropy =>
      exact hother (broadcaster.terminated_work now entropy) (fun h => by cases h)
  | elapse entropy =>
      obtain ⟨ring, cipher, helapse⟩ := broadcaster.elapse_snd entropy
      refine hother ?_ (fun h => by cases h)
      simp only [step, helapse]

theorem terminated_after (broadcaster : Broadcaster ω) (events : List (Event ω)) :
    (broadcaster.after events).terminated = true
      ↔ broadcaster.terminated = true ∨ .terminate ∈ events := by
  induction events generalizing broadcaster with
  | nil => exact (or_iff_left List.not_mem_nil).symm
  | cons event events ih =>
      refine (ih _).trans ?_
      rw [terminated_step, or_assoc, List.mem_cons, eq_comm (a := event)]

-- ============================================================ the rest

/-- After its end a broadcaster does nothing any more. -/
theorem step_of_stopped (hstopped : broadcaster.running = false) (event : Event ω) :
    (broadcaster.step event).1 = .idle ∧ (broadcaster.step event).2.running = false := by
  cases event with
  | request item =>
      refine ⟨rfl, ?_⟩
      simp only [step, request]
      split
      · exact hstopped
      · exact hstopped
  | terminate =>
      refine ⟨rfl, ?_⟩
      simp only [step, terminate]
      split
      · exact hstopped
      · exact hstopped
  | observe observer => exact ⟨rfl, hstopped⟩
  | unobserve token => exact ⟨rfl, hstopped⟩
  | work now entropy =>
      rw [step, work_of_idle (.inl hstopped)]
      exact ⟨rfl, hstopped⟩
  | elapse entropy =>
      have hidle : broadcaster.elapse entropy = (.idle, broadcaster, entropy) := by
        rw [elapse, hstopped]
        rfl
      rw [step, hidle]
      exact ⟨rfl, hstopped⟩

theorem works_of_stopped (hstopped : broadcaster.running = false) (events : List (Event ω)) :
    ∀ work ∈ broadcaster.works events, work = .idle := by
  induction events generalizing broadcaster with
  | nil => exact fun work hmem => absurd hmem List.not_mem_nil
  | cons event events ih =>
      obtain ⟨hidle, hlater⟩ := step_of_stopped hstopped event
      exact List.forall_mem_cons.2 ⟨hidle, ih hlater⟩

/-- Whether an event works off a request. -/
def Event.isWork : Event ω → Bool
  | .work _ _ => true
  | _ => false

/-- Once it has been told to end, nothing is put into the queue, and every turn
takes a request out of it. -/
theorem length_step (hphase : broadcaster.Phase) (hterminated : broadcaster.terminated = true)
    (event : Event ω) :
    (broadcaster.step event).2.requests.length
      ≤ broadcaster.requests.length - if event.isWork then 1 else 0 := by
  cases event with
  | request item =>
      rw [step, request_of_terminated hterminated]
      exact Nat.le_refl _
  | terminate =>
      rw [step, terminate_of_terminated hterminated]
      exact Nat.le_refl _
  | observe observer => exact Nat.le_refl _
  | unobserve token => exact Nat.le_refl _
  | elapse entropy =>
      obtain ⟨ring, cipher, helapse⟩ := broadcaster.elapse_snd entropy
      simp only [step, helapse]
      exact Nat.le_refl _
  | work now entropy =>
      cases hphase with
      | serving hopen hrunning hstop =>
          rw [hopen] at hterminated
          cases hterminated
      | ended htold hdone hempty =>
          rw [step, work_of_idle (.inl hdone), hempty]
          exact Nat.le_refl _
      | ending htold hrunning waiting hwaiting hstop =>
          obtain ⟨item, requests, hrequests⟩ : ∃ item requests,
              broadcaster.requests = item :: requests := by
            rw [hwaiting, ← List.ne_nil_iff_exists_cons]
            exact List.concat_ne_nil _ _
          obtain ⟨ring, cipher, sequence, tag, hwork⟩ := work_snd hrunning hrequests now entropy
          simp only [step, hwork]
          rw [hrequests]
          exact Nat.le_refl _

/-- With a turn for everything that waits it comes to its end. -/
theorem running_after_of_enough (hphase : broadcaster.Phase)
    (hterminated : broadcaster.terminated = true) {events : List (Event ω)}
    (hcalls : .request .stop ∉ events)
    (henough : broadcaster.requests.length ≤ events.countP Event.isWork) :
    (broadcaster.after events).running = false := by
  induction events generalizing broadcaster with
  | nil =>
      have hempty := List.length_eq_zero_iff.1 (Nat.le_zero.1 henough)
      cases hphase with
      | serving hopen hrunning hstop =>
          rw [hopen] at hterminated
          cases hterminated
      | ending htold hrunning waiting hwaiting hstop =>
          rw [hempty] at hwaiting
          exact absurd hwaiting.symm (List.concat_ne_nil _ _)
      | ended htold hdone hrequests => exact hdone
  | cons event events ih =>
      rw [List.mem_cons, not_or] at hcalls
      refine ih (hphase.step (Ne.symm hcalls.1)) ?_ hcalls.2 ?_
      · exact (broadcaster.terminated_step event).2 (.inl hterminated)
      · refine Nat.le_trans (length_step hphase hterminated event) ?_
        rw [List.countP_cons] at henough
        omega

-- ============================================================ the run

/-- A broadcaster starts with nothing to do and all its counters at zero. -/
theorem counts_of_start {config : GroupConfig} {target : IpAddress} {entropy left : Entropy}
    (hstart : start config .up target entropy = .running (broadcaster, left)) :
    (∃ key, broadcaster.Counts 0 key) ∧ broadcaster.Phase ∧ broadcaster.requests = []
      ∧ broadcaster.terminated = false := by
  have hkeyed := (keyed_start hstart).1
  obtain ⟨key, hcurrent, -⟩ := id hkeyed.current
  obtain ⟨ring, cipher, rfl⟩ := eq_of_start hstart
  exact ⟨⟨key, hkeyed, rfl, rfl, rfl, hcurrent⟩, .serving rfl rfl List.not_mem_nil, rfl, rfl⟩

/-- What a broadcaster sends, over a path that takes it, from its start on. The
`i`-th broadcast carries the frame of the `i`-th note that was accepted, the
number `i`, the tag `i` modulo 256 and the key of the last rotation that
succeeded before it; what was accepted and not yet sent still waits. No
rotation sets the number back, so no initial value comes twice under one key
and base. Everything that is accepted is worked off, in order, before the
end. Nothing is accepted once it was told to end, and asking leaves no trace;
with a turn for everything that waits the end comes, and then nothing waits
and nothing happens any more. -/
theorem broadcasts_traced {config : GroupConfig} {target : IpAddress}
    {entropy left : Entropy} {first : Broadcaster ω}
    (hstart : start config .up target entropy = .running (first, left))
    {events : List (Event ω)} (hcalls : .request .stop ∉ events)
    (hfew : (first.noted events).length ≤ 2 ^ 64) :
    let later := first.after events
    let sent := first.sent events
    (∃ current, first.ring.current? = some current
        ∧ (∀ i datagram, sent[i]? = some datagram → ∃ frame key,
            (first.noted events)[i]? = some frame
              ∧ (keysInUse current (first.works events))[i]? = some key
              ∧ IsNote datagram i frame key)
        ∧ ((keysInUse current (first.works events)).mapIdx fun i key =>
            (key.key, key.iv, Broadcast.iv key.iv i.toUInt64)).Nodup)
      ∧ (first.noted events).drop sent.length = later.requests.filterMap GroupRequest.frame?
      ∧ sent.length ≤ (first.noted events).length
      ∧ first.accepted events = (first.served events).map Prod.fst ++ later.requests
      ∧ (∀ entry ∈ first.served events, entry.2.Settles entry.1)
      ∧ (∀ earlier more, events = earlier ++ more →
          (∀ item, ((first.after earlier).request item).1 = true ↔ .terminate ∉ earlier)
            ∧ (.terminate ∈ earlier →
              (∀ item, (first.after earlier).request item = (false, first.after earlier))
                ∧ (first.after earlier).terminate = first.after earlier))
      ∧ (.terminate ∈ events → ∀ more, .request .stop ∉ more →
          later.requests.length ≤ more.countP Event.isWork →
            (later.after more).running = false)
      ∧ (later.running = false →
          later.requests = [] ∧ sent.length = (first.noted events).length
            ∧ ∀ more, ∀ work ∈ later.works more, work = .idle) := by
  intro later sent
  obtain ⟨⟨current, hcounts⟩, hphase, hempty, hopen⟩ := counts_of_start hstart
  obtain ⟨htraced, hsettles⟩ := hcounts.traced events
  have hqueue : first.accepted events
      = (first.served events).map Prod.fst ++ later.requests := by
    have hqueue := first.queue_after events
    rwa [hempty, List.nil_append] at hqueue
  have hnoted : first.noted events = framesOf (first.served events)
      ++ later.requests.filterMap GroupRequest.frame? := by
    rw [noted, hqueue, List.filterMap_append]
    rfl
  obtain ⟨hframes, hkeys⟩ := htraced.lengths
  have hlength : (first.noted events).length
      = sent.length + (later.requests.filterMap GroupRequest.frame?).length := by
    rw [hnoted, List.length_append, hframes]
  have hbehind : sent.length ≤ (first.noted events).length := hlength ▸ Nat.le_add_right _ _
  have hphase' : later.Phase := hphase.after hcalls
  have htold : ∀ earlier : List (Event ω),
      (first.after earlier).terminated = true ↔ .terminate ∈ earlier := by
    intro earlier
    rw [terminated_after, hopen]
    exact or_iff_right Bool.false_ne_true
  refine ⟨⟨current, hcounts.current, fun i datagram hi => ?_, ?_⟩, ?_, ?_, hqueue, hsettles,
    fun earlier more _ => ⟨fun item => ?_, fun hterminate => ?_⟩,
    fun hterminate more hmore henough => ?_, fun hended => ?_⟩
  · obtain ⟨frame, key, hframe, hkey, hnote⟩ := htraced.at hi
    rw [Nat.zero_add] at hnote
    refine ⟨frame, key, ?_, hkey, hnote⟩
    rw [hnoted, List.getElem?_append_left (List.getElem?_eq_some_iff.1 hframe).1]
    exact hframe
  · refine nodup_ivs htraced.iv_lengths ?_
    rw [hkeys]
    exact Nat.le_trans hbehind hfew
  · rw [hnoted]
    exact List.drop_left' hframes
  · exact hbehind
  · rw [← htold earlier]
    unfold request
    cases (first.after earlier).terminated with
    | true => simp
    | false => simp
  · have hterminated := (htold earlier).2 hterminate
    exact ⟨request_of_terminated hterminated, terminate_of_terminated hterminated⟩
  · exact running_after_of_enough hphase' ((htold events).2 hterminate) hmore henough
  · cases hphase' with
    | serving _ hrunning _ =>
        rw [hended] at hrunning
        cases hrunning
    | ending _ hrunning _ _ _ =>
        rw [hended] at hrunning
        cases hrunning
    | ended _ hdone hnothing =>
        refine ⟨hnothing, ?_, works_of_stopped hdone⟩
        rw [hlength, hnothing]
        rfl

/-- Two notes with a rotation between them, and a third that comes after the end:
two broadcasts, the second with number and tag one. -/
theorem broadcasts_traced_in_example :
    let entropy : Entropy := List.replicate 52 7
    let first : Broadcaster Nat :=
      { config := .standard
        link := .up
        ring := ⟨3, [⟨0x07070707, List.replicate 32 7, List.replicate 16 7⟩]⟩
        cipher := ⟨some (List.replicate 32 7)⟩
        observers := .empty
        requests := []
        sequence := 0
        tag := 0
        terminated := false
        running := true }
    let calls : List (Event Nat) := [.request (.note 41), .request .rotate, .request (.note 42),
      .terminate, .request (.note 43)]
    let turns : List (Event Nat) := [.work 5 [], .work 6 [], .work 7 [], .work 8 []]
    start .standard .up .anyV4 entropy = .running (first, [])
      ∧ .request .stop ∉ calls ++ turns
      ∧ (first.noted (calls ++ turns)).length ≤ 2 ^ 64
      ∧ ∃ one two key key', first.sent (calls ++ turns) = [one, two]
        ∧ IsNote one 0 41 key ∧ IsNote two 1 42 key' := by
  intro entropy first calls turns
  have hstart : start .standard .up .anyV4 entropy = .running (first, []) := by rfl
  have hcalls : Event.request GroupRequest.stop ∉ calls := by simp [calls]
  have hturns : Event.request GroupRequest.stop ∉ turns := by simp [turns]
  have hall : Event.request GroupRequest.stop ∉ calls ++ turns := by
    rw [List.mem_append, not_or]
    exact ⟨hcalls, hturns⟩
  have hnoted : first.noted calls = [41, 42] := by rfl
  have hnoted' : first.noted (calls ++ turns) = [41, 42] := by rfl
  have hfew : (first.noted calls).length ≤ 2 ^ 64 := by
    rw [hnoted]
    decide
  have hfew' : (first.noted (calls ++ turns)).length ≤ 2 ^ 64 := by
    rw [hnoted']
    decide
  obtain ⟨-, -, -, -, -, -, hends, -⟩ := broadcasts_traced hstart hcalls hfew
  obtain ⟨⟨_, -, hnotes, -⟩, -, -, -, -, -, -, hended⟩ := broadcasts_traced hstart hall hfew'
  have hstopped : (first.after (calls ++ turns)).running = false := by
    rw [after_append]
    exact hends (by simp [calls]) turns hturns (by decide)
  obtain ⟨-, hlength, -⟩ := hended hstopped
  rw [hnoted'] at hlength hnotes
  obtain ⟨one, two, hsent⟩ := List.length_eq_two.1 hlength
  rw [hsent] at hnotes
  obtain ⟨frame, key, hframe, -, hone⟩ := hnotes 0 one rfl
  obtain ⟨frame', key', hframe', -, htwo⟩ := hnotes 1 two rfl
  cases hframe
  cases hframe'
  exact ⟨hstart, hall, hfew', one, two, key, key', hsent, hone, htwo⟩

end Broadcaster

end Luminaire
