/-
The framebuffer's side of the subscriptions.

`Framebuffer.booked` reads off, from the observers alone, what each
connection is down for. Two things happen to the observers: one is
enlisted, and those of some subscriptions are released. Enlisting adds one
booking to one connection; releasing takes from a connection exactly what
was meant and nothing from another, because no two observers share a token
(`Framebuffer.Orderly`). `Subscription.Moves` puts the two together with
the connection's own list, and says that the two sides keep agreeing.
-/
import Luminaire.Proofs.Connection.Subscriptions
import Mathlib.Data.List.Nodup
import Mathlib.Data.List.Perm.Subperm

namespace Luminaire

/-- The subscription of a connection that an observer stands for. -/
def Subscription.behind? (id : ConnectionId) (entry : Token × RegionObserver Watcher) :
    Option Subscription :=
  match entry.2.observer with
  | .delivery delivery =>
      if delivery.connection = id then some ⟨delivery.channel, entry.1⟩ else none
  | .outsider _ => none

theorem Subscription.behind?_delivery (id : ConnectionId) (token : Token) (delivery : Delivery) :
    behind? id (token, ⟨delivery.region, .delivery delivery⟩)
      = if delivery.connection = id then some ⟨delivery.channel, token⟩ else none := rfl

theorem Subscription.behind?_eq_some_iff {id : ConnectionId}
    {entry : Token × RegionObserver Watcher} {subscription : Subscription} :
    behind? id entry = some subscription
      ↔ ∃ delivery, entry.2.observer = .delivery delivery ∧ delivery.connection = id
        ∧ subscription = ⟨delivery.channel, entry.1⟩ := by
  unfold behind?
  cases entry.2.observer with
  | outsider number => simp
  | delivery delivery =>
      by_cases hid : delivery.connection = id
      · simp [hid, eq_comm]
      · simp [hid]

/-- The delivery to a connection that an observer waits for. -/
def Delivery.behind? (id : ConnectionId) (entry : Token × RegionObserver Watcher) :
    Option Delivery :=
  match entry.2.observer with
  | .delivery delivery => if delivery.connection = id then some delivery else none
  | .outsider _ => none

theorem Delivery.behind?_delivery (id : ConnectionId) (token : Token) (delivery : Delivery) :
    behind? id (token, ⟨delivery.region, .delivery delivery⟩)
      = if delivery.connection = id then some delivery else none := rfl

namespace Framebuffer

/-- What a connection is down for, oldest first. -/
def booked (framebuffer : Framebuffer Watcher) (id : ConnectionId) : List Subscription :=
  framebuffer.observers.entries.filterMap (Subscription.behind? id)

/-- Every observer stands for a subscription of one of the first `count`
connections that a message can carry, and watches the region that is
delivered; no token is given twice. -/
structure Orderly (framebuffer : Framebuffer Watcher) (count : Nat) : Prop where
  owned : ∀ entry ∈ framebuffer.observers.entries, ∃ delivery,
    entry.2 = ⟨delivery.region, .delivery delivery⟩ ∧ delivery.connection < count
      ∧ delivery.Carried
  tokens : (framebuffer.observers.entries.map Prod.fst).Nodup
  issued : ∀ entry ∈ framebuffer.observers.entries,
    entry.1 < framebuffer.observers.next

variable {framebuffer : Framebuffer Watcher} {count : Nat} {id other : ConnectionId}
  {subscription another : Subscription}

/-- A booking is an observer's. -/
theorem mem_booked_iff :
    subscription ∈ framebuffer.booked id
      ↔ ∃ entry ∈ framebuffer.observers.entries,
        Subscription.behind? id entry = some subscription :=
  List.mem_filterMap

/-- No two bookings have the same token. -/
theorem Orderly.booked_inj (horderly : framebuffer.Orderly count)
    (hmem : subscription ∈ framebuffer.booked id) (hother : another ∈ framebuffer.booked other)
    (htoken : subscription.token = another.token) : id = other ∧ subscription = another := by
  obtain ⟨entry, hentry, hof⟩ := mem_booked_iff.1 hmem
  obtain ⟨entry', hentry', hof'⟩ := mem_booked_iff.1 hother
  obtain ⟨delivery, hdelivery, rfl, rfl⟩ := Subscription.behind?_eq_some_iff.1 hof
  obtain ⟨delivery', hdelivery', rfl, rfl⟩ := Subscription.behind?_eq_some_iff.1 hof'
  obtain rfl : entry = entry' := List.inj_on_of_nodup_map horderly.tokens hentry hentry' htoken
  rw [hdelivery] at hdelivery'
  cases hdelivery'
  exact ⟨rfl, rfl⟩

/-- Connections that are not there are down for nothing. -/
theorem Orderly.booked_of_le (horderly : framebuffer.Orderly count) (hid : count ≤ id) :
    framebuffer.booked id = [] := by
  refine List.filterMap_eq_nil_iff.2 fun entry hentry => ?_
  obtain ⟨delivery, hentry, hlt, -⟩ := horderly.owned entry hentry
  have hne : delivery.connection ≠ id := Nat.ne_of_lt (Nat.lt_of_lt_of_le hlt hid)
  unfold Subscription.behind?
  rw [hentry]
  exact if_neg hne

theorem Orderly.mono (horderly : framebuffer.Orderly count) {larger : Nat}
    (hle : count ≤ larger) : framebuffer.Orderly larger := by
  refine ⟨fun entry hentry => ?_, horderly.tokens, horderly.issued⟩
  obtain ⟨delivery, hentry, hlt, hcarried⟩ := horderly.owned entry hentry
  exact ⟨delivery, hentry, Nat.lt_of_lt_of_le hlt hle, hcarried⟩

/-- The pixels make no difference. -/
theorem Orderly.of_observers (horderly : framebuffer.Orderly count)
    {repainted : Framebuffer Watcher} (hsame : repainted.observers = framebuffer.observers) :
    repainted.Orderly count := by
  obtain ⟨howned, htokens, hissued⟩ := horderly
  refine ⟨?_, ?_, ?_⟩
  · rw [hsame]; exact howned
  · rw [hsame]; exact htokens
  · rw [hsame]; exact hissued

theorem booked_of_observers {repainted : Framebuffer Watcher}
    (hsame : repainted.observers = framebuffer.observers) (id : ConnectionId) :
    repainted.booked id = framebuffer.booked id := by
  unfold booked
  rw [hsame]

-- ========================================================= enlisting

open Subscription

variable {channels : List NodeChannel} {held : Held} {request : Subscribe}
  {channel : NodeChannel} {format : PixelFormat} {first : UInt32}

theorem booked_enlisted_self (framebuffer : Framebuffer Watcher) (id : ConnectionId)
    (request : Subscribe) (format : PixelFormat) (first : UInt32) :
    (enlisted framebuffer (granted id request format first)).booked id
      = framebuffer.booked id ++ [⟨request.channel, framebuffer.observers.next⟩] := by
  show (framebuffer.observers.entries ++ [_]).filterMap _ = _
  rw [List.filterMap_append]
  exact congrArg (framebuffer.booked id ++ ·) (by simp [behind?, granted])

theorem booked_enlisted_of_ne (framebuffer : Framebuffer Watcher) (hne : other ≠ id)
    (request : Subscribe) (format : PixelFormat) (first : UInt32) :
    (enlisted framebuffer (granted id request format first)).booked other
      = framebuffer.booked other := by
  show (framebuffer.observers.entries ++ [_]).filterMap _ = _
  rw [List.filterMap_append]
  simp [behind?, granted, hne.symm, booked]

theorem Orderly.of_enlisted (horderly : framebuffer.Orderly count) (hid : id < count)
    (hgrantable : Grantable channels held request channel format first) :
    (enlisted framebuffer (granted id request format first)).Orderly count := by
  refine ⟨fun entry hentry => ?_, ?_, fun entry hentry => ?_⟩
  · rcases List.mem_append.1 hentry with hentry | hentry
    · exact horderly.owned entry hentry
    · cases List.mem_singleton.1 hentry
      exact ⟨⟨id, request.channel, ⟨first, request.length⟩, request.start, format⟩, rfl, hid,
        hgrantable.nonempty, hgrantable.carried⟩
  · show ((framebuffer.observers.entries ++ [_]).map Prod.fst).Nodup
    rw [List.map_append, List.nodup_append]
    refine ⟨horderly.tokens, List.nodup_singleton _, fun token htoken other hother => ?_⟩
    obtain ⟨entry, hentry, rfl⟩ := List.mem_map.1 htoken
    cases List.mem_singleton.1 hother
    exact Nat.ne_of_lt (horderly.issued entry hentry)
  · rcases List.mem_append.1 hentry with hentry | hentry
    · exact Nat.lt_succ_of_lt (horderly.issued entry hentry)
    · cases List.mem_singleton.1 hentry
      exact Nat.lt_succ_self _

-- ========================================================= releasing

theorem Orderly.of_release (horderly : framebuffer.Orderly count)
    (meant : Subscription → Bool) (held : Held) :
    (release meant held framebuffer).2.Orderly count := by
  rw [release_snd]
  refine ⟨fun entry hentry => ?_, ?_, fun entry hentry => ?_⟩
  · exact horderly.owned entry (List.mem_filter.1 hentry).1
  · exact horderly.tokens.sublist (List.filter_sublist.map _)
  · exact horderly.issued entry (List.mem_filter.1 hentry).1

/-- What is left is what had other tokens. -/
theorem booked_release (framebuffer : Framebuffer Watcher) (meant : Subscription → Bool)
    (held : Held) (id : ConnectionId) :
    (release meant held framebuffer).2.booked id
      = (framebuffer.booked id).filter fun subscription =>
        subscription.token ∉ (held.filter meant).map token := by
  rw [release_snd]
  unfold booked
  rw [List.filterMap_filter, List.filter_filterMap]
  refine List.filterMap_congr fun entry _ => ?_
  cases hof : behind? id entry with
  | none => simp
  | some subscription =>
      obtain ⟨delivery, -, -, rfl⟩ := behind?_eq_some_iff.1 hof
      simp [Option.filter]

/-- A connection whose books agree loses exactly what was meant. -/
theorem Orderly.booked_release_self (horderly : framebuffer.Orderly count)
    (hheld : held = (framebuffer.booked id).reverse) (meant : Subscription → Bool) :
    (release meant held framebuffer).1
      = ((release meant held framebuffer).2.booked id).reverse := by
  rw [booked_release, ← List.filter_reverse, ← hheld]
  refine List.filter_congr fun subscription hmem => ?_
  have hbooked : subscription ∈ framebuffer.booked id := by
    rw [hheld] at hmem
    exact List.mem_reverse.1 hmem
  rw [Bool.eq_iff_iff, decide_eq_true_iff, Bool.not_eq_true', ← Bool.not_eq_true]
  refine not_congr ⟨fun hmeant => ?_, fun hgone => ?_⟩
  · exact List.mem_map_of_mem (List.mem_filter.2 ⟨hmem, hmeant⟩)
  · obtain ⟨another, hanother, htoken⟩ := List.mem_map.1 hgone
    obtain ⟨hother, hmeant⟩ := List.mem_filter.1 hanother
    rw [hheld] at hother
    obtain ⟨-, rfl⟩ := horderly.booked_inj (List.mem_reverse.1 hother) hbooked htoken
    exact hmeant

/-- Other connections lose nothing. -/
theorem Orderly.booked_release_of_ne (horderly : framebuffer.Orderly count)
    (hheld : held = (framebuffer.booked id).reverse) (hne : other ≠ id)
    (meant : Subscription → Bool) :
    (release meant held framebuffer).2.booked other = framebuffer.booked other := by
  rw [booked_release]
  refine List.filter_eq_self.2 fun subscription hmem => decide_eq_true fun hgone => ?_
  obtain ⟨another, hanother, htoken⟩ := List.mem_map.1 hgone
  have hother := (List.mem_filter.1 hanother).1
  rw [hheld] at hother
  exact hne (horderly.booked_inj (List.mem_reverse.1 hother) hmem htoken).1.symm

/-- A connection that gives up takes the observers of what was meant with it
and no others. -/
theorem Orderly.entries_release (horderly : framebuffer.Orderly count)
    (hheld : held = (framebuffer.booked id).reverse) (meant : Subscription → Bool) :
    (release meant held framebuffer).2.observers.entries
      = framebuffer.observers.entries.filter fun entry =>
        (behind? id entry).all fun subscription => !meant subscription := by
  rw [release_snd]
  refine List.filter_congr fun entry hentry => ?_
  have hmem : ∀ subscription, behind? id entry = some subscription → subscription ∈ held :=
    fun subscription hof => by
      rw [hheld, List.mem_reverse]
      exact mem_booked_iff.2 ⟨entry, hentry, hof⟩
  have hbehind : ∀ subscription ∈ held, subscription.token = entry.1 →
      behind? id entry = some subscription := by
    intro subscription hsubscription htoken
    rw [hheld, List.mem_reverse] at hsubscription
    obtain ⟨entry', hentry', hof⟩ := mem_booked_iff.1 hsubscription
    obtain ⟨delivery, -, -, rfl⟩ := behind?_eq_some_iff.1 hof
    obtain rfl : entry' = entry :=
      List.inj_on_of_nodup_map horderly.tokens hentry' hentry htoken
    exact hof
  rw [Bool.eq_iff_iff, decide_eq_true_iff]
  cases hof : behind? id entry with
  | none =>
      refine iff_of_true (fun hgone => ?_) rfl
      obtain ⟨subscription, hsubscription, htoken⟩ := List.mem_map.1 hgone
      rw [hbehind subscription (List.mem_filter.1 hsubscription).1 htoken] at hof
      cases hof
  | some subscription =>
      obtain ⟨delivery, -, -, hsame⟩ := behind?_eq_some_iff.1 hof
      have htoken : subscription.token = entry.1 := congrArg Subscription.token hsame
      rw [Option.all_some, Bool.not_eq_true', ← Bool.not_eq_true]
      refine not_congr ⟨fun hgone => ?_, fun hmeant => ?_⟩
      · obtain ⟨other, hother, htoken'⟩ := List.mem_map.1 hgone
        obtain ⟨hheld', hmeant⟩ := List.mem_filter.1 hother
        rw [hbehind other hheld' htoken'] at hof
        cases hof
        exact hmeant
      · exact List.mem_map.2 ⟨subscription, List.mem_filter.2 ⟨hmem _ hof, hmeant⟩, htoken⟩

/-- The observers of one framebuffer are those of an earlier one, and others
whose tokens were given since. -/
structure Follows (later earlier : Framebuffer Watcher) : Prop where
  next_le : earlier.observers.next ≤ later.observers.next
  old_or_new : ∀ entry ∈ later.observers.entries,
    entry ∈ earlier.observers.entries ∨ earlier.observers.next ≤ entry.1

theorem Follows.of_observers {later earlier : Framebuffer Watcher}
    (hsame : later.observers = earlier.observers) : later.Follows earlier := by
  refine ⟨Nat.le_of_eq (congrArg Observers.next hsame.symm), fun entry hentry => .inl ?_⟩
  rw [← hsame]
  exact hentry

theorem Follows.trans {last later earlier : Framebuffer Watcher} (hlast : last.Follows later)
    (hlater : later.Follows earlier) : last.Follows earlier := by
  refine ⟨Nat.le_trans hlater.next_le hlast.next_le, fun entry hentry => ?_⟩
  rcases hlast.old_or_new entry hentry with hentry | hnew
  · exact hlater.old_or_new entry hentry
  · exact .inr (Nat.le_trans hlater.next_le hnew)

end Framebuffer

-- ============================================================= moves

namespace Subscription

/-- What can happen to the books of a connection: nothing, a grant, or a
release. -/
inductive Moves (id : ConnectionId) (held : Held) (framebuffer : Framebuffer Watcher) :
    Held → Framebuffer Watcher → Prop where
  | same : Moves id held framebuffer held framebuffer
  | granted {channels : List NodeChannel} {request : Subscribe} {channel : NodeChannel}
      {format : PixelFormat} {first : UInt32}
      (hgrantable : Grantable channels held request channel format first) :
      Moves id held framebuffer (⟨request.channel, framebuffer.observers.next⟩ :: held)
        (enlisted framebuffer (Subscription.granted id request format first))
  | released (meant : Subscription → Bool) :
      Moves id held framebuffer (release meant held framebuffer).1
        (release meant held framebuffer).2

/-- A message moves the books in one of these ways. -/
theorem Handled.moves {id : ConnectionId} {directory : Directory} {held held' : Held}
    {framebuffer framebuffer' : Framebuffer Watcher} {connection connection' : Connection Tape}
    {header : Header} {payload : Bytes}
    (hhandled : Handled id directory held framebuffer connection header payload held'
      framebuffer' connection') : Moves id held framebuffer held' framebuffer' := by
  cases hhandled with
  | passed => exact .same
  | refused => exact .same
  | granted _ _ _ _ _ _ _ _ hgrantable => exact .granted hgrantable
  | kept => exact .same
  | released => exact .released _

namespace Moves

variable {id other : ConnectionId} {held held' : Held}
  {framebuffer framebuffer' : Framebuffer Watcher} {count : Nat}
  (hmoves : Moves id held framebuffer held' framebuffer')
include hmoves

theorem orderly (horderly : framebuffer.Orderly count) (hid : id < count) :
    framebuffer'.Orderly count := by
  cases hmoves with
  | same => exact horderly
  | granted hgrantable => exact horderly.of_enlisted hid hgrantable
  | released meant => exact horderly.of_release meant held

/-- The books of the connection agree afterwards if they did before. -/
theorem agree (horderly : framebuffer.Orderly count)
    (hheld : held = (framebuffer.booked id).reverse) :
    held' = (framebuffer'.booked id).reverse := by
  cases hmoves with
  | same => exact hheld
  | granted hgrantable =>
      rw [Framebuffer.booked_enlisted_self, List.reverse_append, ← hheld]
      rfl
  | released meant => exact horderly.booked_release_self hheld meant

/-- Other connections are down for what they were. -/
theorem booked_of_ne (horderly : framebuffer.Orderly count)
    (hheld : held = (framebuffer.booked id).reverse) (hne : other ≠ id) :
    framebuffer'.booked other = framebuffer.booked other := by
  cases hmoves with
  | same => rfl
  | granted hgrantable => exact Framebuffer.booked_enlisted_of_ne framebuffer hne ..
  | released meant => exact horderly.booked_release_of_ne hheld hne meant

/-- A channel is not granted twice. -/
theorem channels (hnodup : (held.map channel).Nodup) : (held'.map channel).Nodup := by
  cases hmoves with
  | same => exact hnodup
  | @granted channels request channel format first hgrantable =>
      refine List.nodup_cons.2 ⟨fun hmem => ?_, hnodup⟩
      obtain ⟨subscription, hsubscription, hsame⟩ := List.mem_map.1 hmem
      have hholds : holds held request.channel = true :=
        List.any_eq_true.2 ⟨subscription, hsubscription, beq_iff_eq.2 hsame⟩
      rw [hgrantable.fresh] at hholds
      cases hholds
  | released meant => exact hnodup.sublist (List.filter_sublist.map _)

/-- The observers that are new have new tokens. -/
theorem follows : framebuffer'.Follows framebuffer := by
  cases hmoves with
  | same => exact .of_observers rfl
  | granted hgrantable =>
      refine ⟨Nat.le_succ _, fun entry hentry => ?_⟩
      rcases List.mem_append.1 hentry with hentry | hentry
      · exact .inl hentry
      · cases List.mem_singleton.1 hentry
        exact .inr (Nat.le_refl _)
  | released meant =>
      rw [release_snd]
      exact ⟨Nat.le_refl _, fun entry hentry => .inl (List.mem_filter.1 hentry).1⟩

end Moves

/-- There are no more channels to hold than there are numbers for them. -/
theorem length_le_of_nodup {held : Held} (hnodup : (held.map channel).Nodup) :
    held.length ≤ UInt32.size := by
  have hnumbers : ((held.map channel).map UInt32.toNat).Nodup :=
    hnodup.map fun _ _ => UInt32.toNat_inj.1
  have hsubset : (held.map channel).map UInt32.toNat ⊆ List.range UInt32.size := by
    intro number hnumber
    obtain ⟨index, -, rfl⟩ := List.mem_map.1 hnumber
    exact List.mem_range.2 index.toNat_lt
  have hlength := (List.subperm_of_subset hnumbers hsubset).length_le
  rwa [List.length_map, List.length_map, List.length_range] at hlength

end Subscription

end Luminaire
