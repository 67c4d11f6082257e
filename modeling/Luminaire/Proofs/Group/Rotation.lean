/-
What a rotation of the group's keys does.

It either issues a key, which is then the newest on the ring and the one
the cipher works with, or it leaves ring and cipher as they were
(`Broadcaster.renew_cases`). A key that is issued has the lengths the
cipher wants, and an identifier that is neither zero nor on the ring
(`KeyRing.Draws`).
-/
import Luminaire.Group.Broadcaster
import Mathlib.Data.List.Nodup

namespace Luminaire

namespace KeyRing

theorem contains_eq_false_iff {ring : KeyRing} {id : UInt32} :
    ring.contains id = false ↔ id ∉ ring.ids := by
  rw [contains, get?, Option.isSome_eq_false_iff, Option.isNone_iff_eq_none, List.find?_eq_none,
    ids, List.mem_map]
  simp only [beq_iff_eq, not_exists, not_and]

/-- A key that can be issued at a ring. -/
structure Draws (ring : KeyRing) (key : GroupKey) : Prop where
  keyLength : key.key.length = 32
  ivLength : key.iv.length = 16
  nonzero : key.id ≠ 0
  fresh : ring.contains key.id = false

theorem drawId_eq_some {ring : KeyRing} {entropy left : Entropy} {id : UInt32}
    (hdraw : ring.drawId entropy = (some id, left)) : id ≠ 0 ∧ ring.contains id = false := by
  fun_induction drawId ring entropy with
  | case1 a b c d rest drawn hgood =>
      have hid : drawn = id := Option.some.inj (Prod.mk.inj hdraw).1
      exact hid ▸ hgood
  | case2 a b c d rest drawn hbad ih => exact ih hdraw
  | case3 short hshort => cases hdraw

/-- A key is drawn or it is not. -/
theorem drawKey_cases (ring : KeyRing) (entropy : Entropy) :
    (∃ key left, ring.Draws key ∧ ring.drawKey entropy = (.ok key, left))
      ∨ ∃ left, ring.drawKey entropy = (.error (.entropy .groupKey), left) := by
  unfold drawKey
  cases hkey : entropy.draw? 32 with
  | none => exact .inr ⟨_, rfl⟩
  | some parts =>
      obtain ⟨key, behind⟩ := parts
      simp only
      cases hiv : behind.draw? 16 with
      | none => exact .inr ⟨_, rfl⟩
      | some parts =>
          obtain ⟨iv, behind'⟩ := parts
          simp only
          cases hid : ring.drawId behind' with
          | mk found left =>
              cases found with
              | none => exact .inr ⟨_, rfl⟩
              | some id =>
                  obtain ⟨hnonzero, hfresh⟩ := drawId_eq_some hid
                  exact .inl ⟨⟨id, key, iv⟩, left,
                    ⟨(Entropy.draw?_eq_some_iff.1 hkey).2, (Entropy.draw?_eq_some_iff.1 hiv).2,
                      hnonzero, hfresh⟩, rfl⟩

/-- A key that was issued is found under its identifier, if anything is. -/
theorem eq_of_get?_push {ring : KeyRing} {key found : GroupKey} (hdraws : ring.Draws key)
    (hget : (ring.push key).get? key.id = some found) : found = key := by
  have hmem := List.mem_of_find?_eq_some hget
  have hid : found.id = key.id := by simpa using List.find?_some hget
  rcases List.mem_append.1 (List.mem_of_mem_drop hmem) with hold | hnew
  · exact absurd (List.mem_map.2 ⟨found, hold, hid⟩) (contains_eq_false_iff.1 hdraws.fresh)
  · exact List.mem_singleton.1 hnew

-- ========================================================= the ring

variable {ring : KeyRing} {key : GroupKey}

/-- A ring holds no more keys than it is deep, each of the lengths the cipher
wants, and no two under one identifier. -/
structure Orderly (ring : KeyRing) : Prop where
  positive : 0 < ring.depth
  bounded : ring.keys.length ≤ ring.depth
  distinct : (ring.keys.map GroupKey.id).Nodup
  lengths : ∀ key ∈ ring.keys, key.key.length = 32 ∧ key.iv.length = 16

theorem orderly_new (depth : Nat) : (new depth).Orderly where
  positive := Nat.le_max_right depth 1
  bounded := Nat.zero_le _
  distinct := List.nodup_nil
  lengths := nofun

/-- The newest keys of a list, as many as a ring is deep. -/
def newest (depth : Nat) (keys : List GroupKey) : List GroupKey :=
  keys.drop (keys.length - depth)

theorem newest_of_le {depth : Nat} {keys : List GroupKey} (hle : keys.length ≤ depth) :
    newest depth keys = keys := by
  rw [newest, Nat.sub_eq_zero_of_le hle]
  exact List.drop_zero

/-- What was not among the newest before more came is not among them then. -/
theorem newest_newest_append (depth : Nat) (keys more : List GroupKey) :
    newest depth (newest depth keys ++ more) = newest depth (keys ++ more) := by
  unfold newest
  rw [← List.drop_append_of_le_length (Nat.sub_le _ _), List.drop_drop]
  congr 1
  rw [List.length_drop, List.length_append]
  omega

/-- The last key is among the newest. -/
theorem getLast?_newest {depth : Nat} (hpositive : 0 < depth) (keys : List GroupKey) :
    (newest depth keys).getLast? = keys.getLast? := by
  rw [newest, List.getLast?_drop]
  split
  next hnone =>
    have hnil : keys = [] := List.eq_nil_of_length_eq_zero (by omega)
    rw [hnil]
    rfl
  next => rfl

theorem keys_push (ring : KeyRing) (key : GroupKey) :
    (ring.push key).keys = newest ring.depth (ring.keys ++ [key]) := rfl

theorem Orderly.push (horderly : ring.Orderly) (hdraws : ring.Draws key) :
    (ring.push key).Orderly := by
  have hfresh : key.id ∉ ring.keys.map GroupKey.id := contains_eq_false_iff.1 hdraws.fresh
  refine ⟨horderly.positive, ?_, ?_, fun other hother => ?_⟩
  · show (List.drop _ _).length ≤ ring.depth
    rw [List.length_drop]
    omega
  · have hall : ((ring.keys ++ [key]).map GroupKey.id).Nodup := by
      rw [List.map_append, List.map_singleton, ← List.concat_eq_append]
      exact horderly.distinct.concat hfresh
    exact hall.sublist ((List.drop_sublist _ _).map _)
  · rcases List.mem_append.1 (List.mem_of_mem_drop hother) with hold | hnew
    · exact horderly.lengths other hold
    · cases List.mem_singleton.1 hnew
      exact ⟨hdraws.keyLength, hdraws.ivLength⟩

/-- A key that was issued is the one in use. -/
theorem Orderly.current?_push (horderly : ring.Orderly) (key : GroupKey) :
    (ring.push key).current? = some key := by
  rw [current?, keys_push, getLast?_newest horderly.positive, List.getLast?_concat]

/-- Where no two keys have one identifier, a key is found under its own. -/
theorem find?_id_eq_some_iff {keys : List GroupKey} (hdistinct : (keys.map GroupKey.id).Nodup)
    (id : UInt32) : keys.find? (fun key => key.id == id) = some key ↔ key ∈ keys ∧ key.id = id := by
  constructor
  · intro hfound
    exact ⟨List.mem_of_find?_eq_some hfound, by simpa using List.find?_some hfound⟩
  · rintro ⟨hmem, rfl⟩
    obtain ⟨found, hfound⟩ : ∃ found, keys.find? (fun other => other.id == key.id) = some found :=
      Option.isSome_iff_exists.1 (List.find?_isSome.2 ⟨key, hmem, beq_self_eq_true _⟩)
    have hid : found.id = key.id := by simpa using List.find?_some hfound
    rw [hfound, List.inj_on_of_nodup_map hdistinct (List.mem_of_find?_eq_some hfound) hmem hid]

/-- A key on the ring is found under its identifier. -/
theorem Orderly.get?_of_mem (horderly : ring.Orderly) (hmem : key ∈ ring.keys) :
    ring.get? key.id = some key :=
  (find?_id_eq_some_iff horderly.distinct key.id).2 ⟨hmem, rfl⟩

end KeyRing

namespace Broadcaster

/-- The keys rotate, or nothing changes but the randomness. -/
theorem rotateKeys_cases (ring : KeyRing) (cipher : GroupCipher) (entropy : Entropy) :
    (∃ key left, ring.Draws key
        ∧ rotateKeys ring cipher entropy = (.ok key, ring.push key, ⟨some key.key⟩, left))
      ∨ ∃ left, rotateKeys ring cipher entropy
        = (.error (.entropy .groupKey), ring, cipher, left) := by
  unfold rotateKeys KeyRing.generate
  obtain ⟨key, left, hdraws, hdraw⟩ | ⟨left, hdraw⟩ := ring.drawKey_cases entropy
  · have hload : GroupCipher.load key.key = (.ok (), ⟨some key.key⟩) := if_pos hdraws.keyLength
    simp only [hdraw, hload]
    exact .inl ⟨key, left, hdraws, rfl⟩
  · simp only [hdraw]
    exact .inr ⟨left, rfl⟩

variable {ω : Type}

/-- The broadcaster under a key that was just issued. -/
def rekeyed (broadcaster : Broadcaster ω) (key : GroupKey) : Broadcaster ω :=
  { broadcaster with ring := broadcaster.ring.push key, cipher := ⟨some key.key⟩ }

/-- A renewal issues a key, or leaves the broadcaster as it was. -/
theorem renew_cases (broadcaster : Broadcaster ω) (entropy : Entropy) :
    (∃ key left, broadcaster.ring.Draws key
        ∧ broadcaster.renew entropy = (.rotated key, broadcaster.rekeyed key, left))
      ∨ ∃ left, broadcaster.renew entropy
        = (.unrotated (.entropy .groupKey), broadcaster, left) := by
  unfold renew rotate
  obtain ⟨key, left, hdraws, hrotate⟩ | ⟨left, hrotate⟩ :=
    rotateKeys_cases broadcaster.ring broadcaster.cipher entropy
  · simp only [hrotate]
    exact .inl ⟨key, left, hdraws, rfl⟩
  · simp only [hrotate]
    exact .inr ⟨left, rfl⟩

/-- Under a new identifier there is material of the right lengths, if any. -/
def Announces (broadcaster : Broadcaster ω) (id : UInt32) : Prop :=
  ∀ key iv, broadcaster.material? id = some (key, iv) → key.length = 32 ∧ iv.length = 16

theorem announces_rekeyed {broadcaster : Broadcaster ω} {key : GroupKey}
    (hdraws : broadcaster.ring.Draws key) : (broadcaster.rekeyed key).Announces key.id := by
  intro text iv hmaterial
  obtain ⟨found, hfound, hparts⟩ := Option.map_eq_some_iff.1 hmaterial
  obtain rfl := KeyRing.eq_of_get?_push hdraws hfound
  cases hparts
  exact ⟨hdraws.keyLength, hdraws.ivLength⟩

/-- A key that came of some work can be announced. -/
theorem announces_of_elapse {broadcaster after : Broadcaster ω} {entropy left : Entropy}
    {key : GroupKey} (helapse : broadcaster.elapse entropy = (.rotated key, after, left)) :
    after.Announces key.id := by
  unfold elapse at helapse
  split at helapse
  · obtain ⟨issued, rest, hdraws, hrenew⟩ | ⟨rest, hrenew⟩ := broadcaster.renew_cases entropy
    · rw [hrenew] at helapse
      cases helapse
      exact announces_rekeyed hdraws
    · rw [hrenew] at helapse
      cases helapse
  · cases helapse

theorem announces_of_work {broadcaster after : Broadcaster ω} {now : UInt64}
    {entropy left : Entropy} {key : GroupKey}
    (hwork : broadcaster.work now entropy = (.rotated key, after, left)) :
    after.Announces key.id := by
  unfold work at hwork
  split at hwork
  · split at hwork
    · cases hwork
    · cases hwork
  next requests _ _ =>
    obtain ⟨issued, rest, hdraws, hrenew⟩ | ⟨rest, hrenew⟩ :=
      renew_cases { broadcaster with requests } entropy
    · rw [hrenew] at hwork
      cases hwork
      exact announces_rekeyed hdraws
    · rw [hrenew] at hwork
      cases hwork
  · cases hwork
  · cases hwork

end Broadcaster

end Luminaire
