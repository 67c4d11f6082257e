/-
What is cut off cannot be read.

A reader takes bytes from the front and never looks beyond what it takes,
so what it has read it reads again when more bytes stand behind it
(`Stable`). Every reader of items is stable, whatever the nesting and
whether lengths are definite or not (`stable_readNested`); for the
indefinite ones it matters that nothing is read from no bytes at all, since
otherwise a break might come to stand where there had been nothing.

Hence no part of an encoding that stops before its end is an encoding
itself: whatever it spelled would have been spelled by the whole
(`Item.decode?_take_of_lt`).
-/
import Luminaire.Cbor.Record

namespace Luminaire

namespace Cbor

/-- What stands behind what is read makes no difference. -/
def Stable {α : Type} (read : Bytes → Option (α × Bytes)) : Prop :=
  ∀ ⦃bytes value rest⦄, read bytes = some (value, rest) →
    ∀ more, read (bytes ++ more) = some (value, rest ++ more)

theorem split?_stable (width : Nat) : Stable (split? width) := by
  intro bytes front rest hparts more
  obtain ⟨rfl, hwidth⟩ := split?_eq_some_iff.1 hparts
  exact split?_eq_some_iff.2 ⟨List.append_assoc .., hwidth⟩

theorem readHead_stable : Stable readHead := by
  intro bytes head rest hread more
  cases bytes with
  | nil => cases hread
  | cons first bytes =>
      rw [List.cons_append]
      unfold readHead at hread ⊢
      simp only at hread ⊢
      by_cases hsmall : first.toNat % 32 < 24
      · rw [if_pos hsmall] at hread ⊢
        cases hread
        rfl
      · by_cases hopen : first.toNat % 32 = 31
        · rw [if_neg hsmall, if_pos hopen] at hread ⊢
          cases hread
          rfl
        · rw [if_neg hsmall, if_neg hopen] at hread ⊢
          cases hwidth : argumentWidth? (first.toNat % 32) with
          | none =>
              rw [hwidth] at hread
              cases hread
          | some width =>
              simp only [hwidth] at hread ⊢
              cases hparts : split? width bytes with
              | none =>
                  rw [hparts] at hread
                  cases hread
              | some parts =>
                  rw [hparts] at hread
                  cases hread
                  rw [split?_stable width hparts more]

section Sequences

variable {α : Type} {read : Bytes → Option (α × Bytes)} {done values : List α}
  {bytes rest : Bytes}

theorem readMany_stable (hstable : Stable read) {count : Nat}
    (hread : readMany read count done bytes = some (values, rest)) (more : Bytes) :
    readMany read count done (bytes ++ more) = some (values, rest ++ more) := by
  induction count generalizing done bytes with
  | zero =>
      cases hread
      rfl
  | succ count ih =>
      unfold readMany at hread ⊢
      cases hone : read bytes with
      | none =>
          rw [hone] at hread
          cases hread
      | some found =>
          obtain ⟨value, left⟩ := found
          rw [hone] at hread
          rw [hstable hone more]
          exact ih hread

/-- Where no break stands, one more thing is read. -/
theorem readUntilBreak_cons {first : UInt8} (hgoes : first ≠ 0xff) (limit : Nat)
    (behind : Bytes) :
    readUntilBreak read (limit + 1) done (first :: behind)
      = (read (first :: behind)).elim none fun found =>
          readUntilBreak read limit (found.1 :: done) found.2 := by
  conv => lhs; unfold readUntilBreak
  split
  next hbytes => exact absurd (List.cons.inj hbytes).1 hgoes
  next =>
    cases read (first :: behind) with
    | none => rfl
    | some found => rfl

/-- Up to a break there may be as many things as before, or more. -/
theorem readUntilBreak_stable (hstable : Stable read) (hnothing : read [] = none)
    {limit larger : Nat} (hlimit : limit ≤ larger)
    (hread : readUntilBreak read limit done bytes = some (values, rest)) (more : Bytes) :
    readUntilBreak read larger done (bytes ++ more) = some (values, rest ++ more) := by
  induction limit generalizing larger done bytes with
  | zero => cases hread
  | succ limit ih =>
      obtain ⟨larger, rfl⟩ := Nat.exists_eq_add_one_of_ne_zero (Nat.ne_zero_of_lt hlimit)
      cases bytes with
      | nil =>
          simp only [readUntilBreak, hnothing] at hread
          cases hread
      | cons first bytes =>
          by_cases hbreak : first = 0xff
          · subst hbreak
            cases hread
            rfl
          · rw [readUntilBreak_cons hbreak] at hread
            rw [List.cons_append, readUntilBreak_cons hbreak]
            cases hone : read (first :: bytes) with
            | none =>
                rw [hone] at hread
                cases hread
            | some found =>
                rw [hone] at hread
                have hagain := hstable hone more
                rw [List.cons_append] at hagain
                rw [hagain]
                exact ih (Nat.le_of_succ_le_succ hlimit) hread

theorem readCounted_stable (hstable : Stable read) (hnothing : read [] = none)
    (count : Option Nat) : Stable (readCounted read count) := by
  intro bytes values rest hread more
  cases count with
  | some count => exact readMany_stable hstable hread more
  | none =>
      have hlonger : bytes.length ≤ (bytes ++ more).length := by
        rw [List.length_append]
        exact Nat.le_add_right ..
      exact readUntilBreak_stable hstable hnothing hlonger hread more

end Sequences

theorem readChunk_stable (kind : Nat) : Stable (readChunk kind) := by
  intro bytes chunk rest hread more
  unfold readChunk at hread ⊢
  split at hread
  next hhead =>
    rw [readHead_stable hhead more]
    simp only
    split at hread
    next hkind =>
      rw [if_pos hkind]
      exact split?_stable _ hread more
    · cases hread
  next => cases hread

theorem readString_stable (kind : Nat) (length : Option Nat) :
    Stable (readString kind length) := by
  intro bytes content rest hread more
  cases length with
  | some length => exact split?_stable length hread more
  | none =>
      obtain ⟨⟨chunks, left⟩, hchunks, hjoined⟩ := Option.map_eq_some_iff.1 hread
      cases hjoined
      have hagain := readCounted_stable (readChunk_stable kind) rfl none hchunks more
      exact congrArg (Option.map _) hagain

section Items

variable {read : Bytes → Option (Item × Bytes)}

theorem readEntry_stable (hstable : Stable read) : Stable (readEntry read) := by
  intro bytes entry rest hread more
  unfold readEntry at hread ⊢
  split at hread
  next => cases hread
  next key left hkey =>
    rw [hstable hkey more]
    simp only
    split at hread
    next => cases hread
    next value behind hvalue =>
      cases hread
      rw [hstable hvalue more]

/-- Every item has a head. -/
theorem readNested_nil (depth : Nat) : readNested depth [] = none := by
  cases depth with
  | zero => rfl
  | succ depth => rfl

end Items

/-- An item is read the same way if what it contains is. -/
theorem readItem_stable {inner : Option (Bytes → Option (Item × Bytes))}
    (hinner : ∀ read, inner = some read → Stable read ∧ read [] = none) :
    Stable (readItem inner) := by
  intro bytes item rest hread more
  unfold readItem at hread ⊢
  split at hread
  next => cases hread
  next head left hhead =>
    rw [readHead_stable hhead more]
    simp only
    obtain ⟨kind, info, argument⟩ := head
    simp only at hread ⊢
    split at hread
    · cases hread
      rfl
    · cases hread
      rfl
    next =>
      obtain ⟨⟨content, behind⟩, hcontent, hwhole⟩ := Option.map_eq_some_iff.1 hread
      cases hwhole
      exact congrArg (Option.map _) (readString_stable 2 _ hcontent more)
    next =>
      split at hread
      next => cases hread
      next content behind hcontent =>
        obtain ⟨text, htext, hwhole⟩ := Option.map_eq_some_iff.1 hread
        cases hwhole
        rw [readString_stable 3 _ hcontent more]
        exact congrArg (Option.map _) htext
    next read =>
      obtain ⟨⟨items, behind⟩, hitems, hwhole⟩ := Option.map_eq_some_iff.1 hread
      cases hwhole
      obtain ⟨hstable, hnothing⟩ := hinner read rfl
      exact congrArg (Option.map _) (readCounted_stable hstable hnothing _ hitems more)
    next read =>
      obtain ⟨⟨entries, behind⟩, hentries, hwhole⟩ := Option.map_eq_some_iff.1 hread
      cases hwhole
      obtain ⟨hstable, hnothing⟩ := hinner read rfl
      have hentry : readEntry read [] = none := by rw [readEntry, hnothing]
      exact congrArg (Option.map _)
        (readCounted_stable (readEntry_stable hstable) hentry _ hentries more)
    next number read =>
      obtain ⟨⟨within, behind⟩, hwithin, hwhole⟩ := Option.map_eq_some_iff.1 hread
      cases hwhole
      exact congrArg (Option.map _) ((hinner read rfl).1 hwithin more)
    next =>
      split at hread
      next => cases hread; rfl
      next => cases hread; rfl
      next => cases hread; rfl
      next => cases hread; rfl
      next => cases hread; rfl
      next => cases hread; rfl
      next => cases hread; rfl
      next => cases hread
    · cases hread

theorem stable_readNested (depth : Nat) : Stable (readNested depth) := by
  induction depth with
  | zero => exact readItem_stable nofun
  | succ depth ih =>
      refine readItem_stable fun read hread => ?_
      cases hread
      exact ⟨ih, readNested_nil depth⟩

/-- Nothing that stops short of the end of an encoding spells an item. -/
theorem Item.decode?_take_of_lt {bytes : Bytes} {item : Item}
    (hdecode : Item.decode? bytes = some item) {count : Nat} (hcut : count < bytes.length) :
    Item.decode? (bytes.take count) = none := by
  have hwhole : readNested depthLimit bytes = some (item, []) := by
    unfold Item.decode? at hdecode
    split at hdecode
    next hread =>
      cases hdecode
      exact hread
    next => cases hdecode
  unfold Item.decode?
  split
  next other hread =>
    -- what was cut off would be left over from the whole
    have hagain := stable_readNested depthLimit hread (bytes.drop count)
    rw [List.take_append_drop, hwhole] at hagain
    have hleft : bytes.drop count = [] := (congrArg Prod.snd (Option.some.inj hagain)).symm
    exact absurd (List.drop_eq_nil_iff.1 hleft) (Nat.not_le.2 hcut)
  next => rfl

end Cbor

end Luminaire
