/-
The replay window is the set of the numbers it was given.

`Tracks` reads the sixty-four bits: with a highest number `h`, bit `i` is
set exactly if the number `i` below `h` has been marked. It holds of the
empty window and survives every `mark`, of whatever number, fresh or not,
since a number sixty-four or more below the highest has no bit to set.
Everything a receiver needs follows from it without another look at the
bits: a number is fresh exactly if it was not marked and none was marked
that is sixty-four or more above it (`Tracks.isFresh_iff`).
-/
import Mathlib.Data.Nat.Bitwise
import Luminaire.Record.Window

namespace Luminaire.ReplayWindow

-- ================================================================ bits

/-- The bit of an age, as a number. -/
theorem toNat_bit {age : UInt64} (hage : age < size) :
    ((1 : UInt64) <<< age).toNat = 2 ^ age.toNat := by
  have hlt : age.toNat < 64 := UInt64.lt_iff_toNat_lt.1 hage
  rw [UInt64.toNat_shiftLeft, Nat.mod_eq_of_lt hlt]
  show 1 <<< age.toNat % 2 ^ 64 = 2 ^ age.toNat
  rw [Nat.shiftLeft_eq, Nat.one_mul,
    Nat.mod_eq_of_lt (Nat.pow_lt_pow_right (by omega) hlt)]

/-- Testing one bit of the window. -/
theorem and_bit_eq_zero_iff (seen : UInt64) {age : UInt64} (hage : age < size) :
    (seen &&& (1 <<< age) == 0) = true
      ↔ ¬ seen.toNat.testBit age.toNat = true := by
  rw [beq_iff_eq, ← UInt64.toNat_inj, UInt64.toNat_and, toNat_bit hage,
    Nat.and_two_pow]
  cases seen.toNat.testBit age.toNat with
  | false => simp
  | true => simp

/-- Setting one bit of the window. -/
theorem testBit_or_bit (seen : UInt64) {age : UInt64} (hage : age < size)
    (i : Nat) :
    (seen ||| (1 <<< age)).toNat.testBit i = true
      ↔ seen.toNat.testBit i = true ∨ i = age.toNat := by
  rw [UInt64.toNat_or, Nat.testBit_or, toNat_bit hage, Nat.testBit_two_pow]
  simp only [Bool.or_eq_true, decide_eq_true_eq]
  exact or_congr_right eq_comm

/-- Moving the window up by less than its length, for a new highest
number. -/
theorem testBit_shift_or_one (seen : UInt64) {shift : UInt64}
    (hshift : shift < size) {i : Nat} (hi : i < 64) :
    (seen <<< shift ||| 1).toNat.testBit i = true
      ↔ i = 0 ∨ (shift.toNat ≤ i ∧ seen.toNat.testBit (i - shift.toNat) = true) := by
  have hlt : shift.toNat < 64 := UInt64.lt_iff_toNat_lt.1 hshift
  rw [UInt64.toNat_or, Nat.testBit_or, UInt64.toNat_shiftLeft,
    Nat.mod_eq_of_lt hlt, Nat.testBit_mod_two_pow, Nat.testBit_shiftLeft]
  have hone : (1 : UInt64).toNat.testBit i = true ↔ i = 0 :=
    Nat.testBit_one_eq_true_iff_self_eq_zero
  simp only [hi, decide_true, Bool.true_and, Bool.or_eq_true, Bool.and_eq_true,
    decide_eq_true_eq, ge_iff_le, hone]
  exact or_comm

-- =========================================================== the set

/-- The window stands for a list of marked numbers: the highest is the
largest of them, and a bit is set exactly if the number so far below the
highest is among them. -/
def Tracks (window : ReplayWindow) (marked : List UInt64) : Prop :=
  match window.highest with
  | none => marked = []
  | some highest =>
      highest ∈ marked ∧ (∀ number ∈ marked, number ≤ highest)
        ∧ ∀ age < 64, window.seen.toNat.testBit age = true
            ↔ ∃ number ∈ marked, number.toNat + age = highest.toNat

theorem tracks_empty : empty.Tracks [] := rfl

/-- A number is fresh exactly if it was not marked and no marked number is
sixty-four or more above it. -/
theorem Tracks.isFresh_iff {window : ReplayWindow} {marked : List UInt64}
    (htracks : window.Tracks marked) (sequence : UInt64) :
    window.isFresh sequence = true
      ↔ sequence ∉ marked
        ∧ ∀ number ∈ marked, number.toNat < sequence.toNat + 64 := by
  unfold Tracks at htracks
  unfold isFresh
  cases hhighest : window.highest with
  | none =>
      rw [hhighest] at htracks
      subst htracks
      simp
  | some highest =>
      rw [hhighest] at htracks
      obtain ⟨hmem, hle, hbits⟩ := htracks
      simp only [UInt64.le_iff_toNat_le] at hle
      by_cases habove : highest < sequence
      · -- above everything that was marked
        simp only [habove, if_true, true_iff]
        rw [UInt64.lt_iff_toNat_lt] at habove
        refine ⟨fun hmarked => ?_, fun number hnumber => ?_⟩
        · have := hle sequence hmarked
          omega
        · have := hle number hnumber
          omega
      · simp only [habove, if_false, Bool.and_eq_true, decide_eq_true_eq]
        rw [UInt64.lt_iff_toNat_lt, Nat.not_lt] at habove
        have hage : (highest - sequence).toNat = highest.toNat - sequence.toNat :=
          UInt64.toNat_sub_of_le _ _ (UInt64.le_iff_toNat_le.2 habove)
        by_cases hinside : highest - sequence < size
        · have hlt : highest.toNat - sequence.toNat < 64 := by
            rw [← hage]
            exact UInt64.lt_iff_toNat_lt.1 hinside
          rw [and_bit_eq_zero_iff _ hinside, hage, hbits _ hlt]
          refine ⟨fun hclear => ⟨fun hmarked => hclear.2 ?_, ?_⟩,
            fun hfresh => ⟨hinside, ?_⟩⟩
          · exact ⟨sequence, hmarked, by omega⟩
          · intro number hnumber
            have := hle number hnumber
            omega
          · rintro ⟨number, hnumber, hsum⟩
            have hsame : number = sequence := UInt64.toNat_inj.1 (by omega)
            exact hfresh.1 (hsame ▸ hnumber)
        · -- too old: the highest itself is out of reach
          refine ⟨fun hfresh => absurd hfresh.1 hinside, fun hfresh => ?_⟩
          have hreach := hfresh.2 highest hmem
          rw [UInt64.lt_iff_toNat_lt, hage] at hinside
          have hsize : size.toNat = 64 := rfl
          omega

/-- Marking a number above the highest moves the window up to it. -/
theorem Tracks.mark_above {seen highest sequence : UInt64} {marked : List UInt64}
    (htracks : Tracks ⟨some highest, seen⟩ marked) (habove : highest < sequence) :
    (mark ⟨some highest, seen⟩ sequence).Tracks (sequence :: marked) := by
  obtain ⟨-, hle, hbits⟩ := htracks
  simp only [UInt64.le_iff_toNat_le] at hle
  simp only [mark, habove, if_true]
  rw [UInt64.lt_iff_toNat_lt] at habove
  have hshift : (sequence - highest).toNat = sequence.toNat - highest.toNat :=
    UInt64.toNat_sub_of_le _ _ (UInt64.le_iff_toNat_le.2 (Nat.le_of_lt habove))
  refine ⟨List.mem_cons_self, fun number hnumber => ?_, fun age hage => ?_⟩
  · rw [UInt64.le_iff_toNat_le]
    rcases List.mem_cons.1 hnumber with rfl | hnumber
    · exact Nat.le_refl _
    · have := hle number hnumber
      omega
  · by_cases hfar : size ≤ sequence - highest
    · -- everything marked before falls out of the window
      rw [if_pos hfar]
      show Nat.testBit 1 age = true ↔ _
      rw [Nat.testBit_one_eq_true_iff_self_eq_zero]
      rw [UInt64.le_iff_toNat_le, hshift] at hfar
      have hsize : size.toNat = 64 := rfl
      refine ⟨fun hzero => ⟨sequence, List.mem_cons_self, by omega⟩, ?_⟩
      rintro ⟨number, hnumber, hsum⟩
      rcases List.mem_cons.1 hnumber with rfl | hnumber
      · omega
      · have := hle number hnumber
        omega
    · rw [if_neg hfar, testBit_shift_or_one _ (UInt64.not_le.1 hfar) hage, hshift]
      refine ⟨?_, ?_⟩
      · rintro (hzero | ⟨hreach, hbit⟩)
        · exact ⟨sequence, List.mem_cons_self, by omega⟩
        · obtain ⟨number, hnumber, hsum⟩ := (hbits _ (by omega)).1 hbit
          exact ⟨number, List.mem_cons_of_mem _ hnumber, by omega⟩
      · rintro ⟨number, hnumber, hsum⟩
        rcases List.mem_cons.1 hnumber with rfl | hnumber
        · exact .inl (by omega)
        · have := hle number hnumber
          exact .inr ⟨by omega, (hbits _ (by omega)).2 ⟨number, hnumber, by omega⟩⟩

/-- Marking a number up to the highest sets its bit, if it has one. -/
theorem Tracks.mark_below {seen highest sequence : UInt64} {marked : List UInt64}
    (htracks : Tracks ⟨some highest, seen⟩ marked) (hbelow : ¬ highest < sequence) :
    (mark ⟨some highest, seen⟩ sequence).Tracks (sequence :: marked) := by
  obtain ⟨hmem, hle, hbits⟩ := htracks
  simp only [mark, hbelow, if_false]
  rw [UInt64.not_lt] at hbelow
  have hage : (highest - sequence).toNat = highest.toNat - sequence.toNat :=
    UInt64.toNat_sub_of_le _ _ hbelow
  have hle : ∀ number ∈ sequence :: marked, number ≤ highest := by
    intro number hnumber
    rcases List.mem_cons.1 hnumber with rfl | hnumber
    · exact hbelow
    · exact hle number hnumber
  rw [UInt64.le_iff_toNat_le] at hbelow
  by_cases hinside : highest - sequence < size
  · rw [if_pos hinside]
    refine ⟨List.mem_cons_of_mem _ hmem, hle, fun age hlt => ?_⟩
    rw [testBit_or_bit _ hinside, hbits _ hlt, hage]
    refine ⟨?_, ?_⟩
    · rintro (⟨number, hnumber, hsum⟩ | hsame)
      · exact ⟨number, List.mem_cons_of_mem _ hnumber, hsum⟩
      · exact ⟨sequence, List.mem_cons_self, by omega⟩
    · rintro ⟨number, hnumber, hsum⟩
      rcases List.mem_cons.1 hnumber with rfl | hnumber
      · exact .inr (by omega)
      · exact .inl ⟨number, hnumber, hsum⟩
  · rw [if_neg hinside]
    rw [UInt64.lt_iff_toNat_lt, hage] at hinside
    have hsize : size.toNat = 64 := rfl
    refine ⟨List.mem_cons_of_mem _ hmem, hle, fun age hlt => ?_⟩
    rw [hbits _ hlt]
    refine ⟨?_, ?_⟩
    · rintro ⟨number, hnumber, hsum⟩
      exact ⟨number, List.mem_cons_of_mem _ hnumber, hsum⟩
    · rintro ⟨number, hnumber, hsum⟩
      rcases List.mem_cons.1 hnumber with rfl | hnumber
      · omega
      · exact ⟨number, hnumber, hsum⟩

/-- Marking a number adds it to the set, whether it is fresh or not. -/
theorem Tracks.mark {window : ReplayWindow} {marked : List UInt64}
    (htracks : window.Tracks marked) (sequence : UInt64) :
    (window.mark sequence).Tracks (sequence :: marked) := by
  obtain ⟨highest, seen⟩ := window
  cases highest with
  | none =>
      obtain rfl : marked = [] := htracks
      refine ⟨List.mem_cons_self, fun number hnumber => ?_, fun age _ => ?_⟩
      · rw [List.mem_singleton.1 hnumber]
        exact UInt64.le_refl _
      · show Nat.testBit 1 age = true ↔ _
        rw [Nat.testBit_one_eq_true_iff_self_eq_zero]
        refine ⟨fun hzero => ⟨sequence, List.mem_cons_self, by omega⟩, ?_⟩
        rintro ⟨number, hnumber, hsum⟩
        rw [List.mem_singleton.1 hnumber] at hsum
        omega
  | some highest =>
      by_cases habove : highest < sequence
      · exact htracks.mark_above habove
      · exact htracks.mark_below habove

end Luminaire.ReplayWindow
