/-
What a window says of the numbers it was given, in so many words.

`Tracks` is the invariant of `mark`, and a window that started empty has it
for whatever it was given (`tracks_foldl`). Here it is read off: which
number is the highest, which bits are set, which numbers are fresh.

The words themselves are the other half. Ages and shifts are differences of
numbers that come from outside, and on machine words a difference below
zero and a shift by sixty-four still have results. The branches keep both
away whatever the window holds, so that the same program in arithmetic that
breaks down instead never does (`mark?_eq`, `isFresh?_eq`).
-/
import Luminaire.Proofs.Checked
import Luminaire.Proofs.Record.Window

namespace Luminaire.ReplayWindow

-- ======================================================== the words

/-- `isFresh`, in arithmetic that breaks down where words would wrap. -/
def isFresh? (window : ReplayWindow) (sequence : UInt64) : Option Bool :=
  match window.highest with
  | none => some true
  | some highest =>
      if highest < sequence then some true
      else do
        let age ← Checked.sub? highest sequence
        if age < size then
          let bit ← Checked.shiftLeft? 1 age
          return window.seen &&& bit == 0
        else return false

/-- `mark`, in the same arithmetic. -/
def mark? (window : ReplayWindow) (sequence : UInt64) : Option ReplayWindow :=
  match window.highest with
  | none => some ⟨some sequence, 1⟩
  | some highest =>
      if highest < sequence then do
        let shift ← Checked.sub? sequence highest
        let kept ← if size ≤ shift then some 0 else Checked.shiftLeft? window.seen shift
        return ⟨some sequence, kept ||| 1⟩
      else do
        let age ← Checked.sub? highest sequence
        if age < size then
          let bit ← Checked.shiftLeft? 1 age
          return ⟨some highest, window.seen ||| bit⟩
        else return window

theorem isFresh?_eq (window : ReplayWindow) (sequence : UInt64) :
    window.isFresh? sequence = some (window.isFresh sequence) := by
  unfold isFresh? isFresh
  cases window.highest with
  | none => rfl
  | some highest =>
      by_cases habove : highest < sequence
      · simp only [if_pos habove]
      · simp only [if_neg habove, Checked.sub?_of_le (UInt64.not_lt.1 habove)]
        by_cases hinside : highest - sequence < size
        · simp [hinside, Checked.shiftLeft?_of_lt hinside]
        · simp [hinside]

theorem mark?_eq (window : ReplayWindow) (sequence : UInt64) :
    window.mark? sequence = some (window.mark sequence) := by
  unfold mark? mark
  cases window.highest with
  | none => rfl
  | some highest =>
      by_cases habove : highest < sequence
      · simp only [if_pos habove, Checked.sub?_of_le (UInt64.le_of_lt habove)]
        by_cases hfar : size ≤ sequence - highest
        · simp [hfar]
        · simp [hfar, Checked.shiftLeft?_of_lt (UInt64.not_le.1 hfar)]
      · simp only [if_neg habove, Checked.sub?_of_le (UInt64.not_lt.1 habove)]
        by_cases hinside : highest - sequence < size
        · simp [hinside, Checked.shiftLeft?_of_lt hinside]
        · simp [hinside]

theorem foldlM_mark? (window : ReplayWindow) (marked : List UInt64) :
    marked.foldlM mark? window = some (marked.foldl mark window) := by
  induction marked generalizing window with
  | nil => rfl
  | cons number marked ih =>
      rw [List.foldlM_cons, mark?_eq, List.foldl_cons]
      exact ih (window.mark number)

-- ======================================================= the history

/-- The order in which numbers were marked makes no difference. -/
theorem Tracks.of_mem_iff {window : ReplayWindow} {marked others : List UInt64}
    (htracks : window.Tracks marked) (hsame : ∀ number, number ∈ marked ↔ number ∈ others) :
    window.Tracks others := by
  unfold Tracks at htracks ⊢
  cases hhighest : window.highest with
  | none =>
      rw [hhighest] at htracks
      subst htracks
      exact List.eq_nil_iff_forall_not_mem.2 fun number hnumber =>
        List.not_mem_nil ((hsame number).2 hnumber)
  | some highest =>
      rw [hhighest] at htracks
      simpa only [hsame] using htracks

/-- A window stands for whatever it was given. -/
theorem tracks_foldl {window : ReplayWindow} {before : List UInt64}
    (htracks : window.Tracks before) (marked : List UInt64) :
    (marked.foldl mark window).Tracks (before ++ marked) := by
  induction marked generalizing window before with
  | nil => rwa [List.append_nil]
  | cons number marked ih =>
      refine (ih (htracks.mark number)).of_mem_iff fun other => ?_
      simp only [List.mem_append, List.mem_cons]
      tauto

theorem tracks_history (marked : List UInt64) : (marked.foldl mark empty).Tracks marked :=
  tracks_foldl tracks_empty marked

variable {window : ReplayWindow} {marked : List UInt64}

theorem Tracks.none_iff (htracks : window.Tracks marked) :
    window.highest = none ↔ marked = [] := by
  unfold Tracks at htracks
  cases hhighest : window.highest with
  | none =>
      rw [hhighest] at htracks
      exact iff_of_true rfl htracks
  | some highest =>
      rw [hhighest] at htracks
      exact iff_of_false nofun (List.ne_nil_of_mem htracks.1)

/-- What `Tracks` says of a window that was given anything. -/
theorem Tracks.of_highest {highest : UInt64} (htracks : window.Tracks marked)
    (hhighest : window.highest = some highest) :
    highest ∈ marked ∧ (∀ number ∈ marked, number.toNat ≤ highest.toNat)
      ∧ ∀ age < 64, window.seen.toNat.testBit age = true
          ↔ ∃ number ∈ marked, number.toNat + age = highest.toNat := by
  unfold Tracks at htracks
  rw [hhighest] at htracks
  obtain ⟨hmem, hle, hbits⟩ := htracks
  exact ⟨hmem, fun number hnumber => UInt64.le_iff_toNat_le.1 (hle number hnumber), hbits⟩

theorem Tracks.highest_eq (htracks : window.Tracks marked) :
    window.highest.map UInt64.toNat = (marked.map UInt64.toNat).max? := by
  cases hhighest : window.highest with
  | none =>
      rw [htracks.none_iff.1 hhighest]
      rfl
  | some highest =>
      obtain ⟨hmem, hle, -⟩ := htracks.of_highest hhighest
      refine (List.max?_eq_some_iff.2 ⟨List.mem_map_of_mem hmem, fun value hvalue => ?_⟩).symm
      obtain ⟨number, hnumber, rfl⟩ := List.mem_map.1 hvalue
      exact hle number hnumber

/-- Age by age, the bits are the numbers that were marked; there are no bits
beyond the window. -/
theorem Tracks.testBit_iff {highest : UInt64} (htracks : window.Tracks marked)
    (hhighest : window.highest = some highest) (age : Nat) :
    window.seen.toNat.testBit age = true
      ↔ age < 64 ∧ ∃ number ∈ marked, number.toNat + age = highest.toNat := by
  obtain ⟨-, -, hbits⟩ := htracks.of_highest hhighest
  by_cases hage : age < 64
  · rw [hbits age hage, and_iff_right hage]
  · have hbeyond : window.seen.toNat < 2 ^ age :=
      Nat.lt_of_lt_of_le window.seen.toNat_lt (Nat.pow_le_pow_right (by decide) (by omega))
    rw [Nat.testBit_lt_two_pow hbeyond]
    exact iff_of_false Bool.false_ne_true fun hboth => hage hboth.1

/-- To know what is fresh it is enough to look at the highest number. -/
theorem Tracks.isFresh_iff_highest {highest : UInt64} (htracks : window.Tracks marked)
    (hhighest : window.highest = some highest) (sequence : UInt64) :
    window.isFresh sequence = true
      ↔ highest < sequence
        ∨ sequence ≤ highest ∧ highest.toNat < sequence.toNat + 64 ∧ sequence ∉ marked := by
  obtain ⟨hmem, hle, -⟩ := htracks.of_highest hhighest
  rw [htracks.isFresh_iff, UInt64.lt_iff_toNat_lt, UInt64.le_iff_toNat_le]
  constructor
  · rintro ⟨hunmarked, hnear⟩
    have hreach := hnear highest hmem
    by_cases habove : highest.toNat < sequence.toNat
    · exact .inl habove
    · exact .inr ⟨Nat.not_lt.1 habove, hreach, hunmarked⟩
  · rintro (habove | ⟨-, hreach, hunmarked⟩)
    · refine ⟨fun hmarked => ?_, fun number hnumber => ?_⟩
      · have := hle sequence hmarked
        omega
      · have := hle number hnumber
        omega
    · refine ⟨hunmarked, fun number hnumber => ?_⟩
      have := hle number hnumber
      omega

/-- After any history of marks, fresh numbers or not, in any order, the window
is the set of them as far as it reaches. Its highest number is their maximum;
a bit is set exactly if the number so far below the highest was marked; and a
number is fresh exactly if nothing was marked, or it is above the highest, or
it is one of the sixty-four numbers up to the highest and was not marked. On
the way no difference falls below zero and no word is shifted by as many
places as it has: in arithmetic that breaks down there, the marks lead to the
same window and every question to the same answer. -/
theorem window_of_history (marked : List UInt64) :
    let window : ReplayWindow := marked.foldl mark empty
    window.highest.map UInt64.toNat = (marked.map UInt64.toNat).max?
      ∧ (∀ age, window.seen.toNat.testBit age = true
          ↔ age < 64 ∧ ∃ highest, window.highest = some highest
            ∧ ∃ number ∈ marked, number.toNat + age = highest.toNat)
      ∧ (∀ sequence, window.isFresh sequence = true
          ↔ marked = [] ∨ ∃ highest, window.highest = some highest
            ∧ (highest < sequence
              ∨ sequence ≤ highest ∧ highest.toNat < sequence.toNat + 64 ∧ sequence ∉ marked))
      ∧ marked.foldlM mark? empty = some window
      ∧ ∀ sequence, window.isFresh? sequence = some (window.isFresh sequence) := by
  intro window
  have htracks : window.Tracks marked := tracks_history marked
  refine ⟨htracks.highest_eq, fun age => ?_, fun sequence => ?_, foldlM_mark? empty marked,
    window.isFresh?_eq⟩
  · cases hhighest : window.highest with
    | none =>
        obtain rfl := htracks.none_iff.1 hhighest
        have hclear : window.seen.toNat.testBit age = false := Nat.zero_testBit age
        rw [hclear]
        exact iff_of_false Bool.false_ne_true nofun
    | some highest =>
        rw [htracks.testBit_iff hhighest]
        simp only [Option.some.injEq, exists_eq_left']
  · cases hhighest : window.highest with
    | none =>
        have hfresh : window.isFresh sequence = true := by rw [isFresh, hhighest]
        exact iff_of_true hfresh (.inl (htracks.none_iff.1 hhighest))
    | some highest =>
        have hmarked : marked ≠ [] := fun hnil =>
          Option.some_ne_none _ (hhighest.symm.trans (htracks.none_iff.2 hnil))
        rw [htracks.isFresh_iff_highest hhighest, or_iff_right hmarked]
        simp only [Option.some.injEq, exists_eq_left']

/-- At the lower end: seven is the last of the sixty-four numbers up to seventy. -/
example : ([5, 70, 69, 3, 5].foldl mark empty).isFresh 7 = true
    ∧ ([5, 70, 69, 3, 5].foldl mark empty).isFresh 6 = false := by decide

end Luminaire.ReplayWindow
