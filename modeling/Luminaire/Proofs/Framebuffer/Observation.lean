/-
Who is told that a range of the framebuffer is finished.

The ends of two regions are compared, which finds out whether they share a
pixel unless one of them is empty: an empty region shares no pixel with
any, but one that lies strictly inside another counts as touching it
(`overlaps_iff`).

Who is registered is read off the history (`standing`): registrations are
numbered in the order they were made, and one stands unless a later step
ends its number. Entries are only ever appended and filtered, so the
registered observers are these, oldest first (`entries_foldl_enrol`), and
those who are told are the ones among them whose region is touched.
-/
import Luminaire.Framebuffer

namespace Luminaire

-- ======================================================= shared pixels

namespace Region

variable {left right : Region}

/-- Two regions share a pixel. -/
def Meets (left right : Region) : Prop := ∃ pixel, left.covers pixel ∧ right.covers pixel

theorem meets_iff :
    left.Meets right ↔ max left.start.toNat right.start.toNat < min left.stop right.stop := by
  constructor
  · rintro ⟨pixel, ⟨hleft, hleft'⟩, hright, hright'⟩
    exact Nat.lt_of_le_of_lt (Nat.max_le.2 ⟨hleft, hright⟩) (Nat.lt_min.2 ⟨hleft', hright'⟩)
  · intro hlt
    obtain ⟨hleft, hright⟩ := Nat.lt_min.1 hlt
    exact ⟨_, ⟨Nat.le_max_left .., hleft⟩, Nat.le_max_right .., hright⟩

instance (left right : Region) : Decidable (left.Meets right) := decidable_of_iff' _ meets_iff

/-- An empty region strictly inside another: it has no pixel, but there are
pixels of the other on both sides of it. -/
def EmptyWithin (region outer : Region) : Prop :=
  region.length = 0 ∧ outer.start.toNat < region.start.toNat ∧ region.start.toNat < outer.stop

instance (region outer : Region) : Decidable (region.EmptyWithin outer) :=
  inferInstanceAs (Decidable (_ ∧ _))

/-- What comparing the ends finds out about two regions. -/
theorem overlaps_iff :
    left.overlaps right = true
      ↔ left.Meets right ∨ left.EmptyWithin right ∨ right.EmptyWithin left := by
  have hempty : ∀ region : Region, region.length = 0 ↔ region.length.toNat = 0 :=
    fun _ => UInt32.toNat_inj.symm
  rw [overlaps, Bool.and_eq_true, decide_eq_true_iff, decide_eq_true_iff, meets_iff,
    EmptyWithin, EmptyWithin, hempty, hempty, stop, stop]
  omega

/-- Comparing the ends finds out whether two regions share a pixel, unless
one of them is empty. -/
theorem overlaps_iff_meets (hleft : left.length ≠ 0) (hright : right.length ≠ 0) :
    left.overlaps right = true ↔ left.Meets right := by
  have hnot : ¬ (left.EmptyWithin right ∨ right.EmptyWithin left) := by
    rintro (⟨hempty, -⟩ | ⟨hempty, -⟩)
    · exact hleft hempty
    · exact hright hempty
  rw [overlaps_iff, or_iff_left hnot]

end Region

-- ========================================================= histories

/-- What changes who observes. -/
inductive Enrolment (α : Type) where
  | observe (region : Region) (observer : α)
  | unobserve (token : Token)

namespace Enrolment

variable {α : Type}

/-- Whether a step ends the registration with this token. -/
def ends (token : Token) : Enrolment α → Bool
  | .observe .. => false
  | .unobserve ended => token == ended

/-- Whether a step is a registration. -/
def registers : Enrolment α → Bool
  | .observe .. => true
  | .unobserve _ => false

/-- Who is registered after some steps, oldest first, if registrations are
numbered from `next` on: everyone whose number no later step ends. -/
def standing (next : Token) : List (Enrolment α) → List (Token × RegionObserver α)
  | [] => []
  | .observe region observer :: later =>
      if later.any (ends next) then standing (next + 1) later
      else (next, ⟨region, observer⟩) :: standing (next + 1) later
  | .unobserve _ :: later => standing next later

theorem le_of_mem_standing {steps : List (Enrolment α)} {entry : Token × RegionObserver α} :
    ∀ {next : Token}, entry ∈ standing next steps → next ≤ entry.1 := by
  induction steps with
  | nil => exact fun hentry => absurd hentry List.not_mem_nil
  | cons step later ih =>
      intro next hentry
      cases step with
      | observe region observer =>
          rw [standing] at hentry
          by_cases hended : later.any (ends next) = true
          · rw [if_pos hended] at hentry
            exact Nat.le_of_succ_le (ih hentry)
          · rw [if_neg hended] at hentry
            rcases List.mem_cons.1 hentry with rfl | hlater
            · exact Nat.le_refl _
            · exact Nat.le_of_succ_le (ih hlater)
      | unobserve token => exact ih hentry

/-- The registered observers stand in the order of their numbers, each once. -/
theorem pairwise_standing (steps : List (Enrolment α)) :
    ∀ next : Token, (standing next steps).Pairwise fun earlier later => earlier.1 < later.1 := by
  induction steps with
  | nil => exact fun _ => List.Pairwise.nil
  | cons step later ih =>
      intro next
      cases step with
      | observe region observer =>
          rw [standing]
          by_cases hended : later.any (ends next) = true
          · rw [if_pos hended]
            exact ih (next + 1)
          · rw [if_neg hended]
            exact List.pairwise_cons.2 ⟨fun _ hentry => le_of_mem_standing hentry, ih (next + 1)⟩
      | unobserve token => exact ih next

end Enrolment

namespace Framebuffer

variable {α : Type}

/-- One step of a history of registrations. -/
def enrol (framebuffer : Framebuffer α) : Enrolment α → Framebuffer α
  | .observe region observer => (framebuffer.observe region observer).2
  | .unobserve token => framebuffer.unobserve token

/-- A framebuffer of some size after a history of registrations. -/
def enrolled (size : Nat) (steps : List (Enrolment α)) : Framebuffer α :=
  steps.foldl enrol (dark size)

/-- Of those who were registered before, the ones stay whom no step ends;
the ones who came since stand behind them. -/
theorem entries_foldl_enrol (steps : List (Enrolment α)) (framebuffer : Framebuffer α) :
    (steps.foldl enrol framebuffer).observers.entries
      = (framebuffer.observers.entries.filter fun entry =>
          !steps.any (Enrolment.ends entry.1))
        ++ Enrolment.standing framebuffer.observers.next steps := by
  induction steps generalizing framebuffer with
  | nil =>
      show _ = framebuffer.observers.entries.filter (fun _ => true) ++ []
      rw [List.append_nil, List.filter_eq_self.2 fun _ _ => rfl]
      rfl
  | cons step later ih =>
      rw [List.foldl_cons, ih]
      cases step with
      | observe region observer =>
          -- the newcomer is filtered with the others: `standing` asks the same of it
          show ((framebuffer.observers.entries
              ++ [(framebuffer.observers.next, RegionObserver.mk region observer)]).filter
                fun entry => !later.any (Enrolment.ends entry.1))
            ++ Enrolment.standing (framebuffer.observers.next + 1) later = _
          rw [List.filter_append, List.append_assoc, Enrolment.standing]
          congr 1
          by_cases hended : later.any (Enrolment.ends framebuffer.observers.next) = true
          · rw [if_pos hended, List.filter_cons_of_neg (by simpa using hended)]
            rfl
          · rw [if_neg hended, List.filter_cons_of_pos (by simpa using hended)]
            rfl
      | unobserve token =>
          show ((framebuffer.observers.entries.filter fun entry => entry.1 != token).filter
              fun entry => !later.any (Enrolment.ends entry.1))
            ++ Enrolment.standing framebuffer.observers.next later = _
          rw [List.filter_filter, Enrolment.standing]
          congr 1
          refine List.filter_congr fun entry _ => ?_
          rw [List.any_cons, Enrolment.ends, Bool.not_or, Bool.and_comm]
          rfl

/-- The token of a registration is its number. -/
theorem next_foldl_enrol (steps : List (Enrolment α)) (framebuffer : Framebuffer α) :
    (steps.foldl enrol framebuffer).observers.next
      = framebuffer.observers.next + steps.countP Enrolment.registers := by
  induction steps generalizing framebuffer with
  | nil => rfl
  | cons step later ih =>
      rw [List.foldl_cons, ih]
      cases step with
      | observe region observer =>
          rw [List.countP_cons_of_pos rfl, Nat.add_comm _ 1, ← Nat.add_assoc]
          rfl
      | unobserve token =>
          rw [List.countP_cons_of_neg Bool.false_ne_true]
          rfl

theorem entries_enrolled (size : Nat) (steps : List (Enrolment α)) :
    (enrolled size steps).observers.entries = Enrolment.standing 1 steps :=
  entries_foldl_enrol steps (dark size)

-- ========================================================= completion

/-- Those who are told that a region is finished are the registered observers
whose region it touches.

After any history of registrations the registered observers are those
whose number no later step ended, in the order they came, and the next one
is given the next number. A region, of any start and length, is reported
to those of them whose region shares a pixel with it, once each and in
this order, and besides only to those where one of the two regions is
empty and strictly inside the other; the number of those told is returned.
If neither is empty, then, exactly those are told whose region shares a
pixel with the finished one. -/
theorem touched_are_told (size : Nat) (steps : List (Enrolment α)) (finished : Region) :
    let framebuffer := enrolled size steps
    let registered := Enrolment.standing 1 steps
    let told := registered.filter fun entry =>
      entry.2.region.Meets finished ∨ entry.2.region.EmptyWithin finished
        ∨ finished.EmptyWithin entry.2.region
    framebuffer.observers.entries = registered
      ∧ (registered.Pairwise fun earlier later => earlier.1 < later.1)
      ∧ (∀ (region : Region) (observer : α),
          (framebuffer.observe region observer).1 = 1 + steps.countP Enrolment.registers)
      ∧ (∀ {σ : Type} (tell : σ → Token × RegionObserver α → σ) (state : σ),
          framebuffer.complete tell finished state = (told.length, told.foldl tell state))
      ∧ ∀ entry ∈ registered, finished.length ≠ 0 → entry.2.region.length ≠ 0 →
          (entry ∈ told ↔ entry.2.region.Meets finished) := by
  intro framebuffer registered told
  have hentries : framebuffer.observers.entries = registered := entries_enrolled size steps
  have hdue : framebuffer.due finished = told := by
    rw [due, Observers.such, hentries]
    refine List.filter_congr fun entry _ => ?_
    rw [Bool.eq_iff_iff, Region.overlaps_iff, decide_eq_true_iff]
  refine ⟨hentries, Enrolment.pairwise_standing steps 1, fun _ _ => ?_, fun tell state => ?_, ?_⟩
  · exact next_foldl_enrol steps (dark size)
  · rw [complete, hdue]
  · intro entry hentry hfinished hregion
    rw [List.mem_filter, and_iff_right hentry, decide_eq_true_iff, ← Region.overlaps_iff,
      Region.overlaps_iff_meets hregion hfinished]

/-- Three come, the second leaves: of the others the region touches one. -/
theorem touched_are_told_in_example :
    let steps : List (Enrolment String) :=
      [.observe ⟨100, 50⟩ "a", .observe ⟨0, 300⟩ "b", .unobserve 2, .observe ⟨4294967295, 2⟩ "c"]
    (enrolled 300 steps).complete (fun told entry => told ++ [entry.2.observer]) ⟨149, 1⟩ []
        = (1, ["a"])
      ∧ ((1, ⟨⟨100, 50⟩, "a"⟩) ∈ Enrolment.standing 1 steps
        ∧ (⟨100, 50⟩ : Region).Meets ⟨149, 1⟩) := by
  intro steps
  have htold := touched_are_told 300 steps ⟨149, 1⟩
  obtain ⟨-, -, -, hcomplete, hmeets⟩ := htold
  refine ⟨hcomplete _ _, by decide, ?_⟩
  exact (hmeets (1, ⟨⟨100, 50⟩, "a"⟩) (by decide) (by decide) (by decide)).1 (by decide)

/-- Nobody observes a pixel of an empty region, yet whoever observes the
pixels around it is told. -/
theorem empty_region_is_reported :
    let framebuffer : Framebuffer String := enrolled 10 [.observe ⟨0, 10⟩ "a"]
    ¬ (⟨0, 10⟩ : Region).Meets ⟨5, 0⟩
      ∧ framebuffer.complete (fun told entry => told ++ [entry.2.observer]) ⟨5, 0⟩ []
        = (1, ["a"]) := by
  decide

end Framebuffer

end Luminaire
