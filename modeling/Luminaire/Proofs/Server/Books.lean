/-
What the list of the finished says about a number.

A number has one worker, whose callback runs once. So a card is in one of a
few places (`Card.Seated`), and it holds one cause at most, which is on the
list from the moment it is heard until a pass or the end of the listener
deals with it (`Card.Booked`). The end of the listener takes the table
first and the list behind it, when nobody gets into the table any more
(`Card.Shut`). Each is kept by every move, and together they are
`Card.Sound`: as long as somebody is in the table, what the callback has
heard is on the list, or it was thrown away (`Card.Sound.mem_entries_iff`).
-/
import Luminaire.Proofs.Server.Cards

namespace Luminaire

namespace Card

variable {card after : Card} {lost missed : Prop}

-- ============================================================ soundness

/-- Where a connection is: it has no worker yet, its worker is not in the table
yet, or its attempt is gone, and then it is in the table once or never again. -/
inductive Seated (card : Card) : Prop
  | outside (htold : card.told = none) (habsent : card.listed = 0)
      (hphase : ∀ phase, card.phase = some phase → phase.isEarly = true ∧ card.given = true)
  | waiting {phase : AttemptPhase} (hgiven : card.given = true) (htold : card.told ≠ none)
      (habsent : card.listed = 0) (hphase : card.phase = some phase)
      (hlate : phase.isEarly = false)
  | seated (hgiven : card.given = true) (htold : card.told ≠ none) (honce : card.listed ≤ 1)
      (hphase : card.phase = none)

namespace Seated

variable {phase : AttemptPhase}

theorem of_early (hseated : card.Seated) (hphase : card.phase = some phase)
    (hearly : phase.isEarly = true) :
    card.given = true ∧ card.told = none ∧ card.listed = 0 := by
  cases hseated with
  | outside htold habsent hcalm => exact ⟨(hcalm phase hphase).2, htold, habsent⟩
  | waiting _ _ _ hother hlate =>
      rw [hphase] at hother
      cases hother
      rw [hearly] at hlate
      cases hlate
  | seated _ _ _ hnone =>
      rw [hphase] at hnone
      cases hnone

theorem of_late (hseated : card.Seated) (hphase : card.phase = some phase)
    (hlate : phase.isEarly = false) :
    card.given = true ∧ card.told ≠ none ∧ card.listed = 0 := by
  cases hseated with
  | outside _ _ hcalm =>
      rw [(hcalm phase hphase).1] at hlate
      cases hlate
  | waiting hgiven htold habsent => exact ⟨hgiven, htold, habsent⟩
  | seated _ _ _ hnone =>
      rw [hphase] at hnone
      cases hnone

/-- The entries and the end of the listener have no part in this, and a card may
leave the table. -/
theorem of_same (hseated : card.Seated) (hgiven : card.given = true → after.given = true)
    (hphase : after.phase = card.phase) (htold : after.told = none ↔ card.told = none)
    (hlisted : after.listed ≤ card.listed) : after.Seated := by
  cases hseated with
  | outside hnone habsent hcalm =>
      refine .outside (htold.2 hnone) (Nat.le_zero.1 (habsent ▸ hlisted)) fun phase hsome => ?_
      rw [hphase] at hsome
      exact ⟨(hcalm phase hsome).1, hgiven (hcalm phase hsome).2⟩
  | waiting hold hsome habsent hlate =>
      exact .waiting (hgiven hold) (mt htold.1 hsome) (Nat.le_zero.1 (habsent ▸ hlisted))
        (hphase.trans hlate) (by assumption)
  | seated hold hsome honce hnone =>
      exact .seated (hgiven hold) (mt htold.1 hsome) (Nat.le_trans hlisted honce)
        (hphase.trans hnone)

/-- Who is in the table is there once. -/
theorem listed_le (hseated : card.Seated) : card.listed ≤ 1 := by
  cases hseated with
  | outside _ habsent => exact habsent ▸ Nat.zero_le 1
  | waiting _ _ habsent => exact habsent ▸ Nat.zero_le 1
  | seated _ _ honce => exact honce

/-- And has a worker. -/
theorem told_ne_none (hseated : card.Seated) (hlisted : card.listed ≠ 0) : card.told ≠ none := by
  cases hseated with
  | outside _ habsent => exact absurd habsent hlisted
  | waiting _ _ habsent => exact absurd habsent hlisted
  | seated _ htold => exact htold

/-- Every move leaves a connection at one of these places. -/
theorem moves (hseated : card.Seated) (hmoves : card.Moves after lost) : after.Seated := by
  cases hmoves with
  | still hafter =>
      rw [hafter]
      exact hseated
  | spent hafter =>
      subst hafter
      exact hseated.of_same (fun _ => rfl) rfl Iff.rfl (Nat.le_refl _)
  | begins hfree hafter =>
      subst hafter
      cases hseated with
      | outside htold habsent hcalm =>
          refine .outside htold habsent fun phase hphase => ⟨?_, rfl⟩
          rcases Option.or_eq_some_iff.1 hphase with hold | ⟨-, hnew⟩
          · exact (hcalm phase hold).1
          · cases hnew
            rfl
      | waiting hgiven =>
          rw [hfree] at hgiven
          cases hgiven
      | seated hgiven =>
          rw [hfree] at hgiven
          cases hgiven
  | waits hphase hearly hnext hafter =>
      subst hafter
      obtain ⟨hgiven, htold, habsent⟩ := hseated.of_early hphase hearly
      refine .outside htold habsent fun phase hsame => ?_
      cases hsame
      exact ⟨hnext, hgiven⟩
  | fails hphase hearly hafter =>
      subst hafter
      obtain ⟨-, htold, habsent⟩ := hseated.of_early hphase hearly
      exact .outside htold habsent fun phase hnone => nomatch hnone
  | starts hphase hearly hafter =>
      subst hafter
      obtain ⟨hgiven, htold, habsent⟩ := hseated.of_early hphase hearly
      exact .waiting hgiven (by simp [htold]) habsent rfl rfl
  | lists hphase hopen hafter =>
      subst hafter
      obtain ⟨hgiven, htold, habsent⟩ := hseated.of_late hphase rfl
      exact .seated hgiven htold (by simp [habsent]) rfl
  | drops hphase hending hafter =>
      subst hafter
      obtain ⟨hgiven, htold, habsent⟩ := hseated.of_late hphase rfl
      exact .waiting hgiven htold habsent rfl rfl
  | leaves hphase hafter =>
      subst hafter
      obtain ⟨hgiven, htold, habsent⟩ := hseated.of_late hphase rfl
      exact .seated hgiven htold (by simp [habsent]) rfl
  | hears cause htold hafter =>
      subst hafter
      exact hseated.of_same id rfl (by simp [htold]) (Nat.le_refl _)
  | collected hlisted _ hafter =>
      subst hafter
      exact hseated.of_same id rfl Iff.rfl (Nat.zero_le _)
  | overlooked habsent hafter =>
      subst hafter
      exact hseated.of_same id rfl Iff.rfl (Nat.le_refl _)
  | enters hafter =>
      subst hafter
      exact hseated.of_same id rfl Iff.rfl (Nat.le_refl _)
  | flagged hafter =>
      subst hafter
      exact hseated.of_same id rfl Iff.rfl (Nat.le_refl _)
  | deafens hclosing hafter =>
      subst hafter
      exact hseated.of_same id rfl Iff.rfl (Nat.le_refl _)
  | emptied hclosing hafter =>
      subst hafter
      exact hseated.of_same id rfl Iff.rfl (Nat.zero_le _)
  | cleared hclosing hafter =>
      subst hafter
      exact hseated.of_same id rfl Iff.rfl (Nat.le_refl _)

end Seated

/-- The flag is up from its stage on, and from the next but one on nobody is in
the table. -/
def Shut (card : Card) : Prop :=
  match card.closing with
  | .no | .entered => True
  | .flagged | .deaf => card.ending = true
  | .emptied _ | .done => card.ending = true ∧ card.listed = 0

/-- As long as somebody is let into the table, the end has not come far. -/
theorem Shut.of_open (hshut : card.Shut) (hopen : card.ending = false) :
    card.closing = .no ∨ card.closing = .entered := by
  unfold Shut at hshut
  cases hstage : card.closing with
  | no => exact .inl rfl
  | entered => exact .inr rfl
  | _ => simp [hstage, hopen] at hshut

theorem Shut.of_emptied (hshut : card.Shut) {doomed : List ConnectionId}
    (hclosing : card.closing = .emptied doomed) : card.ending = true ∧ card.listed = 0 := by
  unfold Shut at hshut
  rw [hclosing] at hshut
  exact hshut

theorem Shut.of_same (hshut : card.Shut) (hclosing : after.closing = card.closing)
    (hending : after.ending = card.ending) (hlisted : after.listed ≤ card.listed) :
    after.Shut := by
  unfold Shut at hshut ⊢
  rw [hclosing, hending]
  split
  · exact True.intro
  · exact True.intro
  next hstage =>
    rw [hstage] at hshut
    exact hshut
  next hstage =>
    rw [hstage] at hshut
    exact hshut
  next hstage =>
    rw [hstage] at hshut
    exact ⟨hshut.1, Nat.le_zero.1 (hshut.2 ▸ hlisted)⟩
  next hstage =>
    rw [hstage] at hshut
    exact ⟨hshut.1, Nat.le_zero.1 (hshut.2 ▸ hlisted)⟩

/-- Every move keeps to that. -/
theorem Shut.moves (hshut : card.Shut) (hmoves : card.Moves after lost) : after.Shut := by
  cases hmoves with
  | lists _ hopen hafter =>
      subst hafter
      unfold Shut
      rcases hshut.of_open hopen with hstage | hstage
      · simp only [hstage]
      · simp only [hstage]
  | enters hafter =>
      subst hafter
      exact True.intro
  | flagged hafter =>
      subst hafter
      rfl
  | deafens hclosing hafter =>
      subst hafter
      unfold Shut at hshut
      rw [hclosing] at hshut
      exact hshut
  | emptied hclosing hafter =>
      subst hafter
      unfold Shut at hshut
      rw [hclosing] at hshut
      exact ⟨hshut, rfl⟩
  | cleared hclosing hafter =>
      subst hafter
      exact hshut.of_emptied hclosing
  | collected _ _ hafter =>
      subst hafter
      exact hshut.of_same rfl rfl (Nat.zero_le _)
  | _ =>
      subst_vars
      exact hshut.of_same rfl rfl (Nat.le_refl _)

/-- A connection that is not in the table and does not get there. -/
def Over (card : Card) : Prop :=
  card.listed = 0 ∧ (card.phase = some .started → card.ending = true)

/-- What the callback has heard is on the list, unless a pass or the end of the
listener has dealt with it. -/
inductive Booked (card : Card) (missed : Prop) : Prop
  | nobody (htold : card.told = none) (hentries : card.entries = []) (hkept : ¬ missed)
  | quiet (htold : card.told = some ([], 1)) (hentries : card.entries = []) (hkept : ¬ missed)
  | filed {cause : ShutdownCause} (htold : card.told = some ([cause], 0))
      (hentries : card.entries = [cause]) (hkept : ¬ missed)
  | dealt {cause : ShutdownCause} (htold : card.told = some ([cause], 0))
      (hentries : card.entries = []) (hwhy : missed ∨ card.Over)

namespace Booked

variable {later : Prop}

theorem of_same (hbooked : card.Booked missed) (hlater : later ↔ missed)
    (htold : after.told = card.told) (hentries : after.entries = card.entries)
    (hover : card.Over → after.Over) : after.Booked later := by
  cases hbooked with
  | nobody hold hnone hkept =>
      exact .nobody (htold.trans hold) (hentries.trans hnone) (mt hlater.1 hkept)
  | quiet hold hnone hkept =>
      exact .quiet (htold.trans hold) (hentries.trans hnone) (mt hlater.1 hkept)
  | filed hold hsome hkept =>
      exact .filed (htold.trans hold) (hentries.trans hsome) (mt hlater.1 hkept)
  | dealt hold hnone hwhy =>
      exact .dealt (htold.trans hold) (hentries.trans hnone) (hwhy.imp hlater.2 hover)

/-- An entry goes when the connection is overlooked or over. -/
theorem moves (hbooked : card.Booked missed) (hseated : card.Seated) (hshut : card.Shut)
    (hmoves : card.Moves after lost) (hlater : later ↔ missed ∨ lost) : after.Booked later := by
  have hkeep : ¬ lost → (later ↔ missed) := fun hlost => hlater.trans (or_iff_left hlost)
  cases hmoves with
  | still hafter hlost =>
      rw [hafter]
      exact hbooked.of_same (hkeep hlost) rfl rfl id
  | spent hafter hlost =>
      subst hafter
      exact hbooked.of_same (hkeep hlost) rfl rfl id
  | begins hfree hafter hlost =>
      subst hafter
      refine hbooked.of_same (hkeep hlost) rfl rfl fun hover => ⟨hover.1, fun hstarted => ?_⟩
      rcases Option.or_eq_some_iff.1 hstarted with hold | ⟨-, hnew⟩
      · exact hover.2 hold
      · cases hnew
  | waits hphase hearly hnext hafter hlost =>
      subst hafter
      refine hbooked.of_same (hkeep hlost) rfl rfl fun hover => ⟨hover.1, fun hstarted => ?_⟩
      cases hstarted
      cases hnext
  | fails hphase hearly hafter hlost =>
      subst hafter
      exact hbooked.of_same (hkeep hlost) rfl rfl fun hover => ⟨hover.1, fun hnone => nomatch hnone⟩
  | starts hphase hearly hafter hlost =>
      subst hafter
      obtain ⟨-, hnone, -⟩ := hseated.of_early hphase hearly
      cases hbooked with
      | nobody _ hentries hkept =>
          exact .quiet (by simp only [hnone, Option.none_or]) hentries (mt (hkeep hlost).1 hkept)
      | quiet htold =>
          rw [hnone] at htold
          cases htold
      | filed htold =>
          rw [hnone] at htold
          cases htold
      | dealt htold =>
          rw [hnone] at htold
          cases htold
  | lists hphase hopen hafter hlost =>
      subst hafter
      refine hbooked.of_same (hkeep hlost) rfl rfl fun hover => ?_
      rw [hover.2 hphase] at hopen
      cases hopen
  | drops hphase hending hafter hlost =>
      subst hafter
      exact hbooked.of_same (hkeep hlost) rfl rfl fun hover => ⟨hover.1, fun hsame => nomatch hsame⟩
  | leaves hphase hafter hlost =>
      subst hafter
      exact hbooked.of_same (hkeep hlost) rfl rfl fun hover => ⟨hover.1, fun hnone => nomatch hnone⟩
  | @hears heard left cause hsome hafter hlost =>
      subst hafter
      have hdone : ∀ told : List ShutdownCause, card.told = some (told, 0) →
          heard = told ∧ left = 0 := by
        intro told htold
        rw [htold] at hsome
        cases hsome
        exact ⟨rfl, rfl⟩
      cases hbooked with
      | nobody htold =>
          rw [htold] at hsome
          cases hsome
      | quiet htold hentries hkept =>
          rw [htold] at hsome
          cases hsome
          exact .filed rfl (by simp [hentries]) (mt (hkeep hlost).1 hkept)
      | filed htold hentries hkept =>
          obtain ⟨rfl, rfl⟩ := hdone _ htold
          exact (Booked.filed htold hentries hkept).of_same (hkeep hlost) (by simp [htold])
            (by simp) id
      | dealt htold hentries hwhy =>
          obtain ⟨rfl, rfl⟩ := hdone _ htold
          exact (Booked.dealt htold hentries hwhy).of_same (hkeep hlost) (by simp [htold])
            (by simp) id
  | collected hlisted _ hafter hlost =>
      subst hafter
      have hover : Over { card with listed := 0, entries := [] } := by
        refine ⟨rfl, fun hstarted => ?_⟩
        exact absurd (hseated.of_late hstarted rfl).2.2 hlisted
      cases hbooked with
      | nobody htold _ hkept => exact .nobody htold rfl (mt (hkeep hlost).1 hkept)
      | quiet htold _ hkept => exact .quiet htold rfl (mt (hkeep hlost).1 hkept)
      | filed htold => exact .dealt htold rfl (.inr hover)
      | dealt htold => exact .dealt htold rfl (.inr hover)
  | overlooked habsent hafter hlost =>
      subst hafter
      have hnot : card.entries = [] → ¬ lost := fun hnone hlost' => hlost.1 hlost' hnone
      cases hbooked with
      | nobody htold hnone hkept => exact .nobody htold rfl (mt (hkeep (hnot hnone)).1 hkept)
      | quiet htold hnone hkept => exact .quiet htold rfl (mt (hkeep (hnot hnone)).1 hkept)
      | filed htold hsome =>
          exact .dealt htold rfl (.inl (hlater.2 (.inr (hlost.2 (by simp [hsome])))))
      | dealt htold hnone hwhy => exact .dealt htold rfl (hwhy.imp (hkeep (hnot hnone)).2 id)
  | enters hafter hlost =>
      subst hafter
      exact hbooked.of_same (hkeep hlost) rfl rfl id
  | flagged hafter hlost =>
      subst hafter
      exact hbooked.of_same (hkeep hlost) rfl rfl fun hover => ⟨hover.1, fun _ => rfl⟩
  | deafens hclosing hafter hlost =>
      subst hafter
      exact hbooked.of_same (hkeep hlost) rfl rfl id
  | emptied hclosing hafter hlost =>
      subst hafter
      exact hbooked.of_same (hkeep hlost) rfl rfl fun hover => ⟨rfl, hover.2⟩
  | cleared hclosing hafter hlost =>
      subst hafter
      obtain ⟨hending, habsent⟩ := hshut.of_emptied hclosing
      have hover : Over { card with entries := [], closing := .done } :=
        ⟨habsent, fun _ => hending⟩
      cases hbooked with
      | nobody htold _ hkept => exact .nobody htold rfl (mt (hkeep hlost).1 hkept)
      | quiet htold _ hkept => exact .quiet htold rfl (mt (hkeep hlost).1 hkept)
      | filed htold => exact .dealt htold rfl (.inr hover)
      | dealt htold => exact .dealt htold rfl (.inr hover)

end Booked

/-- A card that is in order. -/
structure Sound (card : Card) (missed : Prop) : Prop where
  seated : card.Seated
  shut : card.Shut
  booked : card.Booked missed

theorem Sound.moves (hsound : card.Sound missed) (hmoves : card.Moves after lost) :
    after.Sound (missed ∨ lost) :=
  ⟨hsound.seated.moves hmoves, hsound.shut.moves hmoves,
    hsound.booked.moves hsound.seated hsound.shut hmoves Iff.rfl⟩

/-- What the callback of somebody in the table has heard is on the list, unless
the entry was thrown away. -/
theorem Sound.mem_entries_iff (hsound : card.Sound missed) (hlisted : card.listed ≠ 0)
    {heard : List ShutdownCause} {left : Nat} (htold : card.told = some (heard, left))
    {cause : ShutdownCause} (hheard : cause ∈ heard) : cause ∈ card.entries ↔ ¬ missed := by
  cases hsound.booked with
  | nobody hnone =>
      rw [hnone] at htold
      cases htold
  | quiet hquiet =>
      rw [hquiet] at htold
      cases htold
      cases hheard
  | filed hfiled hentries hkept =>
      rw [hfiled] at htold
      cases htold
      rw [hentries]
      exact iff_of_true hheard hkept
  | dealt hdealt hentries hwhy =>
      rw [hentries]
      refine iff_of_false List.not_mem_nil (not_not.2 ?_)
      exact hwhy.resolve_right fun hover => hlisted hover.1

/-- Nothing is on the list but what was heard, so nothing is once the entry was
thrown away. -/
theorem Sound.entries_of_missed (hsound : card.Sound missed) (hmissed : missed) :
    card.entries = [] := by
  cases hsound.booked with
  | nobody _ _ hkept => exact absurd hmissed hkept
  | quiet _ _ hkept => exact absurd hmissed hkept
  | filed _ _ hkept => exact absurd hmissed hkept
  | dealt _ hentries => exact hentries

end Card

end Luminaire
