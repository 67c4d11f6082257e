/-
The configured preference decides the suite.

A configured name spells a suite if it is the suite's name between blanks,
in any case of its letters (`CipherSuite.Spells`); reading the name finds
that suite and no other (`ofName?_eq_some_iff`), since a suite's name holds
no blanks and the two names differ also in small letters.

The names are read one after the other, and a suite is noted when it is
mentioned for the first time. One name that spells nothing refuses them all,
whatever stood before it (`suitesNamed_of_unknown`). Otherwise the suites
that are noted answer every search as the mentions would, repetitions
included (`find?_noted`), and they stand in the order of their first mention
(`noted_in_order`). Negotiating is a search for a suite that is on offer, so
it finds the suite of the first name whose suite the node offers; of the
offer it only asks what is in it.
-/
import Mathlib.Data.List.Induction
import Luminaire.Config.Basic

namespace Luminaire

-- ============================================================== texts

theorem lowerAscii_eq_toLower (c : Char) : lowerAscii c = c.toLower := by
  unfold lowerAscii
  delta Char.toLower
  by_cases hcapital : 'A' ≤ c ∧ c ≤ 'Z'
  · rw [if_pos hcapital, dif_pos (show c.val ≥ 'A'.val ∧ c.val ≤ 'Z'.val from hcapital)]
    have hlast : c.toNat ≤ 90 := UInt32.le_iff_toNat_le.1 hcapital.2
    refine Eq.trans (congrArg Char.ofNat ?_) (Char.ofNat_toNat _)
    show c.toNat + 32 = (c.val + 32).toNat
    rw [UInt32.toNat_add]
    show c.toNat + 32 = (c.toNat + 32) % 2 ^ 32
    omega
  · rw [if_neg hcapital, dif_neg (show ¬ (c.val ≥ 'A'.val ∧ c.val ≤ 'Z'.val) from hcapital)]

theorem sameIgnoringCase_iff {left right : List Char} :
    sameIgnoringCase left right = true ↔ left.map Char.toLower = right.map Char.toLower := by
  rw [sameIgnoringCase, beq_iff_eq, funext lowerAscii_eq_toLower]

/-- No letter is a blank. -/
theorem toLower_of_isBlank {c : Char} (hblank : isBlank c = true) : c.toLower = c := by
  have hother : ¬ (c.val ≥ 'A'.val ∧ c.val ≤ 'Z'.val) := by
    rintro ⟨hfirst, hlast⟩
    have hfirst : 65 ≤ c.toNat := UInt32.le_iff_toNat_le.1 hfirst
    have hlast : c.toNat ≤ 90 := UInt32.le_iff_toNat_le.1 hlast
    simp [isBlank, blankRanges] at hblank
    omega
  exact dif_neg hother

/-- Trimming takes blanks off both ends. -/
theorem exists_trimBlanks (chars : List Char) :
    ∃ front back, chars = front ++ trimBlanks chars ++ back
      ∧ (∀ c ∈ front, isBlank c = true) ∧ ∀ c ∈ back, isBlank c = true := by
  have hfront := List.takeWhile_append_dropWhile (p := isBlank) (l := chars)
  have hback := List.takeWhile_append_dropWhile (p := isBlank)
    (l := (chars.dropWhile isBlank).reverse)
  refine ⟨chars.takeWhile isBlank, ((chars.dropWhile isBlank).reverse.takeWhile isBlank).reverse,
    ?_, fun c hc => ?_, fun c hc => ?_⟩
  · rw [trimBlanks, List.append_assoc, ← List.reverse_append, hback, List.reverse_reverse, hfront]
  · exact List.all_eq_true.1 List.all_takeWhile c hc
  · exact List.all_eq_true.1 List.all_takeWhile c (List.mem_reverse.1 hc)

/-- What holds no blanks is what trimming leaves of it and blanks around it. -/
theorem trimBlanks_of_bare {front core back : List Char}
    (hfront : ∀ c ∈ front, isBlank c = true) (hback : ∀ c ∈ back, isBlank c = true)
    (hcore : ∀ c ∈ core, isBlank c = false) (hsome : core ≠ []) :
    trimBlanks (front ++ core ++ back) = core := by
  have hkept : ∀ {chars rest : List Char}, (∀ c ∈ chars, isBlank c = false) → chars ≠ [] →
      (chars ++ rest).dropWhile isBlank = chars ++ rest := by
    intro chars rest hbare hne
    obtain ⟨first, chars, rfl⟩ := List.exists_cons_of_ne_nil hne
    exact List.dropWhile_cons_of_neg (by simpa using hbare first List.mem_cons_self)
  have hmirrored : core.reverse.dropWhile isBlank = core.reverse := by
    have hends := @hkept core.reverse [] (fun c hc => hcore c (List.mem_reverse.1 hc))
      (List.reverse_ne_nil_iff.2 hsome)
    rwa [List.append_nil] at hends
  rw [trimBlanks, List.append_assoc, List.dropWhile_append_of_pos hfront, hkept hcore hsome,
    List.reverse_append,
    List.dropWhile_append_of_pos fun c hc => hback c (List.mem_reverse.1 hc), hmirrored,
    List.reverse_reverse]

-- ============================================================= suites

namespace CipherSuite

/-- A text is a suite's name between blanks, in any case of its letters. -/
def Spells (text : String) (suite : CipherSuite) : Prop :=
  ∃ front core back, text.toList = front ++ core ++ back
    ∧ (∀ c ∈ front, isBlank c = true) ∧ (∀ c ∈ back, isBlank c = true)
    ∧ core.map Char.toLower = suite.name.toList.map Char.toLower

variable {text : String} {suite other : CipherSuite}

/-- The letters of a suite's name, in whatever case, are no blanks. -/
theorem bare_of_sameLetters {core : List Char}
    (hcore : core.map Char.toLower = suite.name.toList.map Char.toLower) :
    ∀ c ∈ core, isBlank c = false := by
  intro c hc
  have hmem : c.toLower ∈ suite.name.toList.map Char.toLower :=
    hcore ▸ List.mem_map_of_mem hc
  refine Bool.eq_false_iff.2 fun hblank => ?_
  rw [toLower_of_isBlank hblank] at hmem
  have hbare : (suite.name.toList.map Char.toLower).all (fun d => !isBlank d) = true := by
    cases suite with
    | chacha => decide +kernel
    | xchacha => decide +kernel
  have hclear := List.all_eq_true.1 hbare c hmem
  rw [hblank] at hclear
  cases hclear

theorem spells_iff :
    Spells text suite
      ↔ sameIgnoringCase suite.name.toList (trimBlanks text.toList) = true := by
  rw [sameIgnoringCase_iff]
  constructor
  · rintro ⟨front, core, back, htext, hfront, hback, hcore⟩
    have hsome : core ≠ [] := by
      rintro rfl
      cases suite <;> exact absurd hcore (by decide)
    rw [htext, trimBlanks_of_bare hfront hback (bare_of_sameLetters hcore) hsome, hcore]
  · intro hsame
    obtain ⟨front, back, htext, hfront, hback⟩ := exists_trimBlanks text.toList
    exact ⟨front, _, back, htext, hfront, hback, hsame.symm⟩

/-- No text spells two suites. -/
theorem Spells.unique (hspells : Spells text suite) (hspells' : Spells text other) :
    suite = other := by
  have hsame := sameIgnoringCase_iff.1 (spells_iff.1 hspells)
  have hsame' := sameIgnoringCase_iff.1 (spells_iff.1 hspells')
  have hnames := hsame.trans hsame'.symm
  cases suite <;> cases other <;> first | rfl | exact absurd hnames (by decide)

theorem spells_of_ofName? (hfound : ofName? text = some suite) : Spells text suite := by
  unfold ofName? at hfound
  exact spells_iff.2 (by simpa using List.find?_some hfound)

/-- Reading a text finds the suite it spells. -/
theorem ofName?_eq_some_iff : ofName? text = some suite ↔ Spells text suite := by
  refine ⟨spells_of_ofName?, fun hspells => ?_⟩
  cases hfound : ofName? text with
  | none =>
      have hmem : suite ∈ all := by cases suite <;> decide
      exact absurd (spells_iff.1 hspells) (List.find?_eq_none.1 hfound suite hmem)
  | some found => rw [hspells.unique (spells_of_ofName? hfound)]

theorem ofName?_eq_none_iff : ofName? text = none ↔ ∀ suite, ¬ Spells text suite := by
  simp only [← ofName?_eq_some_iff, Option.eq_none_iff_forall_ne_some]

-- ======================================================== negotiation

variable {preference offered : List CipherSuite}

theorem negotiate_eq_none_iff :
    negotiate preference offered = none ↔ ∀ suite ∈ preference, suite ∉ offered := by
  simp [negotiate]

/-- Of an offer it counts only what is in it. -/
theorem negotiate_congr {offered' : List CipherSuite}
    (hsame : ∀ suite, suite ∈ offered' ↔ suite ∈ offered) :
    negotiate preference offered' = negotiate preference offered := by
  have hcontains : ∀ suite, offered'.contains suite = offered.contains suite := by
    intro suite
    rw [Bool.eq_iff_iff, List.contains_iff_mem, List.contains_iff_mem, hsame suite]
  rw [negotiate, negotiate, funext hcontains]

end CipherSuite

-- ====================================================== configuration

namespace ServerConfig

open CipherSuite

variable {names : List String} {suite : CipherSuite}

/-- Suites behind others that were found, each when it is first mentioned. -/
def noted (found mentioned : List CipherSuite) : List CipherSuite :=
  mentioned.foldl (fun found suite => if found.contains suite then found else found ++ [suite])
    found

/-- The suites that names mention, one for each name that spells one. -/
def mentions (names : List String) : List CipherSuite := names.filterMap ofName?

theorem mem_mentions : suite ∈ mentions names ↔ ∃ name ∈ names, Spells name suite := by
  rw [mentions, List.mem_filterMap]
  simp only [ofName?_eq_some_iff]

/-- Names that all spell a suite leave what they mention. -/
theorem suitesNamed_of_known (hknown : ∀ name ∈ names, ∃ suite, Spells name suite)
    (found : List CipherSuite) : suitesNamed names found = .ok (noted found (mentions names)) := by
  induction names generalizing found with
  | nil => rfl
  | cons name names ih =>
      obtain ⟨suite, hspells⟩ := hknown name List.mem_cons_self
      have hread : ofName? name = some suite := ofName?_eq_some_iff.2 hspells
      rw [suitesNamed, hread, mentions, List.filterMap_cons_some hread]
      exact ih (fun other hother => hknown other (List.mem_cons_of_mem _ hother)) _

/-- The first name that spells nothing is what is wrong with the names. -/
theorem suitesNamed_of_unknown {before after : List String} {name : String}
    (hknown : ∀ other ∈ before, ∃ suite, Spells other suite) (hunknown : ∀ suite, ¬ Spells name suite)
    (found : List CipherSuite) :
    suitesNamed (before ++ name :: after) found
      = .error (.invalid ("unknown cipher suite " ++ quoted name)) := by
  induction before generalizing found with
  | nil => rw [List.nil_append, suitesNamed, ofName?_eq_none_iff.2 hunknown]
  | cons first before ih =>
      obtain ⟨suite, hspells⟩ := hknown first List.mem_cons_self
      rw [List.cons_append, suitesNamed, ofName?_eq_some_iff.2 hspells]
      exact ih (fun other hother => hknown other (List.mem_cons_of_mem _ hother)) _

/-- Names either all spell a suite, or there is a first one that does not. -/
theorem all_known_or_first_unknown (names : List String) :
    (∀ name ∈ names, ∃ suite, Spells name suite)
      ∨ ∃ before name after, names = before ++ name :: after
        ∧ (∀ other ∈ before, ∃ suite, Spells other suite) ∧ ∀ suite, ¬ Spells name suite := by
  induction names with
  | nil => exact .inl fun name hmem => nomatch hmem
  | cons first names ih =>
      by_cases hfirst : ∃ suite, Spells first suite
      · rcases ih with hknown | ⟨before, name, after, rfl, hknown, hunknown⟩
        · exact .inl (List.forall_mem_cons.2 ⟨hfirst, hknown⟩)
        · exact .inr ⟨first :: before, name, after, rfl,
            List.forall_mem_cons.2 ⟨hfirst, hknown⟩, hunknown⟩
      · exact .inr ⟨[], first, names, rfl, fun other hmem => (nomatch hmem),
          not_exists.1 hfirst⟩

-- ------------------------------------------------------ what is noted

theorem noted_concat (found mentioned : List CipherSuite) (suite : CipherSuite) :
    noted found (mentioned ++ [suite])
      = if suite ∈ noted found mentioned then noted found mentioned
        else noted found mentioned ++ [suite] := by
  rw [noted, List.foldl_append]
  show (if (noted found mentioned).contains suite then noted found mentioned
    else noted found mentioned ++ [suite]) = _
  by_cases hmem : suite ∈ noted found mentioned
  · rw [if_pos hmem, if_pos (List.contains_iff_mem.2 hmem)]
  · rw [if_neg hmem, if_neg fun hcontains => hmem (List.contains_iff_mem.1 hcontains)]

/-- What is noted answers a search as everything that was mentioned does. -/
theorem find?_noted (mentioned : List CipherSuite) (wanted : CipherSuite → Bool) :
    (noted [] mentioned).find? wanted = mentioned.find? wanted := by
  induction mentioned using List.reverseRecOn with
  | nil => rfl
  | append_singleton mentioned suite ih =>
      rw [noted_concat, List.find?_append, ← ih]
      by_cases hmem : suite ∈ noted [] mentioned
      · rw [if_pos hmem]
        cases hfound : (noted [] mentioned).find? wanted with
        | some found => rfl
        | none =>
            have hnot : wanted suite = false := by
              simpa using List.find?_eq_none.1 hfound suite hmem
            rw [Option.none_or, List.find?_cons_of_neg (by simpa using hnot), List.find?_nil]
      · rw [if_neg hmem, List.find?_append]

theorem mem_noted {mentioned : List CipherSuite} :
    suite ∈ noted [] mentioned ↔ suite ∈ mentioned := by
  have hsearch := find?_noted mentioned fun other => other == suite
  have hmem : ∀ {suites : List CipherSuite},
      suite ∈ suites ↔ (suites.find? fun other => other == suite).isSome = true := by
    intro suites
    rw [List.find?_isSome]
    simp
  rw [hmem, hmem, hsearch]

/-- One suite is mentioned by some name before any name mentions the other. -/
def MentionedBefore (names : List String) (first second : CipherSuite) : Prop :=
  ∃ before name after, names = before ++ name :: after ∧ Spells name first
    ∧ ∀ earlier ∈ before ++ [name], ¬ Spells earlier second

/-- Suites are noted in the order of their first mention. -/
theorem noted_in_order (names : List String) :
    (noted [] (mentions names)).Pairwise (MentionedBefore names) := by
  induction names using List.reverseRecOn with
  | nil => exact List.Pairwise.nil
  | append_singleton names last ih =>
      have hlater : ∀ {first second : CipherSuite}, MentionedBefore names first second →
          MentionedBefore (names ++ [last]) first second := by
        rintro first second ⟨before, name, after, rfl, hspells, hearlier⟩
        exact ⟨before, name, after ++ [last], by simp, hspells, hearlier⟩
      have hbegins := ih.imp hlater
      cases hread : ofName? last with
      | none =>
          have hsame : mentions (names ++ [last]) = mentions names := by
            rw [mentions, List.filterMap_append, List.filterMap_cons_none hread]
            exact List.append_nil _
          rwa [hsame]
      | some suite =>
          have hadded : mentions (names ++ [last]) = mentions names ++ [suite] := by
            rw [mentions, List.filterMap_append, List.filterMap_cons_some hread]
            rfl
          rw [hadded, noted_concat]
          by_cases hmem : suite ∈ noted [] (mentions names)
          · rwa [if_pos hmem]
          · rw [if_neg hmem]
            refine List.pairwise_append.2 ⟨hbegins, List.pairwise_singleton _ _,
              fun first hfirst second hsecond => ?_⟩
            obtain rfl := List.mem_singleton.1 hsecond
            obtain ⟨name, hname, hspells⟩ := mem_mentions.1 (mem_noted.1 hfirst)
            obtain ⟨before, after, rfl⟩ := List.append_of_mem hname
            refine hlater ⟨before, name, after, rfl, hspells, fun earlier hearlier hearly => ?_⟩
            refine hmem (mem_noted.2 (mem_mentions.2 ⟨earlier, ?_, hearly⟩))
            rcases List.mem_append.1 hearlier with hbefore | hname
            · exact List.mem_append_left _ hbefore
            · exact List.mem_append_right _ (List.mem_singleton.1 hname ▸ List.mem_cons_self)

-- ======================================================= the choice

/-- The first of the mentioned suites that is on offer is that of the first
name whose suite is on offer. -/
theorem negotiate_mentions_eq_some_iff {offered : List CipherSuite} :
    negotiate (mentions names) offered = some suite
      ↔ ∃ before name after, names = before ++ name :: after ∧ Spells name suite
        ∧ suite ∈ offered ∧ ∀ earlier ∈ before, ∀ other, Spells earlier other → other ∉ offered := by
  have hwanted : ∀ name, (ofName? name).any offered.contains = true
      ↔ ∃ other, Spells name other ∧ other ∈ offered := by
    intro name
    simp only [Option.any_eq_true, ofName?_eq_some_iff, List.contains_iff_mem]
  rw [negotiate, mentions, List.find?_filterMap, Option.bind_eq_some_iff]
  simp only [List.find?_eq_some_iff_append, ofName?_eq_some_iff, hwanted, Bool.not_eq_true',
    Bool.eq_false_iff, ne_eq, not_exists, not_and]
  constructor
  · rintro ⟨name, ⟨⟨other, hother, hoffered⟩, before, after, rfl, hbefore⟩, hspells⟩
    exact ⟨before, name, after, rfl, hspells, hspells.unique hother ▸ hoffered, hbefore⟩
  · rintro ⟨before, name, after, rfl, hspells, hoffered, hbefore⟩
    exact ⟨name, ⟨⟨suite, hspells, hoffered⟩, before, after, rfl, hbefore⟩, hspells⟩

theorem suites_of_known {config : ServerConfig} (hnames : config.cipherSuites = some names)
    (hsome : names ≠ []) (hknown : ∀ name ∈ names, ∃ suite, Spells name suite) :
    config.suites = .ok (noted [] (mentions names)) := by
  obtain ⟨name, rest, rfl⟩ := List.exists_cons_of_ne_nil hsome
  obtain ⟨suite, hspells⟩ := hknown name List.mem_cons_self
  have hmem : suite ∈ noted [] (mentions (name :: rest)) :=
    mem_noted.2 (mem_mentions.2 ⟨name, List.mem_cons_self, hspells⟩)
  rw [suites, hnames]
  simp only [suitesNamed_of_known hknown]
  cases hnoted : noted [] (mentions (name :: rest)) with
  | nil =>
      rw [hnoted] at hmem
      cases hmem
  | cons first others => rfl

theorem suites_of_unknown {config : ServerConfig} {before after : List String} {name : String}
    (hnames : config.cipherSuites = some (before ++ name :: after))
    (hknown : ∀ other ∈ before, ∃ suite, Spells other suite)
    (hunknown : ∀ suite, ¬ Spells name suite) :
    config.suites = .error (.invalid ("unknown cipher suite " ++ quoted name)) := by
  rw [suites, hnames]
  simp only [suitesNamed_of_unknown hknown hunknown]

theorem suites_of_empty {config : ServerConfig} (hnames : config.cipherSuites = some []) :
    config.suites = .error (.invalid "cipher suite list is empty") := by
  rw [suites, hnames]
  rfl

/-- Names are refused exactly if there are none or one of them spells nothing. -/
theorem refused_iff {config : ServerConfig} (hnames : config.cipherSuites = some names) :
    (∃ fault, config.suites = .error fault)
      ↔ names = [] ∨ ∃ name ∈ names, ∀ suite, ¬ Spells name suite := by
  by_cases hsome : names = []
  · subst hsome
    exact iff_of_true ⟨_, suites_of_empty hnames⟩ (.inl rfl)
  · rcases all_known_or_first_unknown names with hknown | ⟨before, name, after, rfl, hknown, hbad⟩
    · refine iff_of_false ?_ ?_
      · rintro ⟨fault, hrefused⟩
        rw [suites_of_known hnames hsome hknown] at hrefused
        cases hrefused
      · rintro (hnone | ⟨name, hmem, hunknown⟩)
        · exact hsome hnone
        · obtain ⟨suite, hspells⟩ := hknown name hmem
          exact hunknown suite hspells
    · exact iff_of_true ⟨_, suites_of_unknown hnames hknown hbad⟩
        (.inr ⟨name, List.mem_append_right _ List.mem_cons_self, hbad⟩)

/-- Names that are not refused stand for the suites that are noted. -/
theorem eq_noted_of_ok {config : ServerConfig} (hnames : config.cipherSuites = some names)
    {suites : List CipherSuite} (hok : config.suites = .ok suites) :
    suites = noted [] (mentions names) := by
  have hsome : names ≠ [] := by
    rintro rfl
    rw [suites_of_empty hnames] at hok
    cases hok
  rcases all_known_or_first_unknown names with hknown | ⟨before, name, after, rfl, hknown, hbad⟩
  · rw [suites_of_known hnames hsome hknown] at hok
    exact (Except.ok.inj hok).symm
  · rw [suites_of_unknown hnames hknown hbad] at hok
    cases hok

theorem MentionedBefore.ne {first second : CipherSuite}
    (hbefore : MentionedBefore names first second) : first ≠ second := by
  obtain ⟨before, name, after, -, hspells, hearlier⟩ := hbefore
  rintro rfl
  exact hearlier name (List.mem_append_right _ (List.mem_singleton_self name)) hspells

theorem negotiate_noted (mentioned offered : List CipherSuite) :
    negotiate (noted [] mentioned) offered = negotiate mentioned offered :=
  find?_noted mentioned _

/-- The configured preference decides the suite.

Names of suites are refused exactly if there are none, or one of them is no
suite's name between blanks in any case of its letters; the error says which of
the two it is, and which name was the first. Otherwise they stand for the
suites that they spell, each once, in the order of their first mention.
Whatever a node offers, negotiating them finds the suite of the first name
whose suite is on offer, as negotiating all that was mentioned with its
repetitions does, and nothing exactly if no name's suite is on offer. Of the
offer neither order nor repetitions count. -/
theorem preference_decides (config : ServerConfig) (names : List String) :
    let chosen := ({ config with cipherSuites := some names } : ServerConfig).suites
    ((∃ fault, chosen = .error fault)
        ↔ names = [] ∨ ∃ name ∈ names, ∀ suite, ¬ Spells name suite)
      ∧ (names = [] → chosen = .error (.invalid "cipher suite list is empty"))
      ∧ (∀ before name after, names = before ++ name :: after →
        (∀ other ∈ before, ∃ suite, Spells other suite) → (∀ suite, ¬ Spells name suite) →
          chosen = .error (.invalid ("unknown cipher suite " ++ quoted name)))
      ∧ ∀ suites, chosen = .ok suites →
        suites.Nodup ∧ (∀ suite, suite ∈ suites ↔ ∃ name ∈ names, Spells name suite)
          ∧ suites.Pairwise (MentionedBefore names)
          ∧ ∀ offered,
            (∀ suite, negotiate suites offered = some suite
              ↔ ∃ before name after, names = before ++ name :: after ∧ Spells name suite
                ∧ suite ∈ offered
                ∧ ∀ earlier ∈ before, ∀ other, Spells earlier other → other ∉ offered)
            ∧ negotiate suites offered = negotiate (mentions names) offered
            ∧ (negotiate suites offered = none
              ↔ ∀ name ∈ names, ∀ suite, Spells name suite → suite ∉ offered)
            ∧ ∀ offered', (∀ suite, suite ∈ offered' ↔ suite ∈ offered) →
              negotiate suites offered' = negotiate suites offered := by
  intro chosen
  have hnames : ({ config with cipherSuites := some names } : ServerConfig).cipherSuites
      = some names := rfl
  refine ⟨refused_iff hnames, ?_, ?_, fun suites hok => ?_⟩
  · rintro rfl
    exact suites_of_empty hnames
  · rintro before name after rfl hknown hunknown
    exact suites_of_unknown hnames hknown hunknown
  · obtain rfl := eq_noted_of_ok hnames hok
    have horder := noted_in_order names
    refine ⟨horder.imp MentionedBefore.ne, fun suite => mem_noted.trans mem_mentions, horder,
      fun offered => ⟨fun suite => ?_, negotiate_noted _ _, ?_,
        fun offered' hsame => negotiate_congr hsame⟩⟩
    · rw [negotiate_noted, negotiate_mentions_eq_some_iff]
    · rw [negotiate_noted, negotiate_eq_none_iff]
      simp only [mem_mentions, forall_exists_index, and_imp]
      exact ⟨fun hnone name hname suite hspells => hnone suite name hname hspells,
        fun hnone suite name hname hspells => hnone name hname suite hspells⟩

/-- The second suite is named first, in small letters and between blanks, and
once more at the end: it wins over the first, which the node prefers. -/
theorem preference_decides_in_example :
    let names := ["\u3000xchacha20-poly1305-sha256 ", "ChaCha20-Poly1305-SHA256",
      "XCHACHA20-POLY1305-SHA256"]
    let config : ServerConfig := { ServerConfig.standard with cipherSuites := some names }
    config.suites = .ok [.xchacha, .chacha]
      ∧ negotiate [.xchacha, .chacha] [.chacha, .xchacha, .chacha] = some .xchacha
      ∧ negotiate [.xchacha, .chacha] [.chacha, .xchacha, .chacha]
        = negotiate [.xchacha, .chacha, .xchacha] [.chacha, .xchacha, .chacha]
      ∧ negotiate [.xchacha, .chacha] [.xchacha, .chacha]
        = negotiate [.xchacha, .chacha] [.chacha, .xchacha, .chacha] := by
  intro names config
  have hok : config.suites = .ok [.xchacha, .chacha] := by decide
  obtain ⟨-, -, -, hchosen⟩ := preference_decides ServerConfig.standard names
  obtain ⟨-, -, -, hnegotiated⟩ := hchosen [.xchacha, .chacha] hok
  obtain ⟨-, hmentions, -, hreordered⟩ := hnegotiated [.chacha, .xchacha, .chacha]
  refine ⟨hok, by decide, hmentions, hreordered [.xchacha, .chacha] fun suite => ?_⟩
  cases suite <;> decide

end ServerConfig

end Luminaire
