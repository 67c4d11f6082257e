/-
Reading never makes more out of bytes than there were.

The weight of an item is a number of bytes no encoding of it gets below:
one for its head, one for each byte of a string, and what it contains.
`Frugal` says of a reader that the result and the bytes left over weigh no
more together than the input did. Every reader of items is frugal,
whatever the nesting, whatever the width of the heads and whether lengths
are definite or not (`frugal_readNested`).

A codec is `Thrifty` if a value weighs no more than the item it was read
from. Tags, byte strings spelt as text or as arrays of numbers, and
records in all their forms are covered by the combinators. For a record
read from a map the point is that one entry never serves two fields
(`Fields.thrifty_readEntries`).
-/
import Luminaire.Cbor.Record

namespace Luminaire

/-- Bytes that spell a string are the bytes of that string. -/
theorem utf8_of_utf8? {content : Bytes} {text : String} (hread : utf8? content = some text) :
    utf8 text = content := by
  unfold utf8? String.fromUTF8? at hread
  split at hread
  next =>
    cases hread
    show content.toByteArray.data.toList = content
    rw [List.data_toByteArray]
  next => cases hread

/-- A part of the asked width and the rest make up the whole. -/
theorem length_of_split? {width : Nat} {bytes front rest : Bytes}
    (hparts : split? width bytes = some (front, rest)) :
    front.length + rest.length = bytes.length := by
  obtain ⟨rfl, -⟩ := split?_eq_some_iff.1 hparts
  exact List.length_append.symm

namespace Cbor

/-- What things weigh together. -/
def total {α : Type} (weigh : α → Nat) : List α → Nat
  | [] => 0
  | value :: values => weigh value + total weigh values

theorem total_append {α : Type} (weigh : α → Nat) (front back : List α) :
    total weigh (front ++ back) = total weigh front + total weigh back := by
  induction front with
  | nil => exact (Nat.zero_add _).symm
  | cons value values ih => rw [List.cons_append, total, total, ih, Nat.add_assoc]

theorem total_reverse {α : Type} (weigh : α → Nat) (values : List α) :
    total weigh values.reverse = total weigh values := by
  induction values with
  | nil => rfl
  | cons value values ih =>
      rw [List.reverse_cons, total_append, ih, total, total, total, Nat.add_zero, Nat.add_comm]

/-- The length of a text in chunks. -/
theorem length_flatten_eq {α : Type} (chunks : List (List α)) :
    chunks.flatten.length = total List.length chunks := by
  induction chunks with
  | nil => rfl
  | cons chunk chunks ih => rw [List.flatten_cons, List.length_append, ih, total]

theorem total_filter_le {α : Type} (weigh : α → Nat) (test : α → Bool) (values : List α) :
    total weigh (values.filter test) ≤ total weigh values := by
  induction values with
  | nil => exact Nat.le_refl _
  | cons value values ih =>
      rw [List.filter_cons, total]
      split
      · rw [total]
        exact Nat.add_le_add_left ih _
      · exact Nat.le_add_left_of_le ih

namespace Item

mutual

/-- How many bytes an item takes at least. -/
def weight : Item → Nat
  | .bytes content => 1 + content.length
  | .text content => 1 + (utf8 content).length
  | .array items => 1 + weightItems items
  | .map _ entries => 1 + weightEntries entries
  | .tagged _ item => 1 + item.weight
  | .unsigned _ | .negative _ | .bool _ | .null | .undefined | .float _ => 1

/-- The weight of items one after the other. -/
def weightItems : List Item → Nat
  | [] => 0
  | item :: items => item.weight + weightItems items

/-- The weight of keys and values one after the other. -/
def weightEntries : List (Item × Item) → Nat
  | [] => 0
  | (key, value) :: entries => key.weight + value.weight + weightEntries entries

end

/-- The weight of a key and its value. -/
def weightEntry (entry : Item × Item) : Nat := entry.1.weight + entry.2.weight

theorem weightItems_eq (items : List Item) : weightItems items = total weight items := by
  induction items with
  | nil => rfl
  | cons item items ih => rw [weightItems, total, ih]

theorem weightEntries_eq (entries : List (Item × Item)) :
    weightEntries entries = total weightEntry entries := by
  induction entries with
  | nil => rfl
  | cons entry entries ih => rw [weightEntries, total, ih]; rfl

/-- Every item has a head. -/
theorem weight_pos (item : Item) : 0 < item.weight := by
  cases item with
  | bytes content => exact Nat.lt_add_right _ Nat.one_pos
  | text content => exact Nat.lt_add_right _ Nat.one_pos
  | array items => exact Nat.lt_add_right _ Nat.one_pos
  | map single entries => exact Nat.lt_add_right _ Nat.one_pos
  | tagged number item => exact Nat.lt_add_right _ Nat.one_pos
  | _ => exact Nat.one_pos

/-- Without its tags an item is no heavier. -/
theorem weight_bare_le : (item : Item) → item.bare.weight ≤ item.weight
  | .tagged _ item => Nat.le_trans item.weight_bare_le (Nat.le_add_left ..)
  | .unsigned _ | .negative _ | .bytes _ | .text _ | .array _ | .map _ _ | .bool _ | .null
  | .undefined | .float _ => Nat.le_refl _

/-- There are no more items than they weigh. -/
theorem length_le_weightItems (items : List Item) : items.length ≤ weightItems items := by
  induction items with
  | nil => exact Nat.le_refl _
  | cons item items ih =>
      have := item.weight_pos
      rw [weightItems, List.length_cons]
      omega

end Item

-- =========================================================== readers

/-- A reader whose results never outweigh what they were read from. -/
def Frugal {α : Type} (weigh : α → Nat) (read : Bytes → Option (α × Bytes)) : Prop :=
  ∀ ⦃bytes value rest⦄, read bytes = some (value, rest) →
    weigh value + rest.length ≤ bytes.length

section Sequences

variable {α : Type} {weigh : α → Nat} {read : Bytes → Option (α × Bytes)}
  {done values : List α} {bytes rest : Bytes}

theorem readMany_frugal (hfrugal : Frugal weigh read) {count : Nat}
    (hread : readMany read count done bytes = some (values, rest)) :
    total weigh values + rest.length ≤ total weigh done + bytes.length := by
  induction count generalizing done bytes with
  | zero =>
      cases hread
      exact Nat.le_of_eq (congrArg (· + rest.length) (total_reverse weigh done))
  | succ count ih =>
      unfold readMany at hread
      split at hread
      next => cases hread
      next value more hone =>
        have hfirst := hfrugal hone
        have hothers := ih hread
        rw [total] at hothers
        omega

theorem readUntilBreak_frugal (hfrugal : Frugal weigh read) {limit : Nat}
    (hread : readUntilBreak read limit done bytes = some (values, rest)) :
    total weigh values + rest.length ≤ total weigh done + bytes.length := by
  induction limit generalizing done bytes with
  | zero => cases hread
  | succ limit ih =>
      unfold readUntilBreak at hread
      split at hread
      next more =>
        cases hread
        rw [total_reverse, List.length_cons]
        omega
      next =>
        split at hread
        next => cases hread
        next value more hone =>
          have hfirst := hfrugal hone
          have hothers := ih hread
          rw [total] at hothers
          omega

/-- Reading things in a row is as frugal as reading one. -/
theorem readCounted_frugal (hfrugal : Frugal weigh read) (count : Option Nat) :
    Frugal (total weigh) (readCounted read count) := by
  intro bytes values rest hread
  have hnone : total weigh ([] : List α) = 0 := rfl
  cases count with
  | some count =>
      have := readMany_frugal hfrugal hread
      omega
  | none =>
      have := readUntilBreak_frugal hfrugal hread
      omega

end Sequences

/-- A head takes a byte at least. -/
theorem length_of_readHead {bytes rest : Bytes} {head : Head}
    (hread : readHead bytes = some (head, rest)) : rest.length < bytes.length := by
  unfold readHead at hread
  split at hread
  next => cases hread
  next first more =>
    rw [List.length_cons]
    simp only at hread
    split at hread
    · cases hread
      exact Nat.lt_succ_self _
    · split at hread
      · cases hread
        exact Nat.lt_succ_self _
      · split at hread
        next => cases hread
        next width _ =>
          split at hread
          next => cases hread
          next digits _ hparts =>
            cases hread
            have := length_of_split? hparts
            omega

/-- A chunk takes a byte more than there is in it. -/
theorem readChunk_frugal (kind : Nat) :
    Frugal List.length (readChunk kind) := by
  intro bytes chunk rest hread
  unfold readChunk at hread
  split at hread
  next hhead =>
    split at hread
    · have := length_of_readHead hhead
      have := length_of_split? hread
      omega
    · cases hread
  next => cases hread

/-- Strings are read frugally, in one piece or in chunks. -/
theorem readString_frugal (kind : Nat) (length : Option Nat) :
    Frugal List.length (readString kind length) := by
  intro bytes content rest hread
  cases length with
  | some length => exact Nat.le_of_eq (length_of_split? hread)
  | none =>
      obtain ⟨⟨chunks, more⟩, hchunks, hjoined⟩ := Option.map_eq_some_iff.1 hread
      cases hjoined
      have hsum := readCounted_frugal (readChunk_frugal kind) none hchunks
      rw [length_flatten_eq]
      exact hsum

theorem readEntry_frugal {read : Bytes → Option (Item × Bytes)}
    (hfrugal : Frugal Item.weight read) : Frugal Item.weightEntry (readEntry read) := by
  intro bytes entry rest hread
  unfold readEntry at hread
  split at hread
  next => cases hread
  next key more hkey =>
    split at hread
    next => cases hread
    next value _ hvalue =>
      cases hread
      have hfirst := hfrugal hkey
      have hsecond := hfrugal hvalue
      show key.weight + value.weight + rest.length ≤ bytes.length
      omega

/-- An item weighs no more than it took, if what it contains does not. -/
theorem readItem_frugal {inner : Option (Bytes → Option (Item × Bytes))}
    (hinner : ∀ read, inner = some read → Frugal Item.weight read) :
    Frugal Item.weight (readItem inner) := by
  intro bytes item rest hread
  unfold readItem at hread
  split at hread
  next => cases hread
  next head more hhead =>
    have hshorter := length_of_readHead hhead
    have hplain : ∀ item : Item, item.weight = 1 → item.weight + more.length ≤ bytes.length := by
      intro item hitem
      omega
    split at hread
    next => cases hread; exact hplain _ rfl
    next => cases hread; exact hplain _ rfl
    next =>
      obtain ⟨⟨content, left⟩, hcontent, hwhole⟩ := Option.map_eq_some_iff.1 hread
      cases hwhole
      have := readString_frugal 2 _ hcontent
      rw [Item.weight]
      omega
    next =>
      split at hread
      next => cases hread
      next content left hcontent =>
        obtain ⟨text, htext, hwhole⟩ := Option.map_eq_some_iff.1 hread
        cases hwhole
        have := readString_frugal 3 _ hcontent
        rw [Item.weight, utf8_of_utf8? htext]
        omega
    next read _ =>
      obtain ⟨⟨items, left⟩, hitems, hwhole⟩ := Option.map_eq_some_iff.1 hread
      cases hwhole
      have := readCounted_frugal (hinner read rfl) _ hitems
      rw [Item.weight, Item.weightItems_eq]
      omega
    next read _ =>
      obtain ⟨⟨entries, left⟩, hentries, hwhole⟩ := Option.map_eq_some_iff.1 hread
      cases hwhole
      have := readCounted_frugal (readEntry_frugal (hinner read rfl)) _ hentries
      rw [Item.weight, Item.weightEntries_eq]
      omega
    next number read _ _ =>
      obtain ⟨⟨within, left⟩, hwithin, hwhole⟩ := Option.map_eq_some_iff.1 hread
      cases hwhole
      have := hinner read rfl hwithin
      rw [Item.weight]
      omega
    next =>
      split at hread
      next => cases hread; exact hplain _ rfl
      next => cases hread; exact hplain _ rfl
      next => cases hread; exact hplain _ rfl
      next => cases hread; exact hplain _ rfl
      next => cases hread; exact hplain _ rfl
      next => cases hread; exact hplain _ rfl
      next => cases hread; exact hplain _ rfl
      next => cases hread
    next => cases hread

/-- Items are read frugally at every depth. -/
theorem frugal_readNested (depth : Nat) : Frugal Item.weight (readNested depth) := by
  induction depth with
  | zero => exact readItem_frugal nofun
  | succ depth ih =>
      refine readItem_frugal fun read hread => ?_
      cases hread
      exact ih

/-- No encoding of an item is shorter than its weight. -/
theorem Item.weight_le_of_decode? {bytes : Bytes} {item : Item}
    (hdecode : Item.decode? bytes = some item) : item.weight ≤ bytes.length := by
  unfold Item.decode? at hdecode
  split at hdecode
  next hread =>
    cases hdecode
    exact frugal_readNested depthLimit hread
  next => cases hdecode

-- ============================================================ codecs

/-- Values weigh no more than the items they are read from; a value that is
assumed where there is no item weighs nothing. -/
structure Codec.Thrifty {α : Type} (weigh : α → Nat) (codec : Codec α) : Prop where
  read : ∀ ⦃item value⦄, codec.read item = some value → weigh value ≤ item.weight
  absent : ∀ ⦃value⦄, codec.absent = some value → weigh value = 0

namespace Codec

variable {α : Type} {codec : Codec α}

/-- Whatever is read, there was an item. -/
theorem thrifty_one (hpresent : codec.absent = none) : codec.Thrifty (fun _ => 1) where
  read item _ _ := item.weight_pos
  absent value habsent := by rw [hpresent] at habsent; cases habsent

/-- Nothing need be known of a codec to leave its values out of account. -/
theorem thrifty_zero (codec : Codec α) : codec.Thrifty (fun _ => 0) where
  read _ _ _ := Nat.zero_le _
  absent _ _ := rfl

theorem length_of_readAll {read : Item → Option α} {done values : List α} {items : List Item}
    (hread : readAll read done items = some values) :
    values.length = done.length + items.length := by
  induction items generalizing done with
  | nil =>
      cases hread
      exact List.length_reverse
  | cons item items ih =>
      unfold readAll at hread
      split at hread
      next => cases hread
      next value _ =>
        rw [ih hread, List.length_cons, List.length_cons]
        omega

/-- A byte string weighs more than its content, however it is spelt. -/
theorem thrifty_bytes : bytes.Thrifty (fun content => 1 + content.length) where
  read item content hread := by
    refine Nat.le_trans ?_ item.weight_bare_le
    simp only [bytes] at hread
    split at hread
    next hbare => cases hread; rw [hbare]; exact Nat.le_refl _
    next hbare => cases hread; rw [hbare]; exact Nat.le_refl _
    next items hbare =>
      have hlength := length_of_readAll hread
      have := Item.length_le_weightItems items
      rw [List.length_nil] at hlength
      rw [hbare, Item.weight]
      omega
    next => cases hread
  absent := nofun

end Codec

namespace Fields

/-- What the values of a record weigh, with a way to weigh each field. -/
inductive Thrifty : {αs : List Type} → (Row αs → Nat) → Fields αs → Prop where
  | nil : Thrifty (fun _ => 0) .nil
  | field {α : Type} {αs : List Type} {name : String} {codec : Codec α} {rest : Fields αs}
      {weigh : α → Nat} {weighRest : Row αs → Nat} (hcodec : codec.Thrifty weigh)
      (hrest : rest.Thrifty weighRest) :
      Thrifty (fun row : Row (α :: αs) => weigh row.1 + weighRest row.2) (.field name codec rest)

variable {αs : List Type} {fields : Fields αs} {weigh : Row αs → Nat} {row : Row αs}

/-- A record in an array weighs no more than the items of the array. -/
theorem thrifty_readItems (hthrifty : fields.Thrifty weigh) {items : List Item}
    (hread : fields.readItems items = some row) : weigh row ≤ Item.weightItems items := by
  induction hthrifty generalizing items with
  | nil => exact Nat.zero_le _
  | field hcodec hrest ih =>
      cases items with
      | nil => cases hread
      | cons item items =>
          unfold readItems at hread
          split at hread
          next value values hvalue hvalues =>
            cases hread
            have hfirst := hcodec.read hvalue
            have hothers := ih hvalues
            rw [Item.weightItems]
            exact Nat.add_le_add hfirst hothers
          next => cases hread

/-- Whether a key names one of the fields, numbered from `index`. -/
def mentions : {αs : List Type} → Fields αs → (index : Nat) → Item → Bool
  | _, .nil, _, _ => false
  | _, .field name _ rest, index, key =>
      Codec.names key name index || rest.mentions (index + 1) key

/-- A key names a field by its name or by its number. -/
theorem names_iff {key : Item} {name : String} {index : Nat} :
    Codec.names key name index = true
      ↔ key.bare = .text name ∨ key.bare = .bytes (utf8 name)
        ∨ ∃ value : UInt64, key.bare = .unsigned value ∧ value.toNat = index := by
  unfold Codec.names
  cases key.bare with
  | text content => simp
  | bytes content => simp
  | unsigned value => simp
  | _ => simp

/-- A key that names one field does not name another. -/
theorem not_names_of_names {key : Item} {name other : String} {index number : Nat}
    (hname : name ≠ other) (hindex : index ≠ number) (hnames : Codec.names key name index = true) :
    Codec.names key other number = false := by
  refine Bool.eq_false_iff.2 fun hagain => ?_
  rcases names_iff.1 hnames with hkey | hkey | ⟨value, hkey, rfl⟩
  · rcases names_iff.1 hagain with hsame | hsame | ⟨_, hsame, -⟩
    · rw [hkey] at hsame
      cases hsame
      exact hname rfl
    · rw [hkey] at hsame; cases hsame
    · rw [hkey] at hsame; cases hsame
  · rcases names_iff.1 hagain with hsame | hsame | ⟨_, hsame, -⟩
    · rw [hkey] at hsame; cases hsame
    · rw [hkey] at hsame
      exact hname (utf8_injective (Item.bytes.inj hsame))
    · rw [hkey] at hsame; cases hsame
  · rcases names_iff.1 hagain with hsame | hsame | ⟨_, hsame, rfl⟩
    · rw [hkey] at hsame; cases hsame
    · rw [hkey] at hsame; cases hsame
    · rw [hkey] at hsame
      cases hsame
      exact hindex rfl

/-- A key that names a field names none of the fields behind it. -/
theorem not_mentions_of_names {key : Item} {name : String} {index number : Nat}
    (hfresh : name ∉ fields.fieldNames) (hearlier : index < number)
    (hnames : Codec.names key name index = true) : fields.mentions number key = false := by
  induction fields generalizing number with
  | nil => rfl
  | field other codec rest ih =>
      obtain ⟨hother, hrest⟩ := not_or.1 (mt List.mem_cons.2 hfresh)
      rw [mentions, not_names_of_names hother (Nat.ne_of_lt hearlier) hnames, Bool.false_or]
      exact ih hrest (Nat.lt_succ_of_lt hearlier)

/-- Entries picked by two tests that are never met together are among those
picked by either. -/
theorem total_filter_add_le {β : Type} (weigh : β → Nat) (first second : β → Bool) (values : List β)
    (hapart : ∀ value, first value = true → second value = false) :
    total weigh (values.filter first) + total weigh (values.filter second)
      ≤ total weigh (values.filter fun value => first value || second value) := by
  induction values with
  | nil => exact Nat.le_refl _
  | cons value values ih =>
      cases hfirst : first value with
      | true =>
          simp only [List.filter_cons, hfirst, hapart value hfirst, Bool.true_or, if_true,
            Bool.false_eq_true, if_false, total]
          omega
      | false =>
          cases hsecond : second value with
          | true =>
              simp only [List.filter_cons, hfirst, hsecond, Bool.or_true, if_true,
                Bool.false_eq_true, if_false, total]
              omega
          | false =>
              simp only [List.filter_cons, hfirst, hsecond, Bool.or_false, Bool.false_eq_true,
                if_false]
              exact ih

/-- A field weighs no more than the entries that name it. -/
theorem weigh_readField_le {α : Type} {codec : Codec α} {weigh : α → Nat}
    (hcodec : codec.Thrifty weigh) {name : String} {index : Nat} {entries : List (Item × Item)}
    {value : α} (hread : readField name codec index entries = some value) :
    weigh value ≤ total Item.weightEntry
      (entries.filter fun entry => Codec.names entry.1 name index) := by
  unfold readField at hread
  split at hread
  next => rw [hcodec.absent hread]; exact Nat.zero_le _
  next key item hentry =>
    rw [hentry]
    exact Nat.le_add_right_of_le (Nat.le_add_left_of_le (hcodec.read hread))
  next => cases hread

/-- A record in a map weighs no more than the entries that name its fields. -/
theorem thrifty_readEntries (hthrifty : fields.Thrifty weigh) (hnodup : fields.fieldNames.Nodup)
    {index : Nat} {entries : List (Item × Item)}
    (hread : fields.readEntries index entries = some row) :
    weigh row ≤ total Item.weightEntry
      (entries.filter fun entry => fields.mentions index entry.1) := by
  induction hthrifty generalizing index with
  | nil => exact Nat.zero_le _
  | @field α αs name codec rest weigh weighRest hcodec hrest ih =>
      obtain ⟨hfresh, hnodup⟩ := List.nodup_cons.1 hnodup
      unfold readEntries at hread
      split at hread
      next value values hvalue hvalues =>
        cases hread
        have hfirst := weigh_readField_le hcodec hvalue
        refine Nat.le_trans (Nat.add_le_add hfirst (ih hnodup hvalues)) ?_
        exact total_filter_add_le _ _ _ _ fun entry hnames =>
          not_mentions_of_names hfresh (Nat.lt_succ_self index) hnames
      next => cases hread

end Fields

/-- A record weighs no more than the array or the map it is read from. -/
theorem Codec.thrifty_record {αs : List Type} {α : Type} {fields : Fields αs}
    {weigh : Row αs → Nat} (hthrifty : fields.Thrifty weigh) (hnodup : fields.fieldNames.Nodup)
    {toRow : α → Row αs} {ofRow : Row αs → α} {weighRecord : α → Nat}
    (hweigh : ∀ row, weighRecord (ofRow row) = 1 + weigh row) :
    (Codec.record fields toRow ofRow).Thrifty weighRecord where
  read item value hread := by
    refine Nat.le_trans ?_ item.weight_bare_le
    simp only [record] at hread
    split at hread
    next items hbare =>
      obtain ⟨row, hrow, rfl⟩ := Option.map_eq_some_iff.1 hread
      rw [hbare, Item.weight, hweigh]
      exact Nat.add_le_add_left (Fields.thrifty_readItems hthrifty hrow) 1
    next single entries hbare =>
      split at hread
      · obtain ⟨row, hrow, rfl⟩ := Option.map_eq_some_iff.1 hread
        have hnamed := Fields.thrifty_readEntries hthrifty hnodup hrow
        have hall := total_filter_le Item.weightEntry
          (fun entry => fields.mentions 0 entry.1) entries
        rw [hbare, Item.weight, hweigh, Item.weightEntries_eq]
        exact Nat.add_le_add_left (Nat.le_trans hnamed hall) 1
      · cases hread
    next => cases hread
  absent := nofun

/-- What a variant carries weighs less than the choice. -/
theorem Codec.weight_of_carried? {variants : List String} {item within : Item} {index : Nat}
    (hcarried : Codec.carried? variants item = some (index, within)) :
    2 + within.weight ≤ item.weight := by
  have hpair : ∀ name : Item, 2 + within.weight ≤ 1 + (name.weight + within.weight + 0) := by
    intro name
    have := name.weight_pos
    omega
  unfold carried? at hcarried
  split at hcarried
  next name value =>
    obtain ⟨_, -, hwhole⟩ := Option.map_eq_some_iff.1 hcarried
    cases hwhole
    exact hpair name
  next name value =>
    obtain ⟨_, -, hwhole⟩ := Option.map_eq_some_iff.1 hcarried
    cases hwhole
    exact hpair name
  next => cases hcarried

end Cbor

end Luminaire
