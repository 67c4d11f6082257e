/-
What is printed reads back.

The reader is more generous than the printer, so the statement is about
the items that the codecs write (`Item.Tidy`): nested to a bounded depth,
with every map announced as what it is, and without floating-point
numbers, which nothing here writes. A tidy item whose printed form has a
length that can be announced at all is read back from the front of any
byte string that starts with it (`readNested_print`).

The induction is over the item. What stands behind an item is arbitrary,
so the sequences inside arrays and maps follow from the statement for
their members alone (`readMany_flatMap`).
-/
import Mathlib.Algebra.Group.Nat.Defs
import Luminaire.Cbor.Reader

namespace Luminaire

/-- A first part of the asked width is split off again. -/
theorem split?_append {width : Nat} {front : Bytes} (hlength : front.length = width)
    (rest : Bytes) : split? width (front ++ rest) = some (front, rest) :=
  split?_eq_some_iff.2 ⟨rfl, hlength⟩

namespace Cbor

-- ============================================================= heads

/-- The low five bits of the shortest head with this argument. -/
def headInfo (argument : Nat) : Nat :=
  if argument < 24 then argument
  else if argument < UInt8.size then 24
  else if argument < UInt16.size then 25
  else if argument < UInt32.size then 26
  else 27

/-- A head whose argument stands in the bytes behind it. -/
theorem readHead_wide {kind info width argument : Nat} (hkind : kind < 8)
    (hinfo : 24 ≤ info) (hopen : info < 31) (hwidth : argumentWidth? info = some width)
    (hfits : argument < Nat.pow 256 width) (rest : Bytes) :
    readHead ((32 * kind + info).toUInt8 :: bigEndianBytes width argument ++ rest)
      = some (⟨kind, info, some argument⟩, rest) := by
  have hbyte : (32 * kind + info).toUInt8.toNat = 32 * kind + info :=
    UInt8.toNat_ofNat_of_lt' (show 32 * kind + info < 256 by omega)
  have hhigh : (32 * kind + info) / 32 = kind := by omega
  have hlow : (32 * kind + info) % 32 = info := by omega
  rw [List.cons_append, readHead]
  simp only [hbyte, hhigh, hlow, Nat.not_lt.2 hinfo, Nat.ne_of_lt hopen, hwidth, if_false,
    split?_append (length_bigEndianBytes width argument) rest,
    bigEndian_bigEndianBytes width argument hfits]

/-- A head reads back, for every argument that it can announce. -/
theorem readHead_head {kind argument : Nat} (hkind : kind < 8)
    (hfits : argument < 2 ^ 64) (rest : Bytes) :
    readHead (Item.head kind argument ++ rest)
      = some (⟨kind, headInfo argument, some argument⟩, rest) := by
  unfold Item.head headInfo
  split
  next hsmall =>
    have hbyte : (32 * kind + argument).toUInt8.toNat = 32 * kind + argument :=
      UInt8.toNat_ofNat_of_lt' (show 32 * kind + argument < 256 by omega)
    have hhigh : (32 * kind + argument) / 32 = kind := by omega
    have hlow : (32 * kind + argument) % 32 = argument := by omega
    rw [List.singleton_append, readHead]
    simp only [hbyte, hhigh, hlow, hsmall, if_true]
  · split
    next hbyte => exact readHead_wide hkind (by omega) (by omega) rfl hbyte rest
    · split
      next hword => exact readHead_wide hkind (by omega) (by omega) rfl hword rest
      · split
        next hlong => exact readHead_wide hkind (by omega) (by omega) rfl hlong rest
        · exact readHead_wide hkind (by omega) (by omega) rfl hfits rest

theorem headInfo_eq_one_iff (argument : Nat) : headInfo argument = 1 ↔ argument = 1 := by
  unfold headInfo
  split
  · rfl
  · have hlarge : argument ≠ 1 := by omega
    split
    · simp [hlarge]
    · split
      · simp [hlarge]
      · split
        · simp [hlarge]
        · simp [hlarge]

theorem head_length_pos (kind argument : Nat) : 0 < (Item.head kind argument).length := by
  unfold Item.head
  split
  · simp
  · split
    · simp
    · split
      · simp
      · split
        · simp
        · simp

-- ========================================================= sequences

/-- Things that each read back, read back one after the other. -/
theorem readMany_flatMap {α : Type} {read : Bytes → Option (α × Bytes)}
    {print : α → Bytes} (done values : List α) (rest : Bytes)
    (hread : ∀ value ∈ values, ∀ rest, read (print value ++ rest) = some (value, rest)) :
    readMany read values.length done (values.flatMap print ++ rest)
      = some (done.reverse ++ values, rest) := by
  induction values generalizing done with
  | nil => simp [readMany]
  | cons value values ih =>
      have hlater : ∀ other ∈ values, ∀ rest,
          read (print other ++ rest) = some (other, rest) :=
        fun other hother => hread other (List.mem_cons_of_mem _ hother)
      rw [List.length_cons, readMany, List.flatMap_cons, List.append_assoc,
        hread value List.mem_cons_self]
      simp only [ih (value :: done) hlater, List.reverse_cons, List.append_assoc,
        List.singleton_append]

-- ============================================================== items

namespace Item

/-- An item that nests at most this deep, whose maps are announced as what
they are, and in which no floating-point number stands. -/
inductive Tidy : Nat → Item → Prop where
  | unsigned (depth : Nat) (value : UInt64) : Tidy depth (.unsigned value)
  | negative (depth : Nat) (value : UInt64) : Tidy depth (.negative value)
  | bytes (depth : Nat) (content : Bytes) : Tidy depth (.bytes content)
  | text (depth : Nat) (content : String) : Tidy depth (.text content)
  | array {depth : Nat} {items : List Item} (items_tidy : ∀ item ∈ items, Tidy depth item) :
      Tidy (depth + 1) (.array items)
  | mapOf {depth : Nat} {entries : List (Item × Item)}
      (keys_tidy : ∀ entry ∈ entries, Tidy depth entry.1)
      (values_tidy : ∀ entry ∈ entries, Tidy depth entry.2) :
      Tidy (depth + 1) (mapOf entries)
  | tagged {depth : Nat} {item : Item} (number : UInt64) (item_tidy : Tidy depth item) :
      Tidy (depth + 1) (.tagged number item)
  | bool (depth : Nat) (value : Bool) : Tidy depth (.bool value)
  | null (depth : Nat) : Tidy depth .null
  | undefined (depth : Nat) : Tidy depth .undefined

theorem printItems_eq (items : List Item) : printItems items = items.flatMap print := by
  induction items with
  | nil => simp [printItems]
  | cons item items ih => simp [printItems, ih]

/-- A key and its value. -/
def printEntry (entry : Item × Item) : Bytes := entry.1.print ++ entry.2.print

theorem printEntries_eq (entries : List (Item × Item)) :
    printEntries entries = entries.flatMap printEntry := by
  induction entries with
  | nil => simp [printEntries]
  | cons entry entries ih => simp [printEntries, printEntry, ih]

/-- Every item takes at least a byte. -/
theorem print_length_pos (item : Item) : 0 < item.print.length := by
  have hhead := head_length_pos
  cases item with
  | unsigned value => exact hhead ..
  | negative value => exact hhead ..
  | bytes content =>
      rw [print, List.length_append]
      exact Nat.add_pos_left (hhead ..) _
  | text content =>
      rw [print, List.length_append]
      exact Nat.add_pos_left (hhead ..) _
  | array items =>
      rw [print, List.length_append]
      exact Nat.add_pos_left (hhead ..) _
  | map single entries =>
      rw [print, List.length_append]
      exact Nat.add_pos_left (hhead ..) _
  | tagged number item =>
      rw [print, List.length_append]
      exact Nat.add_pos_left (hhead ..) _
  | bool value =>
      rw [print]
      split
      · exact Nat.one_pos
      · exact Nat.one_pos
  | null => exact Nat.one_pos
  | undefined => exact Nat.one_pos
  | float content => exact Nat.succ_pos _

end Item

/-- A part of a printed sequence is no longer than the whole. -/
theorem length_le_flatMap {α : Type} {print : α → Bytes} {values : List α} {value : α}
    (hmem : value ∈ values) :
    (print value).length ≤ (values.flatMap print).length := by
  obtain ⟨before, after, rfl⟩ := List.append_of_mem hmem
  rw [List.flatMap_append, List.flatMap_cons, List.length_append, List.length_append]
  omega

/-- A sequence has no more members than it has bytes, if each takes one. -/
theorem length_le_length_flatMap {α : Type} {print : α → Bytes} {values : List α}
    (hpos : ∀ value ∈ values, 0 < (print value).length) :
    values.length ≤ (values.flatMap print).length := by
  induction values with
  | nil => exact Nat.zero_le _
  | cons value values ih =>
      have hfirst := hpos value List.mem_cons_self
      have hrest := ih fun other hother => hpos other (List.mem_cons_of_mem _ hother)
      rw [List.flatMap_cons, List.length_append, List.length_cons]
      omega

/-- A key and its value read back. -/
theorem readEntry_printEntry {read : Bytes → Option (Item × Bytes)} {entry : Item × Item}
    (hkey : ∀ rest, read (entry.1.print ++ rest) = some (entry.1, rest))
    (hvalue : ∀ rest, read (entry.2.print ++ rest) = some (entry.2, rest)) (rest : Bytes) :
    readEntry read (Item.printEntry entry ++ rest) = some (entry, rest) := by
  rw [Item.printEntry, List.append_assoc, readEntry, hkey]
  simp only [hvalue]

-- ============================================================ reading

/-- An item read at a depth is read with what reads the depth below. -/
theorem readNested_eq (depth : Nat) :
    ∃ inner, readNested depth = readItem inner := by
  cases depth with
  | zero => exact ⟨none, rfl⟩
  | succ depth => exact ⟨some (readNested depth), rfl⟩

/-- A tidy item is read back from the front of whatever begins with it. -/
theorem readNested_print {depth : Nat} {item : Item} (htidy : item.Tidy depth)
    (hshort : item.print.length < 2 ^ 64) (rest : Bytes) :
    readNested depth (item.print ++ rest) = some (item, rest) := by
  induction htidy generalizing rest with
  | unsigned depth value =>
      obtain ⟨inner, hinner⟩ := readNested_eq depth
      rw [hinner, Item.print, readItem, readHead_head (by decide) value.toNat_lt]
      simp
  | negative depth value =>
      obtain ⟨inner, hinner⟩ := readNested_eq depth
      rw [hinner, Item.print, readItem, readHead_head (by decide) value.toNat_lt]
      simp
  | bytes depth content =>
      obtain ⟨inner, hinner⟩ := readNested_eq depth
      rw [Item.print, List.length_append] at hshort
      rw [hinner, Item.print, List.append_assoc, readItem,
        readHead_head (by decide) (Nat.lt_of_le_of_lt (Nat.le_add_left ..) hshort)]
      simp only [readString, split?_append rfl, Option.map_some]
  | text depth content =>
      obtain ⟨inner, hinner⟩ := readNested_eq depth
      rw [Item.print, List.length_append] at hshort
      rw [hinner, Item.print, List.append_assoc, readItem,
        readHead_head (by decide) (Nat.lt_of_le_of_lt (Nat.le_add_left ..) hshort)]
      simp only [readString, split?_append rfl, utf8?_utf8, Option.map_some]
  | @array depth items items_tidy ih =>
      rw [Item.print, List.length_append, Item.printItems_eq] at hshort
      have hcount : items.length ≤ (items.flatMap Item.print).length :=
        length_le_length_flatMap fun item _ => item.print_length_pos
      have hread : ∀ item ∈ items, ∀ rest,
          readNested depth (item.print ++ rest) = some (item, rest) := by
        intro item hmem
        have hpart : item.print.length ≤ (items.flatMap Item.print).length :=
          length_le_flatMap hmem
        exact ih item hmem (by omega)
      rw [readNested, Item.print, List.append_assoc, readItem,
        readHead_head (by decide) (by omega), Item.printItems_eq]
      simp only [readCounted, readMany_flatMap [] items rest hread, Option.map_some,
        List.reverse_nil, List.nil_append]
  | @mapOf depth entries keys_tidy values_tidy keys_ih values_ih =>
      rw [Item.mapOf, Item.print, List.length_append, Item.printEntries_eq] at hshort
      have hcount : entries.length ≤ (entries.flatMap Item.printEntry).length := by
        refine length_le_length_flatMap fun entry _ => ?_
        rw [Item.printEntry, List.length_append]
        exact Nat.add_pos_left entry.1.print_length_pos _
      have hread : ∀ entry ∈ entries, ∀ rest,
          readEntry (readNested depth) (Item.printEntry entry ++ rest)
            = some (entry, rest) := by
        intro entry hmem
        have hpart : (Item.printEntry entry).length ≤ (entries.flatMap Item.printEntry).length :=
          length_le_flatMap hmem
        rw [Item.printEntry, List.length_append] at hpart
        exact readEntry_printEntry (keys_ih entry hmem (by omega))
          (values_ih entry hmem (by omega))
      have hsingle : (headInfo entries.length == 1) = (entries.length == 1) := by
        rw [Bool.eq_iff_iff, beq_iff_eq, beq_iff_eq, headInfo_eq_one_iff]
      rw [readNested, Item.mapOf, Item.print, List.append_assoc, readItem,
        readHead_head (by decide) (by omega), Item.printEntries_eq]
      simp only [readCounted, readMany_flatMap [] entries rest hread, Option.map_some,
        List.reverse_nil, List.nil_append, hsingle]
  | @tagged depth item number item_tidy ih =>
      rw [Item.print, List.length_append] at hshort
      rw [readNested, Item.print, List.append_assoc, readItem,
        readHead_head (by decide) number.toNat_lt]
      simp only [ih (by omega), Option.map_some]
      simp
  | bool depth value =>
      obtain ⟨inner, hinner⟩ := readNested_eq depth
      rw [hinner]
      cases value with
      | false => rfl
      | true => rfl
  | null depth =>
      obtain ⟨inner, hinner⟩ := readNested_eq depth
      rw [hinner]
      rfl
  | undefined depth =>
      obtain ⟨inner, hinner⟩ := readNested_eq depth
      rw [hinner]
      rfl

/-- What a whole byte string spells, for a tidy item that was printed. -/
theorem decode?_print {item : Item} (htidy : item.Tidy depthLimit)
    (hshort : item.print.length < 2 ^ 64) : Item.decode? item.print = some item := by
  have hread := readNested_print htidy hshort []
  rw [List.append_nil] at hread
  rw [Item.decode?, hread]

end Cbor

end Luminaire
