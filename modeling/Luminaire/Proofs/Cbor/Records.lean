/-
What a record is written as reads back.

`Codec.Faithful` is what a codec needs for its values to survive the
journey as bytes: it is lawful, and it writes tidy items of a known depth.
The combinators pass it on. For a record the point is the table of names:
the entry written for a field is the only one with the field's name, since
no two fields share one (`Fields.readEntries_write`).

The second half measures what is written, for the bounds on payloads.
-/
import Luminaire.Cbor.Record
import Luminaire.Proofs.Cbor.Printing

namespace Luminaire.Cbor

/-- What the codec writes nests to this depth at most and reads back as the
value it was written for. -/
structure Codec.Faithful {α : Type} (codec : Codec α) (depth : Nat) : Prop where
  lawful : codec.Lawful
  tidy : ∀ value, (codec.write value).Tidy depth

namespace Codec

variable {α β : Type} {codec : Codec α} {depth : Nat}

theorem word8_faithful : word8.Faithful depth :=
  ⟨word8_lawful, fun value => .unsigned depth value.toUInt64⟩

theorem word16_faithful : word16.Faithful depth :=
  ⟨word16_lawful, fun value => .unsigned depth value.toUInt64⟩

theorem word32_faithful : word32.Faithful depth :=
  ⟨word32_lawful, fun value => .unsigned depth value.toUInt64⟩

theorem word64_faithful : word64.Faithful depth :=
  ⟨word64_lawful, fun value => .unsigned depth value⟩

theorem flag_faithful : flag.Faithful depth :=
  ⟨flag_lawful, fun value => .bool depth value⟩

theorem text_faithful : text.Faithful depth :=
  ⟨text_lawful, fun content => .text depth content⟩

theorem bytes_faithful : bytes.Faithful depth :=
  ⟨bytes_lawful, fun content => .bytes depth content⟩

theorem list_faithful (hfaithful : codec.Faithful depth) :
    (list codec).Faithful (depth + 1) := by
  refine ⟨list_lawful hfaithful.lawful, fun values => .array fun item hitem => ?_⟩
  obtain ⟨value, -, rfl⟩ := List.mem_map.1 hitem
  exact hfaithful.tidy value

theorem optional_faithful (hfaithful : codec.Faithful depth) (hnever : codec.NeverNull) :
    (optional codec).Faithful depth := by
  refine ⟨optional_lawful hfaithful.lawful hnever, fun value => ?_⟩
  cases value with
  | none => exact .null depth
  | some value => exact hfaithful.tidy value

theorem refine_faithful (hfaithful : codec.Faithful depth) {toWritten : β → α}
    {ofWritten? : α → Option β} (hinverse : ∀ value, ofWritten? (toWritten value) = some value) :
    (refine codec toWritten ofWritten?).Faithful depth :=
  ⟨refine_lawful hfaithful.lawful hinverse, fun value => hfaithful.tidy (toWritten value)⟩

end Codec

-- =========================================================== records

namespace Fields

/-- Every field's codec is faithful. -/
def Faithful (depth : Nat) : {αs : List Type} → Fields αs → Prop
  | _, .nil => True
  | _, .field _ codec rest => codec.Faithful depth ∧ rest.Faithful depth

/-- The keys of what is written are the names of the fields. -/
theorem exists_name_of_mem_write {αs : List Type} (fields : Fields αs) (row : Row αs)
    {entry : Item × Item} (hentry : entry ∈ fields.write row) :
    ∃ name ∈ fields.fieldNames, entry.1 = .text name := by
  induction fields with
  | nil => cases hentry
  | field name codec rest ih =>
      obtain ⟨value, values⟩ := row
      rw [write, List.mem_cons] at hentry
      rcases hentry with rfl | hentry
      · exact ⟨name, List.mem_cons_self, rfl⟩
      · obtain ⟨other, hother, hkey⟩ := ih values hentry
        exact ⟨other, List.mem_cons_of_mem _ hother, hkey⟩

/-- Each field is found under its name, whatever other names stand before. -/
theorem readEntries_write {depth : Nat} {αs : List Type} {fields : Fields αs}
    (hfaithful : fields.Faithful depth) (hnodup : fields.fieldNames.Nodup) (row : Row αs)
    (index : Nat) (before : List (Item × Item))
    (hbefore : ∀ entry ∈ before, ∃ name, name ∉ fields.fieldNames ∧ entry.1 = .text name) :
    fields.readEntries index (before ++ fields.write row) = some row := by
  induction fields generalizing index before with
  | nil => rfl
  | field name codec rest ih =>
      obtain ⟨value, values⟩ := row
      obtain ⟨hfresh, hnodup⟩ := List.nodup_cons.1 hnodup
      have hearlier : before.filter (fun entry => Codec.names entry.1 name index) = [] := by
        refine List.filter_eq_nil_iff.2 fun entry hentry => ?_
        obtain ⟨other, hother, hkey⟩ := hbefore entry hentry
        have hne : other ≠ name := fun heq => hother (heq ▸ List.mem_cons_self)
        rw [hkey]
        simpa [Codec.names, Item.bare] using hne
      have hlater : (rest.write values).filter
          (fun entry => Codec.names entry.1 name index) = [] := by
        refine List.filter_eq_nil_iff.2 fun entry hentry => ?_
        obtain ⟨other, hother, hkey⟩ := rest.exists_name_of_mem_write values hentry
        have hne : other ≠ name := fun heq => hfresh (heq ▸ hother)
        rw [hkey]
        simpa [Codec.names, Item.bare] using hne
      have hself : Codec.names (.text name) name index = true := by
        simp [Codec.names, Item.bare]
      have hfield : readField name codec index
          (before ++ (.text name, codec.write value) :: rest.write values) = some value := by
        unfold readField
        rw [List.filter_append, List.filter_cons, hearlier, hlater, if_pos hself]
        exact hfaithful.1.lawful value
      have hrest := ih hfaithful.2 hnodup values (index + 1)
        (before ++ [(.text name, codec.write value)]) (by
          intro entry hentry
          rcases List.mem_append.1 hentry with hentry | hentry
          · obtain ⟨other, hother, hkey⟩ := hbefore entry hentry
            exact ⟨other, fun hmem => hother (List.mem_cons_of_mem _ hmem), hkey⟩
          · cases List.mem_singleton.1 hentry
            exact ⟨name, hfresh, rfl⟩)
      rw [List.append_assoc, List.singleton_append] at hrest
      rw [readEntries, write, hfield, hrest]

theorem write_tidy {depth : Nat} {αs : List Type} {fields : Fields αs}
    (hfaithful : fields.Faithful depth) (row : Row αs) {entry : Item × Item}
    (hentry : entry ∈ fields.write row) : entry.2.Tidy depth := by
  induction fields with
  | nil => cases hentry
  | field name codec rest ih =>
      obtain ⟨value, values⟩ := row
      rw [write, List.mem_cons] at hentry
      rcases hentry with rfl | hentry
      · exact hfaithful.1.tidy value
      · exact ih hfaithful.2 values hentry

end Fields

/-- Records of faithful fields are faithful, if no two share a name. -/
theorem Codec.record_faithful {depth : Nat} {αs : List Type} {α : Type} {fields : Fields αs}
    {toRow : α → Row αs} {ofRow : Row αs → α} (hfaithful : fields.Faithful depth)
    (hnodup : fields.fieldNames.Nodup) (hinverse : ∀ value, ofRow (toRow value) = value) :
    (record fields toRow ofRow).Faithful (depth + 1) := by
  refine ⟨fun value => ?_, fun value => .mapOf (fun entry hentry => ?_) fun entry hentry => ?_⟩
  · have hnames : (fields.write (toRow value)).all (fun entry => isName entry.1) = true := by
      rw [List.all_eq_true]
      intro entry hentry
      obtain ⟨name, -, hkey⟩ := fields.exists_name_of_mem_write _ hentry
      rw [hkey]
      rfl
    have hread := Fields.readEntries_write hfaithful hnodup (toRow value) 0 []
      (fun entry hentry => absurd hentry List.not_mem_nil)
    rw [List.nil_append] at hread
    show (if (fields.write (toRow value)).all (fun entry => isName entry.1) then
      (fields.readEntries 0 (fields.write (toRow value))).map ofRow else none) = some value
    rw [if_pos hnames, hread, Option.map_some, hinverse]
  · obtain ⟨name, -, hkey⟩ := fields.exists_name_of_mem_write _ hentry
    rw [hkey]
    exact .text depth name
  · exact Fields.write_tidy hfaithful (toRow value) hentry

/-- A value that travels as bytes arrives as it was. -/
theorem decode?_encode {α : Type} [Payload α]
    (hfaithful : (Payload.codec (α := α)).Faithful depthLimit) {value : α}
    (hshort : (encode value).length < 2 ^ 64) : decode? (encode value) = some value := by
  rw [decode?, encode, decode?_print (hfaithful.tidy value) hshort]
  exact hfaithful.lawful value

/-- Bytes that go on behind a value are no value. -/
theorem decode?_encode_append {α : Type} [Payload α]
    (hfaithful : (Payload.codec (α := α)).Faithful depthLimit) {value : α}
    (hshort : (encode value).length < 2 ^ 64) {rest : Bytes} (hrest : rest ≠ []) :
    decode? (α := α) (encode value ++ rest) = none := by
  have hread := readNested_print (hfaithful.tidy value) hshort rest
  have hitem : Item.decode? (encode value ++ rest) = none := by
    rw [Item.decode?, encode, hread]
    cases rest with
    | nil => exact absurd rfl hrest
    | cons byte rest => rfl
  rw [decode?, hitem]
  rfl

/-- Nothing travels as no bytes. -/
theorem encode_ne_nil {α : Type} [Payload α] (value : α) : encode value ≠ [] :=
  List.ne_nil_of_length_pos (Payload.codec.write value).print_length_pos

-- =========================================================== lengths

namespace Item

theorem length_head_of_small {argument : Nat} (hsmall : argument < 24) (kind : Nat) :
    (head kind argument).length = 1 := by
  rw [head, if_pos hsmall]
  rfl

/-- A head is its first byte and the fewest of one, two, four or eight bytes
that hold the argument. -/
theorem length_head_le {argument : Nat} (width : Nat) (hwidth : width ∈ [1, 2, 4, 8])
    (hfits : argument < 256 ^ width) (kind : Nat) :
    (head kind argument).length ≤ 1 + width := by
  have hcases : width = 1 ∨ width = 2 ∨ width = 4 ∨ width = 8 := by simpa using hwidth
  unfold head
  split
  · exact Nat.le_add_right ..
  · split
    · rw [List.length_cons, length_bigEndianBytes]
      omega
    next hbyte =>
      have hnotOne : width ≠ 1 := by
        rintro rfl
        exact hbyte hfits
      split
      · rw [List.length_cons, length_bigEndianBytes]
        omega
      next hword =>
        have hnotTwo : width ≠ 2 := by
          rintro rfl
          exact hword hfits
        split
        · rw [List.length_cons, length_bigEndianBytes]
          omega
        next hlong =>
          have hnotFour : width ≠ 4 := by
            rintro rfl
            exact hlong hfits
          rw [List.length_cons, length_bigEndianBytes]
          omega

end Item

namespace Codec

theorem length_word8_le (value : UInt8) : (word8.write value).print.length ≤ 2 := by
  refine Item.length_head_le 1 (by decide) ?_ 0
  rw [UInt8.toNat_toUInt64]
  exact value.toNat_lt

theorem length_word16_le (value : UInt16) : (word16.write value).print.length ≤ 3 := by
  refine Item.length_head_le 2 (by decide) ?_ 0
  rw [UInt16.toNat_toUInt64]
  exact value.toNat_lt

theorem length_word32_le (value : UInt32) : (word32.write value).print.length ≤ 5 := by
  refine Item.length_head_le 4 (by decide) ?_ 0
  rw [UInt32.toNat_toUInt64]
  exact value.toNat_lt

theorem length_word64_le (value : UInt64) : (word64.write value).print.length ≤ 9 :=
  Item.length_head_le 8 (by decide) value.toNat_lt 0

/-- Bytes have their head in front of them, and nothing else. -/
theorem length_bytes_le_of_width {content : Bytes} (width : Nat) (hwidth : width ∈ [1, 2, 4, 8])
    (hfits : content.length < 256 ^ width) :
    (bytes.write content).print.length ≤ 1 + width + content.length := by
  have hhead := Item.length_head_le width hwidth hfits 2
  show (Item.head 2 content.length ++ content).length ≤ 1 + width + content.length
  rw [List.length_append]
  omega

/-- Bytes that a sixteen-bit length describes have a head of three bytes at
most. -/
theorem length_bytes_le {content : Bytes} (hfits : content.length < 256 ^ 2) :
    (bytes.write content).print.length ≤ 3 + content.length :=
  length_bytes_le_of_width 2 (by decide) hfits

end Codec

/-- How many bytes the fields take: each its name and what is written for it. -/
def Fields.width : {αs : List Type} → Fields αs → Row αs → Nat
  | _, .nil, _ => 0
  | _, .field name codec rest, (value, values) =>
      (Item.text name).print.length + (codec.write value).print.length + rest.width values

theorem Fields.length_printEntries_write {αs : List Type} (fields : Fields αs) (row : Row αs) :
    (Item.printEntries (fields.write row)).length = fields.width row := by
  induction fields with
  | nil => rfl
  | field name codec rest ih =>
      obtain ⟨value, values⟩ := row
      rw [write, Item.printEntries, width, List.length_append, List.length_append, ih,
        Nat.add_assoc]

/-- A record of a few fields takes a byte besides them. -/
theorem Codec.length_record {αs : List Type} {α : Type} (fields : Fields αs)
    (toRow : α → Row αs) (ofRow : Row αs → α) (value : α)
    (hfew : (fields.write (toRow value)).length < 24) :
    ((record fields toRow ofRow).write value).print.length
      = 1 + fields.width (toRow value) := by
  show (Item.head 5 (fields.write (toRow value)).length
    ++ Item.printEntries (fields.write (toRow value))).length = _
  rw [List.length_append, Fields.length_printEntries_write, Item.length_head_of_small hfew]

end Luminaire.Cbor
