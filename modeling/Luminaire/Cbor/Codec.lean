/-
Typed values as CBOR items.

A `Codec` writes a value as an item and reads it back. Reading accepts
more than writing produces: tags are skipped, integers may have any
width, byte strings stand for text and text for byte strings, and a
record may come as a map by name or by position, or as an array.

Every codec built here is lawful: what it writes reads back as the same
value.
-/
import Luminaire.Cbor.Reader

namespace Luminaire.Cbor

/-- A way to write values as items and to read them back. -/
structure Codec (α : Type) where
  write : α → Item
  read : Item → Option α
  /-- The value of a field that a map leaves out, if it may. -/
  absent : Option α

namespace Codec

/-- What is written reads back. -/
def Lawful {α : Type} (codec : Codec α) : Prop :=
  ∀ value, codec.read (codec.write value) = some value

-- ======================================================== integers

/-- The unsigned number an item holds, of any width. -/
def number? (item : Item) : Option Nat :=
  match item.bare with
  | .unsigned value => some value.toNat
  | _ => none

/-- A number below a bound. -/
def bounded? (bound : Nat) (item : Item) : Option Nat :=
  match number? item with
  | some value => if value < bound then some value else none
  | none => none

def word8 : Codec UInt8 where
  write value := .unsigned value.toUInt64
  read item := (bounded? UInt8.size item).map Nat.toUInt8
  absent := none

def word16 : Codec UInt16 where
  write value := .unsigned value.toUInt64
  read item := (bounded? UInt16.size item).map Nat.toUInt16
  absent := none

def word32 : Codec UInt32 where
  write value := .unsigned value.toUInt64
  read item := (bounded? UInt32.size item).map Nat.toUInt32
  absent := none

def word64 : Codec UInt64 where
  write value := .unsigned value
  read item := (number? item).map Nat.toUInt64
  absent := none

theorem word8_lawful : word8.Lawful := by
  intro value
  have := value.toNat_lt
  simp [word8, bounded?, number?, Item.bare, this]

theorem word16_lawful : word16.Lawful := by
  intro value
  have := value.toNat_lt
  simp [word16, bounded?, number?, Item.bare, this]

theorem word32_lawful : word32.Lawful := by
  intro value
  have := value.toNat_lt
  simp [word32, bounded?, number?, Item.bare, this]

theorem word64_lawful : word64.Lawful := by
  intro value
  simp [word64, number?, Item.bare]

def flag : Codec Bool where
  write := .bool
  read item :=
    match item.bare with
    | .bool value => some value
    | _ => none
  absent := none

theorem flag_lawful : flag.Lawful := fun _ => rfl

-- ========================================================= strings

/-- A text string; a byte string of UTF-8 will do. -/
def text : Codec String where
  write := .text
  read item :=
    match item.bare with
    | .text content => some content
    | .bytes content => utf8? content
    | _ => none
  absent := none

theorem text_lawful : text.Lawful := fun _ => rfl

/-- The values of a list of items, if each has one. -/
def readAll {α : Type} (read : Item → Option α) : List α → List Item → Option (List α)
  | done, [] => some done.reverse
  | done, item :: items =>
      match read item with
      | none => none
      | some value => readAll read (value :: done) items

theorem readAll_map {α : Type} {read : Item → Option α} {write : α → Item}
    (reads : ∀ value, read (write value) = some value) (done values : List α) :
    readAll read done (values.map write) = some (done.reverse ++ values) := by
  induction values generalizing done with
  | nil => simp [readAll]
  | cons value values ih => simp [readAll, reads, ih]

/-- A byte string; text or an array of small numbers will do. -/
def bytes : Codec Bytes where
  write := .bytes
  read item :=
    match item.bare with
    | .bytes content => some content
    | .text content => some (utf8 content)
    | .array items => readAll word8.read [] items
    | _ => none
  absent := none

theorem bytes_lawful : bytes.Lawful := fun _ => rfl

-- =========================================================== shapes

/-- A list of values: an array, nothing else. -/
def list {α : Type} (codec : Codec α) : Codec (List α) where
  write values := .array (values.map codec.write)
  read item :=
    match item.bare with
    | .array items => readAll codec.read [] items
    | _ => none
  absent := none

theorem list_lawful {α : Type} {codec : Codec α} (lawful : codec.Lawful) :
    (list codec).Lawful := by
  intro values
  simp [list, Item.bare, readAll_map lawful]

/-- A value or null. The null may not be tagged; a map may leave it out. -/
def optional {α : Type} (codec : Codec α) : Codec (Option α) where
  write
    | none => .null
    | some value => codec.write value
  read item :=
    match item with
    | .null => some none
    | item => (codec.read item).map some
  absent := some none

/-- A codec whose values are never written as null. -/
def NeverNull {α : Type} (codec : Codec α) : Prop :=
  ∀ value, codec.write value ≠ .null

theorem optional_lawful {α : Type} {codec : Codec α} (lawful : codec.Lawful)
    (neverNull : codec.NeverNull) : (optional codec).Lawful := by
  intro value
  cases value with
  | none => rfl
  | some value =>
      have read := lawful value
      have notNull := neverNull value
      simp only [optional]
      revert read notNull
      cases codec.write value <;> simp +contextual

/-- Values of `β` written as values of `α`. -/
def refine {α β : Type} (codec : Codec α) (toWritten : β → α) (ofWritten? : α → Option β) :
    Codec β where
  write value := codec.write (toWritten value)
  read item := (codec.read item).bind ofWritten?
  absent := codec.absent.bind ofWritten?

theorem refine_lawful {α β : Type} {codec : Codec α} (lawful : codec.Lawful)
    {toWritten : β → α} {ofWritten? : α → Option β}
    (inverse : ∀ value, ofWritten? (toWritten value) = some value) :
    (refine codec toWritten ofWritten?).Lawful := by
  intro value
  simp [refine, lawful (toWritten value), inverse]

-- ============================================================ names

/-- Whether an item names the `index`-th of some names: by the name as text
or bytes, or by position. -/
def names (item : Item) (name : String) (index : Nat) : Bool :=
  match item.bare with
  | .text content => content == name
  | .bytes content => content == utf8 name
  | .unsigned value => value.toNat == index
  | _ => false

/-- Whether an item can be a name at all. -/
def isName (item : Item) : Bool :=
  match item.bare with
  | .text _ | .bytes _ | .unsigned _ => true
  | _ => false

end Codec

end Luminaire.Cbor
