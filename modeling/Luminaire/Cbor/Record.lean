/-
Records and choices as CBOR.

A record is written as a map from field names to values, in the order the
fields are declared. It may be read from a map, by name or position and
in any order, or from an array of all fields in order. A field named
twice, or missing without being optional, makes the record unreadable;
names it does not have are passed over with their values.

A choice between variants is written as its name when it carries nothing,
and as a one-pair map from its name to what it carries otherwise.
-/
import Luminaire.Cbor.Codec

namespace Luminaire.Cbor

/-- Values of a list of types, one each. -/
def Row : List Type → Type
  | [] => Unit
  | α :: αs => α × Row αs

/-- The fields of a record: a name and a codec each. -/
inductive Fields : List Type → Type 1 where
  | nil : Fields []
  | field {α : Type} {αs : List Type} (name : String) (codec : Codec α) (rest : Fields αs) :
      Fields (α :: αs)

namespace Fields

/-- Every field's codec is lawful. -/
def Lawful : {αs : List Type} → Fields αs → Prop
  | _, .nil => True
  | _, .field _ codec rest => codec.Lawful ∧ rest.Lawful

/-- The names of the fields, in order. -/
def fieldNames : {αs : List Type} → Fields αs → List String
  | _, .nil => []
  | _, .field name _ rest => name :: rest.fieldNames

/-- A pair of name and value for each field. -/
def write : {αs : List Type} → Fields αs → Row αs → List (Item × Item)
  | _, .nil, _ => []
  | _, .field name codec rest, (value, values) =>
      (.text name, codec.write value) :: rest.write values

/-- The values of an array that holds exactly the fields. -/
def readItems : {αs : List Type} → Fields αs → List Item → Option (Row αs)
  | _, .nil, [] => some ()
  | _, .field _ codec rest, item :: items =>
      match codec.read item, rest.readItems items with
      | some value, some values => some (value, values)
      | _, _ => none
  | _, _, _ => none

/-- What the entries of a map say about the `index`-th field. -/
def readField {α : Type} (name : String) (codec : Codec α) (index : Nat)
    (entries : List (Item × Item)) : Option α :=
  match entries.filter fun entry => Codec.names entry.1 name index with
  | [] => codec.absent
  | [(_, value)] => codec.read value
  | _ => none

/-- The values of a map's entries, for fields numbered from `index`. -/
def readEntries : {αs : List Type} → Fields αs → (index : Nat) → List (Item × Item) →
    Option (Row αs)
  | _, .nil, _, _ => some ()
  | _, .field name codec rest, index, entries =>
      match readField name codec index entries, rest.readEntries (index + 1) entries with
      | some value, some values => some (value, values)
      | _, _ => none

end Fields

namespace Codec

/-- The codec of a type whose values are rows of fields. -/
def record {αs : List Type} {α : Type} (fields : Fields αs) (toRow : α → Row αs)
    (ofRow : Row αs → α) : Codec α where
  write value := .mapOf (fields.write (toRow value))
  read item :=
    match item.bare with
    | .array items => (fields.readItems items).map ofRow
    | .map _ entries =>
        if entries.all fun entry => isName entry.1 then
          (fields.readEntries 0 entries).map ofRow
        else none
    | _ => none
  absent := none

/-- The `index`-th of some variants by its name or position. -/
def variant? (variants : List String) (item : Item) : Option Nat :=
  (List.range variants.length).find? fun index => names item (variants.getD index "") index

/-- Whether an item is null or undefined. -/
def isNothing (item : Item) : Bool :=
  match item.bare with
  | .null | .undefined => true
  | _ => false

/-- A choice that carries nothing, by its position among the names. -/
def choice (variants : List String) : Codec Nat where
  write index := .text (variants.getD index "")
  read
    | .map true [(name, value)] => if isNothing value then variant? variants name else none
    | .array [name, value] => if isNothing value then variant? variants name else none
    | item => variant? variants item
  absent := none

/-- The name of a variant and the item it carries: a map announced as one
pair or an array of two. A tag in front is not passed over. -/
def carried? (variants : List String) (item : Item) : Option (Nat × Item) :=
  match item with
  | .map true [(name, value)] => (variant? variants name).map (·, value)
  | .array [name, value] => (variant? variants name).map (·, value)
  | _ => none

end Codec

-- ========================================================== payloads

/-- A type that travels as CBOR. -/
class Payload (α : Type) where
  codec : Codec α

/-- The bytes a value travels as. -/
def encode {α : Type} [Payload α] (value : α) : Bytes := (Payload.codec.write value).print

/-- The value whole bytes spell. -/
def decode? {α : Type} [Payload α] (bytes : Bytes) : Option α :=
  (Item.decode? bytes).bind Payload.codec.read

end Luminaire.Cbor
