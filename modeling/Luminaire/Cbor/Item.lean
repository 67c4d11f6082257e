/-
CBOR data items (RFC 8949) and their shortest written form.

`Item.print` writes every length definite and every head as short as it
can be. Reading is more generous; it lives in `Cbor.Reader`.
-/
import Luminaire.Bytes
import Luminaire.Text.Utf8

namespace Luminaire.Cbor

/-- A data item. Strings that arrived in chunks are joined. -/
inductive Item where
  | unsigned (value : UInt64)
  /-- The number `-1 - value`. -/
  | negative (value : UInt64)
  | bytes (content : Bytes)
  | text (content : String)
  | array (items : List Item)
  /-- Keys and values in order. `single` tells a map that was announced as
  one pair in its head byte from all others. -/
  | map (single : Bool) (entries : List (Item × Item))
  | tagged (number : UInt64) (item : Item)
  | bool (value : Bool)
  | null
  | undefined
  /-- A number of two, four or eight bytes, kept as they are. -/
  | float (content : Bytes)

namespace Item

/-- The item behind any tags. -/
def bare : Item → Item
  | .tagged _ item => item.bare
  | item => item

/-- A map with definite length, as it reads back. -/
def mapOf (entries : List (Item × Item)) : Item :=
  .map (entries.length == 1) entries

/-- The head of an item: its kind and the shortest form of its argument. -/
def head (kind : Nat) (argument : Nat) : Bytes :=
  if argument < 24 then [(32 * kind + argument).toUInt8]
  else if argument < UInt8.size then (32 * kind + 24).toUInt8 :: bigEndianBytes 1 argument
  else if argument < UInt16.size then (32 * kind + 25).toUInt8 :: bigEndianBytes 2 argument
  else if argument < UInt32.size then (32 * kind + 26).toUInt8 :: bigEndianBytes 4 argument
  else (32 * kind + 27).toUInt8 :: bigEndianBytes 8 argument

mutual

/-- The shortest definite form of an item. -/
def print : Item → Bytes
  | .unsigned value => head 0 value.toNat
  | .negative value => head 1 value.toNat
  | .bytes content => head 2 content.length ++ content
  | .text content => head 3 (utf8 content).length ++ utf8 content
  | .array items => head 4 items.length ++ printItems items
  | .map _ entries => head 5 entries.length ++ printEntries entries
  | .tagged number item => head 6 number.toNat ++ item.print
  | .bool value => if value then [0xf5] else [0xf4]
  | .null => [0xf6]
  | .undefined => [0xf7]
  | .float content =>
      (if content.length = 2 then 0xf9 else if content.length = 4 then 0xfa else 0xfb) :: content

/-- Items one after the other. -/
def printItems : List Item → Bytes
  | [] => []
  | item :: items => item.print ++ printItems items

/-- Keys and values one after the other. -/
def printEntries : List (Item × Item) → Bytes
  | [] => []
  | (key, value) :: entries => key.print ++ (value.print ++ printEntries entries)

end

end Item

end Luminaire.Cbor
