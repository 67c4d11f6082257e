/-
Node identifiers: sixteen bytes, written as hyphenated hexadecimal. Other
usual spellings are read as well (`ofString?`).
-/
import Luminaire.Cbor.Record
import Luminaire.Text.Hex

namespace Luminaire

structure Uuid where
  bytes : Bytes
  length_bytes : bytes.length = 16
  deriving DecidableEq

namespace Uuid

/-- The identifier made of exactly sixteen bytes. -/
def ofBytes? (bytes : Bytes) : Option Uuid :=
  if sixteen : bytes.length = 16 then some ⟨bytes, sixteen⟩ else none

theorem ofBytes?_bytes (uuid : Uuid) : ofBytes? uuid.bytes = some uuid := by
  simp [ofBytes?, uuid.length_bytes]

/-- Groups of 8, 4, 4, 4 and 12 digits. -/
def toString (uuid : Uuid) : String :=
  let group (start stop : Nat) : String := hex ((uuid.bytes.take stop).drop start)
  group 0 4 ++ "-" ++ group 4 6 ++ "-" ++ group 6 8 ++ "-" ++ group 8 10 ++ "-" ++ group 10 16

/-- The identifier that digits spell. -/
def ofDigits? (digits : List Char) : Option Uuid := (unhexChars? digits).bind ofBytes?

/-- The identifier that groups of digits spell, with hyphens in their
places and nowhere else. -/
def ofGroups? (chars : List Char) : Option Uuid :=
  if chars.length = 36 && [8, 13, 18, 23].all fun place => chars[place]? = some '-' then
    ofDigits? (chars.filter (· ≠ '-'))
  else none

/-- What stands before an identifier that is written as a name. -/
def namespaceMark : List Char := "urn:uuid:".toList

/-- The identifier a text spells: digits alone, or in groups, which may
stand in braces or behind the mark of a name. -/
def ofString? (text : String) : Option Uuid :=
  let chars := text.toList
  if chars.length = 32 then ofDigits? chars
  else if namespaceMark.isPrefixOf chars then ofGroups? (chars.drop namespaceMark.length)
  else if chars.head? = some '{' && chars.getLast? = some '}' then
    ofGroups? (chars.drop 1).dropLast
  else ofGroups? chars

/-- An identifier travels as a byte string, and nothing else stands for it. -/
def codec : Cbor.Codec Uuid where
  write uuid := .bytes uuid.bytes
  read item :=
    match item.bare with
    | .bytes content => ofBytes? content
    | _ => none
  absent := none

theorem codec_lawful : codec.Lawful := ofBytes?_bytes

end Uuid

end Luminaire
