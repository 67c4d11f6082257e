/-
The form in which a private Ed25519 key is stored (RFC 5958, RFC 8410).

A key is a sequence of a version, the algorithm, the secret, and further
fields that carry context tags. Field 0 holds attributes, field 1 the
public key; the version tells whether the public key is there, and it must
be the one that belongs to the secret. Attributes and later fields are not
looked into.
-/
import Luminaire.Curve.Ed25519
import Luminaire.Identity.Der

namespace Luminaire.PrivateKey

open Der

def sequenceTag : UInt8 := 0x30
def integerTag : UInt8 := 0x02
def octetsTag : UInt8 := 0x04

/-- The algorithm of every key: the object identifier 1.3.101.112 and no
parameters. -/
def algorithm : Element := ⟨sequenceTag, [0x06, 0x03, 0x2b, 0x65, 0x70]⟩

/-- The number of a field with a context tag. -/
def fieldNumber? (element : Element) : Option UInt8 :=
  if element.tag &&& 0xc0 = 0x80 then some (element.tag &&& 0x1f) else none

/-- Whether a later field is whole: one element in a wrapping of its own. -/
def isExtension (element : Element) : Bool :=
  element.tag &&& 0xe0 = 0xa0 && (element? element.contents).isSome

/-- The public key among the fields after the secret; `some none` where
there is none. It is a string of whole bytes, and so starts with a zero. -/
def publicKeyOf? (fields : List Element) : Option (Option Bytes) :=
  match fields.dropWhile fun field => fieldNumber? field = some 0 with
  | [] => some none
  | field :: later =>
      if fieldNumber? field = some 1 then
        match field.contents with
        | 0 :: key => if field.tag = 0x81 && later.all isExtension then some (some key) else none
        | _ => none
      else if (field :: later).all isExtension then some none
      else none

/-- The secret in the element that holds it: a string of 32 bytes, wrapped
in another. -/
def seedIn? (element : Element) : Option Bytes :=
  if element.tag = octetsTag then
    match element? element.contents with
    | some ⟨tag, seed⟩ => if tag = octetsTag && seed.length = 32 then some seed else none
    | none => none
  else none

/-- Whether the version announces a public key: 1 does, 0 does not. -/
def announcesPublicKey? (element : Element) : Option Bool :=
  if element = ⟨integerTag, [0]⟩ then some false
  else if element = ⟨integerTag, [1]⟩ then some true
  else none

/-- The secret in a stored key. -/
def seed? (form : Bytes) : Option Bytes := do
  let outer ← element? form
  if outer.tag ≠ sequenceTag then none
  match ← elements? outer.contents with
  | version :: kind :: secret :: fields =>
      let announced ← announcesPublicKey? version
      let seed ← seedIn? secret
      let publicKey ← publicKeyOf? fields
      let expected := if announced then some (Ed25519.publicKey seed) else none
      if kind = algorithm ∧ publicKey = expected then some seed else none
  | _ => none

end Luminaire.PrivateKey
