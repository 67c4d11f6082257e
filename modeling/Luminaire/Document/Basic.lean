/-
Reading values out of JSON documents and writing values as documents.

What a document leaves out has a value all the same: zero, the empty text,
no bytes, no items. Byte strings are given as hexadecimal digits, as a
text, as a run of one byte, or as a list of such pieces. They are written
as digits; a long one is only summed up, by its length, its first bytes
and its digest.
-/
import Luminaire.Digest.Sha2
import Luminaire.Json.Value
import Luminaire.Text.Hex
import Luminaire.Text.Utf8

namespace Luminaire.Json

-- ========================================================== reading

/-- The value an object has under a key, or null. -/
def field (document : Json) (key : String) : Json :=
  match document with
  | .object entries => (entries.lookup (some key)).getD .null
  | _ => .null

/-- Whether a document says nothing. -/
def isNull : Json → Bool
  | .null => true
  | _ => false

/-- Whether an object has a value under a key. -/
def given (document : Json) (key : String) : Bool := !(document.field key).isNull

/-- The value under a key, read if it is given. -/
def ifGiven {α : Type} (document : Json) (key : String) (read : Json → Option α) :
    Option (Option α) :=
  if document.given key then (read (document.field key)).map some else some none

def integer? : Json → Option Int
  | .null => some 0
  | .whole value => some value
  | .belowZero distance => some (-distance)
  | _ => none

/-- A number; below zero there is nothing. -/
def number? (document : Json) : Option Nat := document.integer?.map Int.toNat

def text? : Json → Option String
  | .null => some ""
  | .string content => content
  | _ => none

def isTrue : Json → Bool
  | .bool value => value
  | _ => false

def items : Json → List Json
  | .array items => items
  | _ => []

def numberAt (document : Json) (key : String) : Option Nat := (document.field key).number?

def textAt (document : Json) (key : String) : Option String := (document.field key).text?

def itemsAt (document : Json) (key : String) : List Json := (document.field key).items

def word8 (document : Json) (key : String) : Option UInt8 := (document.numberAt key).map Nat.toUInt8

def word16 (document : Json) (key : String) : Option UInt16 :=
  (document.numberAt key).map Nat.toUInt16

def word32 (document : Json) (key : String) : Option UInt32 :=
  (document.numberAt key).map Nat.toUInt32

def word64 (document : Json) (key : String) : Option UInt64 :=
  (document.numberAt key).map Nat.toUInt64

mutual

def bytes? : Json → Option Bytes
  | .null => some []
  | .string content => content.bind fun digits => unhexChars? digits.toList
  | .array pieces => joined? pieces
  | document =>
      if document.given "text" then (document.textAt "text").map utf8
      else
        match document.word8 "fill", document.numberAt "len" with
        | some byte, some length =>
            if length < addressableBytes then some (List.replicate length byte) else none
        | _, _ => none

/-- The bytes of several pieces. -/
def joined? : List Json → Option Bytes
  | [] => some []
  | piece :: pieces =>
      match bytes? piece, joined? pieces with
      | some front, some back => some (front ++ back)
      | _, _ => none

end

def bytesAt (document : Json) (key : String) : Option Bytes := (document.field key).bytes?

/-- The bytes under a key that has room for exactly so many. -/
def fixedBytesAt (document : Json) (key : String) (width : Nat) : Option Bytes :=
  (document.bytesAt key).filter fun bytes => bytes.length = width

-- ========================================================== writing

def ofWord32 (value : UInt32) : Json := .whole value.toNat

def ofWord64 (value : UInt64) : Json := .whole value.toNat

def ofHex (bytes : Bytes) : Json := ofText (hex bytes)

/-- Bytes in full up to a length, summed up beyond it. -/
def ofBlob (bytes : Bytes) : Json :=
  if bytes.length ≤ 512 then ofHex bytes
  else
    ofPairs [("len", .whole bytes.length), ("head", ofHex (bytes.take 32)),
      ("sha256", ofHex (sha256 bytes))]

/-- What stands for success. -/
def ok : Json := ofText "ok"

end Luminaire.Json
