/-
Base64 (RFC 4648) as it stands in armoured files: broken over lines, and
with or without its padding.
-/
import Luminaire.Bytes

namespace Luminaire.Base64

/-- The value of a digit. -/
def value? (byte : UInt8) : Option Nat :=
  let code := byte.toNat
  if 65 ≤ code ∧ code ≤ 90 then some (code - 65)
  else if 97 ≤ code ∧ code ≤ 122 then some (code - 71)
  else if 48 ≤ code ∧ code ≤ 57 then some (code + 4)
  else if code = 43 then some 62
  else if code = 47 then some 63
  else none

/-- Spaces may stand between digits, and so may what moves the print
position: tabs and the ends of lines and pages. -/
def isBlank (byte : UInt8) : Bool :=
  byte = 32 || (9 ≤ byte && byte ≤ 13)

/-- The character that fills up the last group. -/
def pad : UInt8 := 61

/-- The bytes that groups of four digits spell. A last group of three
spells two bytes and one of two spells one; the bits left over are not
looked at. -/
def bytesOf? : List Nat → Option Bytes
  | [] => some []
  | a :: b :: c :: d :: rest =>
      (bytesOf? rest).map (bigEndianBytes 3 (((a * 64 + b) * 64 + c) * 64 + d) ++ ·)
  | [a, b, c] => some (bigEndianBytes 2 (((a * 64 + b) * 64 + c) / 4))
  | [a, b] => some (bigEndianBytes 1 ((a * 64 + b) / 16))
  | [_] => none

/-- The bytes a text spells. Padding is left out altogether or fills the
last group. -/
def decode? (text : Bytes) : Option Bytes :=
  let marks := text.filter fun byte => !isBlank byte
  let digits := marks.takeWhile (· ≠ pad)
  let padding := marks.drop digits.length
  if padding.all (· = pad) && (padding.isEmpty || (marks.length % 4 = 0 && padding.length ≤ 2)) then
    (digits.mapM value?).bind bytesOf?
  else
    none

end Luminaire.Base64
