/-
Lower-case hexadecimal text.
-/
import Luminaire.Bytes

namespace Luminaire

/-- The character for a digit below sixteen. -/
def hexDigit (digit : Nat) : Char :=
  if digit < 10 then Char.ofNat (48 + digit) else Char.ofNat (87 + digit)

/-- The value of a hexadecimal digit in either case. -/
def hexValue? (c : Char) : Option Nat :=
  if '0' ≤ c ∧ c ≤ '9' then some (c.toNat - 48)
  else if 'a' ≤ c ∧ c ≤ 'f' then some (c.toNat - 87)
  else if 'A' ≤ c ∧ c ≤ 'F' then some (c.toNat - 55)
  else none

/-- Two digits per byte. -/
def hexChars (bytes : Bytes) : List Char :=
  bytes.flatMap fun byte => [hexDigit (byte.toNat / 16), hexDigit (byte.toNat % 16)]

def hex (bytes : Bytes) : String := String.ofList (hexChars bytes)

/-- The bytes spelled by pairs of digits; an odd digit or any other
character spells nothing. -/
def unhexChars? : List Char → Option Bytes
  | [] => some []
  | [_] => none
  | high :: low :: rest =>
      match hexValue? high, hexValue? low, unhexChars? rest with
      | some high, some low, some rest => some ((16 * high + low).toUInt8 :: rest)
      | _, _, _ => none

/-- A byte as `0x` and two digits. -/
def prefixedHex (byte : UInt8) : String := "0x" ++ hex [byte]

end Luminaire
