/-
Reading addresses from text.

A decimal octet has at most three digits and no needless zero in front.
An IPv6 group has at most four digits; `::` stands for at least one group
and may appear once; the last two groups may be written as IPv4, unless
`::` follows them.
-/
import Luminaire.Net.Address
import Luminaire.Text.Hex

namespace Luminaire

namespace AddressText

/-- The leading digits in a base up to sixteen, and what follows them. -/
def digits (base : Nat) : List Char → List Nat × List Char
  | [] => ([], [])
  | c :: rest =>
      match hexValue? c with
      | some digit =>
          if digit < base then
            let (more, rest) := digits base rest
            (digit :: more, rest)
          else ([], c :: rest)
      | none => ([], c :: rest)

/-- A number of at least one and at most `most` digits, below `bound`. -/
def number? (base : Nat) (most : Option Nat) (leadingZero : Bool) (bound : Nat)
    (text : List Char) : Option (Nat × List Char) :=
  let (found, rest) := digits base text
  let value := found.foldl (fun value digit => base * value + digit) 0
  let tooLong := match most with
    | some most => decide (most < found.length)
    | none => false
  let needlessZero := !leadingZero && decide (1 < found.length) && found.head? == some 0
  if found.isEmpty || tooLong || needlessZero || decide (bound ≤ value) then none
  else some (value, rest)

def char? (expected : Char) : List Char → Option (List Char)
  | [] => none
  | c :: rest => if c = expected then some rest else none

private def octet? (text : List Char) : Option (UInt8 × List Char) :=
  (number? 10 (some 3) false 256 text).map fun (value, rest) => (value.toUInt8, rest)

private def dottedOctet? (text : List Char) : Option (UInt8 × List Char) :=
  (char? '.' text).bind octet?

def v4? (text : List Char) : Option (Vector UInt8 4 × List Char) :=
  match octet? text with
  | none => none
  | some (a, rest) =>
      match dottedOctet? rest with
      | none => none
      | some (b, rest) =>
          match dottedOctet? rest with
          | none => none
          | some (c, rest) =>
              match dottedOctet? rest with
              | none => none
              | some (d, rest) => some (IpAddress.quad a b c d, rest)

/-- What a run of groups comes to: the groups, whether they end in an
embedded IPv4 address, and the text behind them. -/
structure Groups where
  found : List Nat
  endsInV4 : Bool
  rest : List Char

/-- Reads up to `room` groups; a colon goes before each but the first. -/
def groups : (room : Nat) → (first : Bool) → List Char → Groups
  | 0, _, text => ⟨[], false, text⟩
  | room + 1, first, text =>
      let separated := if first then some text else char? ':' text
      let embedded := if 0 < room then separated.bind v4? else none
      match embedded with
      | some (octets, rest) =>
          ⟨[256 * octets[0].toNat + octets[1].toNat, 256 * octets[2].toNat + octets[3].toNat],
            true, rest⟩
      | none =>
          match separated.bind (number? 16 (some 4) true 65536) with
          | none => ⟨[], false, text⟩
          | some (group, rest) =>
              let more := groups room false rest
              ⟨group :: more.found, more.endsInV4, more.rest⟩

/-- The address made of eight groups. -/
def ofGroups (groups : List Nat) : Vector UInt8 16 :=
  .ofFn fun i => (groups.getD (i.val / 2) 0 / (if i.val % 2 = 0 then 256 else 1)).toUInt8

def v6? (text : List Char) : Option (Vector UInt8 16 × List Char) :=
  let front := groups 8 true text
  if front.found.length = 8 then some (ofGroups front.found, front.rest)
  else if front.endsInV4 then none
  else
    match (char? ':' front.rest).bind (char? ':') with
    | none => none
    | some rest =>
        let back := groups (7 - front.found.length) true rest
        let missing := 8 - front.found.length - back.found.length
        some (ofGroups (front.found ++ List.replicate missing 0 ++ back.found), back.rest)

/-- A scope behind an IPv6 address, which is read and forgotten. -/
def scope? (text : List Char) : List Char :=
  match (char? '%' text).bind (number? 10 none true UInt32.size) with
  | some (_, rest) => rest
  | none => text

private def port? (text : List Char) : Option (UInt16 × List Char) :=
  ((char? ':' text).bind (number? 10 none true 65536)).map fun (value, rest) =>
    (value.toUInt16, rest)

end AddressText

open AddressText

/-- The address a whole text spells. -/
def IpAddress.ofString? (text : String) : Option IpAddress :=
  match v4? text.toList with
  | some (octets, []) => some (.v4 octets)
  | some _ => none
  | none =>
      match v6? text.toList with
      | some (octets, []) => some (.v6 octets)
      | _ => none

/-- The address and port a whole text spells; IPv6 goes in brackets. -/
def SocketAddress.ofString? (text : String) : Option SocketAddress :=
  match v4? text.toList with
  | some (octets, rest) =>
      match port? rest with
      | some (port, []) => some ⟨.v4 octets, port⟩
      | _ => none
  | none =>
      match (char? '[' text.toList).bind v6? with
      | none => none
      | some (octets, rest) =>
          match (char? ']' (scope? rest)).bind port? with
          | some (port, []) => some ⟨.v6 octets, port⟩
          | _ => none

end Luminaire
