/-
Network addresses and their text.

IPv4 is four decimal numbers. IPv6 is eight groups of hexadecimal digits,
the first longest run of two or more zero groups left out; an address
that embeds an IPv4 one shows it as such.
-/
import Luminaire.Bytes

namespace Luminaire

inductive IpAddress where
  | v4 (octets : Vector UInt8 4)
  | v6 (octets : Vector UInt8 16)
  deriving DecidableEq, Repr

/-- An address and a port. -/
structure SocketAddress where
  ip : IpAddress
  port : UInt16
  deriving DecidableEq, Repr

namespace IpAddress

/-- The bytes of an IPv4 address, in the order they are written. -/
def quad (a b c d : UInt8) : Vector UInt8 4 := #v[a, b, c, d]

def ofOctets (a b c d : UInt8) : IpAddress := .v4 (quad a b c d)

/-- The address that stands for every local one, in either family. -/
def anyV4 : IpAddress := .v4 (.replicate 4 0)

def anyV6 : IpAddress := .v6 (.replicate 16 0)

def loopback : IpAddress := ofOctets 127 0 0 1

/-- The bytes of the address. -/
def octets : IpAddress → Bytes
  | .v4 octets => octets.toList
  | .v6 octets => octets.toList

def isV4 : IpAddress → Bool
  | .v4 _ => true
  | .v6 _ => false

/-- Whether the address names a group of receivers. -/
def isMulticast : IpAddress → Bool
  | .v4 octets => 224 ≤ octets[0].toNat && octets[0].toNat ≤ 239
  | .v6 octets => octets[0] == 0xff

-- ============================================================ text

/-- Four decimal numbers. -/
def dotted (octets : Bytes) : String :=
  String.intercalate "." (octets.map fun octet => toString octet.toNat)

/-- The groups of two bytes. -/
def groups : Bytes → List Nat
  | high :: low :: rest => (256 * high.toNat + low.toNat) :: groups rest
  | _ => []

/-- Groups of hexadecimal digits between colons. -/
def groupText (groups : List Nat) : String :=
  String.intercalate ":" (groups.map fun group => String.ofList (Nat.toDigits 16 group))

/-- How many of the groups from `start` on are zero before one is not. -/
def zeroRun (groups : List Nat) (start : Nat) : Nat :=
  ((groups.drop start).takeWhile (· == 0)).length

/-- Start and length of the first longest run of zero groups. -/
def longestZeroRun (groups : List Nat) : Nat × Nat :=
  (List.range groups.length).foldl (fun best start =>
    if best.2 < zeroRun groups start then (start, zeroRun groups start) else best) (0, 0)

/-- Whether eight groups embed an IPv4 address. -/
def embedsV4 (groups : List Nat) : Bool :=
  groups.take 6 == [0, 0, 0, 0, 0, 0xffff]

def toString : IpAddress → String
  | .v4 octets => dotted octets.toList
  | .v6 octets =>
      let groups := groups octets.toList
      if embedsV4 groups then "::ffff:" ++ dotted (octets.toList.drop 12)
      else
        let (start, length) := longestZeroRun groups
        if 1 < length then
          groupText (groups.take start) ++ "::" ++ groupText (groups.drop (start + length))
        else groupText groups

end IpAddress

namespace SocketAddress

def toString (address : SocketAddress) : String :=
  let port := ToString.toString address.port.toNat
  match address.ip with
  | .v4 _ => address.ip.toString ++ ":" ++ port
  | .v6 _ => "[" ++ address.ip.toString ++ "]:" ++ port

/-- The address to bind for reaching a peer: any, in the peer's family. -/
def unspecifiedFor (peer : SocketAddress) : SocketAddress :=
  match peer.ip with
  | .v4 _ => ⟨.anyV4, 0⟩
  | .v6 _ => ⟨.anyV6, 0⟩

end SocketAddress

end Luminaire
