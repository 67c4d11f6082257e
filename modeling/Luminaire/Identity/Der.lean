/-
The distinguished encoding (X.690), as far as key files need it: an
element is a tag byte, the length of its contents, and the contents.

Every value has one encoding only. A length is written in the fewest bytes
that hold it, and a tag is one of the known universal ones or any single
byte of the other classes; all else cannot be read.
-/
import Luminaire.Bytes

namespace Luminaire.Der

structure Element where
  tag : UInt8
  contents : Bytes
  deriving DecidableEq, Repr

/-- The universal tags that are known: booleans, numbers, strings, object
identifiers, times, sequences and sets. -/
def universalTags : List UInt8 :=
  [0x01, 0x02, 0x03, 0x04, 0x05, 0x06, 0x09, 0x0a, 0x0c, 0x12, 0x13, 0x14, 0x15, 0x16, 0x17, 0x18,
    0x1a, 0x1e, 0x30, 0x31]

/-- Whether an element may start with this byte. In the other classes the
number 31 would announce a tag of several bytes. -/
def isTag (byte : UInt8) : Bool :=
  if byte < 0x40 then universalTags.contains byte else byte &&& 0x1f ≠ 0x1f

/-- A length and what follows it. Below 128 it is one byte; above, a byte
tells how many bytes hold it, at most four. -/
def readLength? : Bytes → Option (Nat × Bytes)
  | [] => none
  | first :: rest =>
      if first < 0x80 then some (first.toNat, rest)
      else if first < 0x81 || 0x84 < first then none
      else
        let width := first.toNat - 0x80
        match split? width rest with
        | none => none
        | some (digits, rest) =>
            let length := bigEndian digits
            if length < 0x80 || digits.head? = some 0 then none else some (length, rest)

/-- The first element and what follows it. -/
def readElement? : Bytes → Option (Element × Bytes)
  | [] => none
  | tag :: rest =>
      if isTag tag then
        match readLength? rest with
        | none => none
        | some (length, rest) =>
            match split? length rest with
            | none => none
            | some (contents, rest) => some (⟨tag, contents⟩, rest)
      else none

theorem length_of_readLength? {bytes rest : Bytes} {length : Nat}
    (read : readLength? bytes = some (length, rest)) : rest.length < bytes.length := by
  cases bytes with
  | nil => simp [readLength?] at read
  | cons first tail =>
      simp only [readLength?] at read
      split at read
      · cases read
        simp
      · split at read
        · cases read
        · split at read
          · cases read
          · rename_i parts
            obtain ⟨rfl, _⟩ := split?_eq_some_iff.1 parts
            split at read
            · cases read
            · cases read
              simp only [List.length_cons, List.length_append]
              omega

/-- Reading an element uses bytes up. -/
theorem length_of_readElement? {bytes rest : Bytes} {element : Element}
    (read : readElement? bytes = some (element, rest)) : rest.length < bytes.length := by
  cases bytes with
  | nil => simp [readElement?] at read
  | cons tag tail =>
      simp only [readElement?] at read
      split at read
      · split at read
        · cases read
        · rename_i counted
          have shorter := length_of_readLength? counted
          split at read
          · cases read
          · rename_i parts
            obtain ⟨rfl, _⟩ := split?_eq_some_iff.1 parts
            cases read
            simp only [List.length_append] at shorter
            simp only [List.length_cons]
            omega
      · cases read

/-- The elements a byte string is made of. -/
def elements? (bytes : Bytes) : Option (List Element) :=
  if bytes.isEmpty then some []
  else
    match read : readElement? bytes with
    | none => none
    | some (element, rest) =>
        have := length_of_readElement? read
        (elements? rest).map (element :: ·)
termination_by bytes.length

/-- The one element a byte string is made of. -/
def element? (bytes : Bytes) : Option Element :=
  match readElement? bytes with
  | some (element, []) => some element
  | _ => none

end Luminaire.Der
