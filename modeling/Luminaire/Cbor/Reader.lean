/-
Reading CBOR: one well-formed item, whatever the width of its heads,
with definite or indefinite lengths, nested to a limited depth.

Refused are the head bytes the format leaves unassigned, one-byte simple
values, a break outside an indefinite item, chunks of another kind, text
that is not UTF-8, and anything longer than its input.
-/
import Luminaire.Cbor.Item

namespace Luminaire.Cbor

/-- What the head of an item announces. -/
structure Head where
  /-- The kind of item, 0 to 7. -/
  kind : Nat
  /-- The low five bits of the first byte. -/
  info : Nat
  /-- The argument; none when the length is left open. -/
  argument : Option Nat

/-- How many bytes of argument follow a head byte with these low bits. -/
def argumentWidth? (info : Nat) : Option Nat :=
  match info with
  | 24 => some 1
  | 25 => some 2
  | 26 => some 4
  | 27 => some 8
  | _ => none

def readHead : Bytes → Option (Head × Bytes)
  | [] => none
  | first :: rest =>
      let kind := first.toNat / 32
      let info := first.toNat % 32
      if info < 24 then
        some (⟨kind, info, some info⟩, rest)
      else if info = 31 then
        some (⟨kind, info, none⟩, rest)
      else
        match argumentWidth? info with
        | none => none
        | some width =>
            match split? width rest with
            | none => none
            | some (digits, rest) => some (⟨kind, info, some (bigEndian digits)⟩, rest)

-- ======================================================== sequences

/-- Reads exactly `count` things. -/
def readMany {α : Type} (read : Bytes → Option (α × Bytes)) :
    (count : Nat) → List α → Bytes → Option (List α × Bytes)
  | 0, done, bytes => some (done.reverse, bytes)
  | count + 1, done, bytes =>
      match read bytes with
      | none => none
      | some (value, rest) => readMany read count (value :: done) rest

/-- Reads things up to a break byte; `limit` bounds how many there can be. -/
def readUntilBreak {α : Type} (read : Bytes → Option (α × Bytes)) :
    (limit : Nat) → List α → Bytes → Option (List α × Bytes)
  | 0, _, _ => none
  | limit + 1, done, bytes =>
      match bytes with
      | 0xff :: rest => some (done.reverse, rest)
      | _ =>
          match read bytes with
          | none => none
          | some (value, rest) => readUntilBreak read limit (value :: done) rest

/-- Reads as many things as a head announces. -/
def readCounted {α : Type} (read : Bytes → Option (α × Bytes)) (count : Option Nat)
    (bytes : Bytes) : Option (List α × Bytes) :=
  match count with
  | some count => readMany read count [] bytes
  | none => readUntilBreak read bytes.length [] bytes

/-- Reads a key and its value. -/
def readEntry (read : Bytes → Option (Item × Bytes)) (bytes : Bytes) :
    Option ((Item × Item) × Bytes) :=
  match read bytes with
  | none => none
  | some (key, rest) =>
      match read rest with
      | none => none
      | some (value, rest) => some ((key, value), rest)

/-- Reads one chunk of a string of the given kind. -/
def readChunk (kind : Nat) (bytes : Bytes) : Option (Bytes × Bytes) :=
  match readHead bytes with
  | some (⟨found, _, some length⟩, rest) => if found = kind then split? length rest else none
  | _ => none

/-- Reads the content of a string, in one piece or in chunks. -/
def readString (kind : Nat) (length : Option Nat) (bytes : Bytes) : Option (Bytes × Bytes) :=
  match length with
  | some length => split? length bytes
  | none =>
      (readUntilBreak (readChunk kind) bytes.length [] bytes).map fun (chunks, rest) =>
        (chunks.flatten, rest)

-- ============================================================ items

/-- Reads one item. `inner` reads what it contains; there is none at the
depth limit. -/
def readItem (inner : Option (Bytes → Option (Item × Bytes))) (bytes : Bytes) :
    Option (Item × Bytes) :=
  match readHead bytes with
  | none => none
  | some (head, rest) =>
      match head.kind, head.argument, inner with
      | 0, some value, _ => some (.unsigned value.toUInt64, rest)
      | 1, some value, _ => some (.negative value.toUInt64, rest)
      | 2, length, _ => (readString 2 length rest).map fun (content, rest) => (.bytes content, rest)
      | 3, length, _ =>
          match readString 3 length rest with
          | none => none
          | some (content, rest) => (utf8? content).map fun text => (.text text, rest)
      | 4, count, some inner =>
          (readCounted inner count rest).map fun (items, rest) => (.array items, rest)
      | 5, count, some inner =>
          (readCounted (readEntry inner) count rest).map fun (entries, rest) =>
            (.map (head.info == 1) entries, rest)
      | 6, some number, some inner =>
          (inner rest).map fun (item, rest) => (.tagged number.toUInt64 item, rest)
      | 7, some argument, _ =>
          match head.info with
          | 20 => some (.bool false, rest)
          | 21 => some (.bool true, rest)
          | 22 => some (.null, rest)
          | 23 => some (.undefined, rest)
          | 25 => some (.float (bigEndianBytes 2 argument), rest)
          | 26 => some (.float (bigEndianBytes 4 argument), rest)
          | 27 => some (.float (bigEndianBytes 8 argument), rest)
          | _ => none
      | _, _, _ => none

/-- Reads one item with at most `depth` levels of nesting. -/
def readNested : (depth : Nat) → Bytes → Option (Item × Bytes)
  | 0 => readItem none
  | depth + 1 => readItem (some (readNested depth))

/-- Arrays, maps and tags may nest this deep. -/
def depthLimit : Nat := 127

/-- The item a whole byte string spells. -/
def Item.decode? (bytes : Bytes) : Option Item :=
  match readNested depthLimit bytes with
  | some (item, []) => some item
  | _ => none

end Luminaire.Cbor
