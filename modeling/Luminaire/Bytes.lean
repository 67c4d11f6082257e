/-
Byte strings and the two ways of reading them as numbers.

Everything that crosses the network here is a list of bytes, so one
representation serves frames, records, keys and digests alike. Fixed
width integers travel big endian; the ciphers count little endian.

What the rest of the library relies on: a written number has exactly the
asked-for width, and reading it back gives the number again as long as it
fits (`bigEndian_bigEndianBytes`, `littleEndian_littleEndianBytes`).
-/

namespace Luminaire

/-- A byte string. -/
abbrev Bytes := List UInt8

/-- How many bytes can be addressed at all. Nothing of this size or above
finds room. -/
def addressableBytes : Nat := 1 <<< 63

-- ======================================================= big endian

/-- The number a byte string spells, most significant byte first. -/
def bigEndian (bytes : Bytes) : Nat :=
  bytes.foldl (fun value byte => value * 256 + byte.toNat) 0

/-- The `width` lowest bytes of a number, most significant byte first. -/
def bigEndianBytes : (width value : Nat) → Bytes
  | 0, _ => []
  | width + 1, value => bigEndianBytes width (value / 256) ++ [value.toUInt8]

@[simp] theorem length_bigEndianBytes (width value : Nat) :
    (bigEndianBytes width value).length = width := by
  induction width generalizing value with
  | zero => rfl
  | succ width ih => simp [bigEndianBytes, ih]

theorem bigEndian_append_singleton (bytes : Bytes) (byte : UInt8) :
    bigEndian (bytes ++ [byte]) = bigEndian bytes * 256 + byte.toNat := by
  simp [bigEndian]

theorem bigEndian_bigEndianBytes (width value : Nat) (fits : value < Nat.pow 256 width) :
    bigEndian (bigEndianBytes width value) = value := by
  induction width generalizing value with
  | zero =>
      have : value = 0 := by simpa using fits
      subst this
      rfl
  | succ width ih =>
      have fits : value < Nat.pow 256 width * 256 := fits
      rw [bigEndianBytes, bigEndian_append_singleton,
        ih _ ((Nat.div_lt_iff_lt_mul (by decide)).2 fits)]
      simp only [UInt8.toNat_ofNat', Nat.toUInt8]
      omega

-- ==================================================== little endian

/-- The number a byte string spells, least significant byte first. -/
def littleEndian (bytes : Bytes) : Nat :=
  bytes.foldr (fun byte value => byte.toNat + 256 * value) 0

/-- The `width` lowest bytes of a number, least significant byte first. -/
def littleEndianBytes : (width value : Nat) → Bytes
  | 0, _ => []
  | width + 1, value => value.toUInt8 :: littleEndianBytes width (value / 256)

@[simp] theorem length_littleEndianBytes (width value : Nat) :
    (littleEndianBytes width value).length = width := by
  induction width generalizing value with
  | zero => rfl
  | succ width ih => simp [littleEndianBytes, ih]

theorem littleEndian_littleEndianBytes (width value : Nat) (fits : value < Nat.pow 256 width) :
    littleEndian (littleEndianBytes width value) = value := by
  induction width generalizing value with
  | zero =>
      have : value = 0 := by simpa using fits
      subst this
      rfl
  | succ width ih =>
      have fits : value < Nat.pow 256 width * 256 := fits
      simp only [littleEndianBytes, littleEndian, List.foldr_cons]
      have := ih _ ((Nat.div_lt_iff_lt_mul (by decide)).2 fits)
      simp only [littleEndian] at this
      rw [this]
      simp only [UInt8.toNat_ofNat', Nat.toUInt8]
      omega

-- ======================================================== combining

/-- Byte-wise exclusive or, as long as the shorter of the two. -/
def xorBytes (left right : Bytes) : Bytes :=
  List.zipWith (· ^^^ ·) left right

theorem length_xorBytes (left right : Bytes) :
    (xorBytes left right).length = min left.length right.length := by
  simp [xorBytes]

/-- Masking twice with the same bytes changes nothing. -/
theorem xorBytes_xorBytes (text mask : Bytes) (covers : text.length ≤ mask.length) :
    xorBytes (xorBytes text mask) mask = text := by
  induction text generalizing mask with
  | nil => rfl
  | cons byte text ih =>
      cases mask with
      | nil => simp at covers
      | cons key mask =>
          have rest := ih mask (by simpa using covers)
          have first : byte ^^^ key ^^^ key = byte := by
            rw [UInt8.xor_assoc, UInt8.xor_self, UInt8.xor_zero]
          simp only [xorBytes, List.zipWith_cons_cons] at rest ⊢
          rw [first, rest]

/-- Exactly `width` leading bytes and what follows them, if there are so
many. No more than those are counted. -/
def split? (width : Nat) (bytes : Bytes) : Option (Bytes × Bytes) :=
  let front := bytes.take width
  if front.length = width then some (front, bytes.drop width) else none

/-- A split succeeds exactly where the byte string is a first part of the
asked width and a rest. -/
theorem split?_eq_some_iff {width : Nat} {bytes front rest : Bytes} :
    split? width bytes = some (front, rest) ↔ bytes = front ++ rest ∧ front.length = width := by
  simp only [split?]
  constructor
  · intro parts
    split at parts
    · rename_i fits
      simp only [Option.some.injEq, Prod.mk.injEq] at parts
      obtain ⟨rfl, rfl⟩ := parts
      exact ⟨(List.take_append_drop ..).symm, fits⟩
    · cases parts
  · rintro ⟨rfl, rfl⟩
    simp

end Luminaire
