/-
Numbers have one spelling of each width.

`bigEndian_bigEndianBytes` reads back what was written. Here is the other
way round: any bytes are how the number they spell is written in as many
bytes. So a field of two, four or eight bytes holds a word of that width
whatever stands in it, and says nothing besides. A number that is too
large for its field leaves its remainder there
(`bigEndian_bigEndianBytes_eq_mod`), so equal fields are equal remainders.
-/
import Mathlib.Data.List.Induction
import Luminaire.Bytes

namespace Luminaire

/-- Every spelling is the canonical one of the number it spells. -/
theorem bigEndianBytes_bigEndian (bytes : Bytes) :
    bigEndianBytes bytes.length (bigEndian bytes) = bytes := by
  induction bytes using List.reverseRecOn with
  | nil => rfl
  | append_singleton front last ih =>
      have hhigh : (bigEndian front * 256 + last.toNat) / 256 = bigEndian front := by
        have := last.toNat_lt
        omega
      have hlow : (bigEndian front * 256 + last.toNat).toUInt8 = last := by
        apply UInt8.toNat_inj.1
        have := last.toNat_lt
        simp only [Nat.toUInt8, UInt8.toNat_ofNat']
        omega
      rw [List.length_append, List.length_singleton, bigEndian_append_singleton,
        bigEndianBytes, hhigh, hlow, ih]

/-- Of a number written in a field that is too small for it the remainder is read
back. -/
theorem bigEndian_bigEndianBytes_eq_mod (width value : Nat) :
    bigEndian (bigEndianBytes width value) = value % Nat.pow 256 width := by
  induction width generalizing value with
  | zero => exact (Nat.mod_one value).symm
  | succ width ih =>
      have hpower : Nat.pow 256 (width + 1) = 256 * Nat.pow 256 width := Nat.mul_comm ..
      rw [bigEndianBytes, bigEndian_append_singleton, ih, hpower, Nat.mod_mul]
      simp only [UInt8.toNat_ofNat', Nat.toUInt8]
      omega

/-- Numbers that are written alike have one remainder. -/
theorem mod_eq_of_bigEndianBytes {width left right : Nat}
    (hsame : bigEndianBytes width left = bigEndianBytes width right) :
    left % Nat.pow 256 width = right % Nat.pow 256 width := by
  have hread := congrArg bigEndian hsame
  rwa [bigEndian_bigEndianBytes_eq_mod, bigEndian_bigEndianBytes_eq_mod] at hread

/-- A spelling stays below the bound of its width. -/
theorem bigEndian_lt (bytes : Bytes) : bigEndian bytes < Nat.pow 256 bytes.length := by
  induction bytes using List.reverseRecOn with
  | nil => exact Nat.one_pos
  | append_singleton front last ih =>
      have := last.toNat_lt
      have hpower : Nat.pow 256 (front.length + 1) = Nat.pow 256 front.length * 256 := rfl
      rw [bigEndian_append_singleton, List.length_append, List.length_singleton, hpower]
      omega

variable {bytes : Bytes}

/-- Two bytes spell a number of sixteen bits. -/
theorem toNat_toUInt16_bigEndian (hwidth : bytes.length = 2) :
    (bigEndian bytes).toUInt16.toNat = bigEndian bytes := by
  have hbound := bigEndian_lt bytes
  rw [hwidth] at hbound
  exact UInt16.toNat_ofNat_of_lt' hbound

/-- Two bytes are what the number read from them is written as. -/
theorem bigEndianBytes_toUInt16 (hwidth : bytes.length = 2) :
    bigEndianBytes 2 (bigEndian bytes).toUInt16.toNat = bytes := by
  rw [toNat_toUInt16_bigEndian hwidth, ← hwidth]
  exact bigEndianBytes_bigEndian bytes

/-- Four bytes are what the number read from them is written as. -/
theorem bigEndianBytes_toUInt32 (hwidth : bytes.length = 4) :
    bigEndianBytes 4 (bigEndian bytes).toUInt32.toNat = bytes := by
  have hbound := bigEndian_lt bytes
  rw [hwidth] at hbound
  have hnumber : (bigEndian bytes).toUInt32.toNat = bigEndian bytes :=
    UInt32.toNat_ofNat_of_lt' hbound
  rw [hnumber, ← hwidth]
  exact bigEndianBytes_bigEndian bytes

/-- Eight bytes are what the sequence number read from them is written as. -/
theorem bigEndianBytes_toUInt64 (hwidth : bytes.length = 8) :
    bigEndianBytes 8 (bigEndian bytes).toUInt64.toNat = bytes := by
  have hbound := bigEndian_lt bytes
  rw [hwidth] at hbound
  have hnumber : (bigEndian bytes).toUInt64.toNat = bigEndian bytes :=
    UInt64.toNat_ofNat_of_lt' hbound
  rw [hnumber, ← hwidth]
  exact bigEndianBytes_bigEndian bytes

end Luminaire
