/-
What was sealed opens again, and every content that fits one datagram can
be sealed.

Both follow from the laws of the cipher alone: opening derives the same
nonce and the same associated data from the nine bytes in front, because
content type and sequence number read back from them.
-/
import Luminaire.Session

namespace Luminaire

/-- The eight bytes of a sequence number read back. -/
theorem toUInt64_bigEndian_bytes (sequence : UInt64) :
    (bigEndian (bigEndianBytes 8 sequence.toNat)).toUInt64 = sequence := by
  rw [bigEndian_bigEndianBytes 8 _ sequence.toNat_lt]
  exact UInt64.ofNat_toNat

namespace Protection

/-- Type, number and content come out of a record as they went in. -/
theorem openRecord_sealRecord {protection : Protection} {content : ContentType}
    {sequence : UInt64} {plain record : Bytes}
    (hsealed : protection.sealRecord content sequence plain = .ok record) :
    protection.openRecord record = .ok (content, sequence, plain) := by
  unfold sealRecord at hsealed
  simp only at hsealed
  split at hsealed
  next sealed hseal =>
    cases hsealed
    have hopen := Aead.open_seal protection.suite.aead_lawful hseal
    have hcons : header content sequence ++ sealed
        = content.code :: (bigEndianBytes 8 sequence.toNat ++ sealed) := rfl
    have hheader : (header content sequence ++ sealed).take recordHeaderLength
        = header content sequence := List.take_left' (length_header ..)
    have hlong : ¬ (header content sequence ++ sealed).length < recordHeaderLength := by
      rw [List.length_append, length_header]
      omega
    have hnumber : (bigEndianBytes 8 sequence.toNat ++ sealed).take 8
        = bigEndianBytes 8 sequence.toNat := List.take_left' (length_bigEndianBytes ..)
    have hrest : (bigEndianBytes 8 sequence.toNat ++ sealed).drop 8 = sealed :=
      List.drop_left' (length_bigEndianBytes ..)
    rw [hcons] at hheader hlong ⊢
    unfold openRecord
    simp only
    rw [if_neg hlong, ContentType.ofCode?_code]
    simp only [hnumber, hrest, hheader, toUInt64_bigEndian_bytes, hopen]
  · cases hsealed

/-- Every content that fits a datagram can be sealed, and its record fits. -/
theorem exists_sealRecord (protection : Protection) (content : ContentType)
    (sequence : UInt64) {plain : Bytes} (hfits : plain.length ≤ maxRecordContent) :
    ∃ record, protection.sealRecord content sequence plain = .ok record
      ∧ record.length ≤ Link.largestDatagram := by
  have hlimit : plain.length ≤ Aead.textLimit := Nat.le_trans hfits (by decide)
  have hseal : ∃ sealed, protection.suite.aead.seal? protection.keys.key
      (protection.nonce sequence) (header content sequence) plain = some sealed := by
    unfold Aead.seal?
    rw [if_pos hlimit]
    exact ⟨_, rfl⟩
  obtain ⟨sealed, hseal⟩ := hseal
  have hlength := Aead.length_seal protection.suite.aead_lawful hseal
  refine ⟨header content sequence ++ sealed, ?_, ?_⟩
  · unfold sealRecord
    simp only [hseal]
  · have hsum : maxRecordContent + recordHeaderLength + Aead.tagLength
        = Link.largestDatagram := by decide
    rw [List.length_append, length_header, hlength]
    omega

end Protection

end Luminaire
