/-
Opening is exactly the inverse of sealing.

`openRecord_sealRecord` is one direction: what was sealed opens. Here is
the other: whatever opens at all is, byte for byte, the record sealing
makes of what came out (`sealRecord_openRecord`). The header is the
delicate part. The cipher binds the nine bytes as they arrived, while
sealing writes them anew from content type and sequence number, so both
have to read back without loss: no two codes name one content type, and
eight bytes spell a number that has only this spelling.
-/
import Luminaire.Proofs.Bytes
import Luminaire.Proofs.Record.Sealing

namespace Luminaire

-- ============================================= the header, read back

/-- A content type is read from its own code alone. -/
theorem ContentType.code_of_ofCode? {code : UInt8} {content : ContentType}
    (hread : ContentType.ofCode? code = some content) : content.code = code := by
  apply UInt8.toNat_inj.1
  unfold ContentType.ofCode? at hread
  split at hread
  next hcode => cases hread; exact hcode.symm
  next hcode => cases hread; exact hcode.symm
  next hcode => cases hread; exact hcode.symm
  next => cases hread

namespace Protection

variable {protection : Protection} {content : ContentType} {sequence : UInt64}
  {plain record : Bytes}

/-- Nine bytes in front of a record are the header of what they name. -/
theorem header_of_read {code : UInt8} {rest : Bytes}
    (hread : ContentType.ofCode? code = some content) (hlong : 8 ≤ rest.length) :
    header content (bigEndian (rest.take 8)).toUInt64 = (code :: rest).take recordHeaderLength := by
  have hwidth : (rest.take 8).length = 8 := by
    rw [List.length_take]
    omega
  show content.code :: bigEndianBytes 8 _ = code :: rest.take 8
  rw [ContentType.code_of_ofCode? hread, bigEndianBytes_toUInt64 hwidth]

-- ===================================================== both directions

/-- A record that opens is the one its content seals to. -/
theorem sealRecord_openRecord
    (hopen : protection.openRecord record = .ok (content, sequence, plain)) :
    protection.sealRecord content sequence plain = .ok record := by
  unfold openRecord at hopen
  split at hopen
  next => cases hopen
  next code rest =>
    split at hopen
    next => cases hopen
    next hlong =>
      split at hopen
      next => cases hopen
      next kind hread =>
        simp only at hopen
        split at hopen
        next text htext =>
          cases hopen
          have hrest : 8 ≤ rest.length := by
            simp only [List.length_cons, recordHeaderLength] at hlong
            omega
          have hheader := header_of_read hread hrest
          have hseal := Aead.seal_of_open protection.suite.aead_lawful htext
          unfold sealRecord
          -- the header written anew is the associated data that opened it
          simp only [hheader, hseal]
          exact congrArg Except.ok (List.take_append_drop recordHeaderLength (code :: rest))
        next => cases hopen

/-- A content can be sealed exactly when the cipher's key stream covers it. -/
theorem sealRecord_ok_iff :
    (∃ record, protection.sealRecord content sequence plain = .ok record)
      ↔ plain.length ≤ Aead.textLimit := by
  unfold sealRecord Aead.seal?
  by_cases hfits : plain.length ≤ Aead.textLimit
  · simp [hfits]
  · simp [hfits]

/-- A record is its header, the masked content and the tag, and no longer. -/
theorem length_sealRecord
    (hsealed : protection.sealRecord content sequence plain = .ok record) :
    record.length = recordHeaderLength + plain.length + Aead.tagLength := by
  unfold sealRecord at hsealed
  simp only at hsealed
  split at hsealed
  next sealed hseal =>
    cases hsealed
    have hlength := Aead.length_seal protection.suite.aead_lawful hseal
    rw [List.length_append, length_header, hlength]
    omega
  next => cases hsealed

/-- Opening is exactly the inverse of sealing, for both suites, whatever the
keys: a byte string opens to a content type, a sequence number and a content
just when it is the record these are sealed to, and all that keeps them from
having one is the length the cipher's key stream covers. So a byte string
opens to one thing at most, and there is one byte string for it. -/
theorem opens_iff_sealed (protection : Protection) (content : ContentType) (sequence : UInt64)
    (plain record : Bytes) :
    (protection.openRecord record = .ok (content, sequence, plain)
        ↔ protection.sealRecord content sequence plain = .ok record)
      ∧ ((∃ made, protection.openRecord made = .ok (content, sequence, plain)
            ∧ made.length = recordHeaderLength + plain.length + Aead.tagLength)
          ↔ plain.length ≤ Aead.textLimit) := by
  refine ⟨⟨sealRecord_openRecord, openRecord_sealRecord⟩, ?_, ?_⟩
  · rintro ⟨made, hopen, -⟩
    exact sealRecord_ok_iff.1 ⟨made, sealRecord_openRecord hopen⟩
  · intro hfits
    obtain ⟨made, hsealed⟩ := sealRecord_ok_iff.2 hfits
    exact ⟨made, openRecord_sealRecord hsealed, length_sealRecord hsealed⟩

end Protection

end Luminaire
