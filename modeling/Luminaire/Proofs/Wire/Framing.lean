/-
Frames read back.

A header that can be laid out in front of a payload (`LawfulFramed`) is
read from the front of whatever begins with its bytes, and the payload it
announces is the one it was written for. What stands behind the frame is
arbitrary: it is not looked at.
-/
import Luminaire.Wire.Frame

namespace Luminaire

/-- A header takes exactly its size, reads back from the front of a byte
string, and shows the length and the version it was given. -/
class LawfulFramed (H : Type) [Framed H] : Prop where
  length_toBytes : ∀ header : H, (Framed.toBytes header).length = Framed.size H
  ofBytes?_append : ∀ (header : H) (rest : Bytes),
    Framed.ofBytes? (Framed.toBytes header ++ rest) = some header
  length_withLength : ∀ (header : H) (length : UInt16),
    Framed.length (Framed.withLength header length) = length
  version_withLength : ∀ (header : H) (length : UInt16),
    Framed.version (Framed.withLength header length) = Framed.version header

/-- Two bytes spell the number they were written for. -/
theorem toUInt16_bigEndian_bytes (value : UInt16) :
    (bigEndian (bigEndianBytes 2 value.toNat)).toUInt16 = value := by
  rw [bigEndian_bigEndianBytes 2 value.toNat value.toNat_lt]
  exact UInt16.ofNat_toNat

/-- Four bytes spell the number they were written for. -/
theorem toUInt32_bigEndian_bytes (value : UInt32) :
    (bigEndian (bigEndianBytes 4 value.toNat)).toUInt32 = value := by
  rw [bigEndian_bigEndianBytes 4 value.toNat value.toNat_lt]
  exact UInt32.ofNat_toNat

instance : LawfulFramed Header where
  length_toBytes _ := rfl
  ofBytes?_append header rest := by
    obtain ⟨version, endpoint, messageType, tag, length⟩ := header
    show some (Header.mk version endpoint messageType tag
      (bigEndian (bigEndianBytes 2 length.toNat)).toUInt16) = _
    rw [toUInt16_bigEndian_bytes]
  length_withLength _ _ := rfl
  version_withLength _ _ := rfl

instance : LawfulFramed GroupHeader where
  length_toBytes _ := rfl
  ofBytes?_append header rest := by
    obtain ⟨version, endpoint, messageType, tag, length, keyId⟩ := header
    show some (GroupHeader.mk version endpoint messageType tag
      (bigEndian (bigEndianBytes 2 length.toNat)).toUInt16
      (bigEndian (bigEndianBytes 4 keyId.toNat)).toUInt32) = _
    rw [toUInt16_bigEndian_bytes, toUInt32_bigEndian_bytes]
  length_withLength _ _ := rfl
  version_withLength _ _ := rfl

-- =========================================================== frames

variable {H : Type} [Framed H]

/-- The bytes of a frame whose payload fits the length field. -/
def framed (header : H) (payload : Bytes) : Bytes :=
  Framed.toBytes (Framed.withLength header payload.length.toUInt16) ++ payload

theorem frame_of_le {payload : Bytes} (hfits : payload.length ≤ maxPayloadLength) (header : H) :
    frame header payload = .ok (framed header payload) := if_pos hfits

/-- A frame is all there is to a payload, or there is none. -/
theorem frame_eq_ok_iff {header : H} {payload datagram : Bytes} :
    frame header payload = .ok datagram
      ↔ payload.length ≤ maxPayloadLength ∧ datagram = framed header payload := by
  constructor
  · intro hframe
    unfold frame at hframe
    split at hframe
    next hfits =>
      cases hframe
      exact ⟨hfits, rfl⟩
    · cases hframe
  · rintro ⟨hfits, rfl⟩
    exact frame_of_le hfits header

/-- A frame is read as what it was written for. -/
theorem unframe_frame {header header' : Header} {payload payload' datagram : Bytes}
    (hframe : frame header payload = .ok datagram)
    (hread : unframe (H := Header) datagram = .ok (header', payload')) :
    header'.endpoint = header.endpoint ∧ header'.messageType = header.messageType := by
  unfold frame at hframe
  split at hframe
  · cases hframe
    unfold unframe at hread
    split at hread
    · cases hread
    next found hfound =>
      have hsame : found.endpoint = header.endpoint
          ∧ found.messageType = header.messageType := by
        unfold readHeader at hfound
        split at hfound
        · cases hfound
        next read hbytes =>
          split at hfound
          · cases hfound
            cases hbytes
            exact ⟨rfl, rfl⟩
          · cases hfound
      simp only at hread
      split at hread
      · cases hread
      · cases hread
        exact hsame
  · cases hframe

variable [LawfulFramed H]

theorem length_framed (header : H) (payload : Bytes) :
    (framed header payload).length = Framed.size H + payload.length := by
  rw [framed, List.length_append, LawfulFramed.length_toBytes]

/-- A frame reads back as the header with the length filled in and exactly
the payload, whatever follows it. -/
theorem unframe_framed {header : H} (hversion : Framed.version header = protocolVersion)
    {payload : Bytes} (hfits : payload.length ≤ maxPayloadLength) (rest : Bytes) :
    unframe (framed header payload ++ rest)
      = .ok (Framed.withLength header payload.length.toUInt16, payload) := by
  have hlength : payload.length.toUInt16.toNat = payload.length :=
    UInt16.toNat_ofNat_of_lt' (Nat.lt_succ_of_le hfits)
  have hsize := LawfulFramed.length_toBytes
    (Framed.withLength header payload.length.toUInt16)
  have hread : readHeader (H := H) (framed header payload ++ rest)
      = .ok (Framed.withLength header payload.length.toUInt16) := by
    rw [readHeader, framed, List.append_assoc, LawfulFramed.ofBytes?_append]
    exact if_pos ((LawfulFramed.version_withLength ..).trans hversion)
  have hroom : ¬ (framed header payload ++ rest).length
      < Framed.size H + payload.length := by
    rw [List.length_append, length_framed]
    omega
  rw [unframe, hread]
  simp only [LawfulFramed.length_withLength, hlength, if_neg hroom]
  rw [framed, List.append_assoc, ← hsize, List.take_length_add_append, List.drop_left,
    List.take_left]

end Luminaire
