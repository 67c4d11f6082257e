/-
A note that a frame is done reads back with the key its header names.

The cipher opens what it sealed, the sequence number in front of the
sealed text gives the initial value back, and a note is so short that
neither the cipher nor the frame can refuse it. So a broadcaster whose
cipher works with the newest key of its ring (`Broadcaster.Keyed`) makes a
datagram of every note; only the socket can refuse to take it.
-/
import Luminaire.Proofs.Group.Rotation
import Luminaire.Proofs.Message.Payloads
import Luminaire.Proofs.Record.Sealing
import Luminaire.Proofs.Wire.Framing

namespace Luminaire

-- ========================================================== sealing

namespace GroupCipher

theorem ready_eq {cipher : GroupCipher} {key iv : Bytes} (hkey : cipher.key = some key)
    (hiv : iv.length = ivLength) : ∃ nonce, cipher.ready iv = .ok (key, nonce) := by
  unfold ready nonce?
  rw [hkey, if_pos hiv]
  exact ⟨_, rfl⟩

/-- A text of moderate length can be sealed under a key that is loaded. -/
theorem exists_encrypt {cipher : GroupCipher} {key iv text : Bytes}
    (hkey : cipher.key = some key) (hiv : iv.length = ivLength) (htext : text ≠ [])
    (hshort : text.length ≤ Aead.textLimit) :
    ∃ sealed, cipher.encrypt text iv = .ok sealed
      ∧ sealed.length = text.length + Aead.tagLength := by
  obtain ⟨nonce, hready⟩ := ready_eq hkey hiv
  obtain ⟨sealed, hseal⟩ : ∃ sealed,
      Aead.xchacha20Poly1305.seal? key nonce [] text = some sealed := ⟨_, if_pos hshort⟩
  refine ⟨sealed, ?_, Aead.length_seal Aead.xchacha20Poly1305_lawful hseal⟩
  unfold encrypt
  rw [if_neg (by simpa using htext), hready]
  simp only [hseal]

/-- What was sealed opens under the same key and initial value. -/
theorem decrypt_encrypt {cipher : GroupCipher} {text iv sealed : Bytes}
    (hsealed : cipher.encrypt text iv = .ok sealed) : cipher.decrypt sealed iv = .ok text := by
  unfold encrypt at hsealed
  split at hsealed
  · cases hsealed
  · split at hsealed
    · cases hsealed
    next key nonce hready =>
      split at hsealed
      next found hseal =>
        cases hsealed
        unfold decrypt
        rw [hready]
        simp only [Aead.open_seal Aead.xchacha20Poly1305_lawful hseal]
      · cases hsealed

end GroupCipher

namespace Broadcast

/-- The initial value of a broadcast is as long as its key's. -/
theorem length_iv {base : Bytes} (hbase : base.length = 16) (sequence : UInt64) :
    (iv base sequence).length = GroupCipher.ivLength := by
  rw [iv, sequenceNonce, List.length_append, length_xorBytes, List.length_take,
    List.length_drop, length_bigEndianBytes, hbase]
  rfl

/-- A note that was written under a key reads back with that key. -/
theorem read_write {header : GroupHeader} (hversion : header.version = protocolVersion)
    {key base : Bytes} {sequence : UInt64} {output : SyncOutput} {datagram : Bytes}
    (hwrite : write header key base sequence (Cbor.encode output) = .ok datagram) :
    ∃ length, read datagram key base = .ok ({ header with length := length }, output) := by
  unfold write at hwrite
  split at hwrite
  · cases hwrite
  next cipher hload =>
    split at hwrite
    · cases hwrite
    next sealed hsealed =>
      split at hwrite
      · cases hwrite
      next hframe =>
        cases hwrite
        obtain ⟨hfits, rfl⟩ := frame_eq_ok_iff.1 hframe
        have hframed := unframe_framed (H := GroupHeader) hversion hfits []
        rw [List.append_nil] at hframed
        have hsplit : split? 8 (payload sequence sealed)
            = some (bigEndianBytes 8 sequence.toNat, sealed) :=
          split?_eq_some_iff.2 ⟨rfl, length_bigEndianBytes ..⟩
        refine ⟨(payload sequence sealed).length.toUInt16, ?_⟩
        unfold read
        rw [hframed]
        simp only [hsplit, hload, toUInt64_bigEndian_bytes, GroupCipher.decrypt_encrypt hsealed,
          output.decode?_encode]
        rfl

end Broadcast

-- ============================================================= notes

namespace Broadcaster

variable {ω : Type}

/-- The cipher works with the newest key of an orderly ring. -/
structure Keyed (broadcaster : Broadcaster ω) : Prop where
  orderly : broadcaster.ring.Orderly
  current : ∃ key, broadcaster.ring.current? = some key ∧ broadcaster.cipher = ⟨some key.key⟩

/-- Every note is written under the current key, with the next number and the next
tag, and is sent if the path takes it. -/
theorem note_eq_write {broadcaster : Broadcaster ω} (hkeyed : broadcaster.Keyed)
    (now frameNumber : UInt64) :
    ∃ key datagram, broadcaster.ring.current? = some key
      ∧ Broadcast.write (.new noteType broadcaster.tag key.id) key.key key.iv
          broadcaster.sequence (Cbor.encode (SyncOutput.mk frameNumber now)) = .ok datagram
      ∧ broadcaster.note now frameNumber
        = (if broadcaster.link = .up then .ok datagram else .error .socket,
          { broadcaster with
            sequence := broadcaster.sequence + 1
            tag := broadcaster.tag + 1 }) := by
  obtain ⟨key, hcurrent, hcipher⟩ := hkeyed.current
  obtain ⟨hkey, hiv⟩ := hkeyed.orderly.lengths key (List.mem_of_getLast? hcurrent)
  have htext := SyncOutput.length_encode_le ⟨frameNumber, now⟩
  have hload : GroupCipher.load key.key = (.ok (), ⟨some key.key⟩) := if_pos hkey
  have hloaded : (GroupCipher.mk (some key.key)).key = some key.key := rfl
  obtain ⟨sealed, hsealed, hlength⟩ := GroupCipher.exists_encrypt hloaded
    (Broadcast.length_iv hiv broadcaster.sequence)
    (Cbor.encode_ne_nil (SyncOutput.mk frameNumber now)) (Nat.le_trans htext (by decide))
  have hpayload : (Broadcast.payload broadcaster.sequence sealed).length ≤ 62 := by
    rw [Broadcast.payload, List.length_append, length_bigEndianBytes, hlength]
    exact Nat.add_le_add_left (Nat.add_le_add_right htext 16) 8
  obtain ⟨datagram, hframe, hshort⟩ : ∃ datagram,
      frame (GroupHeader.new noteType broadcaster.tag key.id)
          (Broadcast.payload broadcaster.sequence sealed) = .ok datagram
        ∧ datagram.length ≤ Link.largestDatagram := by
    refine ⟨_, frame_of_le (Nat.le_trans hpayload (by decide)) _, ?_⟩
    rw [length_framed]
    exact Nat.le_trans (Nat.add_le_add_left hpayload 10) (by decide)
  refine ⟨key, datagram, hcurrent, ?_, ?_⟩
  · unfold Broadcast.write
    simp only [hload, hsealed, hframe]
  · unfold note
    simp only [hcurrent, hcipher, hsealed, hframe, Link.takes, decide_eq_true hshort,
      Bool.and_true, beq_iff_eq]
    split
    · rfl
    · rfl

end Broadcaster

end Luminaire
