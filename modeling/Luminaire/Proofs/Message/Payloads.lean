/-
The payloads as bytes: what is encoded decodes, and how long it can be.

Every payload here is a record, so its codec is faithful as soon as its
fields are and no two of them share a name.
-/
import Luminaire.Message.Payloads
import Luminaire.Proofs.Cbor.Records

namespace Luminaire

open Cbor Cbor.Codec

variable {depth : Nat}

theorem Status.codec_faithful : Status.codec.Faithful depth :=
  refine_faithful word8_faithful Status.ofCode?_code

theorem Uuid.codec_faithful : Uuid.codec.Faithful depth :=
  ⟨Uuid.codec_lawful, fun uuid => .bytes depth uuid.bytes⟩

theorem Nack.faithful : (Payload.codec (α := Nack)).Faithful (depth + 1) :=
  record_faithful ⟨word8_faithful, Status.codec_faithful, trivial⟩ (by decide) fun _ => rfl

-- =========================================================== liveness

theorem Ping.faithful : (Payload.codec (α := Ping)).Faithful (depth + 1) :=
  record_faithful ⟨word64_faithful, trivial⟩ (by decide) fun _ => rfl

theorem Pong.faithful : (Payload.codec (α := Pong)).Faithful (depth + 1) :=
  record_faithful ⟨word64_faithful, word64_faithful, flag_faithful, trivial⟩ (by decide)
    fun _ => rfl

-- ===================================================== authentication

theorem AuthRequest.faithful : (Payload.codec (α := AuthRequest)).Faithful (depth + 2) :=
  record_faithful ⟨Uuid.codec_faithful, list_faithful text_faithful, trivial⟩ (by decide)
    fun _ => rfl

theorem AuthChallenge.faithful : (Payload.codec (α := AuthChallenge)).Faithful (depth + 1) :=
  record_faithful ⟨Status.codec_faithful, optional_faithful text_faithful nofun,
    bytes_faithful, bytes_faithful, trivial⟩ (by decide) fun _ => rfl

theorem AuthResult.faithful : (Payload.codec (α := AuthResult)).Faithful (depth + 1) :=
  record_faithful ⟨Status.codec_faithful, trivial⟩ (by decide) fun _ => rfl

theorem AuthResponse.faithful : (Payload.codec (α := AuthResponse)).Faithful (depth + 1) :=
  record_faithful ⟨bytes_faithful, trivial⟩ (by decide) fun _ => rfl

/-- A response reads back, unless its code is longer than any payload. -/
theorem AuthResponse.decode?_encode (response : AuthResponse)
    (hproof : response.proof.length < 256 ^ 2) :
    decode? (encode response) = some response := by
  have hbytes := length_bytes_le hproof
  have hname : (Item.text "proof").print.length = 6 := by decide
  have hlength : (encode response).length
      = 1 + (6 + (bytes.write response.proof).print.length + 0) := by
    rw [← hname]
    exact length_record _ _ _ response (show 1 < 24 by decide)
  exact Cbor.decode?_encode AuthResponse.faithful (by omega)

-- ====================================================== subscriptions

theorem Subscribe.faithful : (Payload.codec (α := Subscribe)).Faithful (depth + 1) :=
  record_faithful ⟨word32_faithful, word32_faithful, word32_faithful, word8_faithful, trivial⟩
    (by decide) fun _ => rfl

theorem Unsubscribe.faithful : (Payload.codec (α := Unsubscribe)).Faithful (depth + 1) :=
  record_faithful ⟨optional_faithful word32_faithful nofun, trivial⟩ (by decide) fun _ => rfl

theorem SubscribeAck.faithful : (Payload.codec (α := SubscribeAck)).Faithful (depth + 1) :=
  record_faithful ⟨Status.codec_faithful, word32_faithful, trivial⟩ (by decide) fun _ => rfl

theorem UnsubscribeAck.faithful :
    (Payload.codec (α := UnsubscribeAck)).Faithful (depth + 1) :=
  record_faithful ⟨Status.codec_faithful, word32_faithful, trivial⟩ (by decide) fun _ => rfl

theorem ChannelData.faithful : (Payload.codec (α := ChannelData)).Faithful (depth + 1) :=
  record_faithful ⟨word32_faithful, word32_faithful, word8_faithful, word64_faithful,
    bytes_faithful, trivial⟩ (by decide) fun _ => rfl

-- ========================================== the group, keys and sync

theorem Info.faithful : (Payload.codec (α := Info)).Faithful (depth + 1) :=
  record_faithful ⟨Status.codec_faithful, text_faithful, word16_faithful, word32_faithful,
    trivial⟩ (by decide) fun _ => rfl

theorem GetKey.faithful : (Payload.codec (α := GetKey)).Faithful (depth + 1) :=
  record_faithful ⟨word32_faithful, trivial⟩ (by decide) fun _ => rfl

theorem KeyData.faithful : (Payload.codec (α := KeyData)).Faithful (depth + 1) :=
  record_faithful ⟨Status.codec_faithful, word32_faithful, bytes_faithful, bytes_faithful,
    trivial⟩ (by decide) fun _ => rfl

theorem RekeyNotice.faithful : (Payload.codec (α := RekeyNotice)).Faithful (depth + 1) :=
  record_faithful ⟨word32_faithful, bytes_faithful, bytes_faithful, trivial⟩ (by decide)
    fun _ => rfl

theorem SyncOutput.faithful : (Payload.codec (α := SyncOutput)).Faithful (depth + 1) :=
  record_faithful ⟨word64_faithful, word64_faithful, trivial⟩ (by decide) fun _ => rfl

-- =========================================================== lengths

theorem SubscribeAck.length_encode_le (ack : SubscribeAck) : (encode ack).length ≤ 23 := by
  have hstatus := length_word8_le ack.status.code
  have hchannel := length_word32_le ack.channel
  have hnames : (Item.text "status").print.length = 7
      ∧ (Item.text "channel").print.length = 8 := by decide
  refine Nat.le_trans (Nat.le_of_eq (length_record _ _ _ ack (show 2 < 24 by decide))) ?_
  show 1 + ((Item.text "status").print.length + (word8.write ack.status.code).print.length
    + ((Item.text "channel").print.length + (word32.write ack.channel).print.length + 0)) ≤ 23
  omega

theorem UnsubscribeAck.length_encode_le (ack : UnsubscribeAck) :
    (encode ack).length ≤ 23 := by
  have hstatus := length_word8_le ack.status.code
  have hremoved := length_word32_le ack.removed
  have hnames : (Item.text "status").print.length = 7
      ∧ (Item.text "removed").print.length = 8 := by decide
  refine Nat.le_trans (Nat.le_of_eq (length_record _ _ _ ack (show 2 < 24 by decide))) ?_
  show 1 + ((Item.text "status").print.length + (word8.write ack.status.code).print.length
    + ((Item.text "removed").print.length + (word32.write ack.removed).print.length + 0)) ≤ 23
  omega

/-- Channel data adds no more to its pixels than the allowance for it, even
where their number takes the four bytes that are the most it can take. -/
theorem ChannelData.length_encode_le (data : ChannelData)
    (hpixels : data.pixels.length < 256 ^ 4) :
    (encode data).length ≤ data.pixels.length + channelDataOverhead := by
  have hchannel := length_word32_le data.channel
  have hoffset := length_word32_le data.offset
  have hformat := length_word8_le data.format
  have hframe := length_word64_le data.frame
  have hbytes := length_bytes_le_of_width 4 (by decide) hpixels
  have hnames : (Item.text "channel").print.length = 8
      ∧ (Item.text "offset").print.length = 7 ∧ (Item.text "format").print.length = 7
      ∧ (Item.text "frame").print.length = 6
      ∧ (Item.text "pixels").print.length = 7 := by decide
  refine Nat.le_trans (Nat.le_of_eq (length_record _ _ _ data (show 5 < 24 by decide))) ?_
  show 1 + ((Item.text "channel").print.length + (word32.write data.channel).print.length
    + ((Item.text "offset").print.length + (word32.write data.offset).print.length
    + ((Item.text "format").print.length + (word8.write data.format).print.length
    + ((Item.text "frame").print.length + (word64.write data.frame).print.length
    + ((Item.text "pixels").print.length + (bytes.write data.pixels).print.length + 0)))))
      ≤ data.pixels.length + 64
  omega

/-- The notice of a key as long as keys are drawn. -/
theorem RekeyNotice.length_encode_le (notice : RekeyNotice)
    (hkey : notice.key.length < 256 ^ 2) (hiv : notice.iv.length < 256 ^ 2) :
    (encode notice).length ≤ notice.key.length + notice.iv.length + 27 := by
  have hid := length_word32_le notice.keyId
  have hkeyBytes := length_bytes_le hkey
  have hivBytes := length_bytes_le hiv
  have hnames : (Item.text "key_id").print.length = 7
      ∧ (Item.text "key").print.length = 4 ∧ (Item.text "iv").print.length = 3 := by decide
  refine Nat.le_trans (Nat.le_of_eq (length_record _ _ _ notice (show 3 < 24 by decide))) ?_
  show 1 + ((Item.text "key_id").print.length + (word32.write notice.keyId).print.length
    + ((Item.text "key").print.length + (bytes.write notice.key).print.length
    + ((Item.text "iv").print.length + (bytes.write notice.iv).print.length + 0)))
      ≤ notice.key.length + notice.iv.length + 27
  omega

theorem SyncOutput.length_encode_le (output : SyncOutput) : (encode output).length ≤ 38 := by
  have hframe := length_word64_le output.frame
  have htime := length_word64_le output.timestampMs
  have hnames : (Item.text "frame").print.length = 6
      ∧ (Item.text "timestamp_ms").print.length = 13 := by decide
  refine Nat.le_trans (Nat.le_of_eq (length_record _ _ _ output (show 2 < 24 by decide))) ?_
  show 1 + ((Item.text "frame").print.length + (word64.write output.frame).print.length
    + ((Item.text "timestamp_ms").print.length + (word64.write output.timestampMs).print.length
      + 0)) ≤ 38
  omega

theorem SyncOutput.decode?_encode (output : SyncOutput) :
    decode? (encode output) = some output :=
  Cbor.decode?_encode SyncOutput.faithful
    (Nat.lt_of_le_of_lt output.length_encode_le (by decide))

end Luminaire
