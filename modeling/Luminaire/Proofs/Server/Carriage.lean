/-
Every subscription that is granted can be delivered.

Three limits stand between the pixels of a region and the network: the
length field of a frame, the content of a record, and the datagram a path
takes. A request is checked against none of them but against
`maxChannelBytes`, which leaves room for what is put around the pixels. Here
the room is counted: the message written around as many bytes as the check
lets pass is no longer than the field can say (`length_channelData_le`), its
frame no longer than a record holds (`length_datagram_le`), and the record
no longer than any path takes (`carriable_of_le`).
-/
import Luminaire.Proofs.Connection.Subscriptions
import Luminaire.Proofs.Record.Opening
import Luminaire.Proofs.Server.Outlet

namespace Luminaire

-- ========================================================= one record

/-- The only thing a session refuses for its length is what is too long for
one record, and it refuses that while it is open. -/
theorem Session.too_large_iff (session : Session) (content : ContentType) (plain : Bytes) :
    (∃ length, (session.sendRecord content plain).1 = .error (.tooLarge length))
      ↔ session.closed = false ∧ maxRecordContent < plain.length := by
  constructor
  · rintro ⟨length, hsend⟩
    cases hclosed : session.closed with
    | true =>
        rw [sendRecord, if_pos hclosed] at hsend
        cases hsend
    | false =>
        refine ⟨rfl, Nat.lt_of_not_le fun hfits => ?_⟩
        obtain ⟨record, -, -, hresult⟩ := sendRecord_of_fits hclosed content hfits
        rw [hresult] at hsend
        simp only at hsend
        split at hsend
        · cases hsend
        · cases hsend
  · rintro ⟨hopen, hlarge⟩
    exact ⟨_, congrArg Prod.fst (sendRecord_of_too_large hopen content hlarge)⟩

/-- A message that nothing on its way refuses for its length. -/
structure Carriable (message : Bytes) : Prop where
  short : message.length ≤ maxRecordContent
  accepted : ∀ (session : Session) (length : Nat),
    (session.send message).1 ≠ .error (.tooLarge length)
  sealed : ∀ (keys : Protection) (sequence : UInt64), ∃ record,
    keys.sealRecord .applicationData sequence message = .ok record ∧ record.length ≤ 65507

/-- Its length decides. -/
theorem carriable_of_le {message : Bytes} (hshort : message.length ≤ maxRecordContent) :
    Carriable message where
  short := hshort
  accepted session length hrefused :=
    Nat.not_lt.2 hshort
      ((session.too_large_iff .applicationData message).1 ⟨length, hrefused⟩).2
  sealed keys sequence := keys.exists_sealRecord .applicationData sequence hshort

-- ============================================================= regions

namespace Subscription

variable {channels : List NodeChannel} {held : Held} {request : Subscribe}
  {format : PixelFormat} {first : UInt32}

/-- What a granted request puts on the books can be carried. -/
theorem carried_of_check (hcheck : check channels held request = .ok (format, first))
    {id : ConnectionId} {delivery : Delivery}
    (hdelivery : (granted id request format first).observer = .delivery delivery) :
    delivery.Carried := by
  obtain ⟨channel, hgrantable⟩ := grantable_of_check hcheck
  cases hdelivery
  exact ⟨hgrantable.nonempty, hgrantable.carried⟩

/-- With its header in front, the message of a delivery is no longer than what a
record holds. -/
theorem length_datagram_le {delivery : Delivery} (hcarried : delivery.Carried)
    {pixels : List Pixel} (hlength : pixels.length = delivery.region.length.toNat)
    (frameNumber : UInt64) (header : Header) :
    (framed header (Cbor.encode (channelData delivery frameNumber pixels))).length
      ≤ maxRecordContent := by
  have hroom : Framed.size Header + (maxChannelBytes + channelDataOverhead) ≤ maxRecordContent := by
    decide
  rw [length_framed]
  exact Nat.le_trans (Nat.add_le_add_left (length_channelData_le hcarried hlength frameNumber) _)
    hroom

/-- The pixels of a subscription that is held leave as one record. -/
theorem sent_deliver {delivery : Delivery} (hcarried : delivery.Carried)
    {framebuffer : Framebuffer Watcher} {pixels : List Pixel}
    (hcopy : framebuffer.copy delivery.region = .ok pixels) {books : Held} {token : Token}
    (hheld : ⟨delivery.channel, token⟩ ∈ books) {connection : Connection Outlet}
    (hopen : connection.sink.session.closed = false) (hup : connection.sink.session.link = .up)
    (frameNumber : UInt64) :
    ∃ record, (deliver books framebuffer connection frameNumber token delivery).sink.sent
          = connection.sink.sent ++ [record]
      ∧ record.length ≤ 65507
      ∧ connection.sink.session.outgoing.openRecord record
        = .ok (.applicationData, connection.sink.session.nextSequence,
          framed (Header.new .pixelData (Message.messageType ChannelData) connection.nextTag)
            (Cbor.encode (channelData delivery frameNumber pixels))) := by
  obtain ⟨hinside, rfl⟩ := Framebuffer.copy_eq_ok_iff.1 hcopy
  have hlength := Framebuffer.length_slice hinside
  obtain ⟨record, hput, hshort, hopens⟩ := Outlet.put_of_fits hopen hup
    (length_datagram_le hcarried hlength frameNumber
      (.new .pixelData (Message.messageType ChannelData) connection.nextTag))
  have hframe := frame_of_le (fits_channelData hcarried hlength frameNumber)
    (Header.new .pixelData (Message.messageType ChannelData) connection.nextTag)
  refine ⟨record, ?_, hshort, hopens⟩
  simp only [deliver, if_pos (isLive_iff.2 hheld), hcopy, Connection.pushWith, Connection.push,
    Connection.send, hframe, hput]

/-- What is put around pixels, and that there is room for it.

However many pixel bytes below 2^32 it carries, a message is longer than they
are by the allowance at most. So let a request be granted, and let the region
that is then on the books be copied out of any framebuffer, for any frame. The
message with these pixels can be framed, and its frame is no longer than what
one record holds; no session refuses it for its length, and under any keys and
any number its record has 65507 bytes at most. And over an open session and a
path that is up it does leave, as one record, for as long as the subscription
is held. -/
theorem granted_is_deliverable :
    (∀ data : ChannelData, data.pixels.length < 2 ^ 32 →
      (Cbor.encode data).length ≤ data.pixels.length + channelDataOverhead)
    ∧ ∀ {channels : List NodeChannel} {held : Held} {request : Subscribe} {format : PixelFormat}
        {first : UInt32}, check channels held request = .ok (format, first) →
      ∀ (id : ConnectionId) (delivery : Delivery),
        (granted id request format first).observer = .delivery delivery →
      ∀ (framebuffer : Framebuffer Watcher) (frameNumber : UInt64) (pixels : List Pixel),
        framebuffer.copy delivery.region = .ok pixels →
        ∃ datagram : UInt8 → Bytes,
          (∀ tag, frame (Header.new .pixelData (Message.messageType ChannelData) tag)
              (Cbor.encode (channelData delivery frameNumber pixels)) = .ok (datagram tag)
            ∧ Carriable (datagram tag))
          ∧ ∀ (connection : Connection Outlet) (books : Held) (token : Token),
              ⟨request.channel, token⟩ ∈ books → connection.sink.session.closed = false →
              connection.sink.session.link = .up →
            let after := deliver books framebuffer connection frameNumber token delivery
            ∃ record, after.sink.sent = connection.sink.sent ++ [record]
              ∧ record.length ≤ 65507
              ∧ connection.sink.session.outgoing.openRecord record
                = .ok (.applicationData, connection.sink.session.nextSequence,
                  datagram connection.nextTag) := by
  refine ⟨fun data hpixels => data.length_encode_le hpixels, ?_⟩
  intro channels held request format first hcheck id delivery hdelivery framebuffer frameNumber
    pixels hcopy
  have hcarried := carried_of_check hcheck hdelivery
  have hlength : pixels.length = delivery.region.length.toNat := by
    obtain ⟨hinside, rfl⟩ := Framebuffer.copy_eq_ok_iff.1 hcopy
    exact Framebuffer.length_slice hinside
  refine ⟨_, fun tag => ⟨frame_of_le (fits_channelData hcarried hlength frameNumber) _,
    carriable_of_le (length_datagram_le hcarried hlength frameNumber _)⟩, ?_⟩
  intro connection books token hheld hopen hup
  cases hdelivery
  exact sent_deliver hcarried hcopy hheld hopen hup frameNumber

/-- The longest run of three-byte pixels that is granted, out of a framebuffer
that is longer. -/
theorem longest_run_is_deliverable :
    let channels : List NodeChannel := [⟨12, 3, 30000, 500, .rgb⟩]
    let request : Subscribe := ⟨3, 40, 21804, 0⟩
    let delivery : Delivery := ⟨7, 3, ⟨540, 21804⟩, 40, .rgb⟩
    let framebuffer : Framebuffer Watcher := .dark 40000
    let pixels := framebuffer.slice delivery.region
    request.length.toNat * 3 = maxChannelBytes
      ∧ check channels [] request = .ok (.rgb, 540)
      ∧ framebuffer.copy delivery.region = .ok pixels
      ∧ (∃ datagram, frame (Header.new .pixelData (Message.messageType ChannelData) 255)
            (Cbor.encode (channelData delivery 9 pixels)) = .ok datagram
          ∧ Carriable datagram)
      ∧ (Cbor.encode (ChannelData.mk 3 40 0 9 [1, 2, 3])).length ≤ 3 + channelDataOverhead := by
  intro channels request delivery framebuffer pixels
  have hcheck : check channels [] request = .ok (.rgb, 540) := by decide
  have hcopy : framebuffer.copy delivery.region = .ok pixels := by
    refine Framebuffer.copy_of_inside ?_
    show 540 + 21804 ≤ (List.replicate 40000 Pixel.dark).length
    rw [List.length_replicate]
    decide
  obtain ⟨hlong, hdeliverable⟩ := granted_is_deliverable
  obtain ⟨datagram, hdatagram, -⟩ := hdeliverable hcheck 7 delivery rfl framebuffer 9 pixels hcopy
  exact ⟨by decide, hcheck, hcopy, ⟨_, hdatagram 255⟩, hlong (ChannelData.mk 3 40 0 9 [1, 2, 3])
    (by decide)⟩

end Subscription

end Luminaire
