/-
A connection whose sends succeed.

A tape stands behind it and takes every message down, so what a
connection has sent can be read off. Three things are said about it: an
answer that fits its frame is one datagram more (`replyWith_of_fits`), a
push that fits is one datagram more under the next tag
(`pushWith_of_fits`), and as long as nothing else happens to a connection
the tags of its pushes count up from zero (`Numbered`): answers are not
pushes, so they take none.
-/
import Luminaire.Proofs.Connection.Strangers
import Luminaire.Proofs.Wire.Framing

namespace Luminaire

/-- Takes every message down. -/
structure Tape where
  /-- The messages, oldest first. -/
  sent : List Bytes
  deriving DecidableEq, Repr

namespace Tape

def blank : Tape := ⟨[]⟩

instance : Sink Tape where
  put tape message := (.ok (), ⟨tape.sent ++ [message]⟩)

end Tape

instance (header : Header) : Decidable header.isPush := inferInstanceAs (Decidable (_ ∨ _))

namespace Connection

-- ========================================================== sending

/-- The connection after a message that was sent. -/
def say (connection : Connection Tape) (header : Header) (payload : Bytes) : Connection Tape :=
  { connection with sink := ⟨connection.sink.sent ++ [framed header payload]⟩ }

theorem send_of_fits {payload : Bytes} (hfits : payload.length ≤ maxPayloadLength)
    (connection : Connection Tape) (header : Header) :
    connection.send header payload = (.ok (), connection.say header payload) := by
  unfold send
  rw [frame_of_le hfits header]
  rfl

variable {α : Type} [Message α]

theorem replyWith_of_fits {message : α}
    (hfits : (Cbor.encode message).length ≤ maxPayloadLength)
    (connection : Connection Tape) (request : Header) :
    connection.replyWith request message
      = (.ok (), connection.say (request.reply (Message.messageType α)) (Cbor.encode message)) :=
  send_of_fits hfits connection _

/-- A reply reads back as what was replied. -/
theorem unframe_reply {message : α}
    (hfits : (Cbor.encode message).length ≤ maxPayloadLength) (request : Header) :
    unframe (framed (request.reply (Message.messageType α)) (Cbor.encode message))
      = .ok ({ request.reply (Message.messageType α) with
        length := (Cbor.encode message).length.toUInt16 }, Cbor.encode message) := by
  have hversion : Framed.version (request.reply (Message.messageType α)) = protocolVersion := rfl
  have hread := unframe_framed hversion hfits []
  rw [List.append_nil] at hread
  exact hread

theorem answer_of_fits {message : α}
    (hfits : (Cbor.encode message).length ≤ maxPayloadLength)
    (connection : Connection Tape) (request : Header) (outcome : Except HandlerError Unit) :
    connection.answer request message outcome
      = (outcome,
        connection.say (request.reply (Message.messageType α)) (Cbor.encode message)) := by
  unfold answer
  rw [replyWith_of_fits hfits]

/-- The connection after a push that was sent. -/
def pushed (connection : Connection Tape) (endpoint : Endpoint) (message : α) :
    Connection Tape :=
  { connection with nextTag := connection.nextTag + 1 }.say
    (.new endpoint (Message.messageType α) connection.nextTag) (Cbor.encode message)

theorem pushWith_of_fits {message : α}
    (hfits : (Cbor.encode message).length ≤ maxPayloadLength)
    (connection : Connection Tape) (endpoint : Endpoint) :
    connection.pushWith endpoint message = (.ok (), connection.pushed endpoint message) :=
  send_of_fits hfits _ _

end Connection

-- ============================================================= tags

/-- The tag of a datagram that carries a push. -/
def pushTag? (datagram : Bytes) : Option UInt8 :=
  match unframe (H := Header) datagram with
  | .ok (header, _) => if header.isPush then some header.tag else none
  | .error _ => none

/-- The tags of the pushes on a tape, oldest first. -/
def Tape.pushTags (tape : Tape) : List UInt8 := tape.sent.filterMap pushTag?

theorem pushTag?_of_answer {header : Header} (hanswer : ¬ header.isPush) {payload : Bytes}
    (hfits : payload.length ≤ maxPayloadLength) : pushTag? (framed header payload) = none := by
  unfold pushTag?
  split
  next found _ hread =>
    obtain ⟨hendpoint, htype⟩ := unframe_frame (frame_of_le hfits header) hread
    have hfound : ¬ found.isPush := by
      unfold Header.isPush
      rw [hendpoint, htype]
      exact hanswer
    rw [if_neg hfound]
  · rfl

theorem pushTag?_of_push {header : Header} (hversion : header.version = protocolVersion)
    (hpush : header.isPush) {payload : Bytes} (hfits : payload.length ≤ maxPayloadLength) :
    pushTag? (framed header payload) = some header.tag := by
  have hread := unframe_framed (H := Header) hversion hfits []
  rw [List.append_nil] at hread
  have hpushed : (Framed.withLength header payload.length.toUInt16).isPush := hpush
  rw [pushTag?, hread]
  simp only [if_pos hpushed]
  rfl

namespace Connection

/-- The pushes of the connection carry the tags from zero on, and the next
one is due. -/
structure Numbered (connection : Connection Tape) : Prop where
  tags : connection.sink.pushTags
    = (List.range connection.sink.pushTags.length).map Nat.toUInt8
  next : connection.nextTag = connection.sink.pushTags.length.toUInt8

theorem numbered_new (peer : SocketAddress) : (new peer Tape.blank).Numbered :=
  ⟨rfl, rfl⟩

variable {connection : Connection Tape}

/-- What is not a push takes no tag. -/
theorem Numbered.send (hnumbered : connection.Numbered) {header : Header}
    (hanswer : ¬ header.isPush) (payload : Bytes) :
    (connection.send header payload).2.Numbered := by
  by_cases hfits : payload.length ≤ maxPayloadLength
  · rw [send_of_fits hfits]
    have hsame : (connection.say header payload).sink.pushTags = connection.sink.pushTags := by
      show (connection.sink.sent ++ [_]).filterMap pushTag? = _
      rw [List.filterMap_append, List.filterMap_cons, pushTag?_of_answer hanswer hfits]
      exact List.append_nil _
    refine ⟨?_, ?_⟩
    · show (connection.say header payload).sink.pushTags = _
      rw [hsame]
      exact hnumbered.tags
    · show connection.nextTag = (connection.say header payload).sink.pushTags.length.toUInt8
      rw [hsame]
      exact hnumbered.next
  · unfold Connection.send
    rw [frame, if_neg hfits]
    exact hnumbered

/-- An answer takes no tag. -/
theorem Answers.numbered {after : Connection Tape} (hanswers : connection.Answers after)
    (hnumbered : connection.Numbered) : after.Numbered := by
  obtain ⟨node, rfl | ⟨header, payload, hanswer, rfl⟩⟩ := hanswers
  · exact ⟨hnumbered.tags, hnumbered.next⟩
  · have hsame : Numbered { connection with node } := ⟨hnumbered.tags, hnumbered.next⟩
    exact hsame.send hanswer payload

/-- A push takes the tag that is due. -/
theorem Numbered.pushed {α : Type} [Message α] (hnumbered : connection.Numbered)
    {endpoint : Endpoint} {message : α}
    (hfits : (Cbor.encode message).length ≤ maxPayloadLength)
    (hpush : (Header.new endpoint (Message.messageType α) connection.nextTag).isPush) :
    (connection.pushed endpoint message).Numbered := by
  have hgrown : (connection.pushed endpoint message).sink.pushTags
      = connection.sink.pushTags ++ [connection.nextTag] := by
    show (connection.sink.sent ++ [_]).filterMap pushTag? = _
    rw [List.filterMap_append, List.filterMap_cons, pushTag?_of_push rfl hpush hfits]
    rfl
  refine ⟨?_, ?_⟩
  · rw [hgrown, List.length_append, List.length_singleton, List.range_succ, List.map_append,
      ← hnumbered.tags, hnumbered.next]
    rfl
  · show connection.nextTag + 1 = _
    rw [hgrown, List.length_append, List.length_singleton, hnumbered.next]
    exact (UInt8.ofNat_add _ 1).symm

end Connection

end Luminaire
