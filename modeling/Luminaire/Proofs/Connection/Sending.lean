/-
What sending does to a connection: the sink moves on, a tag may be
taken, and the peer and its node stay what they were.

Every handler answers through `replyWith`, `answer` or `refuse`, so the
frame lemmas here are all that a proof about a handler has to know about
the way out.
-/
import Luminaire.Connection.Basic

namespace Luminaire.Connection

variable {κ : Type} [Sink κ]

/-- Sending moves the sink on and changes nothing else. -/
theorem exists_sink_send (connection : Connection κ) (header : Header) (payload : Bytes) :
    ∃ sink, (connection.send header payload).2 = { connection with sink } := by
  unfold send
  split
  · exact ⟨connection.sink, rfl⟩
  · split
    · exact ⟨_, rfl⟩
    · exact ⟨_, rfl⟩

@[simp] theorem node_send (connection : Connection κ) (header : Header)
    (payload : Bytes) :
    (connection.send header payload).2.node = connection.node := by
  obtain ⟨sink, hsink⟩ := connection.exists_sink_send header payload
  rw [hsink]

-- ========================================================== answers

variable {α : Type} [Message α]

@[simp] theorem node_replyWith (connection : Connection κ) (request : Header)
    (message : α) :
    (connection.replyWith request message).2.node = connection.node :=
  node_send ..

/-- The same of a reply whose outcome is looked at. -/
theorem node_of_replyWith {connection after : Connection κ} {request : Header}
    {message : α} {result : Except HandlerError Unit}
    (hreply : connection.replyWith request message = (result, after)) :
    after.node = connection.node := by
  have hnode := connection.node_replyWith request message
  rw [hreply] at hnode
  exact hnode

/-- An answer is a reply whose success the caller may turn into a fault. -/
theorem answer_snd (connection : Connection κ) (request : Header) (message : α)
    (outcome : Except HandlerError Unit) :
    (connection.answer request message outcome).2
      = (connection.replyWith request message).2 := by
  unfold answer
  split
  next fault after hreply => rw [hreply]
  next after hreply => rw [hreply]

@[simp] theorem node_answer (connection : Connection κ) (request : Header) (message : α)
    (outcome : Except HandlerError Unit) :
    (connection.answer request message outcome).2.node = connection.node := by
  rw [answer_snd, node_replyWith]

end Luminaire.Connection
