/-
Starting something that can fail.

A start that fails says why, and whoever asked for it goes on. A start
that breaks down has asked for what cannot be had, such as room beyond all
memory; nothing comes of it, not even an error.
-/

namespace Luminaire

/-- What can become of a start. -/
inductive Started (ε α : Type) where
  | running (value : α)
  | failed (error : ε)
  | crashed
  deriving DecidableEq, Repr

/-- What became of a start, with another view of what runs. -/
def Started.map {ε α β : Type} (f : α → β) : Started ε α → Started ε β
  | .running value => .running (f value)
  | .failed error => .failed error
  | .crashed => .crashed

end Luminaire
