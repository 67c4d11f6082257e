/-
The replay window: which of the sixty-four sequence numbers up to the
highest received one have been received.

Bit `i` of `seen` stands for `highest - i`. A number is fresh when it is
above all others, or inside the window with its bit clear.
-/

namespace Luminaire

structure ReplayWindow where
  highest : Option UInt64
  seen : UInt64
  deriving DecidableEq, Repr

namespace ReplayWindow

/-- How many sequence numbers the window covers. -/
def size : UInt64 := 64

/-- Nothing received yet. -/
def empty : ReplayWindow := ⟨none, 0⟩

def isFresh (window : ReplayWindow) (sequence : UInt64) : Bool :=
  match window.highest with
  | none => true
  | some highest =>
      if highest < sequence then true
      else
        let age := highest - sequence
        age < size && window.seen &&& (1 <<< age) == 0

/-- The window after receiving a sequence number. -/
def mark (window : ReplayWindow) (sequence : UInt64) : ReplayWindow :=
  match window.highest with
  | none => ⟨some sequence, 1⟩
  | some highest =>
      if highest < sequence then
        let shift := sequence - highest
        let kept := if size ≤ shift then 0 else window.seen <<< shift
        ⟨some sequence, kept ||| 1⟩
      else
        let age := highest - sequence
        if age < size then ⟨some highest, window.seen ||| (1 <<< age)⟩ else window

/-- The window as text. -/
def debugText (window : ReplayWindow) : String :=
  let highest := match window.highest with
    | none => "None"
    | some highest => s!"Some({highest.toNat})"
  "ReplayWindow \x7b highest: " ++ highest ++ s!", seen: {window.seen.toNat} \x7d"

end ReplayWindow

end Luminaire
