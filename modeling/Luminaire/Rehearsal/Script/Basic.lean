/-
Scripts: rehearsals written as JSON documents.

A script is a list of steps, and its protocol the list of what each step
showed. A script that asks for something that cannot be done has no
protocol.
-/
import Luminaire.Document.Basic

namespace Luminaire.Rehearsal.Script

/-- What is shown by steps that act on a state. -/
def walk {σ : Type} (step : σ → Json → Option (Json × σ)) (state : σ) :
    List Json → Option (List Json × σ)
  | [] => some ([], state)
  | next :: steps =>
      match step state next with
      | none => none
      | some (shown, state) =>
          (walk step state steps).map fun (rest, state) => (shown :: rest, state)

/-- The protocol of the steps of a document. -/
def play {σ : Type} (document : Json) (state : σ) (step : σ → Json → Option (Json × σ)) :
    Option Json :=
  (walk step state (document.itemsAt "steps")).map fun (shown, _) => .array shown

/-- The clock of a script, which is set to some day in 2023 unless the
script sets it. -/
def nowOf (document : Json) : Option UInt64 :=
  if document.given "now_ms" then document.word64 "now_ms" else some 1700000000000

end Luminaire.Rehearsal.Script
