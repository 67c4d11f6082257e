/-
A recorder stands in for the session behind a connection.

It takes down what is sent as it leaves, before anything is sealed, and it
can be told to refuse it.
-/
import Luminaire.Connection.Basic

namespace Luminaire

/-- Takes messages down, or refuses them. -/
structure Recorder where
  sent : List Bytes
  closed : Bool
  deriving DecidableEq, Repr

namespace Recorder

def empty : Recorder := ⟨[], false⟩

instance : Sink Recorder where
  put recorder message :=
    if recorder.closed then (.error .closed, recorder)
    else (.ok (), { recorder with sent := recorder.sent ++ [message] })

end Recorder

end Luminaire
