/-
The lives of connections' workers and of the listener: which states there
are and which may follow which. They only move forward.
-/

namespace Luminaire

/-- States with an order of succession. -/
class Lifecycle (σ : Type) where
  /-- Whether the second may follow the first. -/
  follows : σ → σ → Bool
  name : σ → String

/-- A step that may not be taken. -/
structure TransitionError (σ : Type) where
  source : σ
  target : σ
  deriving DecidableEq, Repr

/-- The next state, if it may follow. -/
def transition {σ : Type} [Lifecycle σ] (source target : σ) : Except (TransitionError σ) σ :=
  if Lifecycle.follows source target then .ok target else .error ⟨source, target⟩

def TransitionError.message {σ : Type} [Lifecycle σ] (error : TransitionError σ) : String :=
  "invalid transition from " ++ Lifecycle.name error.source ++ " to "
    ++ Lifecycle.name error.target

inductive WorkerState where
  | running
  | terminating
  | closed
  deriving DecidableEq, Repr

instance : Lifecycle WorkerState where
  follows
    | .running, .terminating | .terminating, .closed => true
    | _, _ => false
  name
    | .running => "Running"
    | .terminating => "Terminating"
    | .closed => "Closed"

inductive ListenerState where
  | initializing
  | listening
  | terminating
  | closed
  deriving DecidableEq, Repr

instance : Lifecycle ListenerState where
  follows
    | .initializing, .listening | .initializing, .closed | .listening, .terminating
    | .terminating, .closed => true
    | _, _ => false
  name
    | .initializing => "Initializing"
    | .listening => "Listening"
    | .terminating => "Terminating"
    | .closed => "Closed"

end Luminaire
