/-
The endpoints of the control plane: which part of a controller a message
is for.
-/

namespace Luminaire

inductive Endpoint where
  /-- Liveness. -/
  | default
  | authentication
  | pixelData
  | multicastControl
  /-- Broadcasts to the group; no connection serves it. -/
  | multicastData
  deriving DecidableEq, Repr

namespace Endpoint

/-- The byte that names an endpoint on the wire. -/
def code : Endpoint → UInt8
  | .default => 0
  | .authentication => 1
  | .pixelData => 2
  | .multicastControl => 3
  | .multicastData => 4

def ofCode? (code : UInt8) : Option Endpoint :=
  match code.toNat with
  | 0 => some .default
  | 1 => some .authentication
  | 2 => some .pixelData
  | 3 => some .multicastControl
  | 4 => some .multicastData
  | _ => none

def name : Endpoint → String
  | .default => "default"
  | .authentication => "authentication"
  | .pixelData => "pixel_data"
  | .multicastControl => "multicast_control"
  | .multicastData => "multicast_data"

/-- The code of an endpoint names it. -/
theorem ofCode?_code (endpoint : Endpoint) : ofCode? endpoint.code = some endpoint := by
  cases endpoint <;> rfl

theorem code_inj {left right : Endpoint} : left.code = right.code ↔ left = right := by
  cases left <;> cases right <;> decide

end Endpoint

end Luminaire
