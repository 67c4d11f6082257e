/-
Which handlers a connection gets, and which of them an endpoint's
messages go to.

The registry lists kinds of handlers by name, each name once. A roster is
built from it for every connection: the handlers in order, without those
whose endpoint another one claimed before, and a table from endpoints to
positions.
-/
import Luminaire.Text.Quoted

namespace Luminaire

/-- Named entries in order of registration. -/
structure Registry (φ : Type) where
  entries : List (String × φ)

namespace Registry

variable {φ : Type}

def empty : Registry φ := ⟨[]⟩

def names (registry : Registry φ) : List String := registry.entries.map Prod.fst

/-- Adds an entry, unless its name is taken. -/
def register (registry : Registry φ) (name : String) (entry : φ) : Bool × Registry φ :=
  if registry.names.contains name then (false, registry)
  else (true, ⟨registry.entries ++ [(name, entry)]⟩)

def size (registry : Registry φ) : Nat := registry.entries.length

/-- The names as text. -/
def debugText (registry : Registry φ) : String := quotedList registry.names

end Registry

-- ============================================================ roster

/-- Handlers and the table of the endpoints they serve. -/
structure Roster (η : Type) where
  handlers : List η
  /-- Endpoint bytes and positions among the handlers. -/
  slots : List (UInt8 × Nat)

namespace Roster

variable {η : Type}

def empty : Roster η := ⟨[], []⟩

/-- The position of the handler that serves an endpoint. -/
def slot? (roster : Roster η) (endpoint : UInt8) : Option Nat := roster.slots.lookup endpoint

/-- Takes a handler in, unless its endpoint is claimed already. -/
def claim (roster : Roster η) (endpoint : UInt8) (handler : η) : Bool × Roster η :=
  match roster.slot? endpoint with
  | some _ => (false, roster)
  | none =>
      (true, ⟨roster.handlers ++ [handler], roster.slots ++ [(endpoint, roster.handlers.length)]⟩)

end Roster

end Luminaire
