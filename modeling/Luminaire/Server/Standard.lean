/-
The handlers every controller has.
-/
import Luminaire.Connection.Handler
import Luminaire.Server.Registry

namespace Luminaire

/-- The standard handlers, in the order they are attached. -/
def standardHandlers : List (String × HandlerKind) := [
  ("default", .liveness),
  ("authentication", .authentication standardMethods),
  ("pixel_data", .pixelData),
  ("multicast_control", .groupControl)]

/-- Registers named kinds of handlers in order; the flags say which names
were free. -/
def Registry.registerAll {φ : Type} (registry : Registry φ) :
    List (String × φ) → List Bool × Registry φ
  | [] => ([], registry)
  | (name, entry) :: entries =>
      let (isNew, registry) := registry.register name entry
      let (flags, registry) := registry.registerAll entries
      (isNew :: flags, registry)

/-- The registry of a controller without further handlers. -/
def standardRegistry : Registry HandlerKind := (Registry.empty.registerAll standardHandlers).2

end Luminaire
