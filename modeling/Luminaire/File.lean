/-
Files, as far as settings and keys are read from them: a path, and what
reading it gives. The file system as a whole is no part of the library:
what starts a controller takes it as a parameter, a function of type
`String → File` that says what each path leads to.
-/
import Luminaire.File.Fault
import Luminaire.Text.Utf8

namespace Luminaire

/-- A file as it was found. -/
structure File where
  /-- Where it lies; none for a file that was handed over by its content. -/
  path : Option String
  content : Except FileFault Bytes

/-- The file that holds some bytes, wherever it lies. -/
def File.holding (content : Bytes) : File := ⟨none, .ok content⟩

end Luminaire
