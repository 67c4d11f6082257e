/-
What can go wrong where keys are loaded, drawn or used.
-/
import Luminaire.Entropy
import Luminaire.File

namespace Luminaire

/-- Why a signing identity could not be loaded. -/
inductive IdentityFault where
  /-- No key section in the key file. -/
  | noPrivateKey
  /-- The file at this path could not be read. -/
  | file (path : Option String) (fault : FileFault)
  /-- The armour, the base64 or the key structure is broken. -/
  | malformed
  deriving DecidableEq, Repr

inductive CryptoError where
  | noKey
  | invalidKeyLength (length : Nat)
  | invalidIvLength (length : Nat)
  | emptyPlaintext
  | sealFailed
  | openFailed
  | identity (fault : IdentityFault)
  | entropy (purpose : Purpose)
  deriving DecidableEq, Repr

/-- The error's wording, where it has a fixed one. -/
def CryptoError.message? : CryptoError → Option String
  | .noKey => some "no key loaded"
  | .invalidKeyLength length => some s!"invalid key length {length}"
  | .invalidIvLength length => some s!"invalid iv length {length}"
  | .emptyPlaintext => some "refusing to seal an empty plaintext"
  | .sealFailed => some "seal failed"
  | .openFailed => some "authentication failed"
  | .identity .noPrivateKey => some "identity: no PKCS#8 private key in PEM input"
  | .identity (.file path fault) => fault.report? "identity: " path
  | .identity .malformed => none
  | .entropy purpose => some ("entropy source: " ++ purpose.label ++ "entropy exhausted")

end Luminaire
