/-
The controller's signing identity: an Ed25519 key, and a chain of
certificates that is handed to nodes as it is.

Keys come in armoured files. The first private key in the file counts
and must be an Ed25519 key; whatever follows it is not read. Of the
certificate file every certificate is taken, so a fault anywhere in it is
a fault of the identity.
-/
import Luminaire.CryptoError
import Luminaire.Identity.Armour
import Luminaire.Identity.PrivateKey

namespace Luminaire

structure Identity where
  /-- The secret the signing key is made from. -/
  seed : Bytes
  certificates : List Bytes
  deriving DecidableEq, Repr

namespace Identity

/-- The key a node may pin. -/
def verifyingKey (identity : Identity) : Bytes := Ed25519.publicKey identity.seed

def sign (identity : Identity) (message : Bytes) : Bytes := Ed25519.sign identity.seed message

/-- A fresh identity without certificates, if there is randomness for it. -/
def generate? (entropy : Entropy) : Option (Identity × Entropy) :=
  (entropy.draw? 32).map fun (seed, rest) => (⟨seed, []⟩, rest)

-- ============================================================ files

/-- The secret of the first private key among a file's pieces. -/
def seedOf : List Armour.Piece → Except CryptoError Bytes
  | [] => .error (.identity .noPrivateKey)
  | .broken :: _ => .error (.identity .malformed)
  | .part label body :: pieces =>
      match Base64.decode? body with
      | none => .error (.identity .malformed)
      | some form =>
          if label = "PRIVATE KEY" then
            match PrivateKey.seed? form with
            | some seed => .ok seed
            | none => .error (.identity .malformed)
          else seedOf pieces

/-- The certificates among a file's pieces. -/
def certificatesOf : List Armour.Piece → Except CryptoError (List Bytes)
  | [] => .ok []
  | .broken :: _ => .error (.identity .malformed)
  | .part label body :: pieces =>
      match Base64.decode? body with
      | none => .error (.identity .malformed)
      | some form =>
          match certificatesOf pieces with
          | .error fault => .error fault
          | .ok rest => .ok (if label = "CERTIFICATE" then form :: rest else rest)

/-- The identity in a key file and, where there is one, a certificate file. -/
def ofFiles (keyFile : Bytes) (certificateFile : Option Bytes) : Except CryptoError Identity :=
  match seedOf (Armour.pieces keyFile) with
  | .error fault => .error fault
  | .ok seed =>
      match certificateFile with
      | none => .ok ⟨seed, []⟩
      | some file =>
          match certificatesOf (Armour.pieces file) with
          | .error fault => .error fault
          | .ok certificates => .ok ⟨seed, certificates⟩

/-- The content of a file that has to be there. -/
def read (file : File) : Except CryptoError Bytes :=
  match file.content with
  | .ok content => .ok content
  | .error fault => .error (.identity (.file file.path fault))

/-- The identity in files that may be missing. -/
def load (keyFile : File) (certificateFile : Option File) : Except CryptoError Identity :=
  match read keyFile with
  | .error fault => .error fault
  | .ok key =>
      match certificateFile with
      | none => ofFiles key none
      | some file =>
          match read file with
          | .error fault => .error fault
          | .ok chain => ofFiles key (some chain)

end Identity

end Luminaire
