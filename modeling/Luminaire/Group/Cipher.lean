/-
The cipher of the group: XChaCha20-Poly1305 under at most one key at a
time, with initial values of sixteen bytes.

Loading a key of the wrong length leaves no key behind.
-/
import Luminaire.Cipher.Aead
import Luminaire.CryptoError

namespace Luminaire

/-- A cipher and the key it has loaded. -/
structure GroupCipher where
  key : Option Bytes
  deriving DecidableEq, Repr

namespace GroupCipher

def keyLength : Nat := 32

def ivLength : Nat := 16

/-- No key loaded. -/
def empty : GroupCipher := ⟨none⟩

/-- Replaces the key. -/
def load (key : Bytes) : Except CryptoError Unit × GroupCipher :=
  if key.length = keyLength then (.ok (), ⟨some key⟩)
  else (.error (.invalidKeyLength key.length), empty)

def hasKey (cipher : GroupCipher) : Bool := cipher.key.isSome

/-- An initial value as a nonce: zeros fill what it leaves. -/
def nonce? (iv : Bytes) : Except CryptoError Bytes :=
  if iv.length = ivLength then
    .ok (iv ++ List.replicate (Aead.xchacha20Poly1305.nonceLength - ivLength) 0)
  else .error (.invalidIvLength iv.length)

/-- The key and the nonce to work with. -/
def ready (cipher : GroupCipher) (iv : Bytes) : Except CryptoError (Bytes × Bytes) :=
  match cipher.key with
  | none => .error .noKey
  | some key =>
      match nonce? iv with
      | .error fault => .error fault
      | .ok nonce => .ok (key, nonce)

/-- Seals a text that is not empty. -/
def encrypt (cipher : GroupCipher) (text iv : Bytes) : Except CryptoError Bytes :=
  if text.isEmpty then .error .emptyPlaintext
  else
    match cipher.ready iv with
    | .error fault => .error fault
    | .ok (key, nonce) =>
        match Aead.xchacha20Poly1305.seal? key nonce [] text with
        | some sealed => .ok sealed
        | none => .error .sealFailed

/-- Opens a sealed text. -/
def decrypt (cipher : GroupCipher) (sealed iv : Bytes) : Except CryptoError Bytes :=
  match cipher.ready iv with
  | .error fault => .error fault
  | .ok (key, nonce) =>
      match Aead.xchacha20Poly1305.open? key nonce [] sealed with
      | some text => .ok text
      | none => .error .openFailed

/-- The cipher as text; its key never shows. -/
def debugText (cipher : GroupCipher) : String :=
  s!"AeadContext \x7b loaded: {cipher.hasKey} \x7d"

end GroupCipher

end Luminaire
