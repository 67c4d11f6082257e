/-
Message authentication codes and key derivation over SHA-256: HMAC
(RFC 2104) and HKDF (RFC 5869).
-/
import Luminaire.Digest.Sha2

namespace Luminaire

/-- The key as one hash block: hashed first if it is longer, then padded. -/
def hmacKey (key : Bytes) : Bytes :=
  let short := if 64 < key.length then sha256 key else key
  short ++ List.replicate (64 - short.length) 0

/-- HMAC-SHA256. Any key length will do. -/
def hmac (key message : Bytes) : Bytes :=
  let key := hmacKey key
  sha256 (key.map (· ^^^ 0x5c) ++ sha256 (key.map (· ^^^ 0x36) ++ message))

@[simp] theorem length_hmac (key message : Bytes) : (hmac key message).length = 32 := by
  simp [hmac]

/-- A tag is good when it is the whole code; a truncated one is not. -/
def hmacVerifies (key message tag : Bytes) : Bool := hmac key message == tag

theorem hmacVerifies_iff (key message tag : Bytes) :
    hmacVerifies key message tag = true ↔ tag = hmac key message := by
  rw [hmacVerifies, beq_iff_eq]
  exact eq_comm

/-- HKDF extraction: the pseudorandom key behind a salted secret. -/
def hkdfExtract (salt secret : Bytes) : Bytes := hmac salt secret

/-- HKDF expansion to `length` bytes under an `info` label, for lengths of
at most one hash: all that record keys need. -/
def hkdfExpand (key info : Bytes) (length : Nat) : Bytes :=
  (hmac key (info ++ [1])).take length

theorem length_hkdfExpand (key info : Bytes) (length : Nat) (short : length ≤ 32) :
    (hkdfExpand key info length).length = length := by
  simp [hkdfExpand, short]

end Luminaire
