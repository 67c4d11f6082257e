/-
Cookies: what a peer has to return before anything is kept for it.

A cookie is a code over the peer's address and port under a secret of the
listener's. Nothing is stored per peer, and no other address can use it.
-/
import Luminaire.CryptoError
import Luminaire.Digest.Hmac
import Luminaire.Net.Address

namespace Luminaire

structure CookieJar where
  secret : Bytes
  deriving DecidableEq, Repr

namespace CookieJar

/-- What a cookie is computed over: the address and the port behind it. -/
def peerBytes (peer : SocketAddress) : Bytes :=
  peer.ip.octets ++ bigEndianBytes 2 peer.port.toNat

/-- A jar with a fresh secret. -/
def draw (entropy : Entropy) : Except CryptoError (CookieJar × Entropy) :=
  match entropy.draw? 32 with
  | some (secret, rest) => .ok (⟨secret⟩, rest)
  | none => .error (.entropy .cookieSecret)

/-- The cookie for a peer. -/
def issue (jar : CookieJar) (peer : SocketAddress) : Bytes := hmac jar.secret (peerBytes peer)

/-- Whether a cookie is the one for a peer. -/
def verifies (jar : CookieJar) (peer : SocketAddress) (cookie : Bytes) : Bool :=
  hmacVerifies jar.secret (peerBytes peer) cookie

theorem verifies_iff (jar : CookieJar) (peer : SocketAddress) (cookie : Bytes) :
    jar.verifies peer cookie = true ↔ cookie = jar.issue peer :=
  hmacVerifies_iff ..

/-- The secret never shows. -/
def debugText : String := "CookieJar \x7b .. \x7d"

end CookieJar

end Luminaire
