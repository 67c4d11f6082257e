/-
Keys of a session: for each direction a record key, a nonce base and a key
for the closing message of the handshake, all expanded from the secret
that the key exchange agreed on.

The salt is both sides' randoms, and every expansion names its role, its
use and the cipher suite, so no two of them share an input.
-/
import Luminaire.CryptoError
import Luminaire.Digest.Hmac
import Luminaire.Text.Utf8

namespace Luminaire

/-- Keys of one direction. -/
structure DirectionKeys where
  key : Bytes
  /-- Long enough for the widest nonce. -/
  iv : Bytes
  finished : Bytes
  deriving DecidableEq, Repr

/-- Keys of both directions; either side holds the same. -/
structure SessionKeys where
  client : DirectionKeys
  server : DirectionKeys
  deriving DecidableEq, Repr

/-- The two ends of a session. -/
inductive Role where
  | client
  | server
  deriving DecidableEq, Repr

def Role.name : Role → String
  | .client => "client"
  | .server => "server"

/-- The opposite side. -/
def Role.peer : Role → Role
  | .client => .server
  | .server => .client

/-- What a derived key is used for. -/
inductive KeyUse where
  | key
  | iv
  | finished
  deriving DecidableEq, Repr

namespace KeyUse

def name : KeyUse → String
  | .key => "key"
  | .iv => "iv"
  | .finished => "finished"

def length : KeyUse → Nat
  | .key => 32
  | .iv => 24
  | .finished => 32

end KeyUse

namespace SessionKeys

/-- The label an expansion runs under. -/
def info (role : Role) (use : KeyUse) (suite : String) : Bytes :=
  utf8 ("pixelnet " ++ role.name ++ " " ++ use.name ++ " " ++ suite)

/-- The salt of a derivation. -/
def salt (clientRandom serverRandom : Bytes) : Bytes := clientRandom ++ serverRandom

/-- The keys of one direction. -/
def expand (secret : Bytes) (role : Role) (suite : String) : DirectionKeys :=
  let part (use : KeyUse) : Bytes := hkdfExpand secret (info role use suite) use.length
  ⟨part .key, part .iv, part .finished⟩

/-- The keys behind a shared secret, for the session's randoms and suite. -/
def derive (shared clientRandom serverRandom : Bytes) (suite : String) : SessionKeys :=
  let secret := hkdfExtract (salt clientRandom serverRandom) shared
  ⟨expand secret .client suite, expand secret .server suite⟩

/-- Keys never show. -/
def debugText : String := "SessionKeys \x7b .. \x7d"

/-- The keys a side seals with. -/
def outgoing (keys : SessionKeys) : Role → DirectionKeys
  | .client => keys.client
  | .server => keys.server

/-- The keys a side opens with. -/
def incoming (keys : SessionKeys) : Role → DirectionKeys
  | .client => keys.server
  | .server => keys.client

end SessionKeys

end Luminaire
