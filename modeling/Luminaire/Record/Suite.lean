/-
The cipher suites a session can run under, their names and how one is
agreed on.
-/
import Luminaire.Cbor.Record
import Luminaire.Cipher.Aead
import Luminaire.Text.Blank

namespace Luminaire

inductive CipherSuite where
  | chacha
  | xchacha
  deriving DecidableEq, Repr

namespace CipherSuite

/-- Every suite, in default order of preference. -/
def all : List CipherSuite := [.chacha, .xchacha]

def name : CipherSuite → String
  | .chacha => "CHACHA20-POLY1305-SHA256"
  | .xchacha => "XCHACHA20-POLY1305-SHA256"

/-- The suite a text names, whatever the case of its letters and the white
space around it. -/
def ofName? (text : String) : Option CipherSuite :=
  all.find? fun suite => sameIgnoringCase suite.name.toList (trimBlanks text.toList)

/-- The cipher that protects records. -/
def aead : CipherSuite → Aead
  | .chacha => .chacha20Poly1305
  | .xchacha => .xchacha20Poly1305

def nonceLength (suite : CipherSuite) : Nat := suite.aead.nonceLength

theorem aead_lawful (suite : CipherSuite) : suite.aead.Lawful := by
  cases suite
  · exact Aead.chacha20Poly1305_lawful
  · exact Aead.xchacha20Poly1305_lawful

/-- The first suite of a preference list that is also on offer. -/
def negotiate (preference offered : List CipherSuite) : Option CipherSuite :=
  preference.find? fun suite => offered.contains suite

def index : CipherSuite → Nat
  | .chacha => 0
  | .xchacha => 1

/-- A suite travels as its name. -/
def codec : Cbor.Codec CipherSuite :=
  .refine (.choice (all.map name)) index fun index => all[index]?

end CipherSuite

end Luminaire
