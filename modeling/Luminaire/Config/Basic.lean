/-
Settings of a controller: where it listens, its timeouts and identity,
the cipher suites it prefers and the group it broadcasts to. Everything
has a default. Durations are in milliseconds.
-/
import Luminaire.File
import Luminaire.Net.Address
import Luminaire.Record.Suite
import Luminaire.Text.Quoted

namespace Luminaire

inductive ConfigError where
  /-- The file at this path could not be read, or not as text. -/
  | file (path : Option String) (fault : FileFault)
  /-- The text is no configuration document. -/
  | malformed
  /-- A document whose settings make no sense together. -/
  | invalid (reason : String)
  deriving DecidableEq, Repr

/-- The error's wording, where it has a fixed one. -/
def ConfigError.message? : ConfigError → Option String
  | .file path fault => fault.report? "reading " path
  | .malformed => none
  | .invalid reason => some ("invalid configuration: " ++ reason)

-- ============================================================ group

/-- Group broadcast and key rotation. -/
structure GroupConfig where
  group : IpAddress
  port : UInt16
  ttl : UInt32
  /-- Outgoing interface; none leaves the choice open. -/
  interface : Option IpAddress
  rekeyInterval : UInt64
  /-- Keys kept valid, counting the current one. -/
  keyHistory : UInt64
  deriving DecidableEq, Repr

namespace GroupConfig

def standard : GroupConfig where
  group := .ofOctets 239 42 0 1
  port := 7251
  ttl := 1
  interface := none
  rekeyInterval := 300000
  keyHistory := 3

/-- The first thing wrong with the settings, if any. -/
def validate (config : GroupConfig) : Except ConfigError Unit :=
  if !config.group.isMulticast then
    .error (.invalid (config.group.toString ++ " is not a multicast group"))
  else if config.interface.any fun interface => interface.isV4 != config.group.isV4 then
    .error (.invalid "multicast interface and group differ in address family")
  else if config.rekeyInterval = 0 then
    .error (.invalid "rekey_interval must be non-zero")
  else if config.keyHistory = 0 then
    .error (.invalid "key_history must be at least 1")
  else .ok ()

def address (config : GroupConfig) : SocketAddress := ⟨config.group, config.port⟩

end GroupConfig

-- =========================================================== server

/-- Listener and connections. -/
structure ServerConfig where
  /-- Address to listen on; none stands for every address in both families. -/
  listenAddress : Option IpAddress
  port : UInt16
  acceptTimeout : UInt64
  clientReadTimeout : UInt64
  handshakeTimeout : UInt64
  gcInterval : UInt64
  certificatePath : Option String
  keyPath : Option String
  /-- Suite names in order of preference; none enables all of them. -/
  cipherSuites : Option (List String)
  multicast : GroupConfig
  deriving DecidableEq, Repr

namespace ServerConfig

def standard : ServerConfig where
  listenAddress := none
  port := 7250
  acceptTimeout := 250
  clientReadTimeout := 500
  handshakeTimeout := 5000
  gcInterval := 1000
  certificatePath := none
  keyPath := none
  cipherSuites := none
  multicast := .standard

/-- The address the listener binds. -/
def listenOn (config : ServerConfig) : SocketAddress :=
  ⟨config.listenAddress.getD .anyV6, config.port⟩

/-- The suites that names stand for, each once, in order of first mention. -/
def suitesNamed : (names : List String) → (found : List CipherSuite) →
    Except ConfigError (List CipherSuite)
  | [], found => .ok found
  | name :: names, found =>
      match CipherSuite.ofName? name with
      | none => .error (.invalid ("unknown cipher suite " ++ quoted name))
      | some suite =>
          suitesNamed names (if found.contains suite then found else found ++ [suite])

/-- The suites to choose from, in order of preference. -/
def suites (config : ServerConfig) : Except ConfigError (List CipherSuite) :=
  match config.cipherSuites with
  | none => .ok CipherSuite.all
  | some names =>
      match suitesNamed names [] with
      | .error fault => .error fault
      | .ok [] => .error (.invalid "cipher suite list is empty")
      | .ok suites => .ok suites

/-- The first thing wrong with the settings, if any. -/
def validate (config : ServerConfig) : Except ConfigError Unit :=
  if config.acceptTimeout = 0 then .error (.invalid "accept_timeout must be non-zero")
  else if config.clientReadTimeout = 0 then
    .error (.invalid "client_read_timeout must be non-zero")
  else if config.handshakeTimeout = 0 then .error (.invalid "handshake_timeout must be non-zero")
  else if config.certificatePath.isSome && config.keyPath.isNone then
    .error (.invalid "certificate_path requires key_path")
  else
    match config.suites with
    | .error fault => .error fault
    | .ok _ => config.multicast.validate

end ServerConfig

end Luminaire
