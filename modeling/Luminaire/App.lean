/-
A running controller: one broadcaster and one listener over a shared
directory and framebuffer.

Starting can fail in the settings, in the broadcaster or in the listener,
in this order; what was drawn by then is gone. A listener without a key
file makes up an identity, and breaks down when there is no randomness
for it; a broadcaster breaks down when its history has no end.
-/
import Luminaire.Config.Document
import Luminaire.Server.Listener
import Luminaire.Server.Standard

namespace Luminaire

/-- Why a listener did not start. -/
inductive ListenerError where
  | config (fault : ConfigError)
  | crypto (fault : CryptoError)
  deriving DecidableEq, Repr

/-- The error's wording, where it has a fixed one. -/
def ListenerError.message? : ListenerError → Option String
  | .config fault => fault.message?
  | .crypto fault => fault.message?.map ("crypto setup: " ++ ·)

/-- Why a controller did not start. -/
inductive AppError where
  | config (fault : ConfigError)
  | listener (fault : ListenerError)
  | group (fault : GroupError)
  deriving DecidableEq, Repr

/-- The error's wording, where it has a fixed one. -/
def AppError.message? : AppError → Option String
  | .config fault => fault.message?
  | .listener fault => fault.message?.map ("listener: " ++ ·)
  | .group fault => fault.message?.map ("multicast syncer: " ++ ·)

-- ======================================================== starting

/-- The identity a configuration names, or a fresh one. The last argument
finds the files at the paths it names. -/
def ServerConfig.identity (config : ServerConfig) (entropy : Entropy) (find : String → File) :
    Started CryptoError (Identity × Entropy) :=
  match config.keyPath with
  | some path =>
      match Identity.load (find path) (config.certificatePath.map find) with
      | .ok identity => .running (identity, entropy)
      | .error fault => .failed fault
  | none =>
      match Identity.generate? entropy with
      | some drawn => .running drawn
      | none => .crashed

/-- Starts listening over a rig. -/
def Listener.start (config : ServerConfig) (registry : Registry HandlerKind) (rig : Rig Outlet)
    (link : Link) (find : String → File) : Started ListenerError Listener :=
  match config.validate with
  | .error fault => .failed (.config fault)
  | .ok () =>
      match config.identity rig.venue.entropy find with
      | .crashed => .crashed
      | .failed fault => .failed (.crypto fault)
      | .running (identity, entropy) =>
          match config.suites with
          | .error fault => .failed (.config fault)
          | .ok suites =>
              match CookieJar.draw entropy with
              | .error fault => .failed (.crypto fault)
              | .ok (cookies, entropy) =>
                  .running (Listener.new { rig with venue := { rig.venue with entropy } } link
                    registry cookies ⟨identity, suites⟩)

/-- A controller is its listener, whose rig holds the broadcaster. -/
structure App where
  listener : Listener

namespace App

/-- Starts a controller around a broadcaster that runs already. -/
def startWith (config : ServerConfig) (group : Broadcaster KeyWatcher) (directory : Directory)
    (framebuffer : Framebuffer Watcher) (now : UInt64) (entropy : Entropy) (link : Link)
    (find : String → File) : Started AppError App :=
  let rig : Rig Outlet := ⟨⟨directory, framebuffer, some group, now, entropy⟩, []⟩
  match Listener.start config standardRegistry rig link find with
  | .running listener => .running ⟨listener⟩
  | .failed fault => .failed (.listener fault)
  | .crashed => .crashed

/-- Starts a controller and the broadcaster its settings ask for. -/
def start (config : ServerConfig) (directory : Directory) (framebuffer : Framebuffer Watcher)
    (now : UInt64) (entropy : Entropy) (link : Link) (find : String → File) :
    Started AppError App :=
  match config.validate with
  | .error fault => .failed (.config fault)
  | .ok () =>
      match Broadcaster.start config.multicast link config.multicast.group entropy with
      | .crashed => .crashed
      | .failed fault => .failed (.group fault)
      | .running (group, entropy) =>
          startWith config group directory framebuffer now entropy link find

/-- The key a node may pin. -/
def verifyingKey (app : App) : Bytes := app.listener.handshake.identity.verifyingKey

end App

end Luminaire
