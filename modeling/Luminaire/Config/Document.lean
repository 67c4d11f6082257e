/-
Configuration documents in JSON.

A document names the settings it changes; all others keep their defaults.
Settings may also be listed in order. Numbers must be whole and in range,
and an optional setting may be null.
-/
import Luminaire.Config.Basic
import Luminaire.Json.Reader
import Luminaire.Net.Parse
import Luminaire.Text.Utf8

namespace Luminaire

namespace Json

/-- A whole number below a bound. -/
def wholeBelow? (bound : Nat) : Json → Option Nat
  | .whole value => if value < bound then some value else none
  | _ => none

def string? : Json → Option String
  | .string content => content
  | _ => none

def address? (document : Json) : Option IpAddress :=
  document.string?.bind IpAddress.ofString?

/-- Null or a value. -/
def optional? {α : Type} (read : Json → Option α) : Json → Option (Option α)
  | .null => some none
  | document => (read document).map some

def strings? : Json → Option (List String)
  | .array items => items.mapM string?
  | _ => none

/-- A setting's value: read where the document gives it, else the default. -/
def setting? {α : Type} (read : Json → Option α) (default : α) : Option Json → Option α
  | none => some default
  | some document => read document

end Json

open Json

-- ============================================================ group

namespace GroupConfig

def fieldNames : List String :=
  ["group", "port", "ttl", "interface", "rekey_interval", "key_history"]

def ofJson? (document : Json) : Option GroupConfig := do
  let given ← document.fields? fieldNames
  match given with
  | [group, port, ttl, interface, rekeyInterval, keyHistory] =>
      some {
        group := ← setting? address? standard.group group
        port := ← setting? (fun j => (wholeBelow? UInt16.size j).map Nat.toUInt16) standard.port port
        ttl := ← setting? (fun j => (wholeBelow? UInt32.size j).map Nat.toUInt32) standard.ttl ttl
        interface := ← setting? (optional? address?) standard.interface interface
        rekeyInterval := ← setting? (fun j => (wholeBelow? UInt64.size j).map Nat.toUInt64)
          standard.rekeyInterval rekeyInterval
        keyHistory := ← setting? (fun j => (wholeBelow? UInt64.size j).map Nat.toUInt64)
          standard.keyHistory keyHistory }
  | _ => none

def toJson (config : GroupConfig) : Json :=
  .ofPairs [
    ("group", .ofText config.group.toString),
    ("port", .whole config.port.toNat),
    ("ttl", .whole config.ttl.toNat),
    ("interface", .orNull .ofText (config.interface.map IpAddress.toString)),
    ("rekey_interval", .whole config.rekeyInterval.toNat),
    ("key_history", .whole config.keyHistory.toNat)]

end GroupConfig

-- =========================================================== server

namespace ServerConfig

def fieldNames : List String :=
  ["listen_address", "port", "accept_timeout", "client_read_timeout", "handshake_timeout",
    "gc_interval", "certificate_path", "key_path", "cipher_suites", "multicast"]

def ofJson? (document : Json) : Option ServerConfig := do
  let given ← document.fields? fieldNames
  let milliseconds? (j : Json) : Option UInt64 := (wholeBelow? UInt64.size j).map Nat.toUInt64
  match given with
  | [listenAddress, port, acceptTimeout, clientReadTimeout, handshakeTimeout, gcInterval,
      certificatePath, keyPath, cipherSuites, multicast] =>
      some {
        listenAddress := ← setting? (optional? address?) standard.listenAddress listenAddress
        port := ← setting? (fun j => (wholeBelow? UInt16.size j).map Nat.toUInt16) standard.port port
        acceptTimeout := ← setting? milliseconds? standard.acceptTimeout acceptTimeout
        clientReadTimeout := ← setting? milliseconds? standard.clientReadTimeout clientReadTimeout
        handshakeTimeout := ← setting? milliseconds? standard.handshakeTimeout handshakeTimeout
        gcInterval := ← setting? milliseconds? standard.gcInterval gcInterval
        certificatePath := ← setting? (optional? string?) standard.certificatePath certificatePath
        keyPath := ← setting? (optional? string?) standard.keyPath keyPath
        cipherSuites := ← setting? (optional? strings?) standard.cipherSuites cipherSuites
        multicast := ← setting? GroupConfig.ofJson? standard.multicast multicast }
  | _ => none

def toJson (config : ServerConfig) : Json :=
  .ofPairs [
    ("listen_address", .orNull .ofText (config.listenAddress.map IpAddress.toString)),
    ("port", .whole config.port.toNat),
    ("accept_timeout", .whole config.acceptTimeout.toNat),
    ("client_read_timeout", .whole config.clientReadTimeout.toNat),
    ("handshake_timeout", .whole config.handshakeTimeout.toNat),
    ("gc_interval", .whole config.gcInterval.toNat),
    ("certificate_path", .orNull .ofText config.certificatePath),
    ("key_path", .orNull .ofText config.keyPath),
    ("cipher_suites", .orNull (fun names => .array (names.map .ofText)) config.cipherSuites),
    ("multicast", config.multicast.toJson)]

/-- The compact document that spells all settings. -/
def render (config : ServerConfig) : String := String.ofList config.toJson.render

/-- The settings of a document, if they are valid. -/
def ofText (text : String) : Except ConfigError ServerConfig :=
  match (Json.ofString? text).bind ofJson? with
  | none => .error .malformed
  | some config =>
      match config.validate with
      | .error fault => .error fault
      | .ok () => .ok config

/-- The settings in a file. -/
def ofFile (file : File) : Except ConfigError ServerConfig :=
  match file.content with
  | .error fault => .error (.file file.path fault)
  | .ok content =>
      match utf8? content with
      | none => .error (.file file.path .notText)
      | some text => ofText text

end ServerConfig

end Luminaire
