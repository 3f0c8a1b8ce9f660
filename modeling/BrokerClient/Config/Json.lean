import BrokerClient.Config.Basic
import BrokerClient.Json.Writer

/-!
# Configurations as JSON

All settings but the password are written, in a fixed order. When a configuration is read, a missing
password is the default one and nothing else may be missing; nothing is validated.
-/

namespace BrokerClient.ConnectionConfig

/-- The names of the settings, in the order in which they are written. -/
def jsonNames : List String :=
  ["host", "port", "virtual_host", "username", "password", "tls", "termination_timeout",
    "trusted_packages", "log_level"]

/-- A configuration as JSON, without its password. -/
def toJson (c : ConnectionConfig) : Json.Value :=
  .object [
    ("host", .string c.host),
    ("port", .integer c.port.toNat),
    ("virtual_host", .string c.virtualHost),
    ("username", .string c.username),
    ("tls", .bool c.tls),
    ("termination_timeout", .string c.terminationTimeout.render),
    ("trusted_packages", c.trustedPackages.toJson),
    ("log_level", .string c.logLevel)]

def ofJson? (s : Json.Syntax) : Option ConnectionConfig := do
  let fields ← s.fields? jsonNames
  match fields with
  | [some host, some port, some virtualHost, some username, password, some tls, some timeout,
      some packages, some logLevel] => do
    let host ← host.text?
    let port ← port.natural? UInt16.size
    let virtualHost ← virtualHost.text?
    let username ← username.text?
    let password ← match password with
      | none => some "guest"
      | some p => p.text?
    let tls ← tls.bool?
    let terminationTimeout ← timeout.text?.bind Duration.parse?
    let trustedPackages ← TrustedPackages.ofJson? packages
    let logLevel ← logLevel.text?
    return { host, port := port.toUInt16, virtualHost, username, password, tls, terminationTimeout,
             trustedPackages, logLevel }
  | _ => none

end BrokerClient.ConnectionConfig
