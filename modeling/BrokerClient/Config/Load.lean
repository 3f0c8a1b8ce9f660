import BrokerClient.Config.Basic
import BrokerClient.Event
import BrokerClient.Toml.Reader
import BrokerClient.Uri.Basic

/-!
# Loading a configuration

From a TOML text, from a file with such a text, or from a broker URI. What is not given takes its
default, and what comes out has been validated. Loading tells what it did in events.
-/

namespace BrokerClient.ConnectionConfig

/-- What is odd, though not wrong, about a configuration that passed its validation. -/
def warnings (c : ConnectionConfig) : List Event :=
  (if c.terminationTimeout.isZero then [.zeroTerminationTimeout] else [])
    ++ if c.trustedPackages.packages.isEmpty then [.emptyTrustedPackages] else []

/-- Validates a configuration and tells what is odd about it. -/
def check (c : ConnectionConfig) : Except ConfigError (ConnectionConfig × List Event) :=
  c.validate.map fun _ => (c, c.warnings)

/-- The value of a key, read by a function that may refuse it; `none` if the key is missing. -/
def field? (entries : List (String × Toml.Value)) (key : String)
    (read : Toml.Value → Option α) : Option (Option α) :=
  match entries.lookup key with
  | none => some none
  | some v => (read v).map some

def readText : Toml.Value → Option String
  | .string s => some s
  | _ => none

def readPort : Toml.Value → Option UInt16
  | .integer i => if 0 ≤ i ∧ i < UInt16.size then some i.toNat.toUInt16 else none
  | _ => none

def readBool : Toml.Value → Option Bool
  | .bool b => some b
  | _ => none

def readDuration : Toml.Value → Option Duration
  | .string s => Duration.parse? s
  | _ => none

def readTexts : Toml.Value → Option (List String)
  | .array items => items.mapM readText
  | _ => none

def tomlKeys : List String :=
  ["host", "port", "virtual_host", "username", "password", "tls", "termination_timeout",
    "trusted_packages", "log_level"]

/-- The configuration that the entries of a document give, before it is validated. Other keys are
ignored as long as the numbers in them are in range. -/
def ofEntries? (entries : List (String × Toml.Value)) : Option ConnectionConfig := do
  let host ← field? entries "host" readText
  let port ← field? entries "port" readPort
  let virtualHost ← field? entries "virtual_host" readText
  let username ← field? entries "username" readText
  let password ← field? entries "password" readText
  let tls ← field? entries "tls" readBool
  let timeout ← field? entries "termination_timeout" readDuration
  let packages ← field? entries "trusted_packages" readTexts
  let logLevel ← field? entries "log_level" readText
  if !((entries.filter fun (k, _) => !tomlKeys.contains k).all fun (_, v) => v.inRange) then none
  let tls := tls.getD false
  return {
    host := host.getD "localhost"
    port := port.getD (defaultPort tls)
    virtualHost := virtualHost.getD "/"
    username := username.getD "guest"
    password := password.getD "guest"
    tls
    terminationTimeout := timeout.getD defaultTerminationTimeout
    trustedPackages := (packages.map TrustedPackages.ofList).getD TrustedPackages.default
    logLevel := logLevel.getD "info" }

def ofToml (text : String) : Except ConfigError (ConnectionConfig × List Event) :=
  match (Toml.parse? text).bind ofEntries? with
  | none => .error .malformed
  | some c => c.check

/-- Loads a configuration from the contents of a file, or says why the file gives none. -/
def ofFile (name : String) (contents : Except IoKind (List UInt8)) :
    Except ConfigError (ConnectionConfig × List Event) :=
  match contents with
  | .error kind => .error (.unreadable name kind)
  | .ok bytes =>
    match Text.Utf8.decode? bytes with
    | none => .error (.unreadable name .invalidData)
    | some cs =>
      match ofToml (String.ofList cs) with
      | .error e => .error (.invalidFile name e)
      | .ok loaded => .ok loaded

def decodePart (raw : List Char) : Except MessagingError String :=
  match Text.Percent.decode raw with
  | .ok cs => .ok (String.ofList cs)
  | .error fault =>
    .error (.config ("invalid percent-encoding in '" ++ String.ofList raw ++ "': "
      ++ fault.message))

/-- Whether a scheme stands for an encrypted connection. -/
def tlsOfScheme (scheme : String) : Except MessagingError Bool :=
  if scheme = "amqp" then .ok false
  else if scheme = "amqps" then .ok true
  else .error (.config ("unsupported URI scheme '" ++ scheme ++ "', expected amqp or amqps"))

/-- Decodes a part of a URI unless it is empty, in which case the default stands. -/
def decodePartOr (default : String) (raw : List Char) : Except MessagingError String :=
  if raw.isEmpty then .ok default else decodePart raw

/-- A path without the slash at its start. -/
def withoutSlash (path : List Char) : List Char :=
  match path with
  | '/' :: r => r
  | p => p

/-- The configuration that a URI gives, before it is validated. -/
def ofParsedUri (uri : Uri) : Except MessagingError ConnectionConfig := do
  let tls ← tlsOfScheme uri.scheme
  let username ← decodePartOr "guest" uri.user.name
  let password ← match uri.user.password with
    | none => .ok "guest"
    | some p => decodePart p
  let virtualHost ← decodePartOr "/" (withoutSlash uri.path)
  return {
    host := if uri.host.isEmpty then "localhost" else String.ofList uri.host
    port := (uri.port.map Nat.toUInt16).getD (defaultPort tls)
    virtualHost, username, password, tls }

def ofUri (text : String) : Except MessagingError (ConnectionConfig × List Event) := do
  let uri ← match Uri.parse text.toList with
    | .ok uri => .ok uri
    | .error fault => .error (.config ("invalid broker URI: " ++ fault.message))
  let c ← ofParsedUri uri
  match c.check with
  | .error e => .error (.config e.message)
  | .ok (c, events) =>
    return (c, events ++ [.uriResolved c.host c.port.toNat c.virtualHost])

end BrokerClient.ConnectionConfig
