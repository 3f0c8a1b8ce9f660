import BrokerClient.Duration.Text
import BrokerClient.Error
import BrokerClient.Trust

/-!
# Connection configuration

Where a broker is reached and how a client presents itself to it.
-/

namespace BrokerClient

/-- The default port of plain and of encrypted connections. -/
def defaultPort (tls : Bool) : UInt16 :=
  if tls then 5671 else 5672

/-- The time that consumers are given to finish when their session closes, unless another is set. -/
def defaultTerminationTimeout : Duration :=
  ⟨15, 0, by decide, Duration.zero.nanos_lt⟩

structure ConnectionConfig where
  host : String := "localhost"
  port : UInt16 := defaultPort false
  virtualHost : String := "/"
  username : String := "guest"
  password : String := "guest"
  tls : Bool := false
  terminationTimeout : Duration := defaultTerminationTimeout
  trustedPackages : TrustedPackages := TrustedPackages.default
  logLevel : String := "info"
  deriving DecidableEq, Repr

/-- Why a configuration cannot be used. -/
inductive ConfigError where
  | emptyHost
  | zeroPort
  | emptyVirtualHost
  /-- The text is no TOML, or a value in it has a wrong type. -/
  | malformed
  /-- The file of a name could not be read. -/
  | unreadable (file : String) (kind : IoKind)
  /-- The file of a name holds no usable configuration. -/
  | invalidFile (file : String) (cause : ConfigError)
  deriving DecidableEq, Repr

def ConfigError.message : ConfigError → String
  | emptyHost => "host cannot be empty"
  | zeroPort => "port cannot be 0"
  | emptyVirtualHost => "virtual_host cannot be empty"
  | malformed => "Failed to parse TOML"
  | unreadable file _ => "Failed to read config file at '" ++ file ++ "'"
  | invalidFile file _ => "Invalid config file '" ++ file ++ "'"

namespace ConnectionConfig

/-- Refuses settings under which no broker could be reached. -/
def validate (c : ConnectionConfig) : Except ConfigError Unit :=
  if Text.isBlankText c.host then .error .emptyHost
  else if c.port = 0 then .error .zeroPort
  else if c.virtualHost = "" then .error .emptyVirtualHost
  else .ok ()

end ConnectionConfig

end BrokerClient
