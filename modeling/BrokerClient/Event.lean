import BrokerClient.AcknowledgeMode
import BrokerClient.Destination

/-!
# Events

What happens on connections and what a log says about it. Every event has a level and a text. The
sink that an application installs for the events is one for the whole process: the first
installation wins and later ones are refused.
-/

namespace BrokerClient

inductive Level where
  | debug | info | warn
  deriving DecidableEq, Repr

def Level.name : Level → String
  | debug => "DEBUG"
  | info => "INFO"
  | warn => "WARN"

inductive Event where
  | zeroTerminationTimeout
  | emptyTrustedPackages
  | uriResolved (host : String) (port : Nat) (virtualHost : String)
  | clientIdHeld (id : String)
  | clientIdReleased (id : String)
  | clientIdSet (id : String)
  | subscriptionBound (name : String)
  | subscriptionRebound (name : String)
  | loopbackOpening (host : String) (port : Nat) (virtualHost : String)
  | loopbackShutDown (reason : String)
  | transportOpened (host : String) (port : Nat) (virtualHost username : String)
  | connectionOpened
  | connectionStarted
  | connectionStopped
  | connectionClosed
  | connectionDropped
  | dropCloseFailed (error : MessagingError)
  | guardReleased
  | guardCloseFailed (error : MessagingError)
  | transportAlreadyDown (error : TransportError)
  | transportCloseFailed (error : TransportError)
  | shutdownIgnored (cause : TransportError)
  | shutdownReceived (cause : TransportError)
  | sessionCreated (number : Nat) (transacted : Bool) (mode : AcknowledgeMode)
  | sessionPaused (number : Nat)
  | sessionResumed (number : Nat)
  | sessionClosed (number : Nat)
  | consumerCreated (session : Nat) (tag : String) (destination : Destination)
  | durableSubscribed (session : Nat) (name : String) (topic : Destination)
  | subscriptionRemoved (session : Nat) (name : String)
  | consumerClosed (tag : String)
  | consumerClosedWithSession (tag : String)
  deriving DecidableEq, Repr

namespace Event

open BrokerClient.Text

def level : Event → Level
  | zeroTerminationTimeout | emptyTrustedPackages | dropCloseFailed _ | guardCloseFailed _
  | transportCloseFailed _ | shutdownReceived _ => .warn
  | uriResolved .. | transportOpened .. | connectionOpened | connectionClosed => .info
  | _ => .debug

def truth (b : Bool) : String :=
  if b then "true" else "false"

def message : Event → String
  | zeroTerminationTimeout =>
    "termination_timeout is 0; consumers will not wait for in-flight deliveries."
  | emptyTrustedPackages => "trusted_packages is empty; every object payload will be rejected."
  | uriResolved host port vhost =>
    "Resolved broker URI to " ++ host ++ ":" ++ ofNat port ++ " (vhost '" ++ vhost ++ "')."
  | clientIdHeld id => "Client ID '" ++ id ++ "' is already held by a live connection."
  | clientIdReleased id => "Released client ID '" ++ id ++ "'."
  | clientIdSet id => "Client ID set to '" ++ id ++ "'."
  | subscriptionBound name => "Binding durable subscription '" ++ name ++ "'."
  | subscriptionRebound name => "Rebinding durable subscription '" ++ name ++ "'."
  | loopbackOpening host port vhost =>
    "Opening loopback transport for " ++ host ++ ":" ++ ofNat port ++ vhost
  | loopbackShutDown reason => "Loopback transport shut down by broker: " ++ reason
  | transportOpened host port vhost user =>
    "Opened transport to " ++ host ++ ":" ++ ofNat port ++ " (vhost '" ++ vhost ++ "') as '" ++ user
      ++ "'."
  | connectionOpened => "Connection opened."
  | connectionStarted => "Connection started."
  | connectionStopped => "Connection stopped."
  | connectionClosed => "Connection closed."
  | connectionDropped => "Connection dropped without close; closing it now."
  | dropCloseFailed e => "Error while closing dropped connection: " ++ e.message
  | guardReleased => "ConnectionGuard dropped after handoff; leaving connection open."
  | guardCloseFailed e => "Error while closing connection on guard drop: " ++ e.message
  | transportAlreadyDown e => "Transport was already down on close: " ++ e.message
  | transportCloseFailed e => "Failed to close transport: " ++ e.message
  | shutdownIgnored cause => "Ignoring transport shutdown on closed connection: " ++ cause.message
  | shutdownReceived cause => "Broker transport shut down: " ++ cause.message
  | sessionCreated number transacted mode =>
    "Created session " ++ ofNat number ++ " (transacted: " ++ truth transacted ++ ", mode: "
      ++ mode.name ++ ")."
  | sessionPaused number => "Session " ++ ofNat number ++ " paused."
  | sessionResumed number => "Session " ++ ofNat number ++ " resumed."
  | sessionClosed number => "Session " ++ ofNat number ++ " closed."
  | consumerCreated session tag destination =>
    "Session " ++ ofNat session ++ " created consumer " ++ tag ++ " on " ++ destination.display
      ++ "."
  | durableSubscribed session name topic =>
    "Session " ++ ofNat session ++ " subscribed durably as '" ++ name ++ "' to " ++ topic.display
      ++ "."
  | subscriptionRemoved session name =>
    "Session " ++ ofNat session ++ " removed durable subscription '" ++ name ++ "'."
  | consumerClosed tag => "Consumer " ++ tag ++ " closed."
  | consumerClosedWithSession tag => "Consumer " ++ tag ++ " closed with its session."

/-- The line that a log holds for the event. -/
def line (e : Event) : String :=
  e.level.name ++ " " ++ e.message

end Event

/-- The state of the sink: the level of its installation, if there was one. -/
structure LogSink where
  level : Option String
  deriving DecidableEq, Repr

namespace LogSink

/-- No sink installed. -/
def absent : LogSink := ⟨none⟩

/-- Installs the sink at a level, any text, unless one is installed; tells whether it was. -/
def install (sink : LogSink) (level : String) : LogSink × Bool :=
  match sink.level with
  | none => (⟨some level⟩, true)
  | some _ => (sink, false)

end LogSink

end BrokerClient
