import BrokerClient.Config.Basic
import BrokerClient.Event
import BrokerClient.Identity
import BrokerClient.Text.Unprintable

/-!
# Connections

The owner of a transport and of the sessions made on it. A connection starts out stopped. It may get
a client ID as long as it has not been used otherwise. It lives while somebody refers to it.
-/

namespace BrokerClient

structure Connection where
  transport : TransportId
  clientIds : RegistryId
  subscriptions : SubscriptionsId
  /-- The registered sessions, in the order in which they were made. -/
  sessions : List SessionId
  clientId : Option String
  listener : Option ListenerId
  closed : Bool
  stopped : Bool
  /-- No use yet rules out a client ID. -/
  assignable : Bool
  terminationTimeout : Duration
  trusted : TrustedPackages
  /-- The number of the next session. -/
  nextSession : Nat
  /-- How many names and guards refer to the connection. -/
  handles : Nat
  deriving DecidableEq, Repr

namespace Connection

def fresh (transport : TransportId) (clientIds : RegistryId) (subscriptions : SubscriptionsId) :
    Connection where
  transport
  clientIds
  subscriptions
  sessions := []
  clientId := none
  listener := none
  closed := false
  stopped := true
  assignable := true
  terminationTimeout := defaultTerminationTimeout
  trusted := .default
  nextSession := 1
  handles := 1

/-- What stands for a connection that does not exist. -/
def absent : Connection := { fresh ⟨0⟩ ⟨0⟩ ⟨0⟩ with closed := true, handles := 0 }

instance : Inhabited Connection := ⟨absent⟩

def isReferred (c : Connection) : Bool := c.handles != 0

/-- A connection in one line, for a log. -/
def describe (c : Connection) : String :=
  let id := match c.clientId with
    | some id => "Some(" ++ Text.quote id ++ ")"
    | none => "None"
  "Connection \x7b client_id: " ++ id ++ ", closed: " ++ Event.truth c.closed ++ ", stopped: "
    ++ Event.truth c.stopped ++ ", sessions: " ++ Text.ofNat c.sessions.length ++ ", .. \x7d"

end Connection

end BrokerClient
