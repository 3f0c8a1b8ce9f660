import BrokerClient.Destination
import BrokerClient.Identity

/-!
# Consumers

The receiving end that a session makes for a destination.
-/

namespace BrokerClient

structure Consumer where
  /-- What the broker knows the consumer by. -/
  tag : String
  session : SessionId
  destination : Destination
  selector : Option String
  /-- The durable subscription that the consumer was made for. -/
  subscription : Option String
  closed : Bool
  deriving DecidableEq, Repr

namespace Consumer

/-- The tag made from a token. -/
def tagOf (token : String) : String := "consumer-" ++ token

/-- What stands for a consumer that does not exist. -/
def absent : Consumer := ⟨"", ⟨0⟩, .queue "", none, none, true⟩

instance : Inhabited Consumer := ⟨absent⟩

def isDurable (k : Consumer) : Bool := k.subscription.isSome

end Consumer

end BrokerClient
