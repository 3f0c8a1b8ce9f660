import BrokerClient.Config.Basic
import BrokerClient.Identity

/-!
# Factories

What opens connections under one configuration. The connections of a factory share a registry of
client IDs, which factories may share in turn.
-/

namespace BrokerClient

/-- How a factory comes by a transport. -/
inductive Connector where
  | loopback
  /-- Every attempt fails. -/
  | failing (error : TransportError)
  deriving DecidableEq, Repr

structure Factory where
  config : ConnectionConfig
  connector : Connector
  clientIds : RegistryId
  /-- How many transports the connector has opened. -/
  opened : Nat
  deriving DecidableEq, Repr

namespace Factory

/-- What stands for a factory that does not exist. -/
def absent : Factory := ⟨{}, .failing .alreadyClosed, ⟨0⟩, 0⟩

instance : Inhabited Factory := ⟨absent⟩

end Factory

end BrokerClient
