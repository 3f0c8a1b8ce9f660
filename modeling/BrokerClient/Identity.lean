/-!
# Identities

What calls refer to. Whoever makes an object chooses its identity, which must be new.
-/

namespace BrokerClient

structure RegistryId where
  index : Nat
  deriving DecidableEq, Repr

structure SubscriptionsId where
  index : Nat
  deriving DecidableEq, Repr

structure FactoryId where
  index : Nat
  deriving DecidableEq, Repr

structure TransportId where
  index : Nat
  deriving DecidableEq, Repr

structure ConnectionId where
  index : Nat
  deriving DecidableEq, Repr

structure SessionId where
  index : Nat
  deriving DecidableEq, Repr

structure ConsumerId where
  index : Nat
  deriving DecidableEq, Repr

structure ListenerId where
  index : Nat
  deriving DecidableEq, Repr

structure RecorderId where
  index : Nat
  deriving DecidableEq, Repr

end BrokerClient
