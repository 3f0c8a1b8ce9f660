import BrokerClient.ClientIdRegistry
import BrokerClient.Connection
import BrokerClient.Consumer
import BrokerClient.DurableSubscriptions
import BrokerClient.Factory
import BrokerClient.Listener
import BrokerClient.Metrics
import BrokerClient.Session
import BrokerClient.Table
import BrokerClient.Transport

/-!
# Clients

Everything that the connections of one client consist of. What does not exist reads as closed, so
calls on it are refused as calls on something closed are.
-/

namespace BrokerClient

structure Client where
  registries : Table RegistryId ClientIdRegistry
  subscriptions : Table SubscriptionsId DurableSubscriptions
  factories : Table FactoryId Factory
  transports : Table TransportId Transport
  connections : Table ConnectionId Connection
  sessions : Table SessionId Session
  consumers : Table ConsumerId Consumer
  listeners : Table ListenerId Listener
  /-- What each recorder was told. -/
  recorders : Table RecorderId (List TransportError)
  metrics : Metrics
  /-- The oldest event comes first. -/
  log : List Event
  deriving DecidableEq, Repr

namespace Client

/-- A client that has done nothing. -/
def initial : Client where
  registries := .empty
  subscriptions := .empty
  factories := .empty
  transports := .empty
  connections := .empty
  sessions := .empty
  consumers := .empty
  listeners := .empty
  recorders := .empty
  metrics := .zero
  log := []

def registry (cl : Client) (r : RegistryId) : ClientIdRegistry := cl.registries.get r
def durables (cl : Client) (d : SubscriptionsId) : DurableSubscriptions := cl.subscriptions.get d
def factory (cl : Client) (f : FactoryId) : Factory := cl.factories.get f
def transport (cl : Client) (t : TransportId) : Transport := cl.transports.get t
def connection (cl : Client) (c : ConnectionId) : Connection := cl.connections.get c
def session (cl : Client) (s : SessionId) : Session := cl.sessions.get s
def consumer (cl : Client) (k : ConsumerId) : Consumer := cl.consumers.get k
def listener (cl : Client) (l : ListenerId) : Listener := cl.listeners.get l
def recorded (cl : Client) (h : RecorderId) : List TransportError := cl.recorders.get h
def isOpen (cl : Client) (k : ConsumerId) : Bool := !(cl.consumer k).closed

/-- The open consumer bound to a name. -/
def activeConsumer? (cl : Client) (d : SubscriptionsId) (name : String) : Option ConsumerId :=
  (cl.durables d).active? cl.isOpen name

def onRegistry (cl : Client) (r : RegistryId) (f : ClientIdRegistry → ClientIdRegistry) : Client :=
  { cl with registries := cl.registries.modify r f }

def onDurables (cl : Client) (d : SubscriptionsId)
    (f : DurableSubscriptions → DurableSubscriptions) : Client :=
  { cl with subscriptions := cl.subscriptions.modify d f }

def onFactory (cl : Client) (f : FactoryId) (g : Factory → Factory) : Client :=
  { cl with factories := cl.factories.modify f g }

def onTransport (cl : Client) (t : TransportId) (f : Transport → Transport) : Client :=
  { cl with transports := cl.transports.modify t f }

def onConnection (cl : Client) (c : ConnectionId) (f : Connection → Connection) : Client :=
  { cl with connections := cl.connections.modify c f }

def onSession (cl : Client) (s : SessionId) (f : Session → Session) : Client :=
  { cl with sessions := cl.sessions.modify s f }

def onConsumer (cl : Client) (k : ConsumerId) (f : Consumer → Consumer) : Client :=
  { cl with consumers := cl.consumers.modify k f }

def onListener (cl : Client) (l : ListenerId) (f : Listener → Listener) : Client :=
  { cl with listeners := cl.listeners.modify l f }

/-- Tells a recorder of a shutdown. -/
def record (cl : Client) (h : RecorderId) (cause : TransportError) : Client :=
  { cl with recorders := cl.recorders.modify h fun told => told ++ [cause] }

def count (cl : Client) (f : Metrics → Metrics) : Client := { cl with metrics := f cl.metrics }
def note (cl : Client) (e : Event) : Client := { cl with log := cl.log ++ [e] }

/-- Goes on if the connection is open. -/
def ifOpen {α : Type} (cl : Client) (c : ConnectionId)
    (go : Unit → Client × Except MessagingError α) : Client × Except MessagingError α :=
  if (cl.connection c).closed then (cl, .error .connectionClosed) else go ()

end Client

end BrokerClient
