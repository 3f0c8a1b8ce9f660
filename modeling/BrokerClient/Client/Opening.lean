import BrokerClient.Client.Basic
import BrokerClient.Provider

/-!
# Opening

How connections and sessions come to be, and what a connection is asked and told before it is used.
-/

namespace BrokerClient.Client

def openTransport (cl : Client) (t : TransportId) : Client :=
  { cl with transports := cl.transports.insert t .fresh }

/-- Opens a connection over a transport. A deaf connection does not learn of shutdowns. -/
def openConnection (cl : Client) (c : ConnectionId) (t : TransportId) (r : RegistryId)
    (d : SubscriptionsId) (deaf : Bool) : Client :=
  let cl := { cl with connections := cl.connections.insert c (.fresh t r d) }
  let cl := if deaf then cl else cl.onTransport t fun x => x.onShutdown (.connection c)
  (cl.count Metrics.connectionOpened).note .connectionOpened

/-- Opens a connection of a factory over a transport of its own, with subscriptions of its own. -/
def connect (cl : Client) (f : FactoryId) (c : ConnectionId) (t : TransportId)
    (d : SubscriptionsId) : Client × Except MessagingError Unit :=
  let x := cl.factory f
  match x.connector with
  | .failing e => (cl, .error (.ofTransport e))
  | .loopback =>
    let cl := cl.note (.loopbackOpening x.config.host x.config.port.toNat x.config.virtualHost)
    let cl := (cl.openTransport t).onFactory f fun x => { x with opened := x.opened + 1 }
    let cl := cl.note (.transportOpened x.config.host x.config.port.toNat x.config.virtualHost
      x.config.username)
    let cl := { cl with subscriptions := cl.subscriptions.insert d .empty }
    let cl := (cl.openConnection c t x.clientIds d false).onConnection c fun y =>
      { y with
        terminationTimeout := x.config.terminationTimeout
        trusted := x.config.trustedPackages }
    (cl, .ok ())

/-- Rules out a client ID for a connection that has none yet. -/
def foreclose (cl : Client) (c : ConnectionId) : Client :=
  cl.onConnection c fun x => { x with assignable := false }

/-- Claims an ID at a registry and tells whether it was free. -/
def claimId (cl : Client) (r : RegistryId) (id : String) : Client × Bool :=
  match (cl.registry r).claim? id with
  | some claimed => (cl.onRegistry r fun _ => claimed, true)
  | none => ((cl.count Metrics.collided).note (.clientIdHeld id), false)

def clientId (cl : Client) (c : ConnectionId) : Except MessagingError (Option String) :=
  if (cl.connection c).closed then .error .connectionClosed else .ok (cl.connection c).clientId

/-- Gives a connection a client ID, if it has had no other use and the ID is free. -/
def setClientId (cl : Client) (c : ConnectionId) (id : String) :
    Client × Except MessagingError Unit :=
  let x := cl.connection c
  if !x.assignable then
    (cl, .error (.illegalState "Client ID can only be set right after connection creation"))
  else
    cl.ifOpen c fun () =>
      match x.clientId with
      | some _ => (cl, .error (.illegalState "Client ID already set"))
      | none =>
        match cl.claimId x.clientIds id with
        | (cl, true) =>
          ((cl.onConnection c fun x => { x with clientId := some id }).note (.clientIdSet id),
            .ok ())
        | (cl, false) =>
          (cl, .error (.invalidClientId
            ("A connection with that client ID already exists [" ++ id ++ "]")))

def metadata (cl : Client) (c : ConnectionId) : Client × Except MessagingError ProviderMetadata :=
  let cl := cl.foreclose c
  cl.ifOpen c fun () => (cl, .ok connectionMetadata)

def exceptionListener (cl : Client) (c : ConnectionId) :
    Client × Except MessagingError (Option ListenerId) :=
  let cl := cl.foreclose c
  cl.ifOpen c fun () => (cl, .ok (cl.connection c).listener)

def setExceptionListener (cl : Client) (c : ConnectionId) (l : Option ListenerId) :
    Client × Except MessagingError Unit :=
  let cl := cl.foreclose c
  cl.ifOpen c fun () => (cl.onConnection c fun x => { x with listener := l }, .ok ())

/-- Sets the time that consumers of later sessions are given to finish. -/
def setTerminationTimeout (cl : Client) (c : ConnectionId) (timeout : Duration) : Client :=
  cl.onConnection c fun x => { x with terminationTimeout := timeout }

def setTrusted (cl : Client) (c : ConnectionId) (trusted : TrustedPackages) : Client :=
  cl.onConnection c fun x => { x with trusted }

/-- Connections have no consumers of their own. -/
def connectionConsumer (durable : Bool) : MessagingError :=
  .unsupported (if durable then "createDurableConnectionConsumer" else "createConnectionConsumer")

/-- What kind of session is asked for. Only the order of two checks depends on it. -/
inductive SessionKind where
  | plain | queue | topic
  deriving DecidableEq, Repr

def nextSession (cl : Client) (c : ConnectionId) (transacted : Bool) (mode : AcknowledgeMode) :
    Session :=
  let x := cl.connection c
  { connection := c
    number := x.nextSession
    transacted
    mode := if transacted then .sessionTransacted else mode
    subscriptions := x.subscriptions
    trusted := x.trusted
    terminationTimeout := x.terminationTimeout
    closed := false
    paused := x.stopped
    pauses := 0
    resumes := 0
    consumers := [] }

/-- Makes a session. One made while the connection is stopped starts out paused. -/
def createSession (cl : Client) (c : ConnectionId) (s : SessionId) (transacted : Bool)
    (mode : AcknowledgeMode) : Client × Except MessagingError Unit :=
  let cl := cl.foreclose c
  cl.ifOpen c fun () =>
    let session := cl.nextSession c transacted mode
    let cl := { cl with sessions := cl.sessions.insert s session }
    let cl := cl.onConnection c fun x =>
      { x with sessions := x.sessions ++ [s], nextSession := x.nextSession + 1 }
    ((cl.count Metrics.sessionOpened).note
      (.sessionCreated session.number transacted session.mode), .ok ())

/-- Makes a session of a kind. Asking a closed connection for a queue or topic session does not
count as a use of it. -/
def createSessionOf (kind : SessionKind) (cl : Client) (c : ConnectionId) (s : SessionId)
    (transacted : Bool) (mode : AcknowledgeMode) : Client × Except MessagingError Unit :=
  match kind with
  | .plain => cl.createSession c s transacted mode
  | .queue | .topic => cl.ifOpen c fun () => cl.createSession c s transacted mode

end BrokerClient.Client
