import BrokerClient.Client.Basic

/-!
# Closing

Closing goes down: a connection closes its sessions and a session its consumers, and what is closed
leaves the list of its owner. A connection closes its sessions one by one, always the first of those
still registered, and its transport last.
-/

namespace BrokerClient.Client

/-- Takes the consumers of a tag off a session's list. -/
def forgetConsumer (cl : Client) (s : SessionId) (tag : String) : Client :=
  cl.onSession s fun x =>
    { x with consumers := x.consumers.filter fun k => (cl.consumer k).tag ≠ tag }

/-- Closes a consumer on its own. -/
def closeConsumer (cl : Client) (k : ConsumerId) : Client :=
  let x := cl.consumer k
  if x.closed then cl
  else
    ((cl.onConsumer k fun x => { x with closed := true }).forgetConsumer x.session x.tag).note
      (.consumerClosed x.tag)

/-- Closes a consumer while its session closes. -/
def closeWithSession (cl : Client) (k : ConsumerId) : Client :=
  let x := cl.consumer k
  if x.closed then cl
  else (cl.onConsumer k fun x => { x with closed := true }).note (.consumerClosedWithSession x.tag)

/-- Closes a session and its consumers and leaves it registered. -/
def shutSession (cl : Client) (s : SessionId) : Client :=
  let x := cl.session s
  if x.closed then cl
  else
    let cl := cl.onSession s fun x => { x with closed := true, consumers := [] }
    let cl := x.consumers.foldl closeWithSession cl
    (cl.count Metrics.sessionClosed).note (.sessionClosed x.number)

/-- Takes a session off a connection's list, by its number. -/
def deregister (cl : Client) (c : ConnectionId) (s : SessionId) : Client :=
  cl.onConnection c fun x =>
    { x with
      sessions := x.sessions.filter fun s' => (cl.session s').number ≠ (cl.session s).number }

/-- Closes a session. It leaves the list of its connection if somebody still refers to that. -/
def closeSession (cl : Client) (s : SessionId) : Client :=
  let c := (cl.session s).connection
  let cl := cl.shutSession s
  if (cl.connection c).isReferred then cl.deregister c s else cl

/-- Closes the first session that is still registered with a connection and takes it off the list,
or tells that there is none. -/
def drainStep? (cl : Client) (c : ConnectionId) : Option Client :=
  match (cl.connection c).sessions with
  | [] => none
  | s :: _ => some ((cl.closeSession s).deregister c s)

/-- Closes registered sessions as long as there are some, in at most so many rounds. -/
def drainWithin (cl : Client) (c : ConnectionId) : Nat → Client
  | 0 => cl
  | rounds + 1 =>
    match cl.drainStep? c with
    | none => cl
    | some cl' => cl'.drainWithin c rounds

/-- Closes all registered sessions. Each round takes one off the list. -/
def drain (cl : Client) (c : ConnectionId) : Client :=
  cl.drainWithin c (cl.connection c).sessions.length

def releaseId (cl : Client) (r : RegistryId) (id : String) : Client :=
  if (cl.registry r).holds id then
    (cl.onRegistry r fun x => x.release id).note (.clientIdReleased id)
  else cl

/-- Gives the client ID of a connection back, if it has one. -/
def releaseClientId (cl : Client) (c : ConnectionId) : Client :=
  match (cl.connection c).clientId with
  | none => cl
  | some id => cl.releaseId (cl.connection c).clientIds id

def closeTransport (cl : Client) (t : TransportId) : Client × Except TransportError Unit :=
  (cl.onTransport t fun x => x.close.1, (cl.transport t).close.2)

/-- Closes the transport of a connection. One that was down already will do. -/
def shutTransport (cl : Client) (t : TransportId) : Client × Except MessagingError Unit :=
  match cl.closeTransport t with
  | (cl, .ok ()) => (cl, .ok ())
  | (cl, .error e) =>
    if e.isBenignOnClose then (cl.note (.transportAlreadyDown e), .ok ())
    else (cl.note (.transportCloseFailed e), .error (.ofTransport e))

/-- Closes all of a connection but its transport. -/
def tearDown (cl : Client) (c : ConnectionId) : Client :=
  let cl := cl.onConnection c fun x => { x with closed := true }
  ((cl.releaseClientId c).drain c).count Metrics.connectionClosed

/-- Closes a connection. A second close does nothing. The error is that of the transport, with all
else closed. -/
def close (cl : Client) (c : ConnectionId) : Client × Except MessagingError Unit :=
  if (cl.connection c).closed then (cl, .ok ())
  else
    let (cl, result) := (cl.tearDown c).shutTransport (cl.connection c).transport
    (cl.note .connectionClosed, result)

end BrokerClient.Client
