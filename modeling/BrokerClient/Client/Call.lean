import BrokerClient.Client.Consuming
import BrokerClient.Client.Delivery
import BrokerClient.Client.Referring
import BrokerClient.Client.Shutdown

/-!
# Calls

All that can be done to a client, as data, and what it answers. A call that would make an object
under an identity or a tag in use is refused, and so is one on something that does not exist or on a
connection that nobody refers to. A refused call changes nothing. The reachable clients are those
that some sequence of calls leads to.
-/

namespace BrokerClient

inductive Call where
  | makeRegistry (r : RegistryId)
  | makeSubscriptions (d : SubscriptionsId)
  | makeFactory (f : FactoryId) (config : ConnectionConfig) (connector : Connector)
      (r : RegistryId)
  | makeListener (l : ListenerId) (closes : Option ConnectionId)
  | openTransport (t : TransportId)
  | openConnection (c : ConnectionId) (t : TransportId) (r : RegistryId) (d : SubscriptionsId)
      (deaf : Bool)
  | connect (f : FactoryId) (c : ConnectionId) (t : TransportId) (d : SubscriptionsId)
  | share (c : ConnectionId)
  | drop (c : ConnectionId)
  | dropGuard (c : ConnectionId)
  | releaseGuard (c : ConnectionId)
  | createSession (kind : Client.SessionKind) (c : ConnectionId) (s : SessionId)
      (transacted : Bool) (mode : AcknowledgeMode)
  | clientId (c : ConnectionId)
  | setClientId (c : ConnectionId) (id : String)
  | metadata (c : ConnectionId)
  | exceptionListener (c : ConnectionId)
  | setExceptionListener (c : ConnectionId) (l : Option ListenerId)
  | start (c : ConnectionId)
  | stop (c : ConnectionId)
  | close (c : ConnectionId)
  | setTerminationTimeout (c : ConnectionId) (timeout : Duration)
  | setTrusted (c : ConnectionId) (trusted : TrustedPackages)
  | connectionConsumer (c : ConnectionId) (durable : Bool)
  | transportShutDown (c : ConnectionId) (cause : TransportError)
  | addRecorder (t : TransportId) (h : RecorderId)
  | signal (t : TransportId) (reason : String)
  | failNextClose (t : TransportId) (failure : TransportError)
  | closeTransport (t : TransportId)
  | closeSession (s : SessionId)
  | pause (s : SessionId)
  | resume (s : SessionId)
  /-- One body is decoded as one type, so the reader has one complaint to make. -/
  | readObject (s : SessionId) (message : ObjectMessage) (type : PayloadType) (complaint : String)
  | createConsumer (s : SessionId) (k : ConsumerId) (token : String) (destination : Destination)
      (selector : Option String)
  | createDurable (s : SessionId) (k : ConsumerId) (token : String) (topic : Destination)
      (name : String) (selector : Option String)
  | unsubscribe (s : SessionId) (name : String)
  | closeConsumer (k : ConsumerId)
  | claimId (r : RegistryId) (id : String)
  | releaseId (r : RegistryId) (id : String)
  | bindDurable (d : SubscriptionsId) (name : String) (k : ConsumerId)
  | removeDurable (d : SubscriptionsId) (name : String)
  deriving DecidableEq, Repr

inductive Answer where
  | done
  | failed (error : MessagingError)
  /-- The identities in the call do not fit the client. -/
  | refused
  | flag (value : Bool)
  | clientId (id : Option String)
  | metadata (description : ProviderMetadata)
  | listener (l : Option ListenerId)
  | payload (value : Json.Value)
  | transport (result : Except TransportError Unit)
  /-- The open consumer that has the name, if one has. -/
  | holder (k : Option ConsumerId)

namespace Answer

def ofUnit : Except MessagingError Unit → Answer
  | .ok () => done
  | .error e => failed e

def ofResult {α : Type} (ok : α → Answer) : Except MessagingError α → Answer
  | .ok a => ok a
  | .error e => failed e

end Answer

namespace Client

/-- A consumer, open or closed, has the tag. -/
def hasTag (cl : Client) (tag : String) : Bool :=
  cl.consumers.values.any fun x => x.tag == tag

/-- A consumer can be made under an identity and a tag, neither of which was used before. -/
def admitsConsumer (cl : Client) (s : SessionId) (k : ConsumerId) (token : String) : Bool :=
  cl.sessions.has s && !cl.consumers.has k && !cl.hasTag (Consumer.tagOf token)

/-- The identities and tags that a call makes are new, the identities that it uses exist, and
somebody refers to the connection that it is made on. -/
def admits (cl : Client) : Call → Bool
  | .makeRegistry r => !cl.registries.has r
  | .makeSubscriptions d => !cl.subscriptions.has d
  | .makeFactory f _ _ r => !cl.factories.has f && cl.registries.has r
  | .makeListener l closes => !cl.listeners.has l && closes.all cl.connections.has
  | .openTransport t => !cl.transports.has t
  | .openConnection c t r d _ =>
    !cl.connections.has c && cl.transports.has t && cl.registries.has r && cl.subscriptions.has d
  | .connect f c t d =>
    cl.factories.has f && !cl.connections.has c && !cl.transports.has t && !cl.subscriptions.has d
  | .createSession _ c s _ _ => (cl.connection c).isReferred && !cl.sessions.has s
  | .setExceptionListener c l => (cl.connection c).isReferred && l.all cl.listeners.has
  | .share c | .drop c | .dropGuard c | .releaseGuard c | .clientId c | .setClientId c _
  | .metadata c | .exceptionListener c | .start c | .stop c | .close c
  | .setTerminationTimeout c _ | .setTrusted c _ | .connectionConsumer c _
  | .transportShutDown c _ => (cl.connection c).isReferred
  | .addRecorder t h => cl.transports.has t && !cl.recorders.has h
  | .signal t _ | .failNextClose t _ | .closeTransport t => cl.transports.has t
  | .closeSession s | .pause s | .resume s | .readObject s .. | .unsubscribe s _ =>
    cl.sessions.has s
  | .createConsumer s k token .. | .createDurable s k token .. => cl.admitsConsumer s k token
  | .closeConsumer k => cl.consumers.has k
  | .claimId r _ | .releaseId r _ => cl.registries.has r
  | .bindDurable d _ k => cl.subscriptions.has d && cl.consumers.has k
  | .removeDurable d _ => cl.subscriptions.has d

/-- What a call with fitting identities does. -/
def perform (cl : Client) : Call → Client × Answer
  | .makeRegistry r => ({ cl with registries := cl.registries.insert r .empty }, .done)
  | .makeSubscriptions d => ({ cl with subscriptions := cl.subscriptions.insert d .empty }, .done)
  | .makeFactory f config connector r =>
    ({ cl with factories := cl.factories.insert f ⟨config, connector, r, 0⟩ }, .done)
  | .makeListener l closes => ({ cl with listeners := cl.listeners.insert l ⟨closes, []⟩ }, .done)
  | .openTransport t => (cl.openTransport t, .done)
  | .openConnection c t r d deaf => (cl.openConnection c t r d deaf, .done)
  | .connect f c t d => (cl.connect f c t d).map id .ofUnit
  | .share c => (cl.share c, .done)
  | .drop c => (cl.drop c, .done)
  | .dropGuard c => (cl.dropGuard c, .done)
  | .releaseGuard _ => (cl.releaseGuard, .done)
  | .createSession kind c s transacted mode =>
    (createSessionOf kind cl c s transacted mode).map id .ofUnit
  | .clientId c => (cl, .ofResult .clientId (cl.clientId c))
  | .setClientId c i => (cl.setClientId c i).map id .ofUnit
  | .metadata c => (cl.metadata c).map id (.ofResult .metadata)
  | .exceptionListener c => (cl.exceptionListener c).map id (.ofResult .listener)
  | .setExceptionListener c l => (cl.setExceptionListener c l).map id .ofUnit
  | .start c => (cl.start c).map id .ofUnit
  | .stop c => (cl.stop c).map id .ofUnit
  | .close c => (cl.close c).map id .ofUnit
  | .setTerminationTimeout c timeout => (cl.setTerminationTimeout c timeout, .done)
  | .setTrusted c trusted => (cl.setTrusted c trusted, .done)
  | .connectionConsumer _ durable => (cl, .failed (connectionConsumer durable))
  | .transportShutDown c cause => (cl.transportShutDown c cause, .done)
  | .addRecorder t h => (cl.addRecorder t h, .done)
  | .signal t reason => (cl.signal t reason, .done)
  | .failNextClose t failure => (cl.onTransport t fun x => x.failNextClose failure, .done)
  | .closeTransport t => (cl.closeTransport t).map id .transport
  | .closeSession s => (cl.closeSession s, .done)
  | .pause s => (cl.pause s, .done)
  | .resume s => (cl.resume s, .done)
  | .readObject s m t complaint =>
    (cl.readObject s m t fun _ _ => complaint).map id (.ofResult .payload)
  | .createConsumer s k token destination selector =>
    (cl.createConsumer s k token destination selector).map id .ofUnit
  | .createDurable s k token topic name selector =>
    (cl.createDurable s k token topic name selector).map id .ofUnit
  | .unsubscribe s name => (cl.unsubscribe s name).map id .ofUnit
  | .closeConsumer k => (cl.closeConsumer k, .done)
  | .claimId r i => (cl.claimId r i).map id .flag
  | .releaseId r i => (cl.releaseId r i, .done)
  | .bindDurable d name k => (cl.bindDurable d name k).map id .holder
  | .removeDurable d name => (cl.removeDurable d name).map id .flag

def step (cl : Client) (call : Call) : Client × Answer :=
  if cl.admits call then cl.perform call else (cl, .refused)

/-- A sequence of calls, with the answers in their order. -/
def run (cl : Client) : List Call → Client × List Answer
  | [] => (cl, [])
  | call :: calls =>
    let (cl, answer) := cl.step call
    let (cl, answers) := cl.run calls
    (cl, answer :: answers)

/-- The clients that some sequence of allowed calls leads to. -/
inductive Reachable (allowed : Call → Prop) : Client → Prop where
  | initial : Reachable allowed initial
  | step {cl : Client} {call : Call} :
    Reachable allowed cl → allowed call → Reachable allowed (cl.step call).1

end Client

end BrokerClient
