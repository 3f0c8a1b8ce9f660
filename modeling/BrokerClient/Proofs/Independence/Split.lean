import BrokerClient.Client.Call

/-!
# Two groups of connections

The connections of a client fall into two groups, and with them whatever is only used by one group.
Registries of client IDs may be used by both groups as long as each claims IDs of its own. Factories
may be used by both, and so may listeners that close nothing.
-/

namespace BrokerClient

/-- Which of two groups everything belongs to. One is called `true` and the other `false`. -/
structure Split where
  connection : ConnectionId → Bool
  transport : TransportId → Bool
  subscriptions : SubscriptionsId → Bool
  session : SessionId → Bool
  consumer : ConsumerId → Bool
  recorder : RecorderId → Bool
  /-- A listener may belong to both groups. -/
  listener : ListenerId → Option Bool
  /-- Which group may claim a client ID in a registry. -/
  clientId : RegistryId → String → Bool
  /-- Which group may use a tag for a consumer. -/
  tag : String → Bool
  /-- The registry that a connection is opened with. -/
  registry : ConnectionId → RegistryId
  /-- The registry that a factory is made with. -/
  factory : FactoryId → RegistryId

namespace Split

def hook (g : Split) : ShutdownHook → Bool
  | .connection c => g.connection c
  | .recorder h => g.recorder h

/-- The call keeps to the groups: what it brings together is of one group. A connection has a
transport and durable subscriptions of its group, and its sessions and their consumers are of its
group as well. It claims client IDs of its group at the registry that it was opened with. A listener
that closes a connection is of the group of that connection, and is set on connections of that group
only. -/
def fits (g : Split) : Call → Bool
  | .makeFactory f _ _ r => g.factory f == r
  | .makeListener l closes => closes.all fun c => g.listener l == some (g.connection c)
  | .openConnection c t r d _ =>
    g.transport t == g.connection c && g.subscriptions d == g.connection c && g.registry c == r
  | .connect f c t d =>
    g.transport t == g.connection c && g.subscriptions d == g.connection c &&
      g.registry c == g.factory f
  | .createSession _ c s .. => g.session s == g.connection c
  | .setClientId c id => g.clientId (g.registry c) id == g.connection c
  | .setExceptionListener c l => l.all fun l => g.listener l != some (!g.connection c)
  | .addRecorder t h => g.recorder h == g.transport t
  | .createConsumer s k token .. | .createDurable s k token .. =>
    g.consumer k == g.session s && g.tag (Consumer.tagOf token) == g.session s
  | .bindDurable d _ k => g.consumer k == g.subscriptions d
  | _ => true

/-- The group that a call is on. A call on what both groups may use is on neither. -/
def side (g : Split) : Call → Option Bool
  | .makeRegistry _ | .makeFactory .. => none
  | .makeListener l _ => g.listener l
  | .makeSubscriptions d | .bindDurable d .. | .removeDurable d _ => some (g.subscriptions d)
  | .openTransport t | .addRecorder t _ | .signal t _ | .failNextClose t _ | .closeTransport t =>
    some (g.transport t)
  | .openConnection c .. | .connect _ c .. | .share c | .drop c | .dropGuard c | .releaseGuard c
  | .createSession _ c .. | .clientId c | .setClientId c _ | .metadata c | .exceptionListener c
  | .setExceptionListener c _ | .start c | .stop c | .close c | .setTerminationTimeout c _
  | .setTrusted c _ | .connectionConsumer c _ | .transportShutDown c _ => some (g.connection c)
  | .closeSession s | .pause s | .resume s | .readObject s .. | .createConsumer s ..
  | .createDurable s .. | .unsubscribe s _ => some (g.session s)
  | .closeConsumer k => some (g.consumer k)
  | .claimId r id | .releaseId r id => some (g.clientId r id)

end Split

end BrokerClient
