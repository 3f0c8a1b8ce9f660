import BrokerClient.Client.Call
import BrokerClient.Proofs.Table

/-!
# Look-ups in changed clients

What the change of one object does to the look-up of that kind of object. All other look-ups are
as before by definition. What does not exist is closed, so whatever is open exists.
-/

namespace BrokerClient

namespace Session

def shut (s : Session) : Session := { s with closed := true, consumers := [] }

@[simp] theorem shut_shut (s : Session) : s.shut.shut = s.shut := rfl

@[simp] theorem closed_shut (s : Session) : s.shut.closed = true := rfl

end Session

namespace Consumer

def shut (k : Consumer) : Consumer := { k with closed := true }

@[simp] theorem shut_shut (k : Consumer) : k.shut.shut = k.shut := rfl

@[simp] theorem closed_shut (k : Consumer) : k.shut.closed = true := rfl

@[simp] theorem tag_shut (k : Consumer) : k.shut.tag = k.tag := rfl

theorem shut_eq_self {k : Consumer} (h : k.closed = true) : k.shut = k := by
  cases k
  simp_all [shut]

end Consumer

theorem Transport.close_eq (x : Transport) :
    x.close.1 = { x with closed := true, pendingFailure := none, closeCalls := x.closeCalls + 1 } := by
  unfold close
  split
  · rfl
  · split <;> rfl

namespace Client

variable {cl : Client}

theorem registry_onRegistry {r : RegistryId} (h : cl.registries.has r = true)
    (f : ClientIdRegistry → ClientIdRegistry) (r' : RegistryId) :
    (cl.onRegistry r f).registry r' = if r' = r then f (cl.registry r) else cl.registry r' :=
  Table.get_modify_of_has h f r'

theorem durables_onDurables {d : SubscriptionsId} (h : cl.subscriptions.has d = true)
    (f : DurableSubscriptions → DurableSubscriptions) (d' : SubscriptionsId) :
    (cl.onDurables d f).durables d' = if d' = d then f (cl.durables d) else cl.durables d' :=
  Table.get_modify_of_has h f d'

theorem connection_onConnection {c : ConnectionId} {f : Connection → Connection}
    (h : cl.connections.has c = false → f default = default) (c' : ConnectionId) :
    (cl.onConnection c f).connection c' =
      if c' = c then f (cl.connection c) else cl.connection c' :=
  Table.get_modify h c'

theorem connection_onConnection_of_has {c : ConnectionId} (h : cl.connections.has c = true)
    (f : Connection → Connection) (c' : ConnectionId) :
    (cl.onConnection c f).connection c' =
      if c' = c then f (cl.connection c) else cl.connection c' :=
  Table.get_modify_of_has h f c'

theorem session_onSession {s : SessionId} {f : Session → Session}
    (h : cl.sessions.has s = false → f default = default) (s' : SessionId) :
    (cl.onSession s f).session s' = if s' = s then f (cl.session s) else cl.session s' :=
  Table.get_modify h s'

theorem consumer_onConsumer {k : ConsumerId} {f : Consumer → Consumer}
    (h : cl.consumers.has k = false → f default = default) (k' : ConsumerId) :
    (cl.onConsumer k f).consumer k' = if k' = k then f (cl.consumer k) else cl.consumer k' :=
  Table.get_modify h k'

@[simp] theorem session_onConsumer (k : ConsumerId) (f : Consumer → Consumer) (s : SessionId) :
    (cl.onConsumer k f).session s = cl.session s := rfl

theorem connection_congr {cl' : Client} (h : cl'.connections = cl.connections) (c : ConnectionId) :
    cl'.connection c = cl.connection c := by
  rw [connection, connection, h]

theorem session_congr {cl' : Client} (h : cl'.sessions = cl.sessions) (s : SessionId) :
    cl'.session s = cl.session s := by
  rw [session, session, h]

theorem consumer_congr {cl' : Client} (h : cl'.consumers = cl.consumers) (k : ConsumerId) :
    cl'.consumer k = cl.consumer k := by
  rw [consumer, consumer, h]

theorem listener_congr {cl' : Client} (h : cl'.listeners = cl.listeners) (l : ListenerId) :
    cl'.listener l = cl.listener l := by
  rw [listener, listener, h]

theorem has_connection {c : ConnectionId} (h : (cl.connection c).closed = false) :
    cl.connections.has c = true := by
  apply Table.has_of_get_ne
  intro hd
  have hc : (cl.connection c).closed = true := congrArg Connection.closed hd
  exact Bool.false_ne_true (h.symm.trans hc)

theorem has_session {s : SessionId} (h : (cl.session s).closed = false) :
    cl.sessions.has s = true := by
  apply Table.has_of_get_ne
  intro hd
  have hc : (cl.session s).closed = true := congrArg Session.closed hd
  exact Bool.false_ne_true (h.symm.trans hc)

theorem has_consumer {k : ConsumerId} (h : (cl.consumer k).closed = false) :
    cl.consumers.has k = true := by
  apply Table.has_of_get_ne
  intro hd
  have hc : (cl.consumer k).closed = true := congrArg Consumer.closed hd
  exact Bool.false_ne_true (h.symm.trans hc)

/-- Somebody refers only to connections that exist. -/
theorem has_connection_of_isReferred {c : ConnectionId}
    (h : (cl.connection c).isReferred = true) : cl.connections.has c = true := by
  apply Table.has_of_get_ne
  intro hd
  have hc : (cl.connection c).isReferred = false := congrArg Connection.isReferred hd
  exact Bool.false_ne_true (hc.symm.trans h)

end Client

end BrokerClient
