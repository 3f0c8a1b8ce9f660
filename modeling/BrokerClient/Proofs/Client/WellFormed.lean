import BrokerClient.Proofs.Client.Lookup

/-!
# Well-formed clients

How the objects of a client refer to each other. A connection lists exactly its open sessions, and a
session exactly its open consumers. Numbers tell the sessions of a connection apart, and tags the
consumers of the client. `WellFormed` also holds while a connection is being closed; `Sound` adds
what holds between calls.
-/

namespace BrokerClient

/-- The connection without what neither refers to objects nor tells its sessions apart. -/
def Connection.skeleton (x : Connection) : Connection :=
  { x with
    clientId := none
    listener := none
    closed := false
    stopped := true
    assignable := true
    terminationTimeout := defaultTerminationTimeout
    trusted := .default
    handles := 0 }

/-- The session without its delivery. -/
def Session.skeleton (x : Session) : Session :=
  { x with paused := true, pauses := 0, resumes := 0 }

namespace Client

/-- The cross-references of a client. -/
structure WellFormed (cl : Client) : Prop where
  listed : ∀ s, (cl.session s).closed = false →
    s ∈ (cl.connection (cl.session s).connection).sessions
  listed_open : ∀ c s, s ∈ (cl.connection c).sessions →
    (cl.session s).closed = false ∧ (cl.session s).connection = c
  sessions_nodup : ∀ c, (cl.connection c).sessions.Nodup
  number_lt : ∀ s, cl.sessions.has s = true →
    (cl.session s).number < (cl.connection (cl.session s).connection).nextSession
  number_inj : ∀ s s', cl.sessions.has s = true → cl.sessions.has s' = true →
    (cl.session s).connection = (cl.session s').connection →
    (cl.session s).number = (cl.session s').number → s = s'
  attached : ∀ k, (cl.consumer k).closed = false →
    k ∈ (cl.session (cl.consumer k).session).consumers
  attached_open : ∀ s k, k ∈ (cl.session s).consumers →
    (cl.consumer k).closed = false ∧ (cl.consumer k).session = s
  consumers_nodup : ∀ s, (cl.session s).consumers.Nodup
  bare : ∀ s, (cl.session s).closed = true → (cl.session s).consumers = []
  tag_inj : ∀ k k', cl.consumers.has k = true → cl.consumers.has k' = true →
    (cl.consumer k).tag = (cl.consumer k').tag → k = k'
  transport_known : ∀ c, cl.connections.has c = true →
    cl.transports.has (cl.connection c).transport = true
  registry_known : ∀ c, cl.connections.has c = true →
    cl.registries.has (cl.connection c).clientIds = true
  subscriptions_known : ∀ c, cl.connections.has c = true →
    cl.subscriptions.has (cl.connection c).subscriptions = true
  connection_known : ∀ s, cl.sessions.has s = true →
    cl.connections.has (cl.session s).connection = true
  subscriptions_shared : ∀ s, cl.sessions.has s = true →
    (cl.session s).subscriptions = (cl.connection (cl.session s).connection).subscriptions
  session_known : ∀ k, cl.consumers.has k = true →
    cl.sessions.has (cl.consumer k).session = true
  factory_known : ∀ f, cl.factories.has f = true →
    cl.registries.has (cl.factory f).clientIds = true

/-- What holds of a client between calls. -/
structure Sound (cl : Client) : Prop extends WellFormed cl where
  closed_bare : ∀ c, (cl.connection c).closed = true → (cl.connection c).sessions = []
  referred : ∀ c, (cl.connection c).closed = false → (cl.connection c).isReferred = true

namespace WellFormed

variable {cl : Client}

/-- A session is registered exactly if it is open and of the connection. -/
theorem mem_sessions_iff (h : WellFormed cl) (c : ConnectionId) (s : SessionId) :
    s ∈ (cl.connection c).sessions ↔
      (cl.session s).closed = false ∧ (cl.session s).connection = c := by
  constructor
  · exact h.listed_open c s
  · rintro ⟨ho, rfl⟩
    exact h.listed s ho

/-- A consumer is listed exactly if it is open and of the session. -/
theorem mem_consumers_iff (h : WellFormed cl) (s : SessionId) (k : ConsumerId) :
    k ∈ (cl.session s).consumers ↔
      (cl.consumer k).closed = false ∧ (cl.consumer k).session = s := by
  constructor
  · exact h.attached_open s k
  · rintro ⟨ho, rfl⟩
    exact h.attached k ho

/-- The session of an open consumer is open. -/
theorem session_open (h : WellFormed cl) {k : ConsumerId} (ho : (cl.consumer k).closed = false) :
    (cl.session (cl.consumer k).session).closed = false := by
  have hk := h.attached k ho
  cases hc : (cl.session (cl.consumer k).session).closed with
  | false => rfl
  | true =>
    rw [h.bare _ hc] at hk
    exact absurd hk List.not_mem_nil

/-- The consumers of a closed session are closed. -/
theorem consumer_closed_of_session (h : WellFormed cl) {k : ConsumerId}
    (hc : (cl.session (cl.consumer k).session).closed = true) : (cl.consumer k).closed = true :=
  eq_true_of_ne_false fun ho => Bool.false_ne_true ((h.session_open ho).symm.trans hc)

end WellFormed

/-- The connection of an open session is open. -/
theorem Sound.connection_open {cl : Client} (h : Sound cl) {s : SessionId}
    (ho : (cl.session s).closed = false) :
    (cl.connection (cl.session s).connection).closed = false := by
  have hs := h.listed s ho
  cases hc : (cl.connection (cl.session s).connection).closed with
  | false => rfl
  | true =>
    rw [h.closed_bare _ hc] at hs
    exact absurd hs List.not_mem_nil

/-- The sessions of a closed connection are closed. -/
theorem Sound.session_closed_of_connection {cl : Client} (h : Sound cl) {s : SessionId}
    (hc : (cl.connection (cl.session s).connection).closed = true) :
    (cl.session s).closed = true :=
  eq_true_of_ne_false fun ho => Bool.false_ne_true ((h.connection_open ho).symm.trans hc)

/-- A connection that nobody refers to any more is closed. -/
theorem Sound.closed_of_ended {cl : Client} (h : Sound cl) {c : ConnectionId}
    (hend : (cl.connection c).closed = true ∨ (cl.connection c).isReferred = false) :
    (cl.connection c).closed = true := by
  rcases hend with hcl | hr
  · exact hcl
  · cases ho : (cl.connection c).closed with
    | true => rfl
    | false => exact absurd (hr.symm.trans (h.referred c ho)) Bool.false_ne_true

/-- The second client has the same cross-references as the first. It may know more registries,
subscriptions and transports, and new factories of known registries. -/
structure SameShape (before after : Client) : Prop where
  connection : ∀ c, (after.connection c).skeleton = (before.connection c).skeleton
  session : ∀ s, (after.session s).skeleton = (before.session s).skeleton
  consumer : ∀ k, after.consumer k = before.consumer k
  connections_has : ∀ c, after.connections.has c = before.connections.has c
  sessions_has : ∀ s, after.sessions.has s = before.sessions.has s
  consumers_has : ∀ k, after.consumers.has k = before.consumers.has k
  registries_has : ∀ r, before.registries.has r = true → after.registries.has r = true
  subscriptions_has : ∀ d, before.subscriptions.has d = true → after.subscriptions.has d = true
  transports_has : ∀ t, before.transports.has t = true → after.transports.has t = true
  factory : ∀ f, after.factories.has f = true →
    after.registries.has (after.factory f).clientIds = true ∨
      (before.factories.has f = true ∧
        (after.factory f).clientIds = (before.factory f).clientIds)

namespace SameShape

variable {before after : Client}

theorem sessions (h : SameShape before after) (c : ConnectionId) :
    (after.connection c).sessions = (before.connection c).sessions :=
  (congrArg Connection.sessions (h.connection c) :)

theorem nextSession (h : SameShape before after) (c : ConnectionId) :
    (after.connection c).nextSession = (before.connection c).nextSession :=
  (congrArg Connection.nextSession (h.connection c) :)

theorem transport (h : SameShape before after) (c : ConnectionId) :
    (after.connection c).transport = (before.connection c).transport :=
  (congrArg Connection.transport (h.connection c) :)

theorem clientIds (h : SameShape before after) (c : ConnectionId) :
    (after.connection c).clientIds = (before.connection c).clientIds :=
  (congrArg Connection.clientIds (h.connection c) :)

theorem connection_subscriptions (h : SameShape before after) (c : ConnectionId) :
    (after.connection c).subscriptions = (before.connection c).subscriptions :=
  (congrArg Connection.subscriptions (h.connection c) :)

theorem session_closed (h : SameShape before after) (s : SessionId) :
    (after.session s).closed = (before.session s).closed :=
  (congrArg Session.closed (h.session s) :)

theorem session_connection (h : SameShape before after) (s : SessionId) :
    (after.session s).connection = (before.session s).connection :=
  (congrArg Session.connection (h.session s) :)

theorem number (h : SameShape before after) (s : SessionId) :
    (after.session s).number = (before.session s).number :=
  (congrArg Session.number (h.session s) :)

theorem session_subscriptions (h : SameShape before after) (s : SessionId) :
    (after.session s).subscriptions = (before.session s).subscriptions :=
  (congrArg Session.subscriptions (h.session s) :)

theorem consumers (h : SameShape before after) (s : SessionId) :
    (after.session s).consumers = (before.session s).consumers :=
  (congrArg Session.consumers (h.session s) :)

end SameShape

theorem WellFormed.of_sameShape {before after : Client} (hw : WellFormed before)
    (h : SameShape before after) : WellFormed after where
  listed s ho := by
    rw [h.session_closed] at ho
    rw [h.session_connection, h.sessions]
    exact hw.listed s ho
  listed_open c s hs := by
    rw [h.sessions] at hs
    rw [h.session_closed, h.session_connection]
    exact hw.listed_open c s hs
  sessions_nodup c := by
    rw [h.sessions]
    exact hw.sessions_nodup c
  number_lt s hs := by
    rw [h.sessions_has] at hs
    rw [h.number, h.session_connection, h.nextSession]
    exact hw.number_lt s hs
  number_inj s s' hs hs' hc hn := by
    rw [h.sessions_has] at hs hs'
    rw [h.session_connection, h.session_connection] at hc
    rw [h.number, h.number] at hn
    exact hw.number_inj s s' hs hs' hc hn
  attached k ho := by
    rw [h.consumer] at ho ⊢
    rw [h.consumers]
    exact hw.attached k ho
  attached_open s k hk := by
    rw [h.consumers] at hk
    rw [h.consumer]
    exact hw.attached_open s k hk
  consumers_nodup s := by
    rw [h.consumers]
    exact hw.consumers_nodup s
  bare s hc := by
    rw [h.session_closed] at hc
    rw [h.consumers]
    exact hw.bare s hc
  tag_inj k k' hk hk' ht := by
    rw [h.consumers_has] at hk hk'
    rw [h.consumer, h.consumer] at ht
    exact hw.tag_inj k k' hk hk' ht
  transport_known c hc := by
    rw [h.connections_has] at hc
    rw [h.transport]
    exact h.transports_has _ (hw.transport_known c hc)
  registry_known c hc := by
    rw [h.connections_has] at hc
    rw [h.clientIds]
    exact h.registries_has _ (hw.registry_known c hc)
  subscriptions_known c hc := by
    rw [h.connections_has] at hc
    rw [h.connection_subscriptions]
    exact h.subscriptions_has _ (hw.subscriptions_known c hc)
  connection_known s hs := by
    rw [h.sessions_has] at hs
    rw [h.session_connection, h.connections_has]
    exact hw.connection_known s hs
  subscriptions_shared s hs := by
    rw [h.sessions_has] at hs
    rw [h.session_subscriptions, h.session_connection, h.connection_subscriptions]
    exact hw.subscriptions_shared s hs
  session_known k hk := by
    rw [h.consumers_has] at hk
    rw [h.consumer, h.sessions_has]
    exact hw.session_known k hk
  factory_known f hf := by
    rcases h.factory f hf with hr | ⟨hf', he⟩
    · exact hr
    · rw [he]
      exact h.registries_has _ (hw.factory_known f hf')

/-- Between calls, also no connection may close with sessions on its list, and somebody must refer
to what is open. -/
theorem Sound.of_sameShape {before after : Client} (hs : Sound before)
    (h : SameShape before after)
    (hc : ∀ c, (after.connection c).closed = true → (before.connection c).sessions = [])
    (hr : ∀ c, (after.connection c).closed = false → (after.connection c).isReferred = true) :
    Sound after where
  toWellFormed := hs.toWellFormed.of_sameShape h
  closed_bare c hcc := by
    rw [h.sessions]
    exact hc c hcc
  referred := hr

theorem wellFormed_initial : WellFormed initial where
  listed _ ho := (Bool.false_ne_true ho.symm).elim
  listed_open _ _ hs := absurd hs List.not_mem_nil
  sessions_nodup _ := List.nodup_nil
  number_lt _ hs := (Bool.false_ne_true hs).elim
  number_inj _ _ hs := (Bool.false_ne_true hs).elim
  attached _ ho := (Bool.false_ne_true ho.symm).elim
  attached_open _ _ hk := absurd hk List.not_mem_nil
  consumers_nodup _ := List.nodup_nil
  bare _ _ := rfl
  tag_inj _ _ hk := (Bool.false_ne_true hk).elim
  transport_known _ hc := (Bool.false_ne_true hc).elim
  registry_known _ hc := (Bool.false_ne_true hc).elim
  subscriptions_known _ hc := (Bool.false_ne_true hc).elim
  connection_known _ hs := (Bool.false_ne_true hs).elim
  subscriptions_shared _ hs := (Bool.false_ne_true hs).elim
  session_known _ hk := (Bool.false_ne_true hk).elim
  factory_known _ hf := (Bool.false_ne_true hf).elim

theorem sound_initial : Sound initial where
  toWellFormed := wellFormed_initial
  closed_bare _ _ := rfl
  referred _ ho := (Bool.false_ne_true ho.symm).elim

end Client

end BrokerClient
