import BrokerClient.Proofs.Client.Change

/-!
# Changes of the registration

Four changes open or close connections and sessions. All others leave alone what is made, what is
open, the numbers of the next sessions and the gauges.
-/

namespace BrokerClient.Client

variable {before after : Client}

/-- The second client has the connections and sessions of the first, open and closed alike, and the
same gauges. -/
structure SameRegistration (before after : Client) : Prop where
  connection_keys : after.connections.keys = before.connections.keys
  session_keys : after.sessions.keys = before.sessions.keys
  connection_closed : ∀ c, (after.connection c).closed = (before.connection c).closed
  session_closed : ∀ s, (after.session s).closed = (before.session s).closed
  nextSession : ∀ c, (after.connection c).nextSession = (before.connection c).nextSession
  openConnections : after.metrics.openConnections = before.metrics.openConnections
  openSessions : after.metrics.openSessions = before.metrics.openSessions

namespace SameRegistration

/-- Changes elsewhere leave the registration alone. -/
theorem of_tables (hc : after.connections = before.connections)
    (hs : after.sessions = before.sessions)
    (ho : after.metrics.openConnections = before.metrics.openConnections)
    (hos : after.metrics.openSessions = before.metrics.openSessions) :
    SameRegistration before after where
  connection_keys := by rw [hc]
  session_keys := by rw [hs]
  connection_closed c := by rw [connection_congr hc]
  session_closed s := by rw [session_congr hs]
  nextSession c := by rw [connection_congr hc]
  openConnections := ho
  openSessions := hos

theorem onConnection {c : ConnectionId} {f : Connection → Connection}
    (hc : before.connections.has c = true)
    (hcl : (f (before.connection c)).closed = (before.connection c).closed)
    (hn : (f (before.connection c)).nextSession = (before.connection c).nextSession) :
    SameRegistration before (before.onConnection c f) where
  connection_keys := Table.keys_modify _ _ _
  session_keys := rfl
  connection_closed c' := by
    rw [connection_onConnection_of_has hc]
    split
    · next he => rw [he, hcl]
    · rfl
  session_closed _ := rfl
  nextSession c' := by
    rw [connection_onConnection_of_has hc]
    split
    · next he => rw [he, hn]
    · rfl
  openConnections := rfl
  openSessions := rfl

theorem of_sessions (hc : after.connections = before.connections)
    (hk : after.sessions.keys = before.sessions.keys)
    (hs : ∀ s, (after.session s).closed = (before.session s).closed)
    (hm : after.metrics = before.metrics) : SameRegistration before after where
  connection_keys := by rw [hc]
  session_keys := hk
  connection_closed c := by rw [connection_congr hc]
  session_closed := hs
  nextSession c := by rw [connection_congr hc]
  openConnections := by rw [hm]
  openSessions := by rw [hm]

theorem addConsumer {cl : Client} {k : ConsumerId} {x : Consumer}
    (hs : cl.sessions.has x.session = true) : SameRegistration cl (cl.addConsumer k x) := by
  refine of_sessions rfl (Table.keys_modify _ _ _) (fun s => ?_) rfl
  rw [session_addConsumer_eq hs]

end SameRegistration

/-- What a change may do to the registration. -/
inductive Registers (before : Client) : Client → Prop where
  | none {after : Client} : SameRegistration before after → Registers before after
  | openConnection (c : ConnectionId) (t : TransportId) (r : RegistryId) (d : SubscriptionsId) :
    before.connections.has c = false → Registers before (before.withConnection c (.fresh t r d))
  | createSession (c : ConnectionId) (s : SessionId) (transacted : Bool)
      (mode : AcknowledgeMode) :
    (before.connection c).closed = false → before.sessions.has s = false →
      Registers before (before.withSession c s (before.nextSession c transacted mode))
  | shut {after : Client} (c : ConnectionId) (ss : List SessionId) :
    ss.Nodup → (∀ s ∈ ss, s ∈ (before.connection c).sessions) → Shuts c ss before after →
      Registers before after
  | retire {after : Client} (c : ConnectionId) (handles : Nat) :
    (before.connection c).closed = false → Retires c handles before after →
      Registers before after

theorem Change.registers {allowed : Call → Prop} (h : Change allowed before after) :
    Registers before after := by
  cases h with
  | aside h => exact .none (.of_tables h.connections h.sessions h.openConnections h.openSessions)
  | openConnection c t r d hn _ _ _ _ => exact .openConnection c t r d hn
  | adjust c f hc hf _ _ _ _ =>
    have hcl : (f (before.connection c)).closed = (before.connection c).closed :=
      (congrArg Connection.closed hf :)
    exact .none (.onConnection hc hcl (congrArg Connection.nextSession hf :))
  | identify c id claimed ho _ _ _ =>
    have h : SameRegistration before
        (before.onConnection c fun x => { x with clientId := some id }) :=
      .onConnection (has_connection ho) rfl rfl
    -- The registry, which the claim changes as well, is none of the registration.
    exact .none { h with }
  | collide id _ => exact .none (.of_tables rfl rfl rfl rfl)
  | createSession c s transacted mode ho hn _ => exact .createSession c s transacted mode ho hn
  | switch c stopped _ _ h =>
    refine .none ⟨h.connection_keys, h.session_keys, fun c' => ?_, h.sameShape.session_closed,
      h.sameShape.nextSession, ?_, ?_⟩
    · rw [h.connection_eq]
    · rw [h.metrics]
    · rw [h.metrics]
  | tell s paused _ hs =>
    refine .none (.of_sessions rfl (Table.keys_modify _ _ _) (fun s' => ?_) rfl)
    rw [session_tell hs]
    split
    · next he =>
      rw [he]
      cases paused <;> rfl
    · rfl
  | shut c ss hn hs h => exact .shut c ss hn hs h
  | retire c handles ho _ h => exact .retire c handles ho h
  | addConsumer k x ho _ _ _ _ _ => exact .none (.addConsumer (has_session ho))
  | subscribe k x name d ho _ _ _ _ _ _ =>
    refine .none (.of_sessions rfl (Table.keys_modify _ _ _) (fun s => ?_) rfl)
    rw [session_bound_addConsumer (has_session ho)]
  | unsubscribe s name _ _ _ => exact .none (.of_tables rfl rfl rfl rfl)
  | closeConsumer k _ h =>
    refine .none (.of_sessions h.connections h.session_keys (fun s => ?_) h.metrics)
    rw [h.session]
    split <;> rfl
  | claims r f id _ => exact .none (.of_tables rfl rfl rfl rfl)
  | bindings d f name k _ _ => exact .none (.of_tables rfl rfl rfl rfl)
  | closeTransport t _ => exact .none (.of_tables rfl rfl rfl rfl)

end BrokerClient.Client
