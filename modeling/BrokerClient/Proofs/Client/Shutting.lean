import BrokerClient.Proofs.Client.WellFormed

/-!
# Shutting sessions

What becomes of a client when registered sessions are closed and taken off their connection's list.
One round of a drain shuts the first session of the list, so a drain shuts all of them, in the order
of the list. Whether a session still finds its connection makes no difference.
-/

namespace BrokerClient.Client

/-- All that closing sessions leaves alone. -/
def surroundings (cl : Client) : Client :=
  { cl with
    connections := .empty
    sessions := .empty
    consumers := .empty
    metrics := .zero
    log := [] }

theorem eq_of_surroundings {before after : Client} (h : after.surroundings = before.surroundings) :
    after = { before with
      connections := after.connections
      sessions := after.sessions
      consumers := after.consumers
      metrics := after.metrics
      log := after.log } := by
  cases after
  simp_all [surroundings]

/-- The second client is the first with some sessions closed, their consumers with them, and taken
off the list of a connection. -/
structure Shuts (c : ConnectionId) (ss : List SessionId) (before after : Client) : Prop where
  connection : ∀ c', after.connection c' =
    if c' = c then
      { before.connection c with sessions := (before.connection c).sessions.filter (· ∉ ss) }
    else before.connection c'
  session : ∀ s, after.session s = if s ∈ ss then (before.session s).shut else before.session s
  consumer : ∀ k, after.consumer k =
    if (before.consumer k).session ∈ ss then (before.consumer k).shut else before.consumer k
  connection_keys : after.connections.keys = before.connections.keys
  session_keys : after.sessions.keys = before.sessions.keys
  consumer_keys : after.consumers.keys = before.consumers.keys
  metrics : after.metrics =
    { before.metrics with openSessions := before.metrics.openSessions - ss.length }
  surroundings : after.surroundings = before.surroundings

namespace Shuts

variable {c : ConnectionId} {ss : List SessionId} {before after : Client}

theorem sessions (h : Shuts c ss before after) (c' : ConnectionId) :
    (after.connection c').sessions =
      if c' = c then (before.connection c).sessions.filter (· ∉ ss)
      else (before.connection c').sessions := by
  rw [h.connection]
  split <;> rfl

theorem session_closed (h : Shuts c ss before after) (s : SessionId) :
    (after.session s).closed = false ↔ s ∉ ss ∧ (before.session s).closed = false := by
  rw [h.session]
  split <;> simp_all

theorem session_connection (h : Shuts c ss before after) (s : SessionId) :
    (after.session s).connection = (before.session s).connection := by
  rw [h.session]
  split <;> rfl

theorem number (h : Shuts c ss before after) (s : SessionId) :
    (after.session s).number = (before.session s).number := by
  rw [h.session]
  split <;> rfl

theorem consumer_closed (h : Shuts c ss before after) (k : ConsumerId) :
    (after.consumer k).closed = false ↔
      (before.consumer k).session ∉ ss ∧ (before.consumer k).closed = false := by
  rw [h.consumer]
  split <;> simp_all

theorem consumer_session (h : Shuts c ss before after) (k : ConsumerId) :
    (after.consumer k).session = (before.consumer k).session := by
  rw [h.consumer]
  split <;> rfl

theorem tag (h : Shuts c ss before after) (k : ConsumerId) :
    (after.consumer k).tag = (before.consumer k).tag := by
  rw [h.consumer]
  split <;> rfl

/-- What no session refers to stays the same on every connection. -/
theorem connection_eq (h : Shuts c ss before after) (c' : ConnectionId) :
    after.connection c' =
      { before.connection c' with sessions := (after.connection c').sessions } := by
  rw [h.connection]
  split
  · next hc => rw [hc]
  · rfl

theorem connections_has (h : Shuts c ss before after) (c' : ConnectionId) :
    after.connections.has c' = before.connections.has c' :=
  Table.has_congr h.connection_keys c'

theorem sessions_has (h : Shuts c ss before after) (s : SessionId) :
    after.sessions.has s = before.sessions.has s :=
  Table.has_congr h.session_keys s

theorem consumers_has (h : Shuts c ss before after) (k : ConsumerId) :
    after.consumers.has k = before.consumers.has k :=
  Table.has_congr h.consumer_keys k

/-- What surrounds the sessions, as a family of equal tables. -/
theorem registries (h : Shuts c ss before after) : after.registries = before.registries :=
  (congrArg Client.registries h.surroundings :)

theorem subscriptions (h : Shuts c ss before after) : after.subscriptions = before.subscriptions :=
  (congrArg Client.subscriptions h.surroundings :)

theorem factories (h : Shuts c ss before after) : after.factories = before.factories :=
  (congrArg Client.factories h.surroundings :)

theorem transports (h : Shuts c ss before after) : after.transports = before.transports :=
  (congrArg Client.transports h.surroundings :)

theorem listeners (h : Shuts c ss before after) : after.listeners = before.listeners :=
  (congrArg Client.listeners h.surroundings :)

theorem recorders (h : Shuts c ss before after) : after.recorders = before.recorders :=
  (congrArg Client.recorders h.surroundings :)

/-- Shutting no session changes nothing. -/
theorem refl (c : ConnectionId) (cl : Client) : Shuts c [] cl cl where
  connection c' := by
    have hf : (cl.connection c).sessions.filter (· ∉ []) = (cl.connection c).sessions := by simp
    split
    · next hc => rw [hf, hc]
    · rfl
  session _ := rfl
  consumer _ := rfl
  connection_keys := rfl
  session_keys := rfl
  consumer_keys := rfl
  metrics := by simp
  surroundings := rfl

/-- Sessions that are shut in turn are shut together. -/
theorem trans {ss' : List SessionId} {middle : Client} (h : Shuts c ss before middle)
    (h' : Shuts c ss' middle after) : Shuts c (ss ++ ss') before after where
  connection c' := by
    have hf : ((before.connection c).sessions.filter (· ∉ ss)).filter (· ∉ ss') =
        (before.connection c).sessions.filter (· ∉ ss ++ ss') := by
      rw [List.filter_filter]
      apply List.filter_congr
      intro s _
      by_cases hs : s ∈ ss <;> simp [hs]
    rw [h'.connection, h.connection, h.connection]
    by_cases hc : c' = c
    · rw [if_pos hc, if_pos hc, if_pos rfl]
      dsimp only
      rw [hf]
    · rw [if_neg hc, if_neg hc, if_neg hc]
  session s := by
    rw [h'.session, h.session]
    by_cases hs : s ∈ ss <;> by_cases hs' : s ∈ ss' <;> simp [hs, hs']
  consumer k := by
    rw [h'.consumer, h.consumer_session, h.consumer]
    by_cases hs : (before.consumer k).session ∈ ss <;>
      by_cases hs' : (before.consumer k).session ∈ ss' <;> simp [hs, hs']
  connection_keys := h'.connection_keys.trans h.connection_keys
  session_keys := h'.session_keys.trans h.session_keys
  consumer_keys := h'.consumer_keys.trans h.consumer_keys
  metrics := by
    rw [h'.metrics, h.metrics, List.length_append]
    simp only [Metrics.mk.injEq, true_and, and_true]
    omega
  surroundings := h'.surroundings.trans h.surroundings

end Shuts

/-- Shutting sessions of one connection keeps the references whole. -/
theorem WellFormed.shuts {c : ConnectionId} {ss : List SessionId} {before after : Client}
    (hw : WellFormed before) (h : Shuts c ss before after)
    (hc : ∀ s ∈ ss, (before.session s).connection = c) : WellFormed after where
  listed s ho := by
    obtain ⟨hs, ho⟩ := (h.session_closed s).mp ho
    have hl := hw.listed s ho
    rw [h.session_connection, h.sessions]
    split
    · next he =>
      rw [he] at hl
      exact List.mem_filter.mpr ⟨hl, decide_eq_true hs⟩
    · exact hl
  listed_open c' s hs := by
    rw [h.sessions] at hs
    rw [h.session_closed, h.session_connection]
    split at hs
    · next he =>
      obtain ⟨hl, hn⟩ := List.mem_filter.mp hs
      obtain ⟨ho, hcs⟩ := hw.listed_open c s hl
      exact ⟨⟨of_decide_eq_true hn, ho⟩, hcs.trans he.symm⟩
    · next he =>
      obtain ⟨ho, hcs⟩ := hw.listed_open c' s hs
      exact ⟨⟨fun hm => he (hcs.symm.trans (hc s hm)), ho⟩, hcs⟩
  sessions_nodup c' := by
    rw [h.sessions]
    split
    · exact (hw.sessions_nodup c).filter _
    · exact hw.sessions_nodup c'
  number_lt s hs := by
    rw [h.sessions_has] at hs
    rw [h.number, h.session_connection, h.connection_eq]
    exact hw.number_lt s hs
  number_inj s s' hs hs' he hn := by
    rw [h.sessions_has] at hs hs'
    rw [h.session_connection, h.session_connection] at he
    rw [h.number, h.number] at hn
    exact hw.number_inj s s' hs hs' he hn
  attached k ho := by
    obtain ⟨hs, ho⟩ := (h.consumer_closed k).mp ho
    rw [h.consumer_session, h.session, if_neg hs]
    exact hw.attached k ho
  attached_open s k hk := by
    rw [h.consumer_closed, h.consumer_session]
    rw [h.session] at hk
    split at hk
    · exact absurd hk List.not_mem_nil
    · next hs =>
      obtain ⟨ho, he⟩ := hw.attached_open s k hk
      exact ⟨⟨he ▸ hs, ho⟩, he⟩
  consumers_nodup s := by
    rw [h.session]
    split
    · exact List.nodup_nil
    · exact hw.consumers_nodup s
  bare s hs := by
    rw [h.session] at hs ⊢
    split
    · rfl
    · next hn =>
      rw [if_neg hn] at hs
      exact hw.bare s hs
  tag_inj k k' hk hk' ht := by
    rw [h.consumers_has] at hk hk'
    rw [h.tag, h.tag] at ht
    exact hw.tag_inj k k' hk hk' ht
  transport_known c' hk := by
    rw [h.connections_has] at hk
    rw [h.connection_eq, h.transports]
    exact hw.transport_known c' hk
  registry_known c' hk := by
    rw [h.connections_has] at hk
    rw [h.connection_eq, h.registries]
    exact hw.registry_known c' hk
  subscriptions_known c' hk := by
    rw [h.connections_has] at hk
    rw [h.connection_eq, h.subscriptions]
    exact hw.subscriptions_known c' hk
  connection_known s hs := by
    rw [h.sessions_has] at hs
    rw [h.session_connection, h.connections_has]
    exact hw.connection_known s hs
  subscriptions_shared s hs := by
    rw [h.sessions_has] at hs
    have he : (after.session s).subscriptions = (before.session s).subscriptions := by
      rw [h.session]
      split <;> rfl
    rw [he, h.session_connection, h.connection_eq]
    exact hw.subscriptions_shared s hs
  session_known k hk := by
    rw [h.consumers_has] at hk
    rw [h.consumer_session, h.sessions_has]
    exact hw.session_known k hk
  factory_known f hf := by
    rw [h.factories] at hf
    rw [h.registries]
    have he : after.factory f = before.factory f := by rw [factory, factory, h.factories]
    rw [he]
    exact hw.factory_known f hf

end BrokerClient.Client
