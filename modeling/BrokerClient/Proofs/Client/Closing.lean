import BrokerClient.Proofs.Client.Draining

/-!
# Closing sessions and consumers

Closing a session shuts it, unless it is closed. Closing a consumer on its own takes it off its
session's list, where no other consumer has its tag.
-/

namespace BrokerClient.Client

variable {cl : Client}

theorem shuts_closeSession (h : Sound cl) {s : SessionId} (hs : cl.sessions.has s = true) :
    Shuts (cl.session s).connection (if (cl.session s).closed then [] else [s]) cl
      (cl.closeSession s) := by
  simp only [closeSession, connection_congr (connections_shutSession cl s)]
  cases hc : (cl.session s).closed with
  | true =>
    rw [shutSession_of_closed hc, if_pos (rfl : true = true)]
    split
    · exact shuts_deregister_of_closed h.toWellFormed hs hc
    · exact .refl _ _
  | false =>
    rw [if_neg Bool.false_ne_true, if_pos (h.referred _ (h.connection_open hc))]
    exact shuts_deregister_shutSession h.toWellFormed hc rfl

theorem Sound.shuts {c : ConnectionId} {ss : List SessionId} {before after : Client}
    (hs : Sound before) (h : Shuts c ss before after)
    (hc : ∀ s ∈ ss, (before.session s).connection = c) : Sound after where
  toWellFormed := hs.toWellFormed.shuts h hc
  closed_bare c' hcc := by
    rw [h.connection_eq] at hcc
    have hb := hs.closed_bare c' hcc
    rw [h.sessions]
    split
    · next he => rw [← he, hb]; rfl
    · exact hb
  referred c' ho := by
    rw [h.connection_eq] at ho ⊢
    exact hs.referred c' ho

/-- The second client is the first with one consumer closed and off its session's list. -/
structure Detaches (k : ConsumerId) (before after : Client) : Prop where
  consumer : ∀ k', after.consumer k' =
    if k' = k then (before.consumer k).shut else before.consumer k'
  session : ∀ s, after.session s =
    if s = (before.consumer k).session then
      { before.session s with consumers := (before.session s).consumers.filter (· ≠ k) }
    else before.session s
  session_keys : after.sessions.keys = before.sessions.keys
  consumer_keys : after.consumers.keys = before.consumers.keys
  connections : after.connections = before.connections
  metrics : after.metrics = before.metrics
  surroundings : after.surroundings = before.surroundings

/-- The consumers of one tag are one consumer. -/
theorem detaches_closeConsumer (h : WellFormed cl) {k : ConsumerId}
    (ho : (cl.consumer k).closed = false) : Detaches k cl (cl.closeConsumer k) := by
  have hk := has_consumer ho
  have he : cl.closeConsumer k = Client.note (forgetConsumer (cl.onConsumer k Consumer.shut)
      (cl.consumer k).session (cl.consumer k).tag) (.consumerClosed (cl.consumer k).tag) := by
    rw [closeConsumer, if_neg (Bool.eq_false_iff.mp ho)]
    rfl
  have hc : ∀ k', (cl.onConsumer k Consumer.shut).consumer k' =
      if k' = k then (cl.consumer k).shut else cl.consumer k' :=
    consumer_onConsumer fun _ => rfl
  have ht : ∀ k', ((cl.onConsumer k Consumer.shut).consumer k').tag = (cl.consumer k').tag := by
    intro k'
    rw [hc]
    split
    · next hk' => rw [hk', Consumer.tag_shut]
    · rfl
  have hf : (cl.session (cl.consumer k).session).consumers.filter
      (fun k' => (cl.consumer k').tag ≠ (cl.consumer k).tag) =
      (cl.session (cl.consumer k).session).consumers.filter (· ≠ k) := by
    apply List.filter_congr
    intro k' hk'
    have hi : (cl.consumer k').tag = (cl.consumer k).tag ↔ k' = k :=
      ⟨h.tag_inj k' k (has_consumer (h.attached_open _ k' hk').1) hk, fun hkk => by rw [hkk]⟩
    simp only [ne_eq, hi]
  rw [he]
  constructor
  case consumer => exact hc
  case session =>
    intro s
    refine (session_onSession (fun _ => rfl) s).trans ?_
    by_cases hs : s = (cl.consumer k).session
    · rw [if_pos hs, if_pos hs, hs]
      simp only [ht, session_onConsumer]
      rw [hf]
    · rw [if_neg hs, if_neg hs]
      rfl
  case session_keys => exact Table.keys_modify _ _ _
  case consumer_keys => exact Table.keys_modify _ _ _
  case connections => rfl
  case metrics => rfl
  case surroundings => rfl

namespace Detaches

variable {k : ConsumerId} {before after : Client}

theorem connection (h : Detaches k before after) (c : ConnectionId) :
    after.connection c = before.connection c :=
  connection_congr h.connections c

theorem registries (h : Detaches k before after) : after.registries = before.registries :=
  (congrArg Client.registries h.surroundings :)

theorem subscriptions (h : Detaches k before after) : after.subscriptions = before.subscriptions :=
  (congrArg Client.subscriptions h.surroundings :)

theorem factories (h : Detaches k before after) : after.factories = before.factories :=
  (congrArg Client.factories h.surroundings :)

theorem transports (h : Detaches k before after) : after.transports = before.transports :=
  (congrArg Client.transports h.surroundings :)

theorem listeners (h : Detaches k before after) : after.listeners = before.listeners :=
  (congrArg Client.listeners h.surroundings :)

theorem recorders (h : Detaches k before after) : after.recorders = before.recorders :=
  (congrArg Client.recorders h.surroundings :)

theorem session_eq (h : Detaches k before after) (s : SessionId) :
    after.session s = { before.session s with consumers := (after.session s).consumers } := by
  rw [h.session]
  split <;> rfl

theorem mem_consumers_iff (h : Detaches k before after) (hw : WellFormed before) (s : SessionId)
    (k' : ConsumerId) :
    k' ∈ (after.session s).consumers ↔ k' ∈ (before.session s).consumers ∧ k' ≠ k := by
  rw [h.session]
  split
  · simp [List.mem_filter]
  · next hs =>
    constructor
    · intro hm
      exact ⟨hm, fun he => hs (he ▸ (hw.attached_open s k' hm).2).symm⟩
    · exact And.left

theorem consumer_closed (h : Detaches k before after) (k' : ConsumerId) :
    (after.consumer k').closed = false ↔ k' ≠ k ∧ (before.consumer k').closed = false := by
  rw [h.consumer]
  split
  · next he => simp [he]
  · next he => simp [he]

theorem consumer_eq (h : Detaches k before after) (k' : ConsumerId) :
    after.consumer k' = { before.consumer k' with closed := (after.consumer k').closed } := by
  rw [h.consumer]
  split
  · next he => rw [he]; rfl
  · rfl

end Detaches

theorem WellFormed.detaches {k : ConsumerId} {before after : Client} (hw : WellFormed before)
    (h : Detaches k before after) : WellFormed after where
  listed s ho := by
    rw [h.session_eq] at ho
    rw [h.session_eq, h.connection]
    exact hw.listed s ho
  listed_open c s hs := by
    rw [h.connection] at hs
    rw [h.session_eq]
    exact hw.listed_open c s hs
  sessions_nodup c := by
    rw [h.connection]
    exact hw.sessions_nodup c
  number_lt s hs := by
    rw [Table.has_congr h.session_keys] at hs
    rw [h.session_eq, h.connection]
    exact hw.number_lt s hs
  number_inj s s' hs hs' hc hn := by
    rw [Table.has_congr h.session_keys] at hs hs'
    rw [h.session_eq s, h.session_eq s'] at hc hn
    exact hw.number_inj s s' hs hs' hc hn
  attached k' ho := by
    obtain ⟨hne, ho⟩ := (h.consumer_closed k').mp ho
    rw [h.mem_consumers_iff hw, h.consumer_eq]
    exact ⟨hw.attached k' ho, hne⟩
  attached_open s k' hk := by
    obtain ⟨hk, hne⟩ := (h.mem_consumers_iff hw s k').mp hk
    obtain ⟨ho, hs⟩ := hw.attached_open s k' hk
    rw [h.consumer_closed, h.consumer_eq]
    exact ⟨⟨hne, ho⟩, hs⟩
  consumers_nodup s := by
    rw [h.session]
    split
    · exact (hw.consumers_nodup s).filter _
    · exact hw.consumers_nodup s
  bare s hc := by
    rw [h.session_eq] at hc
    rw [h.session, hw.bare s hc]
    split
    · rfl
    · exact hw.bare s hc
  tag_inj k₁ k₂ hk₁ hk₂ ht := by
    rw [Table.has_congr h.consumer_keys] at hk₁ hk₂
    rw [h.consumer_eq k₁, h.consumer_eq k₂] at ht
    exact hw.tag_inj k₁ k₂ hk₁ hk₂ ht
  transport_known c hc := by
    rw [h.connections] at hc
    rw [h.connection, h.transports]
    exact hw.transport_known c hc
  registry_known c hc := by
    rw [h.connections] at hc
    rw [h.connection, h.registries]
    exact hw.registry_known c hc
  subscriptions_known c hc := by
    rw [h.connections] at hc
    rw [h.connection, h.subscriptions]
    exact hw.subscriptions_known c hc
  connection_known s hs := by
    rw [Table.has_congr h.session_keys] at hs
    rw [h.session_eq, h.connections]
    exact hw.connection_known s hs
  subscriptions_shared s hs := by
    rw [Table.has_congr h.session_keys] at hs
    rw [h.session_eq, h.connection]
    exact hw.subscriptions_shared s hs
  session_known k' hk := by
    rw [Table.has_congr h.consumer_keys] at hk
    rw [h.consumer_eq, Table.has_congr h.session_keys]
    exact hw.session_known k' hk
  factory_known f hf := by
    rw [h.factories] at hf
    rw [h.registries, factory, h.factories]
    exact hw.factory_known f hf

theorem Sound.detaches {k : ConsumerId} {before after : Client} (hs : Sound before)
    (h : Detaches k before after) : Sound after where
  toWellFormed := hs.toWellFormed.detaches h
  closed_bare c hc := by
    rw [h.connection] at hc ⊢
    exact hs.closed_bare c hc
  referred c ho := by
    rw [h.connection] at ho ⊢
    exact hs.referred c ho

end BrokerClient.Client
