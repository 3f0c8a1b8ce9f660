import BrokerClient.Proofs.Client.WellFormed

/-!
# New connections, sessions and consumers

A new object is added under an unused identity and referred to from its owner. The references stay
whole because nothing referred to the identity before.
-/

namespace BrokerClient.Client

variable {cl : Client}

def withConnection (cl : Client) (c : ConnectionId) (x : Connection) : Client :=
  { cl with connections := cl.connections.insert c x }.count Metrics.connectionOpened

theorem connection_withConnection {c : ConnectionId} (hc : cl.connections.has c = false)
    (x : Connection) (c' : ConnectionId) :
    (cl.withConnection c x).connection c' = if c' = c then x else cl.connection c' :=
  Table.get_insert hc x c'

/-- No session belongs to a connection that does not exist. -/
theorem WellFormed.connection_ne (h : WellFormed cl) {c : ConnectionId}
    (hc : cl.connections.has c = false) {s : SessionId} (hs : cl.sessions.has s = true) :
    (cl.session s).connection ≠ c := by
  intro he
  have hk := h.connection_known s hs
  rw [he, hc] at hk
  cases hk

theorem Sound.withConnection (h : Sound cl) {c : ConnectionId} {t : TransportId}
    {r : RegistryId} {d : SubscriptionsId} (hc : cl.connections.has c = false)
    (ht : cl.transports.has t = true) (hr : cl.registries.has r = true)
    (hd : cl.subscriptions.has d = true) : Sound (cl.withConnection c (.fresh t r d)) := by
  have hv := connection_withConnection hc (.fresh t r d)
  have hhas : ∀ c', (cl.withConnection c (.fresh t r d)).connections.has c' = true ↔
      cl.connections.has c' = true ∨ c' = c :=
    Table.has_insert hc _
  have hof : ∀ s, cl.sessions.has s = true →
      (cl.withConnection c (.fresh t r d)).connection (cl.session s).connection =
        cl.connection (cl.session s).connection := by
    intro s hs
    rw [hv, if_neg (h.connection_ne hc hs)]
  constructor
  case toWellFormed =>
    constructor
    case listed =>
      intro s ho
      exact (congrArg Connection.sessions (hof s (has_session ho))).symm ▸ h.listed s ho
    case listed_open =>
      intro c' s hs
      rw [hv] at hs
      split at hs
      · exact absurd hs List.not_mem_nil
      · exact h.listed_open c' s hs
    case sessions_nodup =>
      intro c'
      rw [hv]
      split
      · exact List.nodup_nil
      · exact h.sessions_nodup c'
    case number_lt =>
      intro s hs
      exact (congrArg Connection.nextSession (hof s hs)).symm ▸ h.number_lt s hs
    case number_inj => exact h.number_inj
    case attached => exact h.attached
    case attached_open => exact h.attached_open
    case consumers_nodup => exact h.consumers_nodup
    case bare => exact h.bare
    case tag_inj => exact h.tag_inj
    case transport_known =>
      intro c' hk
      rw [hv]
      split
      · exact ht
      · next hne => exact h.transport_known c' (((hhas c').mp hk).resolve_right hne)
    case registry_known =>
      intro c' hk
      rw [hv]
      split
      · exact hr
      · next hne => exact h.registry_known c' (((hhas c').mp hk).resolve_right hne)
    case subscriptions_known =>
      intro c' hk
      rw [hv]
      split
      · exact hd
      · next hne => exact h.subscriptions_known c' (((hhas c').mp hk).resolve_right hne)
    case connection_known =>
      intro s hs
      exact (hhas _).mpr (Or.inl (h.connection_known s hs))
    case subscriptions_shared =>
      intro s hs
      exact (congrArg Connection.subscriptions (hof s hs)).symm ▸ h.subscriptions_shared s hs
    case session_known => exact h.session_known
    case factory_known => exact h.factory_known
  case closed_bare =>
    intro c' hcl
    rw [hv] at hcl ⊢
    split
    · rfl
    · next hne =>
      rw [if_neg hne] at hcl
      exact h.closed_bare c' hcl
  case referred =>
    intro c' ho
    rw [hv] at ho ⊢
    split
    · rfl
    · next hne =>
      rw [if_neg hne] at ho
      exact h.referred c' ho

def withSession (cl : Client) (c : ConnectionId) (s : SessionId) (x : Session) : Client :=
  ({ cl with sessions := cl.sessions.insert s x }.onConnection c fun y =>
    { y with sessions := y.sessions ++ [s], nextSession := y.nextSession + 1 }).count
      Metrics.sessionOpened

theorem session_withSession {s : SessionId} (hs : cl.sessions.has s = false) (c : ConnectionId)
    (x : Session) (s' : SessionId) :
    (cl.withSession c s x).session s' = if s' = s then x else cl.session s' :=
  Table.get_insert hs x s'

theorem connection_withSession {c : ConnectionId} (hc : cl.connections.has c = true)
    (s : SessionId) (x : Session) (c' : ConnectionId) :
    (cl.withSession c s x).connection c' =
      if c' = c then
        { cl.connection c with
          sessions := (cl.connection c).sessions ++ [s]
          nextSession := (cl.connection c).nextSession + 1 }
      else cl.connection c' :=
  Table.get_modify_of_has hc _ c'

/-- Only the sessions of a connection and the number of the next one change. -/
theorem connection_withSession_eq {c : ConnectionId} (hc : cl.connections.has c = true)
    (s : SessionId) (x : Session) (c' : ConnectionId) :
    ∃ ss n, (cl.connection c').nextSession ≤ n ∧
      (cl.withSession c s x).connection c' =
        { cl.connection c' with sessions := ss, nextSession := n } := by
  rw [connection_withSession hc]
  split
  · next he =>
    rw [he]
    exact ⟨_, _, Nat.le_succ _, rfl⟩
  · exact ⟨_, _, Nat.le_refl _, rfl⟩

/-- Only the new session is added to those of a connection. -/
theorem mem_sessions_withSession {c : ConnectionId} (hc : cl.connections.has c = true)
    (s : SessionId) (x : Session) (c' : ConnectionId) (s' : SessionId) :
    s' ∈ ((cl.withSession c s x).connection c').sessions ↔
      s' ∈ (cl.connection c').sessions ∨ s' = s ∧ c' = c := by
  rw [connection_withSession hc]
  split
  · next he => simp [he]
  · next he => simp [he]

theorem WellFormed.withSession (h : WellFormed cl) {c : ConnectionId} {s : SessionId}
    (ho : (cl.connection c).closed = false) (hs : cl.sessions.has s = false)
    (transacted : Bool) (mode : AcknowledgeMode) :
    WellFormed (cl.withSession c s (cl.nextSession c transacted mode)) := by
  have hc := has_connection ho
  have hv := session_withSession hs c (cl.nextSession c transacted mode)
  have hcv := connection_withSession hc s (cl.nextSession c transacted mode)
  have hbearing := connection_withSession_eq hc s (cl.nextSession c transacted mode)
  have hmem := mem_sessions_withSession hc s (cl.nextSession c transacted mode)
  have hhas : ∀ s', (cl.withSession c s (cl.nextSession c transacted mode)).sessions.has s' = true ↔
      cl.sessions.has s' = true ∨ s' = s :=
    Table.has_insert hs _
  have hchas : ∀ c', (cl.withSession c s (cl.nextSession c transacted mode)).connections.has c' =
      cl.connections.has c' :=
    Table.has_modify _ _ _
  constructor
  case listed =>
    intro s' ho'
    rw [hmem]
    rw [hv] at ho' ⊢
    split
    · next he => exact Or.inr ⟨he, rfl⟩
    · next he =>
      rw [if_neg he] at ho'
      exact Or.inl (h.listed s' ho')
  case listed_open =>
    intro c' s' hm
    rcases (hmem c' s').mp hm with hm | ⟨rfl, rfl⟩
    · have hl := h.listed_open c' s' hm
      rw [hv, if_neg (Table.ne_of_has (has_session hl.1) hs)]
      exact hl
    · rw [hv, if_pos rfl]
      exact ⟨rfl, rfl⟩
  case sessions_nodup =>
    intro c'
    rw [hcv]
    split
    · refine List.nodup_append.mpr ⟨h.sessions_nodup c, List.pairwise_singleton _ s, ?_⟩
      intro s₁ h₁ s₂ h₂
      rw [List.mem_singleton.mp h₂]
      exact Table.ne_of_has (has_session (h.listed_open c s₁ h₁).1) hs
    · exact h.sessions_nodup c'
  case number_lt =>
    intro s' hs'
    rw [hv]
    split
    · change (cl.connection c).nextSession < ((cl.withSession c s _).connection c).nextSession
      rw [hcv, if_pos rfl]
      exact Nat.lt_succ_self _
    · next hne =>
      obtain ⟨ss, n, hle, he⟩ := hbearing (cl.session s').connection
      rw [he]
      exact Nat.lt_of_lt_of_le (h.number_lt s' (((hhas s').mp hs').resolve_right hne)) hle
  case number_inj =>
    intro s₁ s₂ h₁ h₂ hcc hn
    have hkept : ∀ s', cl.sessions.has s' = true →
        (cl.withSession c s (cl.nextSession c transacted mode)).session s' = cl.session s' :=
      fun s' hs' => (hv s').trans (if_neg (Table.ne_of_has hs' hs))
    have hnew := (hv s).trans (if_pos rfl)
    refine Table.inj_insert (f := fun s' =>
      let x := (cl.withSession c s (cl.nextSession c transacted mode)).session s'
      (x.connection, x.number)) ?_ ?_ ((hhas s₁).mp h₁) ((hhas s₂).mp h₂) (Prod.ext hcc hn)
    · intro s₁ s₂ h₁ h₂ he
      rw [hkept s₁ h₁, hkept s₂ h₂, Prod.mk.injEq] at he
      exact h.number_inj s₁ s₂ h₁ h₂ he.1 he.2
    · -- The number of the new session is above all those of its connection so far.
      intro s' hs' he
      rw [hkept s' hs', hnew, Prod.mk.injEq] at he
      have hlt := h.number_lt s' hs'
      rw [he.1, he.2] at hlt
      exact Nat.lt_irrefl _ hlt
  case attached =>
    intro k hk
    rw [hv]
    have hne : (cl.consumer k).session ≠ s :=
      Table.ne_of_has (h.session_known k (has_consumer hk)) hs
    exact (if_neg hne).symm ▸ h.attached k hk
  case attached_open =>
    intro s' k hk
    rw [hv] at hk
    split at hk
    · exact absurd hk List.not_mem_nil
    · exact h.attached_open s' k hk
  case consumers_nodup =>
    intro s'
    rw [hv]
    split
    · exact List.nodup_nil
    · exact h.consumers_nodup s'
  case bare =>
    intro s' hcl
    rw [hv] at hcl ⊢
    split
    · rfl
    · next hne =>
      rw [if_neg hne] at hcl
      exact h.bare s' hcl
  case tag_inj => exact h.tag_inj
  case transport_known =>
    intro c' hk
    rw [hchas] at hk
    obtain ⟨ss, n, -, he⟩ := hbearing c'
    rw [he]
    exact h.transport_known c' hk
  case registry_known =>
    intro c' hk
    rw [hchas] at hk
    obtain ⟨ss, n, -, he⟩ := hbearing c'
    rw [he]
    exact h.registry_known c' hk
  case subscriptions_known =>
    intro c' hk
    rw [hchas] at hk
    obtain ⟨ss, n, -, he⟩ := hbearing c'
    rw [he]
    exact h.subscriptions_known c' hk
  case connection_known =>
    intro s' hs'
    rw [hchas, hv]
    split
    · exact hc
    · next hne => exact h.connection_known s' (((hhas s').mp hs').resolve_right hne)
  case subscriptions_shared =>
    intro s' hs'
    rw [hv]
    split
    · change (cl.connection c).subscriptions = ((cl.withSession c s _).connection c).subscriptions
      rw [hcv, if_pos rfl]
    · next hne =>
      obtain ⟨ss, n, -, he⟩ := hbearing (cl.session s').connection
      rw [he]
      exact h.subscriptions_shared s' (((hhas s').mp hs').resolve_right hne)
  case session_known =>
    intro k hk
    exact (hhas _).mpr (Or.inl (h.session_known k hk))
  case factory_known => exact h.factory_known

theorem Sound.withSession (h : Sound cl) {c : ConnectionId} {s : SessionId}
    (ho : (cl.connection c).closed = false) (hs : cl.sessions.has s = false)
    (transacted : Bool) (mode : AcknowledgeMode) :
    Sound (cl.withSession c s (cl.nextSession c transacted mode)) where
  toWellFormed := h.toWellFormed.withSession ho hs transacted mode
  closed_bare c' hcl := by
    rw [connection_withSession (has_connection ho)] at hcl ⊢
    split at hcl
    · rw [ho] at hcl
      cases hcl
    · next hne =>
      rw [if_neg hne]
      exact h.closed_bare c' hcl
  referred c' ho' := by
    obtain ⟨ss, n, -, he⟩ := connection_withSession_eq (has_connection ho) s
      (cl.nextSession c transacted mode) c'
    rw [he] at ho' ⊢
    exact h.referred c' ho'

theorem consumer_addConsumer {k : ConsumerId} (hk : cl.consumers.has k = false) (x : Consumer)
    (k' : ConsumerId) : (cl.addConsumer k x).consumer k' = if k' = k then x else cl.consumer k' :=
  Table.get_insert hk x k'

theorem session_addConsumer {x : Consumer} (hs : cl.sessions.has x.session = true)
    (k : ConsumerId) (s : SessionId) :
    (cl.addConsumer k x).session s =
      if s = x.session then
        { cl.session x.session with consumers := (cl.session x.session).consumers ++ [k] }
      else cl.session s :=
  Table.get_modify_of_has hs _ s

/-- Only the consumers of a session change. -/
theorem session_addConsumer_eq {x : Consumer} (hs : cl.sessions.has x.session = true)
    (k : ConsumerId) (s : SessionId) :
    (cl.addConsumer k x).session s =
      { cl.session s with consumers := ((cl.addConsumer k x).session s).consumers } := by
  rw [session_addConsumer hs]
  split
  · next he => rw [he]
  · rfl

/-- Binding a durable name before that makes no difference to them. -/
theorem session_bound_addConsumer {x : Consumer} (hs : cl.sessions.has x.session = true)
    (d : SubscriptionsId) (f : DurableSubscriptions → DurableSubscriptions) (k : ConsumerId)
    (s : SessionId) :
    ((cl.onDurables d f).addConsumer k x).session s =
      { cl.session s with
        consumers := (((cl.onDurables d f).addConsumer k x).session s).consumers } := by
  have hs' : (cl.onDurables d f).sessions.has x.session = true := hs
  exact session_addConsumer_eq hs' k s

/-- A tag is in use exactly if a look-up finds it. -/
theorem hasTag_iff {tag : String} :
    cl.hasTag tag = true ↔ ∃ k, cl.consumers.has k = true ∧ (cl.consumer k).tag = tag := by
  have hv : ∀ r ∈ cl.consumers.rows, cl.consumer r.1 = r.2 := by
    intro r hr
    rw [consumer, Table.get, Table.get?_of_mem hr, Option.getD_some]
  rw [hasTag, List.any_eq_true]
  constructor
  · rintro ⟨x, hx, ht⟩
    obtain ⟨r, hr, rfl⟩ := List.mem_map.mp hx
    refine ⟨r.1, Table.has_iff.mpr (List.mem_map_of_mem hr), ?_⟩
    rw [hv r hr]
    exact beq_iff_eq.mp ht
  · rintro ⟨k, hk, ht⟩
    obtain ⟨r, hr, rfl⟩ := List.mem_map.mp (Table.has_iff.mp hk)
    refine ⟨r.2, List.mem_map_of_mem hr, ?_⟩
    rw [← hv r hr, ht, beq_self_eq_true]

/-- A tag that no consumer has is the tag of no look-up. -/
theorem tag_ne {tag : String} (h : cl.hasTag tag = false) {k : ConsumerId}
    (hk : cl.consumers.has k = true) : (cl.consumer k).tag ≠ tag := fun he =>
  Bool.false_ne_true (h.symm.trans (hasTag_iff.mpr ⟨k, hk, he⟩))

/-- Only the new consumer is added to those of a session. -/
theorem mem_consumers_addConsumer {x : Consumer} (hs : cl.sessions.has x.session = true)
    (k : ConsumerId) (s : SessionId) (k' : ConsumerId) :
    k' ∈ ((cl.addConsumer k x).session s).consumers ↔
      k' ∈ (cl.session s).consumers ∨ k' = k ∧ s = x.session := by
  rw [session_addConsumer hs]
  split
  · next he => simp [he]
  · next he => simp [he]

theorem WellFormed.addConsumer (h : WellFormed cl) {k : ConsumerId} {x : Consumer}
    (hs : (cl.session x.session).closed = false) (hk : cl.consumers.has k = false)
    (ht : cl.hasTag x.tag = false) (hx : x.closed = false) : WellFormed (cl.addConsumer k x) := by
  have hv := consumer_addConsumer hk x
  have hsv := session_addConsumer (has_session hs) k
  have hse := session_addConsumer_eq (has_session hs) k
  have hhas : ∀ k', (cl.addConsumer k x).consumers.has k' = true ↔
      cl.consumers.has k' = true ∨ k' = k :=
    Table.has_insert hk _
  have hshas : ∀ s, (cl.addConsumer k x).sessions.has s = cl.sessions.has s :=
    Table.has_modify _ _ _
  have hmem := mem_consumers_addConsumer (has_session hs) k
  constructor
  case listed =>
    intro s ho
    rw [hse] at ho
    rw [hse]
    exact h.listed s ho
  case listed_open =>
    intro c s hm
    rw [hse]
    exact h.listed_open c s hm
  case sessions_nodup => exact h.sessions_nodup
  case number_lt =>
    intro s hm
    rw [hshas] at hm
    rw [hse]
    exact h.number_lt s hm
  case number_inj =>
    intro s s' hm hm' hc hn
    rw [hshas] at hm hm'
    rw [hse s, hse s'] at hc hn
    exact h.number_inj s s' hm hm' hc hn
  case attached =>
    intro k' ho
    rw [hmem]
    rw [hv] at ho ⊢
    split
    · next he => exact Or.inr ⟨he, rfl⟩
    · next he =>
      rw [if_neg he] at ho
      exact Or.inl (h.attached k' ho)
  case attached_open =>
    intro s k' hm
    rw [hmem] at hm
    rw [hv]
    rcases hm with hm | ⟨rfl, rfl⟩
    · have ho := h.attached_open s k' hm
      rw [if_neg (Table.ne_of_has (has_consumer ho.1) hk)]
      exact ho
    · rw [if_pos rfl]
      exact ⟨hx, rfl⟩
  case consumers_nodup =>
    intro s
    rw [hsv]
    split
    · refine List.nodup_append.mpr ⟨h.consumers_nodup _, List.pairwise_singleton _ k, ?_⟩
      intro k₁ h₁ k₂ h₂
      rw [List.mem_singleton.mp h₂]
      exact Table.ne_of_has (has_consumer (h.attached_open _ k₁ h₁).1) hk
    · exact h.consumers_nodup s
  case bare =>
    intro s hc
    rw [hse] at hc
    rw [hsv]
    split
    · next he =>
      rw [he, hs] at hc
      cases hc
    · exact h.bare s hc
  case tag_inj =>
    intro k₁ k₂ h₁ h₂ he
    have hkept : ∀ k', cl.consumers.has k' = true →
        (cl.addConsumer k x).consumer k' = cl.consumer k' :=
      fun k' hk' => (hv k').trans (if_neg (Table.ne_of_has hk' hk))
    have hnew := (hv k).trans (if_pos rfl)
    refine Table.inj_insert (f := fun k' => ((cl.addConsumer k x).consumer k').tag) ?_ ?_
      ((hhas k₁).mp h₁) ((hhas k₂).mp h₂) he
    · intro k₁ k₂ h₁ h₂ he
      rw [hkept k₁ h₁, hkept k₂ h₂] at he
      exact h.tag_inj k₁ k₂ h₁ h₂ he
    · intro k' hk'
      rw [hkept k' hk', hnew]
      exact tag_ne ht hk'
  case transport_known => exact h.transport_known
  case registry_known => exact h.registry_known
  case subscriptions_known => exact h.subscriptions_known
  case connection_known =>
    intro s hm
    rw [hshas] at hm
    rw [hse]
    exact h.connection_known s hm
  case subscriptions_shared =>
    intro s hm
    rw [hshas] at hm
    rw [hse]
    exact h.subscriptions_shared s hm
  case session_known =>
    intro k' hm
    rw [hshas, hv]
    split
    · exact has_session hs
    · next hne => exact h.session_known k' (((hhas k').mp hm).resolve_right hne)
  case factory_known => exact h.factory_known

theorem Sound.addConsumer (h : Sound cl) {k : ConsumerId} {x : Consumer}
    (hs : (cl.session x.session).closed = false) (hk : cl.consumers.has k = false)
    (ht : cl.hasTag x.tag = false) (hx : x.closed = false) : Sound (cl.addConsumer k x) where
  toWellFormed := h.toWellFormed.addConsumer hs hk ht hx
  closed_bare := h.closed_bare
  referred := h.referred

end BrokerClient.Client
