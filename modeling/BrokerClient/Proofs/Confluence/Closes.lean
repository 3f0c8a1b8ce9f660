import BrokerClient.Proofs.ClientIds

/-!
# What closes come to

What is closed after some closes of connections, sessions and consumers can be said at once: what
was closed before, what was asked to close, and all that belongs to it. What else becomes of a
client follows from that, so nothing but the answers and the log depends on the order of the calls.
Closes that follow each other come to what all of them come to together.
-/

namespace BrokerClient

def Call.isClosing : Call → Bool
  | .close _ | .closeSession _ | .closeConsumer _ => true
  | _ => false

namespace Client

section Asked

variable (cl : Client) (calls : List Call)

/-- The connection is closed, or a call asks for it. -/
def EndsConnection (c : ConnectionId) : Prop :=
  (cl.connection c).closed = true ∨ .close c ∈ calls

/-- The session is closed, or a call asks for it, or its connection ends. -/
def EndsSession (s : SessionId) : Prop :=
  (cl.session s).closed = true ∨ .closeSession s ∈ calls ∨
    cl.EndsConnection calls (cl.session s).connection

/-- The consumer is closed, or a call asks for it, or its session ends. -/
def EndsConsumer (k : ConsumerId) : Prop :=
  (cl.consumer k).closed = true ∨ .closeConsumer k ∈ calls ∨
    cl.EndsSession calls (cl.consumer k).session

/-- A connection that carries the ID is asked to close. -/
def GivesBack (r : RegistryId) (id : String) : Prop :=
  ∃ c, cl.Carries c r id ∧ .close c ∈ calls

/-- An open connection over the transport is asked to close. -/
def EndsOver (t : TransportId) : Prop :=
  ∃ c, (cl.connection c).closed = false ∧ (cl.connection c).transport = t ∧ .close c ∈ calls

end Asked

/-- The second client is the first with all closed that calls ask for. The lists of open sessions
and consumers, the gauges and how often a transport was closed are left open here, because other
invariants settle them by what is closed. -/
structure Closes (calls : List Call) (before after : Client) : Prop where
  connection : ∀ c, after.connection c = { before.connection c with
    closed := (after.connection c).closed
    sessions := (after.connection c).sessions }
  connection_closed : ∀ c, (after.connection c).closed = true ↔ before.EndsConnection calls c
  session : ∀ s, after.session s = { before.session s with
    closed := (after.session s).closed
    consumers := (after.session s).consumers }
  session_closed : ∀ s, (after.session s).closed = true ↔ before.EndsSession calls s
  consumer : ∀ k, after.consumer k =
    { before.consumer k with closed := (after.consumer k).closed }
  consumer_closed : ∀ k, (after.consumer k).closed = true ↔ before.EndsConsumer calls k
  registry : ∀ r, (after.registry r).ids.Sublist (before.registry r).ids
  registry_held : ∀ r id, id ∈ (after.registry r).ids ↔
    id ∈ (before.registry r).ids ∧ ¬ before.GivesBack calls r id
  transport_kept : ∀ t, ¬ before.EndsOver calls t → after.transport t = before.transport t
  transport_closed : ∀ t, before.EndsOver calls t → ∃ closeCalls, after.transport t =
    { before.transport t with closed := true, pendingFailure := none, closeCalls }
  connection_keys : after.connections.keys = before.connections.keys
  session_keys : after.sessions.keys = before.sessions.keys
  consumer_keys : after.consumers.keys = before.consumers.keys
  registry_keys : after.registries.keys = before.registries.keys
  transport_keys : after.transports.keys = before.transports.keys
  subscriptions : after.subscriptions = before.subscriptions
  factories : after.factories = before.factories
  listeners : after.listeners = before.listeners
  recorders : after.recorders = before.recorders
  metrics : after.metrics = { before.metrics with
    openConnections := after.metrics.openConnections
    openSessions := after.metrics.openSessions }

variable {cl before middle after : Client} {calls later : List Call}

theorem Closes.endsConnection (h : Closes calls before middle) (c : ConnectionId) :
    middle.EndsConnection later c ↔ before.EndsConnection (calls ++ later) c := by
  rw [EndsConnection, h.connection_closed, EndsConnection, EndsConnection, List.mem_append,
    or_assoc]

theorem Closes.endsSession (h : Closes calls before middle) (s : SessionId) :
    middle.EndsSession later s ↔ before.EndsSession (calls ++ later) s := by
  have hs : (middle.session s).connection = (before.session s).connection := by rw [h.session]
  rw [EndsSession, h.session_closed, h.endsConnection, hs, EndsSession, EndsSession,
    List.mem_append]
  -- A connection that the first calls end is ended by all of them.
  have hmono : before.EndsConnection calls (before.session s).connection →
      before.EndsConnection (calls ++ later) (before.session s).connection :=
    Or.imp_right (List.mem_append_left _)
  tauto

theorem Closes.endsConsumer (h : Closes calls before middle) (k : ConsumerId) :
    middle.EndsConsumer later k ↔ before.EndsConsumer (calls ++ later) k := by
  have hk : (middle.consumer k).session = (before.consumer k).session := by rw [h.consumer]
  rw [EndsConsumer, h.consumer_closed, h.endsSession, hk, EndsConsumer, EndsConsumer,
    List.mem_append]
  have hmono : before.EndsSession calls (before.consumer k).session →
      before.EndsSession (calls ++ later) (before.consumer k).session :=
    fun he => (h.endsSession _).mp (Or.inl ((h.session_closed _).mpr he))
  tauto

/-- What is open after the first calls was open before and is none of what they ask for. -/
theorem Closes.connection_open (h : Closes calls before middle) (c : ConnectionId) :
    (middle.connection c).closed = false ↔
      (before.connection c).closed = false ∧ .close c ∉ calls := by
  rw [← Bool.not_eq_true, h.connection_closed, EndsConnection, not_or, Bool.not_eq_true]

theorem Closes.givesBack (h : Closes calls before middle) (r : RegistryId) (id : String) :
    before.GivesBack (calls ++ later) r id ↔
      before.GivesBack calls r id ∨ middle.GivesBack later r id := by
  have hcarries : ∀ c, middle.Carries c r id ↔ before.Carries c r id ∧ .close c ∉ calls := by
    intro c
    rw [Carries, h.connection_open, h.connection]
    exact and_right_comm
  unfold GivesBack
  constructor
  · rintro ⟨c, hc, hm⟩
    by_cases hcalls : .close c ∈ calls
    · exact Or.inl ⟨c, hc, hcalls⟩
    · exact Or.inr ⟨c, (hcarries c).mpr ⟨hc, hcalls⟩, (List.mem_append.mp hm).resolve_left hcalls⟩
  · rintro (⟨c, hc, hm⟩ | ⟨c, hc, hm⟩)
    · exact ⟨c, hc, List.mem_append_left _ hm⟩
    · exact ⟨c, ((hcarries c).mp hc).1, List.mem_append_right _ hm⟩

theorem Closes.connection_transport (h : Closes calls before after) (c : ConnectionId) :
    (after.connection c).transport = (before.connection c).transport :=
  (congrArg Connection.transport (h.connection c) :)

theorem Closes.endsOver (h : Closes calls before middle) (t : TransportId) :
    before.EndsOver (calls ++ later) t ↔ before.EndsOver calls t ∨ middle.EndsOver later t := by
  unfold EndsOver
  constructor
  · rintro ⟨c, ho, hc, hm⟩
    by_cases hcalls : .close c ∈ calls
    · exact Or.inl ⟨c, ho, hc, hcalls⟩
    · exact Or.inr ⟨c, (h.connection_open c).mpr ⟨ho, hcalls⟩, (h.connection_transport c).trans hc,
        (List.mem_append.mp hm).resolve_left hcalls⟩
  · rintro (⟨c, ho, hc, hm⟩ | ⟨c, ho, hc, hm⟩)
    · exact ⟨c, ho, hc, List.mem_append_left _ hm⟩
    · exact ⟨c, ((h.connection_open c).mp ho).1, (h.connection_transport c).symm.trans hc,
        List.mem_append_right _ hm⟩

/-- Calls that follow each other come to what all of them ask for at first. -/
theorem Closes.trans (h : Closes calls before middle) (h' : Closes later middle after) :
    Closes (calls ++ later) before after where
  connection c := by
    rw [h'.connection, h.connection]
  connection_closed c := (h'.connection_closed c).trans (h.endsConnection c)
  session s := by
    rw [h'.session, h.session]
  session_closed s := (h'.session_closed s).trans (h.endsSession s)
  consumer k := by
    rw [h'.consumer, h.consumer]
  consumer_closed k := (h'.consumer_closed k).trans (h.endsConsumer k)
  registry r := (h'.registry r).trans (h.registry r)
  registry_held r id := by
    rw [h'.registry_held, h.registry_held, h.givesBack, not_or, and_assoc]
  transport_kept t hn := by
    rw [h.endsOver, not_or] at hn
    exact (h'.transport_kept t hn.2).trans (h.transport_kept t hn.1)
  transport_closed t he := by
    by_cases hl : middle.EndsOver later t
    · obtain ⟨n, hafter⟩ := h'.transport_closed t hl
      have hhooks : (middle.transport t).hooks = (before.transport t).hooks := by
        by_cases hf : before.EndsOver calls t
        · obtain ⟨m, hmiddle⟩ := h.transport_closed t hf
          rw [hmiddle]
        · rw [h.transport_kept t hf]
      refine ⟨n, ?_⟩
      rw [hafter]
      dsimp only
      rw [hhooks]
    · rw [h'.transport_kept t hl]
      exact h.transport_closed t (((h.endsOver t).mp he).resolve_right hl)
  connection_keys := h'.connection_keys.trans h.connection_keys
  session_keys := h'.session_keys.trans h.session_keys
  consumer_keys := h'.consumer_keys.trans h.consumer_keys
  registry_keys := h'.registry_keys.trans h.registry_keys
  transport_keys := h'.transport_keys.trans h.transport_keys
  subscriptions := h'.subscriptions.trans h.subscriptions
  factories := h'.factories.trans h.factories
  listeners := h'.listeners.trans h.listeners
  recorders := h'.recorders.trans h.recorders
  metrics := by
    rw [h'.metrics, h.metrics]

section Shut

variable {c : ConnectionId} {ss : List SessionId}

theorem Shuts.session_ended (h : Shuts c ss before after)
    (hss : ∀ s, before.EndsSession calls s ↔ s ∈ ss ∨ (before.session s).closed = true)
    (s : SessionId) : (after.session s).closed = true ↔ before.EndsSession calls s := by
  rw [hss, h.session]
  by_cases hm : s ∈ ss
  · simp [hm]
  · simp [hm]

/-- The consumers of sessions that end are closed with them or were closed before. -/
theorem Shuts.consumer_ended (h : Shuts c ss before after) (hw : WellFormed before)
    (hss : ∀ s, before.EndsSession calls s ↔ s ∈ ss ∨ (before.session s).closed = true)
    (hk : ∀ k, .closeConsumer k ∈ calls → (before.consumer k).closed = true) (k : ConsumerId) :
    (after.consumer k).closed = true ↔ before.EndsConsumer calls k := by
  rw [EndsConsumer, hss, h.consumer]
  by_cases hm : (before.consumer k).session ∈ ss
  · simp [hm]
  · rw [if_neg hm, or_iff_right hm]
    exact ⟨Or.inl, fun he => he.elim id fun he => he.elim (hk k) hw.consumer_closed_of_session⟩

/-- Where nothing else is asked for than the sessions that are shut, that is all that is closed. -/
theorem Shuts.closes (h : Shuts c ss before after) (hw : WellFormed before)
    (hc : ∀ c, .close c ∈ calls → (before.connection c).closed = true)
    (hss : ∀ s, before.EndsSession calls s ↔ s ∈ ss ∨ (before.session s).closed = true)
    (hk : ∀ k, .closeConsumer k ∈ calls → (before.consumer k).closed = true) :
    Closes calls before after where
  connection c' := by
    rw [h.connection_eq]
  connection_closed c' := by
    rw [h.connection_eq]
    exact ⟨Or.inl, fun he => he.elim id (hc c')⟩
  session s := by
    rw [h.session]
    split <;> rfl
  session_closed := h.session_ended hss
  consumer k := by
    rw [h.consumer]
    split <;> rfl
  consumer_closed := h.consumer_ended hw hss hk
  registry r := by
    rw [registry, registry, h.registries]
  registry_held r id := by
    rw [registry, registry, h.registries]
    refine (and_iff_left ?_).symm
    rintro ⟨c', hcarries, hm⟩
    exact Bool.false_ne_true (hcarries.1.symm.trans (hc c' hm))
  transport_kept t _ := by
    rw [transport, transport, h.transports]
  transport_closed t := by
    rintro ⟨c', ho, -, hm⟩
    exact absurd (ho.symm.trans (hc c' hm)) Bool.false_ne_true
  connection_keys := h.connection_keys
  session_keys := h.session_keys
  consumer_keys := h.consumer_keys
  registry_keys := by rw [h.registries]
  transport_keys := by rw [h.transports]
  subscriptions := h.subscriptions
  factories := h.factories
  listeners := h.listeners
  recorders := h.recorders
  metrics := by
    rw [h.metrics]

end Shut

/-- Asking for what is closed changes nothing. -/
theorem Closes.idle (hs : Sound cl)
    (hc : ∀ c, .close c ∈ calls → (cl.connection c).closed = true)
    (hses : ∀ s, .closeSession s ∈ calls → (cl.session s).closed = true)
    (hk : ∀ k, .closeConsumer k ∈ calls → (cl.consumer k).closed = true) :
    Closes calls cl cl := by
  refine (Shuts.refl ⟨0⟩ cl).closes hs.toWellFormed hc (fun s => ?_) hk
  rw [or_iff_right List.not_mem_nil]
  refine ⟨fun he => ?_, Or.inl⟩
  rcases he with h | h | h
  · exact h
  · exact hses s h
  · exact hs.session_closed_of_connection (h.elim id (hc _))

/-- A session that is closed, or that does not exist, stays as it is, and any other is shut. -/
theorem closes_closeSession (hs : Sound cl) (s : SessionId) :
    Closes [.closeSession s] cl (cl.step (.closeSession s)).1 := by
  cases hk : cl.sessions.has s with
  | false =>
    have hstep : cl.step (.closeSession s) = (cl, .refused) := step_refused hk
    have hcl : (cl.session s).closed = true :=
      eq_true_of_ne_false fun ho => Bool.false_ne_true (hk.symm.trans (has_session ho))
    rw [hstep]
    exact .idle hs (by simp) (by simpa using hcl) (by simp)
  | true =>
    have hstep : cl.step (.closeSession s) = (cl.closeSession s, .done) := if_pos hk
    rw [hstep]
    refine (shuts_closeSession hs hk).closes hs.toWellFormed (by simp) (fun s' => ?_) (by simp)
    have hconnection : cl.EndsConnection [.closeSession s] (cl.session s').connection →
        (cl.session s').closed = true := by
      rintro (h | h)
      · exact hs.session_closed_of_connection h
      · simp at h
    rw [EndsSession, List.mem_singleton, Call.closeSession.injEq]
    cases hcl : (cl.session s).closed with
    | true =>
      rw [if_pos rfl, or_iff_right List.not_mem_nil]
      refine ⟨fun he => ?_, Or.inl⟩
      rcases he with h | rfl | h
      · exact h
      · exact hcl
      · exact hconnection h
    | false =>
      rw [if_neg Bool.false_ne_true, List.mem_singleton]
      tauto

theorem Detaches.closes {k : ConsumerId} (h : Detaches k before after) (hs : Sound before) :
    Closes [.closeConsumer k] before after := by
  have hsession : ∀ s, before.EndsSession [.closeConsumer k] s →
      (before.session s).closed = true := by
    rintro s (he | he | he | he)
    · exact he
    · simp at he
    · exact hs.session_closed_of_connection he
    · simp at he
  exact {
    connection := fun c => by
      rw [h.connection]
    connection_closed := fun c => by
      rw [h.connection]
      simp [EndsConnection]
    session := fun s => by
      rw [h.session_eq]
    session_closed := fun s => by
      rw [h.session_eq]
      exact ⟨Or.inl, hsession s⟩
    consumer := fun k' => by
      rw [h.consumer_eq]
    consumer_closed := fun k' => by
      rw [h.consumer, EndsConsumer, List.mem_singleton, Call.closeConsumer.injEq]
      split
      · next he => simp [he]
      · next hne =>
        refine ⟨Or.inl, fun he => ?_⟩
        rcases he with he | he | he
        · exact he
        · exact absurd he hne
        · exact hs.consumer_closed_of_session (hsession _ he)
    registry := fun r => by
      rw [registry, registry, h.registries]
    registry_held := fun r id => by
      rw [registry, registry, h.registries]
      simp [GivesBack]
    transport_kept := fun t _ => by
      rw [transport, transport, h.transports]
    transport_closed := fun t ⟨c, _, _, hm⟩ => by
      simp at hm
    connection_keys := by rw [h.connections]
    session_keys := h.session_keys
    consumer_keys := h.consumer_keys
    registry_keys := by rw [h.registries]
    transport_keys := by rw [h.transports]
    subscriptions := h.subscriptions
    factories := h.factories
    listeners := h.listeners
    recorders := h.recorders
    metrics := by rw [h.metrics] }

theorem closes_closeConsumer (hs : Sound cl) (k : ConsumerId) :
    Closes [.closeConsumer k] cl (cl.step (.closeConsumer k)).1 := by
  cases hcl : (cl.consumer k).closed with
  | true =>
    have hstep : (cl.step (.closeConsumer k)).1 = cl := by
      cases hk : cl.consumers.has k with
      | false =>
        have hstep : cl.step (.closeConsumer k) = (cl, .refused) := step_refused hk
        rw [hstep]
      | true =>
        have hstep : cl.step (.closeConsumer k) = (cl.closeConsumer k, .done) := if_pos hk
        have hkept : cl.closeConsumer k = cl := if_pos hcl
        rw [hstep, hkept]
    rw [hstep]
    exact .idle hs (by simp) (by simp) (by simpa using hcl)
  | false =>
    have hstep : cl.step (.closeConsumer k) = (cl.closeConsumer k, .done) :=
      if_pos (has_consumer hcl)
    rw [hstep]
    exact (detaches_closeConsumer hs.toWellFormed hcl).closes hs

/-- The close of a connection ends the sessions that are registered with it. -/
theorem endsSession_close (hs : Sound before) (c : ConnectionId) (s : SessionId) :
    before.EndsSession [.close c] s ↔
      s ∈ (before.connection c).sessions ∨ (before.session s).closed = true := by
  rw [hs.mem_sessions_iff]
  constructor
  · rintro (he | he | he | he)
    · exact Or.inr he
    · simp at he
    · exact Or.inr (hs.session_closed_of_connection he)
    · rw [List.mem_singleton, Call.close.injEq] at he
      cases hcl : (before.session s).closed with
      | true => exact Or.inr rfl
      | false => exact Or.inl ⟨rfl, he⟩
  · rintro (⟨-, he⟩ | he)
    · refine Or.inr (Or.inr (Or.inr ?_))
      rw [he]
      exact List.mem_singleton_self _
    · exact Or.inl he

/-- Closing an open connection ends it with all that it made, gives its client ID back and closes
its transport. -/
theorem closes_close_of_open (hs : Sound before) {c : ConnectionId}
    (ho : (before.connection c).closed = false) : Closes [.close c] before (before.close c).1 := by
  have hd := shuts_drain hs.toWellFormed c
  have hr := retires_close hs.toWellFormed ho
  have hss := endsSession_close hs c
  have hregistry := registry_close hs.toWellFormed ho
  have htransport := transport_close hs.toWellFormed ho
  exact {
    connection := fun c' => by
      rw [hr.connection]
      split
      · next he => rw [he, hd.connection_eq]
      · rw [hd.connection_eq]
    connection_closed := fun c' => by
      rw [hr.connection, EndsConnection, List.mem_singleton, Call.close.injEq]
      split
      · next he => simp [he]
      · next hne => rw [hd.connection_eq, or_iff_left hne]
    session := fun s => by
      rw [hr.session, hd.session]
      split <;> rfl
    session_closed := fun s => by
      rw [hr.session]
      exact hd.session_ended hss s
    consumer := fun k => by
      rw [hr.consumer, hd.consumer]
      split <;> rfl
    consumer_closed := fun k => by
      rw [hr.consumer]
      exact hd.consumer_ended hs.toWellFormed hss (by simp) k
    registry := fun r => by
      rw [hregistry]
      split
      · exact ClientIdRegistry.without_sublist _ _
      · exact List.Sublist.refl _
    registry_held := fun r id => by
      have hgives : before.GivesBack [.close c] r id ↔
          (before.connection c).clientIds = r ∧ (before.connection c).clientId = some id := by
        simp [GivesBack, Carries, ho]
      rw [hgives, hregistry]
      split
      · next he => rw [ClientIdRegistry.mem_without, he, and_iff_right rfl]
      · next hne => simp [Ne.symm hne]
    transport_kept := fun t hn => by
      rw [htransport, if_neg]
      rintro rfl
      exact hn ⟨c, ho, rfl, List.mem_singleton_self _⟩
    transport_closed := fun t ⟨c', _, ht, hmem⟩ => by
      rw [List.mem_singleton, Call.close.injEq] at hmem
      rw [hmem] at ht
      refine ⟨(before.transport t).closeCalls + 1, ?_⟩
      rw [htransport, if_pos ht.symm, Transport.close_eq]
    connection_keys := hr.connection_keys.trans hd.connection_keys
    session_keys := hr.session_keys.trans hd.session_keys
    consumer_keys := hr.consumer_keys.trans hd.consumer_keys
    registry_keys := by rw [hr.registry_keys, hd.registries]
    transport_keys := by rw [hr.transport_keys, hd.transports]
    subscriptions := hr.subscriptions.trans hd.subscriptions
    factories := hr.factories.trans hd.factories
    listeners := hr.listeners.trans hd.listeners
    recorders := hr.recorders.trans hd.recorders
    metrics := by
      rw [hr.metrics, hd.metrics]
      rfl }

theorem closes_close (hs : Sound cl) (c : ConnectionId) :
    Closes [.close c] cl (cl.step (.close c)).1 := by
  cases hcl : (cl.connection c).closed with
  | true =>
    have hstep : (cl.step (.close c)).1 = cl := by
      cases hr : (cl.connection c).isReferred with
      | false =>
        have hstep : cl.step (.close c) = (cl, .refused) := step_refused hr
        rw [hstep]
      | true =>
        have hstep : cl.step (.close c) = (cl.close c).map id .ofUnit := if_pos hr
        rw [hstep, close_of_closed hcl]
        rfl
    rw [hstep]
    exact .idle hs (by simpa using hcl) (by simp) (by simp)
  | false =>
    have hstep : cl.step (.close c) = (cl.close c).map id .ofUnit := if_pos (hs.referred c hcl)
    rw [hstep]
    exact closes_close_of_open hs hcl

/-- A call that closes something closes what it asks for. -/
theorem closes_step (hs : Sound cl) {call : Call} (h : call.isClosing = true) :
    Closes [call] cl (cl.step call).1 := by
  cases call with
  | close c => exact closes_close hs c
  | closeSession s => exact closes_closeSession hs s
  | closeConsumer k => exact closes_closeConsumer hs k
  | _ => cases h

end Client

end BrokerClient
