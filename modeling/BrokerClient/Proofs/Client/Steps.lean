import BrokerClient.Proofs.Client.Persistence
import BrokerClient.Proofs.Client.Referring
import BrokerClient.Proofs.DurableSubscriptions

/-!
# Steps are changes

Every call that is carried out is a sequence of changes, each of them allowed if the call is. The
lemmas follow the definitions: one for each operation, put together where operations are.
-/

namespace BrokerClient.Client

variable {allowed : Call → Prop} {cl : Client}

theorem changes_closeSession (hs : Sound cl) {s : SessionId} (h : cl.sessions.has s = true) :
    Changes allowed cl (cl.closeSession s) := by
  have hshut := shuts_closeSession hs h
  refine Change.changes (.shut _ _ ?_ ?_ hshut)
  · split
    · exact List.nodup_nil
    · exact List.pairwise_singleton _ s
  · intro s' hm
    cases hc : (cl.session s).closed with
    | true =>
      rw [hc] at hm
      exact absurd hm List.not_mem_nil
    | false =>
      rw [hc] at hm
      rw [List.mem_singleton.mp hm]
      exact hs.listed s hc

theorem changes_closeConsumer (hs : Sound cl) (k : ConsumerId) :
    Changes allowed cl (cl.closeConsumer k) := by
  cases hc : (cl.consumer k).closed with
  | true =>
    have he : cl.closeConsumer k = cl := if_pos hc
    rw [he]
  | false => exact Change.changes (.closeConsumer k hc (detaches_closeConsumer hs.toWellFormed hc))

/-- A drain leaves no session. -/
theorem sessions_drain (hw : WellFormed cl) (c : ConnectionId) :
    ((cl.drain c).connection c).sessions = [] := by
  rw [(shuts_drain hw c).sessions, if_pos rfl]
  exact List.filter_eq_nil_iff.mpr fun s hm => by simp [hm]

theorem closed_drain (hw : WellFormed cl) (c : ConnectionId) :
    ((cl.drain c).connection c).closed = (cl.connection c).closed := by
  rw [(shuts_drain hw c).connection_eq]

/-- Closing an open connection is a shutting of its sessions and its retirement. -/
theorem changes_close_recounted (hs : Sound cl) {c : ConnectionId}
    (ho : (cl.connection c).closed = false) (handles : Nat) (log : List Event) :
    Changes allowed cl ((cl.recounted c handles log).close c).1 := by
  have hd : Change allowed cl (cl.drain c) :=
    .shut c _ (hs.sessions_nodup c) (fun _ hm => hm) (shuts_drain hs.toWellFormed c)
  have hr : Change allowed (cl.drain c) ((cl.recounted c handles log).close c).1 :=
    .retire c handles ((closed_drain hs.toWellFormed c).trans ho) (sessions_drain hs.toWellFormed c)
      (retires_close_recounted hs.toWellFormed ho handles log)
  exact hd.changes.tail hr

theorem changes_close (hs : Sound cl) (c : ConnectionId) : Changes allowed cl (cl.close c).1 := by
  cases hc : (cl.connection c).closed with
  | true => rw [close_of_closed hc]
  | false =>
    have h : Changes allowed cl _ :=
      changes_close_recounted hs hc (cl.connection c).handles cl.log
    rw [recounted_self] at h
    exact h

/-- A change of one connection that calls may make at any time. -/
theorem changes_adjust {c : ConnectionId} {f : Connection → Connection}
    (hc : cl.connections.has c = true)
    (hf : (f (cl.connection c)).bearing = (cl.connection c).bearing)
    (hr : (cl.connection c).closed = false → (f (cl.connection c)).isReferred = true)
    (ha : (f (cl.connection c)).assignable = (cl.connection c).assignable)
    (hl : (f (cl.connection c)).listener = (cl.connection c).listener)
    (ht : Explained allowed (Call.isTrustOf c) (cl.connection c).trusted
      (f (cl.connection c)).trusted) :
    Changes allowed cl (cl.onConnection c f) :=
  Change.changes (.adjust c f hc hf hr (Or.inl ha) (Or.inl hl) ht)

theorem changes_drop (hs : Sound cl) {c : ConnectionId} (hc : cl.connections.has c = true) :
    Changes allowed cl (cl.drop c) := by
  have hless : (cl.connection c).handles - 1 ≠ 0 ∨ (cl.connection c).closed = true →
      Changes allowed cl (cl.drop c) := by
    intro h
    rw [drop_eq_recounted hc h]
    refine changes_adjust hc rfl (fun ho => ?_) rfl rfl (.refl _)
    rcases h with h | h
    · exact bne_iff_ne.mpr h
    · exact absurd (ho.symm.trans h) Bool.false_ne_true
  cases ho : (cl.connection c).closed with
  | true => exact hless (Or.inr ho)
  | false =>
    by_cases h : (cl.connection c).handles - 1 = 0
    · obtain ⟨log, hd⟩ := exists_drop_of_last ho h
      rw [hd]
      exact (changes_close_recounted hs ho 0 _).aside (aside_relog _ log)
    · exact hless (Or.inl h)

/-- Closing a connection removes none. -/
theorem connections_has_close (hs : Sound cl) (c : ConnectionId) {c' : ConnectionId}
    (h : cl.connections.has c' = true) : (cl.close c).1.connections.has c' = true := by
  have hclose : Changes (fun _ => True) cl (cl.close c).1 := changes_close hs c
  exact hclose.continues.connections_has c' h

theorem changes_dropGuard (hs : Sound cl) {c : ConnectionId} (hc : cl.connections.has c = true) :
    Changes allowed cl (cl.dropGuard c) := by
  obtain ⟨log, hd⟩ := exists_dropGuard cl c
  have hclose : Changes allowed cl { (cl.close c).1 with log } :=
    (changes_close hs c).aside (aside_relog _ log)
  rw [hd]
  exact hclose.trans (changes_drop (hs.changes hclose) (connections_has_close hs c hc))

theorem changes_closeOnNotice (hs : Sound cl)
    (ha : ∃ call, allowed call ∧ call.isShutdown = true) (l : ListenerId) :
    Changes allowed cl (cl.closeOnNotice l) := by
  unfold closeOnNotice
  cases (cl.listener l).closes with
  | none => exact .refl
  | some c =>
    dsimp only
    split
    · exact (changes_close hs c).aside (aside_hear _ l _ ha)
    · exact .refl

theorem changes_notify (hs : Sound cl) (ha : ∃ call, allowed call ∧ call.isShutdown = true)
    (l : ListenerId) (error : MessagingError) : Changes allowed cl (cl.notify l error) := by
  have hh : Aside allowed cl (cl.onListener l fun x => x.hear (.raised error)) :=
    aside_hear cl l _ ha
  exact hh.changes.trans (changes_closeOnNotice (hs.aside hh) ha l)

theorem changes_transportShutDown (hs : Sound cl)
    (ha : ∃ call, allowed call ∧ call.isShutdown = true) (c : ConnectionId)
    (cause : TransportError) : Changes allowed cl (cl.transportShutDown c cause) := by
  have hm : Aside allowed cl (cl.count Metrics.shutDown) := aside_countShutdown cl ha
  unfold transportShutDown
  dsimp only
  split
  · exact hm.changes.aside (aside_note _ _)
  · have hn : Changes allowed cl _ :=
      hm.changes.aside (aside_note _ (.shutdownReceived cause))
    split
    · exact hn
    · next l _ => exact hn.trans (changes_notify (hs.changes hn) ha l (shutdownError cause))

theorem changes_runHook (hs : Sound cl) (ha : ∃ call, allowed call ∧ call.isShutdown = true)
    (cause : TransportError) (hook : ShutdownHook) :
    Changes allowed cl (runHook cause cl hook) := by
  cases hook with
  | connection c =>
    simp only [runHook]
    split
    · exact changes_transportShutDown hs ha c cause
    · exact .refl
  | recorder h => exact (aside_record cl h cause).changes

theorem changes_runHooks (hs : Sound cl) (ha : ∃ call, allowed call ∧ call.isShutdown = true)
    (cause : TransportError) (hooks : List ShutdownHook) :
    Changes allowed cl (hooks.foldl (runHook cause) cl) := by
  induction hooks generalizing cl with
  | nil => exact .refl
  | cons hook hooks ih =>
    have h : Changes allowed cl (runHook cause cl hook) := changes_runHook hs ha cause hook
    exact h.trans (ih (hs.changes h))

theorem changes_signal (hs : Sound cl) {t : TransportId} {reason : String}
    (ha : allowed (.signal t reason)) : Changes allowed cl (cl.signal t reason) := by
  unfold signal
  dsimp only
  split
  · exact .refl
  · have h : Changes allowed cl _ :=
      (aside_signalShutdown cl ha).changes.aside (aside_note _ (.loopbackShutDown reason))
    exact h.trans (changes_runHooks (hs.changes h) ⟨_, ha, rfl⟩ _ _)

theorem changes_openConnection {c : ConnectionId} {t : TransportId} {r : RegistryId}
    {d : SubscriptionsId} (hc : cl.connections.has c = false) (ht : cl.transports.has t = true)
    (hr : cl.registries.has r = true) (hd : cl.subscriptions.has d = true) (deaf : Bool)
    (ha : (∃ deaf, allowed (.openConnection c t r d deaf)) ∨ ∃ f, allowed (.connect f c t d) ∧
      cl.factories.has f = true ∧ (cl.factory f).clientIds = r) :
    Changes allowed cl (cl.openConnection c t r d deaf) := by
  have h : Change allowed cl (cl.withConnection c (.fresh t r d)) :=
    .openConnection c t r d hc ht hr hd ha
  cases deaf with
  | true => exact h.changes.aside (aside_note _ _)
  | false =>
    have hhook : ∃ call, allowed call ∧ call.isHookingOf t (.connection c) = true := by
      rcases ha with ⟨deaf, ha⟩ | ⟨f, ha, -⟩
      · exact ⟨_, ha, by simp [Call.isHookingOf]⟩
      · exact ⟨_, ha, by simp [Call.isHookingOf]⟩
    exact h.changes.aside (aside_onShutdown _ hhook) |>.aside (aside_note _ _)

theorem changes_openConnection_adjusted {middle : Client} (hs : Sound cl)
    (h : Changes allowed cl middle) {c : ConnectionId} {t : TransportId} {r : RegistryId}
    {d : SubscriptionsId} (hc : middle.connections.has c = false)
    (ht : middle.transports.has t = true) (hr : middle.registries.has r = true)
    (hd : middle.subscriptions.has d = true) (terminationTimeout : Duration)
    (trusted : TrustedPackages) {f : FactoryId} (ha : allowed (.connect f c t d))
    (hf : middle.factories.has f = true) (hfr : (middle.factory f).clientIds = r) :
    Changes allowed cl ((middle.openConnection c t r d false).onConnection c fun y =>
      { y with terminationTimeout, trusted }) := by
  have ho := h.trans (changes_openConnection hc ht hr hd false (Or.inr ⟨f, ha, hf, hfr⟩))
  have hnew : (middle.openConnection c t r d false).connections.has c = true :=
    (Table.has_insert hc _ c).mpr (Or.inr rfl)
  exact ho.trans (changes_adjust hnew rfl ((hs.changes ho).referred c) rfl rfl
    (Or.inr ⟨_, ha, beq_self_eq_true c⟩))

/-- The surroundings of a connection are made first, without any claims or bindings. -/
theorem changes_connect (hs : Sound cl) {f : FactoryId} {c : ConnectionId} {t : TransportId}
    {d : SubscriptionsId} (hf : cl.factories.has f = true) (hc : cl.connections.has c = false)
    (ht : cl.transports.has t = false) (hd : cl.subscriptions.has d = false)
    (ha : allowed (.connect f c t d)) : Changes allowed cl (cl.connect f c t d).1 := by
  cases hx : (cl.factory f).connector with
  | failing e =>
    simp only [connect, hx]
    exact .refl
  | loopback =>
    simp only [connect, hx]
    refine changes_openConnection_adjusted hs ?_ ?_ ?_ ?_ ?_ _ _ ha ?_ ?_
    · refine Changes.aside ?_ (aside_makeSubscriptions _ d)
      refine Changes.aside ?_ (aside_note _ _)
      refine Changes.aside ?_ (aside_onFactory fun _ => rfl)
      exact (aside_note cl _).changes.aside (aside_openTransport _ t)
    · exact hc
    · exact (Table.has_insert ht .fresh t).mpr (Or.inr rfl)
    · exact hs.factory_known f hf
    · exact (Table.has_insert hd .empty d).mpr (Or.inr rfl)
    · exact (Table.has_modify _ _ _ _).trans hf
    · exact cl.factories.proj_modify (f := fun x => { x with opened := x.opened + 1 })
        (p := Factory.clientIds) f (fun _ => rfl) f

theorem changes_foreclose (hs : Sound cl) {c : ConnectionId} (hc : cl.connections.has c = true)
    {call : Call} (ha : allowed call) (hu : call.isUseOf c = true) :
    Changes allowed cl (cl.foreclose c) :=
  Change.changes (.adjust c _ hc rfl (hs.referred c) (Or.inr ⟨call, ha, hu⟩) (Or.inl rfl)
    (.refl _))

/-- What an operation does to an open connection is all that it does. -/
theorem changes_ifOpen {α : Type} {before : Client} {c : ConnectionId}
    {go : Unit → Client × Except MessagingError α} (h : Changes allowed before cl)
    (hgo : (cl.connection c).closed = false → Changes allowed before (go ()).1) :
    Changes allowed before (cl.ifOpen c go).1 := by
  unfold ifOpen
  split
  · exact h
  · next hn => exact hgo (Bool.eq_false_iff.mpr hn)

theorem changes_setClientId (cl : Client) {c : ConnectionId} {id : String}
    (ha : allowed (.setClientId c id)) : Changes allowed cl (cl.setClientId c id).1 := by
  unfold setClientId
  dsimp only
  split
  · exact .refl
  · refine changes_ifOpen .refl fun ho => ?_
    split
    · exact .refl
    · next hn =>
      unfold claimId
      cases hcl : (cl.registry (cl.connection c).clientIds).claim? id with
      | some claimed =>
        exact (Change.changes (.identify c id claimed ho hn hcl ha)).aside (aside_note _ _)
      | none => exact (Change.changes (.collide id (Or.inl ⟨c, ha⟩))).aside (aside_note _ _)

theorem changes_metadata (hs : Sound cl) {c : ConnectionId} (hc : cl.connections.has c = true)
    (ha : allowed (.metadata c)) : Changes allowed cl (cl.metadata c).1 := by
  have hf : Changes allowed cl (cl.foreclose c) := changes_foreclose hs hc ha (beq_self_eq_true c)
  exact changes_ifOpen hf fun _ => hf

theorem changes_exceptionListener (hs : Sound cl) {c : ConnectionId}
    (hc : cl.connections.has c = true) (ha : allowed (.exceptionListener c)) :
    Changes allowed cl (cl.exceptionListener c).1 := by
  have hf : Changes allowed cl (cl.foreclose c) := changes_foreclose hs hc ha (beq_self_eq_true c)
  exact changes_ifOpen hf fun _ => hf

theorem changes_setExceptionListener (hs : Sound cl) {c : ConnectionId}
    (hc : cl.connections.has c = true) {l : Option ListenerId}
    (ha : allowed (.setExceptionListener c l)) :
    Changes allowed cl (cl.setExceptionListener c l).1 := by
  have hf : Changes allowed cl (cl.foreclose c) := changes_foreclose hs hc ha (beq_self_eq_true c)
  refine changes_ifOpen hf fun ho => hf.tail ?_
  exact .adjust c _ (hf.continues.connections_has c hc) rfl ((hs.changes hf).referred c)
    (Or.inl rfl) (Or.inr ⟨ho, ha⟩) (.refl _)

theorem changes_createSession (hs : Sound cl) {c : ConnectionId} {s : SessionId}
    (hc : cl.connections.has c = true) (hn : cl.sessions.has s = false) {kind : SessionKind}
    {transacted : Bool} {mode : AcknowledgeMode}
    (ha : allowed (.createSession kind c s transacted mode)) :
    Changes allowed cl (cl.createSession c s transacted mode).1 := by
  have hf : Changes allowed cl (cl.foreclose c) := changes_foreclose hs hc ha (beq_self_eq_true c)
  refine changes_ifOpen hf fun ho => ?_
  have hnew : Changes allowed cl ((cl.foreclose c).withSession c s _) :=
    hf.tail (.createSession c s transacted mode ho hn ⟨kind, ha⟩)
  exact hnew.aside (aside_note _ _)

theorem changes_createSessionOf (hs : Sound cl) {c : ConnectionId} {s : SessionId}
    (hc : cl.connections.has c = true) (hn : cl.sessions.has s = false) {kind : SessionKind}
    {transacted : Bool} {mode : AcknowledgeMode}
    (ha : allowed (.createSession kind c s transacted mode)) :
    Changes allowed cl (createSessionOf kind cl c s transacted mode).1 := by
  have h : Changes allowed cl (cl.createSession c s transacted mode).1 :=
    changes_createSession hs hc hn ha
  cases kind with
  | plain => exact h
  | queue => exact changes_ifOpen .refl fun _ => h
  | topic => exact changes_ifOpen .refl fun _ => h

theorem changes_switch (hs : Sound cl) {c : ConnectionId} (hc : cl.connections.has c = true)
    (stopped : Bool) (ha : allowed (.switch c stopped)) :
    Changes allowed cl (cl.switch c stopped).1 := by
  have hu : (Call.switch c stopped).isUseOf c = true := by
    cases stopped <;> exact beq_self_eq_true c
  have hf : Changes allowed cl (cl.foreclose c) := changes_foreclose hs hc ha hu
  cases ho : (cl.connection c).closed with
  | true =>
    rw [switch_of_closed hc ho]
    exact hf
  | false =>
    by_cases h : (cl.connection c).stopped = stopped
    · rw [switch_of_stopped ho h]
      exact hf
    · refine hf.tail (.switch c stopped ha ?_ (switches_switch hs.toWellFormed ho h))
      rw [connection_foreclose hc, if_pos rfl]
      exact ho

theorem changes_createConsumer {s : SessionId} {k : ConsumerId} {token : String}
    (h : cl.admitsConsumer s k token = true) {destination : Destination}
    {selector : Option String}
    (ha : allowed (.createConsumer s k token destination selector)) :
    Changes allowed cl (cl.createConsumer s k token destination selector).1 := by
  simp only [admitsConsumer, Bool.and_eq_true, Bool.not_eq_true'] at h
  obtain ⟨⟨-, hk⟩, ht⟩ := h
  unfold createConsumer
  split
  · exact .refl
  · next hn =>
    have ho : (cl.session s).closed = false := Bool.eq_false_iff.mpr hn
    have hnew : Change allowed cl (cl.addConsumer k _) :=
      .addConsumer k (consumerOf s token destination selector none) ho hk ht rfl rfl
        ⟨token, destination, selector, rfl, ha⟩
    exact hnew.changes.aside (aside_note _ _)

/-- Binding a name and adding its consumer are one change, whatever is noted in between. -/
theorem changes_subscribe {s : SessionId} {k : ConsumerId} {token : String}
    (h : cl.admitsConsumer s k token = true) (ho : (cl.session s).closed = false)
    {topic : Destination} {name : String} {selector : Option String} {d : DurableSubscriptions}
    (ha : allowed (.createDurable s k token topic name selector))
    (hb : (cl.durables (cl.session s).subscriptions).bind cl.isOpen name k = .bound d ∨
      (cl.durables (cl.session s).subscriptions).bind cl.isOpen name k = .rebound d)
    (e e' : Event) :
    Changes allowed cl
      ((((cl.onDurables (cl.session s).subscriptions fun _ => d).note e).addConsumer k
        (consumerOf s token topic selector (some name))).note e') := by
  simp only [admitsConsumer, Bool.and_eq_true, Bool.not_eq_true'] at h
  obtain ⟨⟨-, hk⟩, ht⟩ := h
  let subscribed : Client := (cl.onDurables (cl.session s).subscriptions fun _ => d).addConsumer k
    (consumerOf s token topic selector (some name))
  have hsub : Change allowed cl subscribed :=
    .subscribe k (consumerOf s token topic selector (some name)) name d ho hk ht rfl rfl hb
      ⟨token, topic, selector, rfl, ha⟩
  exact hsub.changes.aside (subscribed.aside_of_kept cl.recorders (cl.log ++ [e] ++ [e']))

theorem changes_createDurable {s : SessionId} {k : ConsumerId} {token : String}
    (h : cl.admitsConsumer s k token = true) {topic : Destination} {name : String}
    {selector : Option String} (ha : allowed (.createDurable s k token topic name selector)) :
    Changes allowed cl (cl.createDurable s k token topic name selector).1 := by
  unfold createDurable bindDurable
  dsimp only
  split
  · exact .refl
  · next hn =>
    have ho : (cl.session s).closed = false := Bool.eq_false_iff.mpr hn
    split
    · exact .refl
    · split
      · exact .refl
      · cases hb : (cl.durables (cl.session s).subscriptions).bind cl.isOpen name k with
        | bound d => exact changes_subscribe h ho ha (Or.inl hb) _ _
        | rebound d => exact changes_subscribe h ho ha (Or.inr hb) _ _
        | refused holder => exact .refl

/-- An unsubscription that is refused or finds nothing to remove is one that removes nothing. -/
theorem changes_unsubscribe {s : SessionId} {name : String}
    (h : allowed (.unsubscribe s name)) : Changes allowed cl (cl.unsubscribe s name).1 := by
  unfold unsubscribe
  dsimp only
  split
  · exact .refl
  · next hn =>
    split
    · exact .refl
    · next ha =>
      have hc : Change allowed cl (cl.removeDurable (cl.session s).subscriptions name).1 :=
        .unsubscribe s name (Bool.eq_false_iff.mpr hn) (by simpa using ha) h
      split
      · next cl' h =>
        rw [h] at hc
        exact hc.changes.aside (aside_note _ _)
      · next cl' h =>
        rw [h] at hc
        exact hc.changes

theorem changes_readObject (cl : Client) {s : SessionId} {m : ObjectMessage} {t : PayloadType}
    {words : String} (ha : allowed (.readObject s m t words)) (complaint : Complaint) :
    Changes allowed cl (cl.readObject s m t complaint).1 := by
  unfold readObject countRefusal
  dsimp only
  split
  · exact (aside_countRefusal cl ⟨_, ha, rfl⟩).changes
  · exact .refl

theorem changes_claimId {r : RegistryId} {id : String} (ha : allowed (.claimId r id)) :
    Changes allowed cl (cl.claimId r id).1 := by
  unfold claimId
  split
  · exact Change.changes (.claims r _ id (Or.inl ha))
  · exact (Change.changes (.collide id (Or.inr ⟨r, ha⟩))).aside (aside_note _ _)

theorem changes_releaseId {r : RegistryId} {id : String} (ha : allowed (.releaseId r id)) :
    Changes allowed cl (cl.releaseId r id) := by
  unfold releaseId
  split
  · exact (Change.changes (.claims r _ id (Or.inr ha))).aside (aside_note _ _)
  · exact .refl

theorem changes_bindDurable {d : SubscriptionsId} {name : String} {k : ConsumerId}
    (ha : allowed (.bindDurable d name k)) : Changes allowed cl (cl.bindDurable d name k).1 := by
  have hnew : ∀ x, (cl.durables d).bind cl.isOpen name k = .bound x ∨
      (cl.durables d).bind cl.isOpen name k = .rebound x → ∀ e,
      Changes allowed cl ((cl.onDurables d fun _ => x).note e) := by
    intro x hb e
    refine (Change.changes (.bindings d _ name k (Or.inl ha) fun n k' hg => ?_)).aside
      (aside_note _ e)
    rw [(DurableSubscriptions.get?_bind hb).1 n] at hg
    split at hg
    · next he =>
      cases hg
      rw [he]
      exact Or.inr ha
    · exact Or.inl hg
  unfold bindDurable
  split
  · next x hb => exact hnew x (Or.inl hb) _
  · next x hb => exact hnew x (Or.inr hb) _
  · exact .refl

theorem changes_removeDurable {d : SubscriptionsId} {name : String}
    (ha : allowed (.removeDurable d name)) : Changes allowed cl (cl.removeDurable d name).1 := by
  refine Change.changes (.bindings d _ name ⟨0⟩ (Or.inr ha) fun n k hg => Or.inl ?_)
  rw [DurableSubscriptions.get?_remove] at hg
  split at hg
  · cases hg
  · exact hg

/-- Whoever has the identity of a call on a connection refers to a connection that exists. -/
theorem changes_perform (hs : Sound cl) {call : Call} (h : cl.admits call = true)
    (ha : allowed call) : Changes allowed cl (cl.perform call).1 := by
  cases call with
  | makeRegistry r => exact (aside_makeRegistry cl r).changes
  | makeSubscriptions d => exact (aside_makeSubscriptions cl d).changes
  | makeFactory f config connector r =>
    simp only [admits, Bool.and_eq_true, Bool.not_eq_true'] at h
    exact (aside_makeFactory h.1 h.2 ha).changes
  | makeListener l closes =>
    simp only [admits, Bool.and_eq_true, Bool.not_eq_true'] at h
    exact (aside_makeListener h.1 ha).changes
  | openTransport t => exact (aside_openTransport cl t).changes
  | openConnection c t r d deaf =>
    simp only [admits, Bool.and_eq_true, Bool.not_eq_true'] at h
    obtain ⟨⟨⟨hc, ht⟩, hr⟩, hd⟩ := h
    exact changes_openConnection hc ht hr hd deaf (Or.inl ⟨deaf, ha⟩)
  | connect f c t d =>
    simp only [admits, Bool.and_eq_true, Bool.not_eq_true'] at h
    obtain ⟨⟨⟨hf, hc⟩, ht⟩, hd⟩ := h
    exact changes_connect hs hf hc ht hd ha
  | share c =>
    have hc : cl.connections.has c = true := has_connection_of_isReferred h
    exact changes_adjust hc rfl (fun _ => rfl) rfl rfl (.refl _)
  | drop c => exact changes_drop hs (has_connection_of_isReferred h)
  | dropGuard c => exact changes_dropGuard hs (has_connection_of_isReferred h)
  | releaseGuard c => exact (aside_note cl .guardReleased).changes
  | createSession kind c s transacted mode =>
    simp only [admits, Bool.and_eq_true, Bool.not_eq_true'] at h
    exact changes_createSessionOf hs (has_connection_of_isReferred h.1) h.2 ha
  | clientId c => exact .refl
  | setClientId c id => exact changes_setClientId cl ha
  | metadata c => exact changes_metadata hs (has_connection_of_isReferred h) ha
  | exceptionListener c => exact changes_exceptionListener hs (has_connection_of_isReferred h) ha
  | setExceptionListener c l =>
    simp only [admits, Bool.and_eq_true] at h
    exact changes_setExceptionListener hs (has_connection_of_isReferred h.1) ha
  | start c => exact changes_switch hs (has_connection_of_isReferred h) false ha
  | stop c => exact changes_switch hs (has_connection_of_isReferred h) true ha
  | close c => exact changes_close hs c
  | setTerminationTimeout c timeout =>
    exact changes_adjust (has_connection_of_isReferred h) rfl (hs.referred c) rfl rfl (.refl _)
  | setTrusted c trusted =>
    exact changes_adjust (has_connection_of_isReferred h) rfl (hs.referred c) rfl rfl
      (Or.inr ⟨_, ha, beq_self_eq_true c⟩)
  | connectionConsumer c durable => exact .refl
  | transportShutDown c cause => exact changes_transportShutDown hs ⟨_, ha, rfl⟩ c cause
  | addRecorder t r =>
    have hhook : ∃ call, allowed call ∧ call.isHookingOf t (.recorder r) = true :=
      ⟨_, ha, by simp [Call.isHookingOf]⟩
    exact (aside_makeRecorder cl r).changes.aside (aside_onShutdown _ hhook)
  | signal t reason => exact changes_signal hs ha
  | failNextClose t failure => exact (aside_failNextClose cl t failure).changes
  | closeTransport t => exact Change.changes (.closeTransport t ha)
  | closeSession s => exact changes_closeSession hs h
  | pause s => exact Change.changes (.tell s true ha h)
  | resume s => exact Change.changes (.tell s false ha h)
  | readObject s m t words => exact changes_readObject cl ha _
  | createConsumer s k token destination selector =>
    exact changes_createConsumer h ha
  | createDurable s k token topic name selector =>
    exact changes_createDurable h ha
  | unsubscribe s name => exact changes_unsubscribe ha
  | closeConsumer k => exact changes_closeConsumer hs k
  | claimId r id => exact changes_claimId ha
  | releaseId r id => exact changes_releaseId ha
  | bindDurable d name k => exact changes_bindDurable ha
  | removeDurable d name => exact changes_removeDurable ha

/-- What a client does not admit changes nothing. -/
theorem step_refused {call : Call} (h : cl.admits call = false) : cl.step call = (cl, .refused) :=
  if_neg (Bool.eq_false_iff.mp h)

theorem changes_step (hs : Sound cl) {call : Call} (ha : allowed call) :
    Changes allowed cl (cl.step call).1 := by
  unfold step
  split
  · next h => exact changes_perform hs h ha
  · exact .refl

theorem Reachable.sound (h : Reachable allowed cl) : Sound cl := by
  induction h with
  | initial => exact sound_initial
  | step _ ha ih => exact ih.changes (changes_step ih ha)

theorem Reachable.mono {more : Call → Prop} (h : Reachable allowed cl)
    (hm : ∀ call, allowed call → more call) : Reachable more cl := by
  induction h with
  | initial => exact .initial
  | step _ ha ih => exact ih.step (hm _ ha)

theorem Changes.invariant {P : Client → Prop} {after : Client} (h : Changes allowed cl after)
    (hs : Sound cl) (h₀ : P cl)
    (hc : ∀ x y, Sound x → P x → Change allowed x y → P y) : P after := by
  induction h with
  | refl => exact h₀
  | tail hm hlast ih => exact hc _ _ (hs.changes hm) ih hlast

/-- What holds at first and is kept by every change holds of every reachable client. -/
theorem Reachable.invariant {P : Client → Prop} (h : Reachable allowed cl)
    (h₀ : P Client.initial) (hc : ∀ x y, Sound x → P x → Change allowed x y → P y) : P cl := by
  induction h with
  | initial => exact h₀
  | step h ha ih => exact (changes_step h.sound ha).invariant h.sound ih hc

/-- Allowed calls lead from reachable clients to reachable clients. -/
theorem Reachable.run (h : Reachable allowed cl) (calls : List Call)
    (ha : ∀ call ∈ calls, allowed call) : Reachable allowed (cl.run calls).1 := by
  induction calls generalizing cl with
  | nil => exact h
  | cons call calls ih =>
    have hrest : ∀ x ∈ calls, allowed x := fun x hx => ha x (List.mem_cons_of_mem _ hx)
    exact ih (h.step (ha call List.mem_cons_self)) hrest

theorem changes_run (hs : Sound cl) (calls : List Call) (ha : ∀ call ∈ calls, allowed call) :
    Changes allowed cl (cl.run calls).1 := by
  induction calls generalizing cl with
  | nil => exact .refl
  | cons call calls ih =>
    have hstep := changes_step hs (ha call List.mem_cons_self)
    have hrest : ∀ x ∈ calls, allowed x := fun x hx => ha x (List.mem_cons_of_mem _ hx)
    exact hstep.trans (ih (hs.changes hstep) hrest)

end BrokerClient.Client
