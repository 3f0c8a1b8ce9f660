import BrokerClient.Proofs.Client.Steps
import BrokerClient.Proofs.Independence.Split

/-!
# Confined clients

Calls that keep to the groups lead to clients in which no group refers to the other. Every change
that such calls are made of keeps it so.
-/

namespace BrokerClient.Split

/-- What a connection refers to is of its group. -/
structure ConfinedConnection (g : Split) (c : ConnectionId) (x : Connection) : Prop where
  transport : g.transport x.transport = g.connection c
  subscriptions : g.subscriptions x.subscriptions = g.connection c
  registry : x.clientIds = g.registry c
  clientId : ∀ id, x.clientId = some id → g.clientId x.clientIds id = g.connection c
  listener : ∀ l, x.listener = some l → g.listener l ≠ some (!g.connection c)

/-- No group refers to the other. -/
structure Confined (g : Split) (cl : Client) : Prop where
  connection : ∀ c, cl.connections.has c = true → g.ConfinedConnection c (cl.connection c)
  session : ∀ s, cl.sessions.has s = true → g.connection (cl.session s).connection = g.session s
  consumer : ∀ k, cl.consumers.has k = true →
    g.session (cl.consumer k).session = g.consumer k ∧ g.tag (cl.consumer k).tag = g.consumer k
  holder : ∀ d name k, (cl.durables d).get? name = some k → g.consumer k = g.subscriptions d
  hook : ∀ t, ∀ hook ∈ (cl.transport t).hooks, g.hook hook = g.transport t
  closes : ∀ l c, (cl.listener l).closes = some c → g.listener l = some (g.connection c)
  factory : ∀ f, cl.factories.has f = true → (cl.factory f).clientIds = g.factory f

open Client

variable {g : Split} {cl before after : Client}

/-- A connection that refers to what it referred to before is still confined. -/
theorem ConfinedConnection.congr {c : ConnectionId} {x y : Connection}
    (h : g.ConfinedConnection c x) (ho : y.origin = x.origin) (hi : y.clientId = x.clientId)
    (hl : y.listener = x.listener) : g.ConfinedConnection c y where
  transport := by
    have ht : y.transport = x.transport := congrArg Prod.fst ho
    rw [ht]
    exact h.transport
  subscriptions := by
    have hd : y.subscriptions = x.subscriptions := congrArg (fun o => o.2.2) ho
    rw [hd]
    exact h.subscriptions
  registry := by
    have hr : y.clientIds = x.clientIds := congrArg (fun o => o.2.1) ho
    rw [hr]
    exact h.registry
  clientId := by
    have hr : y.clientIds = x.clientIds := congrArg (fun o => o.2.1) ho
    rw [hi, hr]
    exact h.clientId
  listener := by
    rw [hl]
    exact h.listener

/-- Changes that make nothing and let nobody refer to anything else. -/
theorem Confined.of_continues (h : g.Confined before) (hc : Continues before after)
    (hck : after.connections.keys = before.connections.keys)
    (hsk : after.sessions.keys = before.sessions.keys)
    (hkk : after.consumers.keys = before.consumers.keys)
    (hi : ∀ c, (after.connection c).clientId = (before.connection c).clientId)
    (hl : ∀ c, (after.connection c).listener = (before.connection c).listener)
    (hd : after.subscriptions = before.subscriptions)
    (hh : ∀ t, (after.transport t).hooks = (before.transport t).hooks)
    (hli : after.listeners = before.listeners) (hf : after.factories = before.factories) :
    g.Confined after where
  connection c hk := by
    have hk₀ := (Table.has_congr hck c).symm.trans hk
    exact (h.connection c hk₀).congr (hc.connection c hk₀).origin (hi c) (hl c)
  session s hk := by
    have hk₀ := (Table.has_congr hsk s).symm.trans hk
    have ho : (after.session s).connection = (before.session s).connection :=
      (congrArg Session.connection (hc.session s hk₀).origin :)
    rw [ho]
    exact h.session s hk₀
  consumer k hk := by
    have hk₀ := (Table.has_congr hkk k).symm.trans hk
    have ho := (hc.consumer k hk₀).origin
    have hs : (after.consumer k).session = (before.consumer k).session :=
      (congrArg Consumer.session ho :)
    have ht : (after.consumer k).tag = (before.consumer k).tag := (congrArg Consumer.tag ho :)
    rw [hs, ht]
    exact h.consumer k hk₀
  holder d name k hg := by
    rw [durables, hd] at hg
    exact h.holder d name k hg
  hook t hook hm := by
    rw [hh] at hm
    exact h.hook t hook hm
  closes l c hc := by
    rw [Client.listener, hli] at hc
    exact h.closes l c hc
  factory f hk := by
    rw [hf] at hk
    rw [Client.factory, hf]
    exact h.factory f hk

theorem Confined.aside (h : g.Confined before)
    (ha : Aside (fun call => g.fits call = true) before after) : g.Confined after where
  connection c hk := by
    rw [ha.connections] at hk
    rw [connection_congr ha.connections]
    exact h.connection c hk
  session s hk := by
    rw [ha.sessions] at hk
    rw [session_congr ha.sessions]
    exact h.session s hk
  consumer k hk := by
    rw [ha.consumers] at hk
    rw [consumer_congr ha.consumers]
    exact h.consumer k hk
  holder d name k hg := by
    rw [ha.durables] at hg
    exact h.holder d name k hg
  hook t hook hm := by
    rcases ha.hooks t hook hm with hold | ⟨call, hfits, hcall⟩
    · exact h.hook t hook hold
    · cases call with
      | openConnection c t' r d deaf =>
        simp only [Call.isHookingOf, fits, Bool.and_eq_true, beq_iff_eq] at hcall hfits
        rw [hcall.2, ← hcall.1]
        exact hfits.1.1.symm
      | connect f c t' d =>
        simp only [Call.isHookingOf, fits, Bool.and_eq_true, beq_iff_eq] at hcall hfits
        rw [hcall.2, ← hcall.1]
        exact hfits.1.1.symm
      | addRecorder t' r =>
        simp only [Call.isHookingOf, fits, Bool.and_eq_true, beq_iff_eq] at hcall hfits
        rw [hcall.2, ← hcall.1]
        exact hfits
      | _ => cases hcall
  closes l c hc := by
    rcases ha.closes l with hold | hmade
    · rw [hold] at hc
      exact h.closes l c hc
    · rw [hc] at hmade
      simpa [fits] using hmade
  factory f hk := by
    rcases ha.factory f hk with ⟨-, config, connector, hmade⟩ | ⟨hold, he⟩
    · exact (beq_iff_eq.mp hmade).symm
    · rw [he]
      exact h.factory f hold

theorem Confined.withConnection (h : g.Confined cl) {c : ConnectionId} {x : Connection}
    (hn : cl.connections.has c = false) (hx : g.ConfinedConnection c x) :
    g.Confined (cl.withConnection c x) := by
  refine { h with connection := fun c' hk => ?_ }
  rw [connection_withConnection hn]
  split
  · next he => exact he ▸ hx
  · next hne => exact h.connection c' (((Table.has_insert hn x c').mp hk).resolve_right hne)

theorem Confined.onConnection (h : g.Confined cl) {c : ConnectionId}
    {f : Connection → Connection} (hc : cl.connections.has c = true)
    (hx : g.ConfinedConnection c (f (cl.connection c))) : g.Confined (cl.onConnection c f) := by
  refine { h with connection := fun c' hk => ?_ }
  rw [connection_onConnection_of_has hc]
  split
  · next he => exact he ▸ hx
  · exact h.connection c' ((Table.has_modify _ _ _ _).symm.trans hk)

theorem Confined.addConsumer (h : g.Confined cl) {k : ConsumerId} {x : Consumer}
    (hs : cl.sessions.has x.session = true) (hk : cl.consumers.has k = false)
    (hx : g.session x.session = g.consumer k ∧ g.tag x.tag = g.consumer k) :
    g.Confined (cl.addConsumer k x) := by
  refine { h with session := fun s hk => ?_, consumer := fun k' hk' => ?_ }
  · rw [session_addConsumer_eq hs]
    exact h.session s ((Table.has_modify _ _ _ _).symm.trans hk)
  · rw [consumer_addConsumer hk]
    split
    · next he => exact he ▸ hx
    · next hne => exact h.consumer k' (((Table.has_insert hk x k').mp hk').resolve_right hne)

/-- Bindings that were there or that fit the groups. -/
theorem Confined.onDurables (h : g.Confined cl) {d : SubscriptionsId}
    {f : DurableSubscriptions → DurableSubscriptions}
    (hf : ∀ name k, (f (cl.durables d)).get? name = some k →
      (cl.durables d).get? name = some k ∨ g.consumer k = g.subscriptions d) :
    g.Confined (cl.onDurables d f) := by
  refine { h with holder := fun d' name k hg => ?_ }
  rcases cl.subscriptions.get_modify_cases d f d' with hv | ⟨he, hv⟩
  · rw [Client.onDurables, durables, hv] at hg
    exact h.holder d' name k hg
  · rw [Client.onDurables, durables, hv, he] at hg
    rw [he]
    exact (hf name k hg).elim (h.holder d name k) id

/-- The subscriptions of a session are of its group. -/
theorem Confined.session_subscriptions (h : g.Confined cl) (hw : WellFormed cl) {s : SessionId}
    (hs : cl.sessions.has s = true) :
    g.subscriptions (cl.session s).subscriptions = g.session s := by
  rw [hw.subscriptions_shared s hs, (h.connection _ (hw.connection_known s hs)).subscriptions]
  exact h.session s hs

theorem Confined.change (h : g.Confined before) (hs : Sound before)
    (hc : Change (fun call => g.fits call = true) before after) : g.Confined after := by
  have hcont := hc.continues
  cases hc with
  | aside ha => exact h.aside ha
  | openConnection c t r d hn _ _ _ ha =>
    refine h.withConnection hn ?_
    rcases ha with ⟨deaf, ha⟩ | ⟨f, ha, hf, hr⟩
    · simp only [fits, Bool.and_eq_true, beq_iff_eq] at ha
      exact ⟨ha.1.1, ha.1.2, ha.2.symm, nofun, nofun⟩
    · simp only [fits, Bool.and_eq_true, beq_iff_eq] at ha
      have hreg : r = g.registry c := by rw [ha.2, ← h.factory f hf, hr]
      exact ⟨ha.1.1, ha.1.2, hreg, nofun, nofun⟩
  | adjust c f hk hf _ _ hl _ =>
    have hx := h.connection c hk
    have hid : (f (before.connection c)).clientId = (before.connection c).clientId :=
      (congrArg Connection.clientId hf :)
    have ho : (f (before.connection c)).origin = (before.connection c).origin :=
      (congrArg Connection.origin hf :)
    refine h.onConnection hk ?_
    rcases hl with hl | ⟨-, hl⟩
    · exact hx.congr ho hid hl
    · have hkept : g.ConfinedConnection c
          { f (before.connection c) with listener := (before.connection c).listener } :=
        hx.congr ho hid rfl
      refine { hkept with listener := fun l hls => ?_ }
      rw [hls] at hl
      simpa [fits] using hl
  | identify c id claimed ho hn _ ha =>
    have hx := h.connection c (has_connection ho)
    have hclaimed : g.Confined
        (before.onRegistry (before.connection c).clientIds fun _ => claimed) := { h with }
    refine hclaimed.onConnection (has_connection ho) { hx with clientId := fun id' hid => ?_ }
    cases hid
    refine Eq.trans ?_ (beq_iff_eq.mp ha)
    exact congrArg (g.clientId · id) hx.registry
  | collide id _ => exact { h with }
  | createSession c s transacted mode ho hn ha =>
    obtain ⟨kind, ha⟩ := ha
    have hc := has_connection ho
    refine { h with connection := fun c' hk => ?_, session := fun s' hk => ?_ }
    · obtain ⟨ss, n, -, he⟩ := connection_withSession_eq hc s
        (before.nextSession c transacted mode) c'
      have hk₀ := (Table.has_modify _ _ _ _).symm.trans hk
      rw [he]
      exact (h.connection c' hk₀).congr rfl rfl rfl
    · rw [session_withSession hn]
      split
      · next he =>
        rw [he]
        exact (beq_iff_eq.mp ha).symm
      · next hne => exact h.session s' (((Table.has_insert hn _ s').mp hk).resolve_right hne)
  | switch c stopped _ _ hsw =>
    refine h.of_continues hcont hsw.connection_keys hsw.session_keys ?_ ?_ ?_ hsw.subscriptions ?_
      hsw.listeners hsw.factories
    · rw [hsw.consumers]
    · exact fun c' => by rw [hsw.connection_eq]
    · exact fun c' => by rw [hsw.connection_eq]
    · exact fun t => by rw [Client.transport, Client.transport, hsw.transports]
  | tell s paused _ hk =>
    exact h.of_continues hcont rfl (Table.keys_modify _ _ _) rfl (fun _ => rfl) (fun _ => rfl) rfl
      (fun _ => rfl) rfl rfl
  | shut c ss _ _ hsh =>
    refine h.of_continues hcont hsh.connection_keys hsh.session_keys hsh.consumer_keys ?_ ?_
      hsh.subscriptions ?_ hsh.listeners hsh.factories
    · exact fun c' => by rw [hsh.connection_eq]
    · exact fun c' => by rw [hsh.connection_eq]
    · exact fun t => by rw [Client.transport, Client.transport, hsh.transports]
  | retire c handles _ _ hr =>
    refine h.of_continues hcont hr.connection_keys hr.session_keys hr.consumer_keys ?_ ?_
      hr.subscriptions ?_ hr.listeners hr.factories
    · exact fun c' => by rw [hr.connection_eq]
    · exact fun c' => by rw [hr.connection_eq]
    · intro t
      rw [hr.transport, Transport.close_eq]
      split <;> rfl
  | addConsumer k x ho hk _ _ _ ha =>
    obtain ⟨token, destination, selector, htag, ha⟩ := ha
    rw [fits, Bool.and_eq_true, beq_iff_eq, beq_iff_eq] at ha
    exact h.addConsumer (has_session ho) hk ⟨ha.1.symm, htag ▸ ha.2.trans ha.1.symm⟩
  | subscribe k x name d ho hk _ _ _ hb ha =>
    obtain ⟨token, topic, selector, htag, ha⟩ := ha
    rw [fits, Bool.and_eq_true, beq_iff_eq, beq_iff_eq] at ha
    have hbound : g.Confined
        (before.onDurables (before.session x.session).subscriptions fun _ => d) := by
      refine h.onDurables fun n k' hg => ?_
      rw [(DurableSubscriptions.get?_bind hb).1] at hg
      split at hg
      · cases hg
        exact Or.inr (ha.1.trans (h.session_subscriptions hs.toWellFormed (has_session ho)).symm)
      · exact Or.inl hg
    exact hbound.addConsumer (has_session ho) hk ⟨ha.1.symm, htag ▸ ha.2.trans ha.1.symm⟩
  | unsubscribe s name _ _ _ =>
    refine h.onDurables fun n k hg => Or.inl ?_
    rw [DurableSubscriptions.get?_remove] at hg
    split at hg
    · cases hg
    · exact hg
  | closeConsumer k _ hd =>
    refine h.of_continues hcont ?_ hd.session_keys hd.consumer_keys ?_ ?_ hd.subscriptions ?_
      hd.listeners hd.factories
    · rw [hd.connections]
    · exact fun c' => by rw [hd.connection]
    · exact fun c' => by rw [hd.connection]
    · exact fun t => by rw [Client.transport, Client.transport, hd.transports]
  | claims r f id _ => exact { h with }
  | bindings d f name k _ hb =>
    refine h.onDurables fun n k' hg => (hb n k' hg).imp_right fun ha => ?_
    exact beq_iff_eq.mp ha
  | closeTransport t _ =>
    refine { h with hook := fun t' hook hm => h.hook t' hook ?_ }
    have hkept := before.transports.proj_modify (f := fun x => x.close.1) (p := Transport.hooks) t
      (fun x => by rw [Transport.close_eq]) t'
    exact hkept ▸ hm

theorem confined_initial : g.Confined initial where
  connection _ hk := (Bool.false_ne_true hk).elim
  session _ hk := (Bool.false_ne_true hk).elim
  consumer _ hk := (Bool.false_ne_true hk).elim
  holder _ _ _ hg := nomatch hg
  hook _ _ hm := absurd hm List.not_mem_nil
  closes _ _ hc := nomatch hc
  factory _ hk := (Bool.false_ne_true hk).elim

/-- What holds of a client between calls that keep to the groups. -/
structure Settled (g : Split) (cl : Client) : Prop extends Sound cl, g.Confined cl

theorem settled_initial : g.Settled initial :=
  { sound_initial, confined_initial with }

theorem Settled.changes (h : g.Settled before)
    (hc : Changes (fun call => g.fits call = true) before after) : g.Settled after where
  toSound := h.toSound.changes hc
  toConfined := hc.invariant h.toSound h.toConfined fun _ _ hs hx => hx.change hs

theorem Settled.aside (h : g.Settled before)
    (ha : Aside (fun call => g.fits call = true) before after) : g.Settled after :=
  h.changes ha.changes

theorem Settled.step (h : g.Settled cl) {call : Call} (hf : g.fits call = true) :
    g.Settled (cl.step call).1 :=
  h.changes (changes_step h.toSound hf)

theorem Settled.close (h : g.Settled cl) (c : ConnectionId) (log : List Event) :
    g.Settled { (cl.close c).1 with log } :=
  (h.changes (changes_close h.toSound c)).aside (aside_relog _ log)

/-- The sessions of a connection are of its group. -/
theorem Settled.session_of_listed (h : g.Settled cl) {c : ConnectionId} {s : SessionId}
    (hm : s ∈ (cl.connection c).sessions) : g.session s = g.connection c := by
  obtain ⟨ho, hc⟩ := h.listed_open c s hm
  rw [← h.toConfined.session s (has_session ho), hc]

/-- Whom a shutdown of a transport is told to is of the group of the transport. -/
theorem Confined.hook_of_signalled (h : g.Confined cl) {t : TransportId} {hook : ShutdownHook}
    (hm : hook ∈ (cl.transport t).signalShutdown.2) : g.hook hook = g.transport t := by
  unfold Transport.signalShutdown at hm
  split at hm
  · exact absurd hm List.not_mem_nil
  · exact h.hook t hook hm

theorem Settled.signalled (h : g.Settled cl) (t : TransportId) (e : Event) :
    g.Settled ((cl.onTransport t fun x => x.signalShutdown.1).note e) := by
  have hf : g.fits (.signal t "") = true := rfl
  exact (h.aside (aside_signalShutdown cl hf)).aside (aside_note _ e)

/-- Shutdowns by the broker fit every split. -/
theorem fits_shutdown (g : Split) : ∃ call, g.fits call = true ∧ call.isShutdown = true :=
  ⟨.signal ⟨0⟩ "", rfl, rfl⟩

end BrokerClient.Split
