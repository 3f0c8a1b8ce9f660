import BrokerClient.Proofs.Endings
import BrokerClient.Proofs.Independence.Alike

/-!
# What the group itself does

A call on the group called `true`, or on what both groups may use, does the same in clients that are
alike: they stay in tandem, and the call is answered alike. The lemmas follow the definitions, one
for each operation.
-/

namespace BrokerClient.Split

open Client

variable {g : Split} {x₀ y₀ x y x' y' : Client} {c : ConnectionId} {s : SessionId}

theorem Tandem.shuts {ss : List SessionId} (h : g.Tandem x₀ y₀ x y) (hx : Shuts c ss x x')
    (hy : Shuts c ss y y') : g.Tandem x₀ y₀ x' y' := by
  refine h.of_alike (h.of_surroundings hx.surroundings hy.surroundings ?_ ?_ ?_)
    hx.listeners hy.listeners
  · refine h.connections.of_keys hx.connection_keys hy.connection_keys fun c' hc' => ?_
    refine (hy.connection c').trans (Eq.trans ?_ (hx.connection c').symm)
    by_cases he : c' = c
    · rw [if_pos he, if_pos he, ← he, h.connection hc']
    · rw [if_neg he, if_neg he, h.connection hc']
  · refine h.sessions.of_keys hx.session_keys hy.session_keys fun s hs => ?_
    refine (hy.session s).trans (Eq.trans ?_ (hx.session s).symm)
    rw [h.session hs]
  · refine h.consumers.of_keys hx.consumer_keys hy.consumer_keys fun k hk => ?_
    refine (hy.consumer k).trans (Eq.trans ?_ (hx.consumer k).symm)
    rw [h.consumer hk]

theorem Tandem.detaches {k : ConsumerId} (h : g.Tandem x₀ y₀ x y) (hx : Detaches k x x')
    (hy : Detaches k y y') (hk : g.consumer k = true) : g.Tandem x₀ y₀ x' y' := by
  refine h.of_alike (h.of_surroundings hx.surroundings hy.surroundings ?_ ?_ ?_)
    hx.listeners hy.listeners
  · rw [hx.connections, hy.connections]
    exact h.connections
  · refine h.sessions.of_keys hx.session_keys hy.session_keys fun s hs => ?_
    refine (hy.session s).trans (Eq.trans ?_ (hx.session s).symm)
    rw [h.session hs, h.consumer hk]
  · refine h.consumers.of_keys hx.consumer_keys hy.consumer_keys fun k' hk' => ?_
    refine (hy.consumer k').trans (Eq.trans ?_ (hx.consumer k').symm)
    rw [h.consumer hk', h.consumer hk]

theorem Alike.retires {handles : Nat} (h : g.Alike x y) (hx : Retires c handles x x')
    (hy : Retires c handles y y') (hc : g.connection c = true) : g.Alike x' y' where
  connections := by
    refine h.connections.of_keys hx.connection_keys hy.connection_keys fun c' hc' => ?_
    refine (hy.connection c').trans (Eq.trans ?_ (hx.connection c').symm)
    rw [h.connection hc, h.connection hc']
  sessions := by
    refine h.sessions.of_keys hx.session_keys hy.session_keys fun s hs => ?_
    exact (hy.session s).trans ((h.session hs).trans (hx.session s).symm)
  consumers := by
    refine h.consumers.of_keys hx.consumer_keys hy.consumer_keys fun k hk => ?_
    exact (hy.consumer k).trans ((h.consumer hk).trans (hx.consumer k).symm)
  transports := by
    refine h.transports.of_keys hx.transport_keys hy.transport_keys fun t ht => ?_
    refine (hy.transport t).trans (Eq.trans ?_ (hx.transport t).symm)
    rw [h.connection hc, h.transport ht]
  subscriptions := by
    rw [hx.subscriptions, hy.subscriptions]
    exact h.subscriptions
  recorders := by
    rw [hx.recorders, hy.recorders]
    exact h.recorders
  listeners := by
    rw [hx.listeners, hy.listeners]
    exact h.listeners
  shared_has l hl := by
    rw [hx.listeners, hy.listeners]
    exact h.shared_has l hl
  registries_has r := by
    rw [Table.has_congr hx.registry_keys, Table.has_congr hy.registry_keys]
    exact h.registries_has r
  claims r id hid := by
    rw [hx.registry, hy.registry, h.connection hc]
    split
    · rw [ClientIdRegistry.holds_without, ClientIdRegistry.holds_without, h.claims r id hid]
    · exact h.claims r id hid
  factories_has f := by
    rw [hx.factories, hy.factories]
    exact h.factories_has f
  factories f := by
    have hfx : x'.factory f = x.factory f := congrArg (Table.get · f) hx.factories
    have hfy : y'.factory f = y.factory f := congrArg (Table.get · f) hy.factories
    rw [hfx, hfy]
    exact h.factories f

theorem Tandem.closeSession (h : g.Tandem x₀ y₀ x y) (hx : Sound x) (hy : Sound y)
    (hs : g.session s = true) (hhas : x.sessions.has s = true) :
    g.Tandem x₀ y₀ (x.closeSession s) (y.closeSession s) := by
  have hyhas : y.sessions.has s = true := (h.sessions.has hs).trans hhas
  have hshut := shuts_closeSession hy hyhas
  rw [h.session hs] at hshut
  exact h.shuts (shuts_closeSession hx hhas) hshut

theorem Tandem.closeConsumer (h : g.Tandem x₀ y₀ x y) (hx : WellFormed x) (hy : WellFormed y)
    {k : ConsumerId} (hk : g.consumer k = true) :
    g.Tandem x₀ y₀ (x.closeConsumer k) (y.closeConsumer k) := by
  have hrow := h.consumer hk
  cases hc : (x.consumer k).closed with
  | true =>
    have hex : x.closeConsumer k = x := if_pos hc
    have hey : y.closeConsumer k = y := if_pos (by rw [hrow]; exact hc)
    rw [hex, hey]
    exact h
  | false =>
    exact h.detaches (detaches_closeConsumer hx hc)
      (detaches_closeConsumer hy (by rw [hrow]; exact hc)) hk

theorem Tandem.close_recounted (h : g.Tandem x₀ y₀ x y) (hx : WellFormed x) (hy : WellFormed y)
    (hc : g.connection c = true) (ho : (x.connection c).closed = false) (handles : Nat)
    (lx ly : List Event) :
    g.Tandem x₀ y₀ ((x.recounted c handles lx).close c).1 ((y.recounted c handles ly).close c).1 := by
  have hrow := h.connection hc
  have hoy : (y.connection c).closed = false := by
    rw [hrow]
    exact ho
  have hdy := shuts_drain hy c
  rw [hrow] at hdy
  have hdrained := h.shuts (shuts_drain hx c) hdy
  have hrx := retires_close_recounted hx ho handles lx
  have hry := retires_close_recounted hy hoy handles ly
  exact hdrained.of_alike (hdrained.retires hrx hry hc) hrx.listeners hry.listeners

/-- The connection is closed in both clients, with the same result. -/
theorem Tandem.close (h : g.Tandem x₀ y₀ x y) (hx : g.Settled x) (hy : g.Settled y)
    (hc : g.connection c = true) : g.Concur x₀ y₀ (x.close c) (y.close c) := by
  have hrow := h.connection hc
  cases hcl : (x.connection c).closed with
  | true =>
    rw [close_of_closed hcl, close_of_closed (by rw [hrow]; exact hcl)]
    exact h.concur _
  | false =>
    have hcly : (y.connection c).closed = false := by
      rw [hrow]
      exact hcl
    constructor
    case tandem =>
      have hclosed := h.close_recounted hx.toWellFormed hy.toWellFormed hc hcl
        (x.connection c).handles x.log y.log
      rw [recounted_self, ← hrow, recounted_self] at hclosed
      exact hclosed
    case answer =>
      have ht := (hx.toConfined.connection c (has_connection hcl)).transport.trans hc
      rw [result_close hx.toWellFormed hcl, result_close hy.toWellFormed hcly, hrow,
        h.transport ht]

theorem Tandem.onConnection (h : g.Tandem x₀ y₀ x y) (c : ConnectionId)
    (f : Connection → Connection) :
    g.Tandem x₀ y₀ (x.onConnection c f) (y.onConnection c f) :=
  { h with connections := h.connections.modify c f }

theorem Tandem.drop (h : g.Tandem x₀ y₀ x y) (hx : WellFormed x) (hy : WellFormed y)
    (hc : g.connection c = true) (hhas : x.connections.has c = true) :
    g.Tandem x₀ y₀ (x.drop c) (y.drop c) := by
  have hrow := h.connection hc
  have hhasy : y.connections.has c = true := (h.connections.has hc).trans hhas
  have hless : (x.connection c).handles - 1 ≠ 0 ∨ (x.connection c).closed = true →
      g.Tandem x₀ y₀ (x.drop c) (y.drop c) := by
    intro hh
    rw [drop_eq_recounted hhas hh, drop_eq_recounted hhasy (by rw [hrow]; exact hh), hrow]
    exact { h with connections := h.connections.modify c _ }
  cases ho : (x.connection c).closed with
  | true => exact hless (Or.inr ho)
  | false =>
    by_cases hh : (x.connection c).handles - 1 = 0
    · obtain ⟨lx, hdx⟩ := exists_drop_of_last ho hh
      have hoy : (y.connection c).closed = false := by
        rw [hrow]
        exact ho
      obtain ⟨ly, hdy⟩ := exists_drop_of_last hoy (by rw [hrow]; exact hh)
      rw [hdx, hdy]
      exact { h.close_recounted hx hy hc ho 0 _ _ with }
    · exact hless (Or.inl hh)

theorem Tandem.dropGuard (h : g.Tandem x₀ y₀ x y) (hx : g.Settled x) (hy : g.Settled y)
    (hc : g.connection c = true) (hhas : x.connections.has c = true) :
    g.Tandem x₀ y₀ (x.dropGuard c) (y.dropGuard c) := by
  obtain ⟨lx, hdx⟩ := exists_dropGuard x c
  obtain ⟨ly, hdy⟩ := exists_dropGuard y c
  have htandem : g.Tandem x₀ y₀ { (x.close c).1 with log := lx } { (y.close c).1 with log := ly } :=
    { (h.close hx hy hc).tandem with }
  rw [hdx, hdy]
  exact htandem.drop (hx.close c lx).toWellFormed (hy.close c ly).toWellFormed hc
    (connections_has_close hx.toSound c hhas)

theorem Tandem.closeOnNotice (h : g.Tandem x₀ y₀ x y) (hx : g.Settled x) (hy : g.Settled y)
    {l : ListenerId} (hl : g.listener l ≠ some false) :
    g.Tandem x₀ y₀ (x.closeOnNotice l) (y.closeOnNotice l) := by
  have hcloses := h.closes hx.toConfined hy.toConfined hl
  unfold Client.closeOnNotice
  rw [hcloses]
  cases hcl : (x.listener l).closes with
  | none => exact h
  | some c =>
    have hc : g.connection c = true := by
      rw [hx.toConfined.closes l c hcl] at hl
      exact eq_true_of_ne_false fun hf => hl (congrArg some hf)
    have hclose := h.close hx hy hc
    dsimp only
    rw [h.connection hc, hclose.answer]
    split
    · exact hclose.tandem.hear hl _
    · exact h

theorem Tandem.notify (h : g.Tandem x₀ y₀ x y) (hx : g.Settled x) (hy : g.Settled y)
    {l : ListenerId} (hl : g.listener l ≠ some false) (error : MessagingError) :
    g.Tandem x₀ y₀ (x.notify l error) (y.notify l error) := by
  have hheard : ∀ {cl : Client}, g.Settled cl →
      g.Settled (cl.onListener l fun a => a.hear (.raised error)) := fun hcl =>
    hcl.aside (aside_hear _ l _ g.fits_shutdown)
  exact (h.hear hl _).closeOnNotice (hheard hx) (hheard hy) hl

theorem Tandem.transportShutDown (h : g.Tandem x₀ y₀ x y) (hx : g.Settled x) (hy : g.Settled y)
    (hhas : x.connections.has c = true) (hc : g.connection c = true) (cause : TransportError) :
    g.Tandem x₀ y₀ (x.transportShutDown c cause) (y.transportShutDown c cause) := by
  have hrow : (y.count Metrics.shutDown).connection c = (x.count Metrics.shutDown).connection c :=
    h.connection hc
  have hnoted : ∀ {cl : Client}, g.Settled cl →
      g.Settled ((cl.count Metrics.shutDown).note (.shutdownReceived cause)) := fun hcl =>
    (hcl.aside (aside_countShutdown _ g.fits_shutdown)).aside (aside_note _ _)
  unfold Client.transportShutDown
  dsimp only
  rw [hrow]
  split
  · exact { h with }
  · have hkept : g.Tandem x₀ y₀ ((x.count Metrics.shutDown).note (.shutdownReceived cause))
        ((y.count Metrics.shutDown).note (.shutdownReceived cause)) := { h with }
    have hrow' : ((y.count Metrics.shutDown).note (.shutdownReceived cause)).connection c =
        ((x.count Metrics.shutDown).note (.shutdownReceived cause)).connection c := h.connection hc
    rw [hrow']
    split
    · exact hkept
    · next l hl =>
      have hlg : g.listener l ≠ some false := by
        have hne := (hx.toConfined.connection c hhas).listener l hl
        rw [hc] at hne
        exact hne
      exact hkept.notify (hnoted hx) (hnoted hy) hlg _

theorem Tandem.runHook (h : g.Tandem x₀ y₀ x y) (hx : g.Settled x) (hy : g.Settled y)
    {hook : ShutdownHook} (hg : g.hook hook = true) (cause : TransportError) :
    g.Tandem x₀ y₀ (runHook cause x hook) (runHook cause y hook) := by
  cases hook with
  | connection c =>
    have hc : g.connection c = true := hg
    simp only [Client.runHook]
    rw [h.connection hc]
    split
    · next hr => exact h.transportShutDown hx hy (has_connection_of_isReferred hr) hc cause
    · exact h
  | recorder r => exact { h with recorders := h.recorders.modify r _ }

theorem Tandem.runHooks (h : g.Tandem x₀ y₀ x y) (hx : g.Settled x) (hy : g.Settled y)
    {hooks : List ShutdownHook} (hg : ∀ hook ∈ hooks, g.hook hook = true) (cause : TransportError) :
    g.Tandem x₀ y₀ (hooks.foldl (Client.runHook cause) x) (hooks.foldl (Client.runHook cause) y) := by
  induction hooks generalizing x y with
  | nil => exact h
  | cons hook hooks ih =>
    have hnext := h.runHook hx hy (hg hook List.mem_cons_self) cause
    exact ih hnext (hx.changes (changes_runHook hx.toSound g.fits_shutdown cause hook))
      (hy.changes (changes_runHook hy.toSound g.fits_shutdown cause hook))
      fun a ha => hg a (List.mem_cons_of_mem _ ha)

theorem Tandem.onTransport (h : g.Tandem x₀ y₀ x y) (t : TransportId) (f : Transport → Transport) :
    g.Tandem x₀ y₀ (x.onTransport t f) (y.onTransport t f) :=
  { h with transports := h.transports.modify t f }

theorem Tandem.signal (h : g.Tandem x₀ y₀ x y) (hx : g.Settled x) (hy : g.Settled y)
    {t : TransportId} (ht : g.transport t = true) (reason : String) :
    g.Tandem x₀ y₀ (x.signal t reason) (y.signal t reason) := by
  unfold Client.signal
  dsimp only
  rw [h.transport ht]
  split
  · exact h
  · have hdown : g.Tandem x₀ y₀
        ((x.onTransport t fun a => a.signalShutdown.1).note (.loopbackShutDown reason))
        ((y.onTransport t fun a => a.signalShutdown.1).note (.loopbackShutDown reason)) :=
      { h.onTransport t _ with }
    exact hdown.runHooks (hx.signalled t _) (hy.signalled t _)
      (fun hook hm => (hx.toConfined.hook_of_signalled hm).trans ht) _

theorem Tandem.foreclose (h : g.Tandem x₀ y₀ x y) (c : ConnectionId) :
    g.Tandem x₀ y₀ (x.foreclose c) (y.foreclose c) :=
  h.onConnection c _

theorem Tandem.openConnection (h : g.Tandem x₀ y₀ x y) (c : ConnectionId) (t : TransportId)
    (r : RegistryId) (d : SubscriptionsId) (deaf : Bool) :
    g.Tandem x₀ y₀ (x.openConnection c t r d deaf) (y.openConnection c t r d deaf) := by
  cases deaf with
  | true => exact { h with connections := h.connections.insert c _ }
  | false =>
    exact { h with
      connections := h.connections.insert c _
      transports := h.transports.modify t _ }

theorem Tandem.onFactory (h : g.Tandem x₀ y₀ x y) (f : FactoryId) {p : Factory → Factory}
    (hp : ∀ a, (p a).settings = a.settings) :
    g.Tandem x₀ y₀ (x.onFactory f p) (y.onFactory f p) where
  toAlike := { h.toAlike with
    factories_has := fun f' =>
      (Table.has_modify _ _ _ _).trans ((h.factories_has f').trans (Table.has_modify _ _ _ _).symm)
    factories := fun f' =>
      (y.factories.proj_modify f hp f').trans
        ((h.factories f').trans (x.factories.proj_modify f hp f').symm) }
  heard := h.heard

theorem Tandem.connect (h : g.Tandem x₀ y₀ x y) (f : FactoryId) (c : ConnectionId) (t : TransportId)
    (d : SubscriptionsId) : g.Concur x₀ y₀ (x.connect f c t d) (y.connect f c t d) := by
  have hf := h.factories f
  have hconnector : (y.factory f).connector = (x.factory f).connector :=
    (congrArg Factory.connector hf :)
  have hconfig : (y.factory f).config = (x.factory f).config := (congrArg Factory.config hf :)
  have hids : (y.factory f).clientIds = (x.factory f).clientIds :=
    (congrArg Factory.clientIds hf :)
  unfold Client.connect
  dsimp only
  rw [hconnector, hconfig, hids]
  cases hx : (x.factory f).connector with
  | failing e => exact h.concur _
  | loopback =>
    refine Tandem.concur ?_ _
    refine Tandem.onConnection (Tandem.openConnection ?_ c t _ d false) c _
    have hopened : g.Tandem x₀ y₀ (x.onFactory f fun a => { a with opened := a.opened + 1 })
        (y.onFactory f fun a => { a with opened := a.opened + 1 }) :=
      h.onFactory f fun _ => rfl
    exact { hopened with
      transports := h.transports.insert t _
      subscriptions := h.subscriptions.insert d _ }

theorem Tandem.onRegistry (h : g.Tandem x₀ y₀ x y) {r : RegistryId}
    {fx fy : ClientIdRegistry → ClientIdRegistry}
    (hf : ∀ id, g.clientId r id = true →
      (fy (y.registry r)).holds id = (fx (x.registry r)).holds id) :
    g.Tandem x₀ y₀ (x.onRegistry r fx) (y.onRegistry r fy) where
  toAlike := { h.toAlike with
    registries_has := fun r' =>
      (Table.has_modify _ _ _ _).trans ((h.registries_has r').trans (Table.has_modify _ _ _ _).symm)
    claims := fun r' id hid => by
      cases hr : x.registries.has r with
      | false =>
        have hry := (h.registries_has r).trans hr
        rw [Client.onRegistry, Client.onRegistry, Table.modify_of_not_has hr,
          Table.modify_of_not_has hry]
        exact h.claims r' id hid
      | true =>
        rw [registry_onRegistry hr, registry_onRegistry ((h.registries_has r).trans hr)]
        split
        · next he => exact hf id (he ▸ hid)
        · exact h.claims r' id hid }
  heard := h.heard

/-- An ID that the group may claim is held in both registries or in neither. -/
theorem Tandem.claimId (h : g.Tandem x₀ y₀ x y) {r : RegistryId} {id : String}
    (hid : g.clientId r id = true) : g.Concur x₀ y₀ (x.claimId r id) (y.claimId r id) := by
  have hnone : (y.registry r).claim? id = none ↔ (x.registry r).claim? id = none := by
    rw [ClientIdRegistry.claim?_eq_none_iff, ClientIdRegistry.claim?_eq_none_iff]
    exact decide_eq_decide.mp (h.claims r id hid)
  unfold Client.claimId
  cases hx : (x.registry r).claim? id with
  | none =>
    rw [hnone.mpr hx]
    refine Tandem.concur ?_ false
    exact { h with }
  | some cx =>
    cases hy : (y.registry r).claim? id with
    | none =>
      rw [hnone.mp hy] at hx
      cases hx
    | some cy =>
      refine Tandem.concur (h.onRegistry fun id' hid' => ?_) _
      rw [ClientIdRegistry.holds_of_claim? hx, ClientIdRegistry.holds_of_claim? hy,
        h.claims r id' hid']

theorem Tandem.releaseId (h : g.Tandem x₀ y₀ x y) {r : RegistryId} {id : String}
    (hid : g.clientId r id = true) : g.Tandem x₀ y₀ (x.releaseId r id) (y.releaseId r id) := by
  unfold Client.releaseId
  rw [h.claims r id hid]
  split
  · have hreleased : g.Tandem x₀ y₀ (x.onRegistry r fun a => a.without (some id))
        (y.onRegistry r fun a => a.without (some id)) := by
      refine h.onRegistry fun id' hid' => ?_
      rw [ClientIdRegistry.holds_without, ClientIdRegistry.holds_without, h.claims r id' hid']
    exact { hreleased with }
  · exact h

theorem Tandem.setClientId (h : g.Tandem x₀ y₀ x y) (hx : g.Confined x) {id : String}
    (hhas : x.connections.has c = true) (hc : g.connection c = true)
    (hid : g.clientId (g.registry c) id = true) :
    g.Concur x₀ y₀ (x.setClientId c id) (y.setClientId c id) := by
  have hclaim : g.Concur x₀ y₀ (x.claimId (x.connection c).clientIds id)
      (y.claimId (x.connection c).clientIds id) := by
    refine h.claimId ?_
    rw [(hx.connection c hhas).registry]
    exact hid
  unfold Client.setClientId
  dsimp only
  rw [h.connection hc]
  split
  · exact h.concur _
  · refine h.ifOpen hc ?_
    cases (x.connection c).clientId with
    | some held => exact h.concur _
    | none =>
      obtain ⟨x', y', claimed, hx', hy', htandem⟩ := hclaim.exists
      dsimp only
      rw [hx', hy']
      cases claimed with
      | true =>
        refine Tandem.concur ?_ _
        exact { htandem.onConnection c _ with }
      | false => exact htandem.concur _

theorem Tandem.metadata (h : g.Tandem x₀ y₀ x y) (hc : g.connection c = true) :
    g.Concur x₀ y₀ (x.metadata c) (y.metadata c) := by
  have hf := h.foreclose c
  unfold Client.metadata
  refine hf.ifOpen hc ?_
  exact hf.concur _

theorem Tandem.exceptionListener (h : g.Tandem x₀ y₀ x y) (hc : g.connection c = true) :
    g.Concur x₀ y₀ (x.exceptionListener c) (y.exceptionListener c) := by
  have hf := h.foreclose c
  unfold Client.exceptionListener
  refine hf.ifOpen hc ?_
  rw [hf.connection hc]
  exact hf.concur _

theorem Tandem.setExceptionListener (h : g.Tandem x₀ y₀ x y) (hc : g.connection c = true)
    (l : Option ListenerId) :
    g.Concur x₀ y₀ (x.setExceptionListener c l) (y.setExceptionListener c l) := by
  have hf := h.foreclose c
  unfold Client.setExceptionListener
  refine hf.ifOpen hc ?_
  exact Tandem.concur (hf.onConnection c _) _

theorem Tandem.createSessionOf (h : g.Tandem x₀ y₀ x y) (hc : g.connection c = true)
    (kind : SessionKind) (s : SessionId) (transacted : Bool) (mode : AcknowledgeMode) :
    g.Concur x₀ y₀ (createSessionOf kind x c s transacted mode)
      (createSessionOf kind y c s transacted mode) := by
  have hf := h.foreclose c
  have hnext : (y.foreclose c).nextSession c transacted mode =
      (x.foreclose c).nextSession c transacted mode := by
    rw [nextSession, nextSession, hf.connection hc]
  have hplain : g.Concur x₀ y₀ (x.createSession c s transacted mode)
      (y.createSession c s transacted mode) := by
    unfold Client.createSession
    refine hf.ifOpen hc ?_
    dsimp only
    rw [hnext]
    refine Tandem.concur ?_ _
    exact { hf with
      sessions := hf.sessions.insert s _
      connections := hf.connections.modify c _ }
  cases kind with
  | plain => exact hplain
  | queue =>
    unfold Client.createSessionOf
    refine h.ifOpen hc ?_
    exact hplain
  | topic =>
    unfold Client.createSessionOf
    refine h.ifOpen hc ?_
    exact hplain

theorem Tandem.switches {stopped : Bool} (h : g.Tandem x₀ y₀ x y) (hx : Switches c stopped x x')
    (hy : Switches c stopped y y') (hc : g.connection c = true) : g.Tandem x₀ y₀ x' y' := by
  have hrow := h.connection hc
  have hsx : x'.surroundings = x.surroundings := (congrArg surroundings hx.rest :)
  have hsy : y'.surroundings = y.surroundings := (congrArg surroundings hy.rest :)
  refine h.of_alike (h.of_surroundings hsx hsy ?_ ?_ ?_)
    hx.listeners hy.listeners
  · refine h.connections.of_keys hx.connection_keys hy.connection_keys fun c' hc' => ?_
    refine (hy.connection c').trans (Eq.trans ?_ (hx.connection c').symm)
    rw [hrow, h.connection hc']
  · refine h.sessions.of_keys hx.session_keys hy.session_keys fun s hs => ?_
    refine (hy.session s).trans (Eq.trans ?_ (hx.session s).symm)
    rw [hrow, h.session hs]
  · rw [hx.consumers, hy.consumers]
    exact h.consumers

theorem Tandem.switch (h : g.Tandem x₀ y₀ x y) (hx : WellFormed x) (hy : WellFormed y)
    (hhas : x.connections.has c = true) (hc : g.connection c = true) (stopped : Bool) :
    g.Concur x₀ y₀ (x.switch c stopped) (y.switch c stopped) := by
  have hrow := h.connection hc
  have hf := h.foreclose c
  cases hcl : (x.connection c).closed with
  | true =>
    have hhasy := (h.connections.has hc).trans hhas
    rw [switch_of_closed hhas hcl, switch_of_closed hhasy (by rw [hrow]; exact hcl)]
    exact hf.concur _
  | false =>
    have hcly : (y.connection c).closed = false := by
      rw [hrow]
      exact hcl
    by_cases hst : (x.connection c).stopped = stopped
    · rw [switch_of_stopped hcl hst, switch_of_stopped hcly (by rw [hrow]; exact hst)]
      exact hf.concur _
    · have hsty : (y.connection c).stopped ≠ stopped := by
        rw [hrow]
        exact hst
      constructor
      case tandem => exact hf.switches (switches_switch hx hcl hst) (switches_switch hy hcly hsty) hc
      case answer => rw [result_switch hcl, result_switch hcly]

theorem Tandem.onSession (h : g.Tandem x₀ y₀ x y) (s : SessionId) (f : Session → Session) :
    g.Tandem x₀ y₀ (x.onSession s f) (y.onSession s f) :=
  { h with sessions := h.sessions.modify s f }

theorem Tandem.addConsumer (h : g.Tandem x₀ y₀ x y) (k : ConsumerId) (z : Consumer) :
    g.Tandem x₀ y₀ (x.addConsumer k z) (y.addConsumer k z) :=
  { h with consumers := h.consumers.insert k z, sessions := h.sessions.modify z.session _ }

theorem Tandem.onDurables (h : g.Tandem x₀ y₀ x y) (d : SubscriptionsId)
    (f : DurableSubscriptions → DurableSubscriptions) :
    g.Tandem x₀ y₀ (x.onDurables d f) (y.onDurables d f) :=
  { h with subscriptions := h.subscriptions.modify d f }

theorem Tandem.createConsumer (h : g.Tandem x₀ y₀ x y) (hs : g.session s = true) (k : ConsumerId)
    (token : String) (destination : Destination) (selector : Option String) :
    g.Concur x₀ y₀ (x.createConsumer s k token destination selector)
      (y.createConsumer s k token destination selector) := by
  unfold Client.createConsumer
  dsimp only
  rw [h.session hs]
  split
  · exact h.concur _
  · refine Tandem.concur ?_ _
    exact { h.addConsumer k _ with }

/-- Whoever has a name is of the group of the subscriptions, so both clients know whether it is
open. -/
theorem Tandem.isOpen_holder (h : g.Tandem x₀ y₀ x y) (hx : g.Confined x) {d : SubscriptionsId}
    (hd : g.subscriptions d = true) {name : String} {holder : ConsumerId}
    (hg : (x.durables d).get? name = some holder) : y.isOpen holder = x.isOpen holder :=
  h.isOpen ((hx.holder d name holder hg).trans hd)

theorem Tandem.bindDurable (h : g.Tandem x₀ y₀ x y) (hx : g.Confined x) {d : SubscriptionsId}
    (hd : g.subscriptions d = true) (name : String) (k : ConsumerId) :
    g.Concur x₀ y₀ (x.bindDurable d name k) (y.bindDurable d name k) := by
  have hbind : (y.durables d).bind y.isOpen name k = (x.durables d).bind x.isOpen name k := by
    rw [h.durables hd]
    exact DurableSubscriptions.bind_congr fun _ hg => h.isOpen_holder hx hd hg
  unfold Client.bindDurable
  rw [hbind]
  cases (x.durables d).bind x.isOpen name k with
  | bound after =>
    refine Tandem.concur ?_ _
    exact { h.onDurables d _ with }
  | rebound after =>
    refine Tandem.concur ?_ _
    exact { h.onDurables d _ with }
  | refused holder => exact h.concur _

theorem Tandem.createDurable (h : g.Tandem x₀ y₀ x y) (hx : g.Settled x) (hs : g.session s = true)
    (hhas : x.sessions.has s = true) (k : ConsumerId) (token : String) (topic : Destination)
    (name : String) (selector : Option String) :
    g.Concur x₀ y₀ (x.createDurable s k token topic name selector)
      (y.createDurable s k token topic name selector) := by
  have hd := (hx.toConfined.session_subscriptions hx.toWellFormed hhas).trans hs
  have hbind := h.bindDurable hx.toConfined hd name k
  unfold Client.createDurable
  dsimp only
  rw [h.session hs]
  split
  · exact h.concur _
  · split
    · exact h.concur _
    · split
      · exact h.concur _
      · obtain ⟨x', y', holder, hx', hy', htandem⟩ := hbind.exists
        rw [hx', hy']
        cases holder with
        | some holder => exact htandem.concur _
        | none =>
          refine Tandem.concur ?_ _
          exact { htandem.addConsumer k _ with }

theorem Tandem.removeDurable (h : g.Tandem x₀ y₀ x y) {d : SubscriptionsId}
    (hd : g.subscriptions d = true) (name : String) :
    g.Concur x₀ y₀ (x.removeDurable d name) (y.removeDurable d name) :=
  ⟨h.onDurables d _, congrArg (DurableSubscriptions.contains · name) (h.durables hd)⟩

theorem Tandem.unsubscribe (h : g.Tandem x₀ y₀ x y) (hx : g.Settled x) (hs : g.session s = true)
    (hhas : x.sessions.has s = true) (name : String) :
    g.Concur x₀ y₀ (x.unsubscribe s name) (y.unsubscribe s name) := by
  have hd := (hx.toConfined.session_subscriptions hx.toWellFormed hhas).trans hs
  have hactive : y.activeConsumer? (x.session s).subscriptions name =
      x.activeConsumer? (x.session s).subscriptions name := by
    rw [activeConsumer?, activeConsumer?, h.durables hd]
    exact DurableSubscriptions.active?_congr fun _ hg => h.isOpen_holder hx.toConfined hd hg
  have hremove := h.removeDurable hd name
  unfold Client.unsubscribe
  dsimp only
  rw [h.session hs, hactive]
  split
  · exact h.concur _
  · split
    · exact h.concur _
    · obtain ⟨x', y', known, hx', hy', htandem⟩ := hremove.exists
      rw [hx', hy']
      cases known with
      | true =>
        refine Tandem.concur ?_ _
        exact { htandem with }
      | false => exact htandem.concur _

theorem Tandem.readObject (h : g.Tandem x₀ y₀ x y) (hs : g.session s = true) (m : ObjectMessage)
    (t : PayloadType) (complaint : Complaint) :
    g.Concur x₀ y₀ (x.readObject s m t complaint) (y.readObject s m t complaint) := by
  unfold Client.readObject countRefusal
  dsimp only
  rw [h.session hs]
  refine Tandem.concur ?_ _
  split
  · exact { h with }
  · exact h

end BrokerClient.Split
