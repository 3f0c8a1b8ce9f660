import BrokerClient.Proofs.Independence.Apart
import BrokerClient.Proofs.Independence.Together

/-!
# Steps of two clients

One call on two clients that are alike to a group. A call on the other group may be made on one of
them alone. Any other call is carried out in both or in neither, and comes to the same.
-/

namespace BrokerClient.Split

open Client

variable {g : Split} {x y : Client} {call : Call}

/-- What is not of the other group is of the group. -/
theorem of_group {b : Bool} (h : some b ≠ some false) : b = true :=
  eq_true_of_ne_false fun hb => h (congrArg some hb)

theorem Alike.hasTag (h : g.Alike x y) (hx : g.Confined x) (hy : g.Confined y) {tag : String}
    (ht : g.tag tag = true) : y.hasTag tag = x.hasTag tag := by
  -- Whoever has the tag is of the group, so it is there in both clients.
  have hboth : ∀ {a b : Client}, g.Alike a b → g.Confined a → a.hasTag tag = true →
      b.hasTag tag = true := by
    intro a b hab ha hta
    obtain ⟨k, hk, rfl⟩ := hasTag_iff.mp hta
    have hkg : g.consumer k = true := (ha.consumer k hk).2.symm.trans ht
    exact hasTag_iff.mpr ⟨k, (hab.consumers.has hkg).trans hk, by rw [hab.consumer hkg]⟩
  exact Bool.eq_iff_iff.mpr ⟨hboth h.symm hy, hboth h hx⟩

theorem Alike.admitsConsumer (h : g.Alike x y) (hx : g.Confined x) (hy : g.Confined y)
    {s : SessionId} {k : ConsumerId} {token : String} (hs : g.session s = true)
    (hk : g.consumer k = true) (ht : g.tag (Consumer.tagOf token) = true) :
    y.admitsConsumer s k token = x.admitsConsumer s k token := by
  rw [Client.admitsConsumer, Client.admitsConsumer, h.sessions.has hs, h.consumers.has hk,
    h.hasTag hx hy ht]

/-- A call that is not on the other group fits both clients or neither. -/
theorem Alike.admits (h : g.Alike x y) (hx : g.Confined x) (hy : g.Confined y)
    (hf : g.fits call = true) (hs : g.side call ≠ some false) :
    y.admits call = x.admits call := by
  cases call with
  | makeRegistry r =>
    simp only [Client.admits]
    rw [h.registries_has]
  | makeSubscriptions d =>
    simp only [Client.admits]
    rw [h.subscriptions.has (of_group hs)]
  | makeFactory f config connector r =>
    simp only [Client.admits]
    rw [h.factories_has, h.registries_has]
  | makeListener l closes =>
    simp only [Client.admits]
    rw [h.listeners_has hs]
    cases closes with
    | none => rfl
    | some c =>
      have hl : g.listener l = some (g.connection c) := beq_iff_eq.mp hf
      have hc : g.connection c = true := of_group (hl ▸ hs)
      simp only [Option.all_some]
      rw [h.connections.has hc]
  | openTransport t =>
    simp only [Client.admits]
    rw [h.transports.has (of_group hs)]
  | openConnection c t r d deaf =>
    have hc := of_group hs
    simp only [fits, Bool.and_eq_true, beq_iff_eq] at hf
    simp only [Client.admits]
    rw [h.connections.has hc, h.transports.has (hf.1.1.trans hc), h.registries_has,
      h.subscriptions.has (hf.1.2.trans hc)]
  | connect f c t d =>
    have hc := of_group hs
    simp only [fits, Bool.and_eq_true, beq_iff_eq] at hf
    simp only [Client.admits]
    rw [h.factories_has, h.connections.has hc, h.transports.has (hf.1.1.trans hc),
      h.subscriptions.has (hf.1.2.trans hc)]
  | createSession kind c s transacted mode =>
    have hc := of_group hs
    simp only [Client.admits]
    rw [h.connection hc, h.sessions.has ((beq_iff_eq.mp hf).trans hc)]
  | setExceptionListener c l =>
    have hc := of_group hs
    simp only [Client.admits]
    rw [h.connection hc]
    cases l with
    | none => rfl
    | some l =>
      have hl : g.listener l ≠ some (!g.connection c) := bne_iff_ne.mp hf
      rw [hc] at hl
      simp only [Option.all_some]
      rw [h.listeners_has hl]
  | addRecorder t r =>
    have ht := of_group hs
    simp only [Client.admits]
    rw [h.transports.has ht, h.recorders.has ((beq_iff_eq.mp hf).trans ht)]
  | signal t reason => exact h.transports.has (of_group hs)
  | failNextClose t failure => exact h.transports.has (of_group hs)
  | closeTransport t => exact h.transports.has (of_group hs)
  | closeSession s => exact h.sessions.has (of_group hs)
  | pause s => exact h.sessions.has (of_group hs)
  | resume s => exact h.sessions.has (of_group hs)
  | readObject s m t words => exact h.sessions.has (of_group hs)
  | unsubscribe s name => exact h.sessions.has (of_group hs)
  | createConsumer s k token destination selector =>
    have hsg := of_group hs
    simp only [fits, Bool.and_eq_true, beq_iff_eq] at hf
    exact h.admitsConsumer hx hy hsg (hf.1.trans hsg) (hf.2.trans hsg)
  | createDurable s k token topic name selector =>
    have hsg := of_group hs
    simp only [fits, Bool.and_eq_true, beq_iff_eq] at hf
    exact h.admitsConsumer hx hy hsg (hf.1.trans hsg) (hf.2.trans hsg)
  | closeConsumer k => exact h.consumers.has (of_group hs)
  | claimId r id => exact h.registries_has r
  | releaseId r id => exact h.registries_has r
  | bindDurable d name k =>
    have hd := of_group hs
    simp only [Client.admits]
    rw [h.subscriptions.has hd, h.consumers.has ((beq_iff_eq.mp hf).trans hd)]
  | removeDurable d name => exact h.subscriptions.has (of_group hs)
  | _ =>
    simp only [Client.admits]
    rw [h.connection (of_group hs)]

/-- A new registry holds nothing, and nothing was held in it before. -/
theorem Alike.makeRegistry (h : g.Alike x y) (r : RegistryId) :
    g.Alike { x with registries := x.registries.insert r .empty }
      { y with registries := y.registries.insert r .empty } where
  __ := h
  registries_has r' := by
    rw [Table.has_insert_eq, Table.has_insert_eq, h.registries_has]
  claims r' id hid := by
    have hkept : ∀ cl : Client,
        ({ cl with registries := cl.registries.insert r .empty } : Client).registry r' =
          cl.registry r' := fun cl => Table.get_insert_default cl.registries r r'
    rw [hkept, hkept, h.claims r' id hid]

theorem Alike.makeFactory (h : g.Alike x y) {f : FactoryId} (hn : x.factories.has f = false)
    (z : Factory) :
    g.Alike { x with factories := x.factories.insert f z }
      { y with factories := y.factories.insert f z } where
  __ := h
  factories_has f' := by
    rw [Table.has_insert_eq, Table.has_insert_eq, h.factories_has]
  factories f' := by
    have hv : ∀ cl : Client, cl.factories.has f = false →
        ({ cl with factories := cl.factories.insert f z } : Client).factory f' =
          if f' = f then z else cl.factory f' := fun cl hcl => Table.get_insert hcl z f'
    rw [hv x hn, hv y ((h.factories_has f).trans hn)]
    split
    · rfl
    · exact h.factories f'

/-- A new listener has heard nothing. -/
theorem Alike.makeListener (h : g.Alike x y) {l : ListenerId} (hl : g.listener l ≠ some false)
    (hn : x.listeners.has l = false) (closes : Option ConnectionId) :
    g.Tandem x y { x with listeners := x.listeners.insert l ⟨closes, []⟩ }
      { y with listeners := y.listeners.insert l ⟨closes, []⟩ } where
  toAlike := { h with
    listeners := h.listeners.insert l _
    shared_has := fun l' hl' => by
      rw [Table.has_insert_eq, Table.has_insert_eq, h.shared_has l' hl'] }
  heard l' _ := by
    have hkept : ∀ cl : Client, cl.listeners.has l = false →
        (({ cl with listeners := cl.listeners.insert l ⟨closes, []⟩ } : Client).listener l').notices =
          (cl.listener l').notices := by
      intro cl hcl
      refine (congrArg Listener.notices (Table.get_insert hcl _ l')).trans ?_
      split
      · next he =>
        rw [he]
        exact (congrArg Listener.notices (Table.get_of_not_has hcl)).symm
      · rfl
    refine ⟨[], ?_, ?_⟩
    · rw [hkept x hn, List.append_nil]
    · rw [hkept y ((h.listeners_has hl).trans hn), List.append_nil]

/-- A call that is not on the other group comes to the same in both clients. -/
theorem Alike.perform (h : g.Alike x y) (hx : g.Settled x) (hy : g.Settled y)
    (ha : x.admits call = true) (hf : g.fits call = true) (hs : g.side call ≠ some false) :
    g.Concur x y (x.perform call) (y.perform call) := by
  have ht := h.tandem
  cases call with
  | makeRegistry r => exact ⟨ht.of_alike (h.makeRegistry r) rfl rfl, rfl⟩
  | makeSubscriptions d => exact ⟨{ ht with subscriptions := h.subscriptions.insert d _ }, rfl⟩
  | makeFactory f config connector r =>
    simp only [Client.admits, Bool.and_eq_true, Bool.not_eq_true'] at ha
    exact ⟨ht.of_alike (h.makeFactory ha.1 _) rfl rfl, rfl⟩
  | makeListener l closes =>
    simp only [Client.admits, Bool.and_eq_true, Bool.not_eq_true'] at ha
    exact ⟨h.makeListener hs ha.1 closes, rfl⟩
  | openTransport t => exact ⟨{ ht with transports := h.transports.insert t _ }, rfl⟩
  | openConnection c t r d deaf => exact ⟨ht.openConnection c t r d deaf, rfl⟩
  | connect f c t d => exact (ht.connect f c t d).map _
  | share c => exact ⟨ht.onConnection c _, rfl⟩
  | drop c =>
    exact ⟨ht.drop hx.toWellFormed hy.toWellFormed (of_group hs) (has_connection_of_isReferred ha),
      rfl⟩
  | dropGuard c =>
    exact ⟨ht.dropGuard hx hy (of_group hs) (has_connection_of_isReferred ha), rfl⟩
  | releaseGuard c => exact ⟨{ ht with }, rfl⟩
  | createSession kind c s transacted mode =>
    exact (ht.createSessionOf (of_group hs) kind s transacted mode).map _
  | clientId c =>
    refine ⟨ht, congrArg (Answer.ofResult Answer.clientId) ?_⟩
    rw [Client.clientId, Client.clientId, h.connection (of_group hs)]
  | setClientId c id =>
    have hc := of_group hs
    exact (ht.setClientId hx.toConfined (has_connection_of_isReferred ha) hc
      ((beq_iff_eq.mp hf).trans hc)).map _
  | metadata c => exact (ht.metadata (of_group hs)).map _
  | exceptionListener c => exact (ht.exceptionListener (of_group hs)).map _
  | setExceptionListener c l => exact (ht.setExceptionListener (of_group hs) l).map _
  | start c =>
    exact (ht.switch hx.toWellFormed hy.toWellFormed (has_connection_of_isReferred ha)
      (of_group hs) false).map _
  | stop c =>
    exact (ht.switch hx.toWellFormed hy.toWellFormed (has_connection_of_isReferred ha)
      (of_group hs) true).map _
  | close c => exact (ht.close hx hy (of_group hs)).map _
  | setTerminationTimeout c timeout => exact ⟨ht.onConnection c _, rfl⟩
  | setTrusted c trusted => exact ⟨ht.onConnection c _, rfl⟩
  | connectionConsumer c durable => exact ⟨ht, rfl⟩
  | transportShutDown c cause =>
    exact ⟨ht.transportShutDown hx hy (has_connection_of_isReferred ha) (of_group hs) cause, rfl⟩
  | addRecorder t r =>
    exact ⟨{ ht with
      recorders := h.recorders.insert r _
      transports := h.transports.modify t _ }, rfl⟩
  | signal t reason => exact ⟨ht.signal hx hy (of_group hs) reason, rfl⟩
  | failNextClose t failure => exact ⟨ht.onTransport t _, rfl⟩
  | closeTransport t =>
    refine ⟨ht.onTransport t _, congrArg Answer.transport ?_⟩
    exact congrArg (fun a => a.close.2) (h.transport (of_group hs))
  | closeSession s => exact ⟨ht.closeSession hx.toSound hy.toSound (of_group hs) ha, rfl⟩
  | pause s => exact ⟨{ ht with sessions := h.sessions.modify s _ }, rfl⟩
  | resume s => exact ⟨{ ht with sessions := h.sessions.modify s _ }, rfl⟩
  | readObject s m t words => exact (ht.readObject (of_group hs) m t fun _ _ => words).map _
  | createConsumer s k token destination selector =>
    exact (ht.createConsumer (of_group hs) k token destination selector).map _
  | createDurable s k token topic name selector =>
    simp only [Client.admits, Client.admitsConsumer, Bool.and_eq_true] at ha
    exact (ht.createDurable hx (of_group hs) ha.1.1 k token topic name selector).map _
  | unsubscribe s name => exact (ht.unsubscribe hx (of_group hs) ha name).map _
  | closeConsumer k => exact ⟨ht.closeConsumer hx.toWellFormed hy.toWellFormed (of_group hs), rfl⟩
  | claimId r id => exact (ht.claimId (of_group hs)).map _
  | releaseId r id => exact ⟨ht.releaseId (of_group hs), rfl⟩
  | bindDurable d name k => exact (ht.bindDurable hx.toConfined (of_group hs) name k).map _
  | removeDurable d name => exact (ht.removeDurable (of_group hs) name).map _

theorem Alike.step (h : g.Alike x y) (hx : g.Settled x) (hy : g.Settled y)
    (hf : g.fits call = true) (hs : g.side call ≠ some false) :
    g.Concur x y (x.step call) (y.step call) := by
  rw [Client.step, Client.step, h.admits hx.toConfined hy.toConfined hf hs]
  split
  · next ha => exact h.perform hx hy ha hf hs
  · exact h.tandem.concur _

end BrokerClient.Split
