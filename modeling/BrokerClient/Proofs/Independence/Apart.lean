import BrokerClient.Proofs.Client.Subscribing
import BrokerClient.Proofs.ClientIds.Claiming
import BrokerClient.Proofs.Independence.Alike

/-!
# What the other group does

A call on the group called `false` leaves all that the other group finds as it is. The lemmas follow
the definitions, one for each operation.
-/

namespace BrokerClient.Split

open Client

variable {g : Split} {cl before after : Client} {c : ConnectionId} {s : SessionId}

/-- What is of different groups is different. -/
theorem ne_of_group {α : Type} {p : α → Bool} {a b : α} (ha : p a = true) (hb : p b = false) :
    a ≠ b := by
  rintro rfl
  exact Bool.false_ne_true (hb.symm.trans ha)

theorem alike_shuts {ss : List SessionId} (hg : g.Confined before) (h : Shuts c ss before after)
    (hc : g.connection c = false) (hss : ∀ s ∈ ss, g.session s = false) :
    g.Alike before after := by
  refine (Alike.refl g before).of_surroundings rfl h.surroundings ?_ ?_ ?_
  · refine (Table.Agree.refl _ _).of_keys rfl h.connection_keys fun c' hc' => ?_
    exact (h.connection c').trans (if_neg (ne_of_group hc' hc))
  · refine (Table.Agree.refl _ _).of_keys rfl h.session_keys fun s hs => ?_
    exact (h.session s).trans (if_neg fun hm => Bool.false_ne_true ((hss s hm).symm.trans hs))
  · refine (Table.Agree.refl _ _).of_keys rfl h.consumer_keys fun k hk => ?_
    cases hhas : before.consumers.has k with
    | false =>
      exact (Table.get_of_not_has ((h.consumers_has k).trans hhas)).trans
        (Table.get_of_not_has hhas).symm
    | true =>
      refine (h.consumer k).trans (if_neg fun hm => ?_)
      have hs := (hg.consumer k hhas).1
      rw [hss _ hm, hk] at hs
      exact Bool.false_ne_true hs

theorem alike_detaches {k : ConsumerId} (h : Detaches k before after) (hk : g.consumer k = false)
    (hs : g.session (before.consumer k).session = false) : g.Alike before after := by
  refine (Alike.refl g before).of_surroundings rfl h.surroundings ?_ ?_ ?_
  · rw [h.connections]
    exact .refl _ _
  · refine (Table.Agree.refl _ _).of_keys rfl h.session_keys fun s' hs' => ?_
    exact (h.session s').trans (if_neg (ne_of_group hs' hs))
  · refine (Table.Agree.refl _ _).of_keys rfl h.consumer_keys fun k' hk' => ?_
    exact (h.consumer k').trans (if_neg (ne_of_group hk' hk))

theorem alike_retires {handles : Nat} (h : Retires c handles before after)
    (hx : g.ConfinedConnection c (before.connection c)) (hc : g.connection c = false) :
    g.Alike before after where
  connections := by
    refine (Table.Agree.refl _ _).of_keys rfl h.connection_keys fun c' hc' => ?_
    exact (h.connection c').trans (if_neg (ne_of_group hc' hc))
  sessions := (Table.Agree.refl _ _).of_keys rfl h.session_keys fun s _ => h.session s
  consumers := (Table.Agree.refl _ _).of_keys rfl h.consumer_keys fun k _ => h.consumer k
  transports := by
    refine (Table.Agree.refl _ _).of_keys rfl h.transport_keys fun t ht => ?_
    exact (h.transport t).trans (if_neg (ne_of_group ht (hx.transport.trans hc)))
  subscriptions := by
    rw [h.subscriptions]
    exact .refl _ _
  recorders := by
    rw [h.recorders]
    exact .refl _ _
  listeners := by
    rw [h.listeners]
    exact .refl _ _
  shared_has l _ := by rw [h.listeners]
  registries_has r := Table.has_congr h.registry_keys r
  claims r id hid := by
    rw [h.registry]
    split
    · next he =>
      -- The ID that is given back is one of the other group.
      have hne : (before.connection c).clientId ≠ some id := by
        intro hi
        rw [he, hx.clientId id hi, hc] at hid
        exact Bool.false_ne_true hid
      rw [ClientIdRegistry.holds_without, decide_eq_true hne, Bool.and_true]
    · rfl
  factories_has f := by rw [h.factories]
  factories f := by rw [Client.factory, Client.factory, h.factories]

theorem alike_closeSession (h : g.Settled cl) (hs : cl.sessions.has s = true)
    (hg : g.session s = false) : g.Alike cl (cl.closeSession s) := by
  refine alike_shuts h.toConfined (shuts_closeSession h.toSound hs)
    ((h.toConfined.session s hs).trans hg) fun s' hm => ?_
  split at hm
  · exact absurd hm List.not_mem_nil
  · rw [List.mem_singleton.mp hm]
    exact hg

theorem alike_closeConsumer (h : g.Settled cl) {k : ConsumerId} (hg : g.consumer k = false) :
    g.Alike cl (cl.closeConsumer k) := by
  cases hc : (cl.consumer k).closed with
  | true =>
    have he : cl.closeConsumer k = cl := if_pos hc
    rw [he]
    exact .refl g cl
  | false =>
    have hs := (h.toConfined.consumer k (has_consumer hc)).1.trans hg
    exact alike_detaches (detaches_closeConsumer h.toWellFormed hc) hg hs

theorem alike_close_recounted (h : g.Settled cl) (hg : g.connection c = false)
    (ho : (cl.connection c).closed = false) (handles : Nat) (log : List Event) :
    g.Alike cl ((cl.recounted c handles log).close c).1 := by
  have hd := shuts_drain h.toWellFormed c
  have hdrained : g.Alike cl (cl.drain c) :=
    alike_shuts h.toConfined hd hg fun s hm => (h.session_of_listed hm).trans hg
  have hx : g.ConfinedConnection c ((cl.drain c).connection c) := by
    rw [hd.connection_eq]
    exact (h.toConfined.connection c (has_connection ho)).congr rfl rfl rfl
  exact hdrained.trans (alike_retires (retires_close_recounted h.toWellFormed ho handles log) hx hg)

theorem alike_close (h : g.Settled cl) (hg : g.connection c = false) :
    g.Alike cl (cl.close c).1 := by
  cases hc : (cl.connection c).closed with
  | true =>
    rw [close_of_closed hc]
    exact .refl g cl
  | false =>
    have hclose := alike_close_recounted h hg hc (cl.connection c).handles cl.log
    rw [recounted_self] at hclose
    exact hclose

theorem alike_onConnection (cl : Client) (hg : g.connection c = false)
    (f : Connection → Connection) : g.Alike cl (cl.onConnection c f) :=
  { Alike.refl g cl with connections := .of_modify hg _ _ }

theorem alike_drop (h : g.Settled cl) (hg : g.connection c = false)
    (hc : cl.connections.has c = true) : g.Alike cl (cl.drop c) := by
  have hless : (cl.connection c).handles - 1 ≠ 0 ∨ (cl.connection c).closed = true →
      g.Alike cl (cl.drop c) := by
    intro hh
    rw [drop_eq_recounted hc hh]
    exact { Alike.refl g cl with connections := .of_modify hg _ _ }
  cases ho : (cl.connection c).closed with
  | true => exact hless (Or.inr ho)
  | false =>
    by_cases hh : (cl.connection c).handles - 1 = 0
    · obtain ⟨log, hd⟩ := exists_drop_of_last ho hh
      rw [hd]
      exact { alike_close_recounted h hg ho 0 _ with }
    · exact hless (Or.inl hh)

theorem alike_dropGuard (h : g.Settled cl) (hg : g.connection c = false)
    (hc : cl.connections.has c = true) : g.Alike cl (cl.dropGuard c) := by
  obtain ⟨log, hd⟩ := exists_dropGuard cl c
  have halike : g.Alike cl { (cl.close c).1 with log } := { alike_close h hg with }
  rw [hd]
  exact halike.trans (alike_drop (h.close c log) hg (connections_has_close h.toSound c hc))

/-- What a listener of one group hears makes no difference to the other. -/
theorem alike_hear (cl : Client) {l : ListenerId} (hl : g.listener l ≠ some true) (n : Notice) :
    g.Alike cl (cl.onListener l fun x => x.hear n) where
  __ := Alike.refl g cl
  listeners := by
    refine .of_modify ?_ _ _
    exact beq_eq_false_iff_ne.mpr hl
  shared_has _ _ := Table.has_modify _ _ _ _

theorem alike_closeOnNotice (h : g.Settled cl) {l : ListenerId} (hl : g.listener l ≠ some true) :
    g.Alike cl (cl.closeOnNotice l) := by
  unfold closeOnNotice
  cases hcl : (cl.listener l).closes with
  | none => exact .refl g cl
  | some c =>
    have hc : g.connection c = false := by
      rw [h.toConfined.closes l c hcl] at hl
      exact Bool.eq_false_iff.mpr fun ht => hl (congrArg some ht)
    dsimp only
    split
    · exact (alike_close h hc).trans (alike_hear _ hl _)
    · exact .refl g cl

theorem alike_notify (h : g.Settled cl) {l : ListenerId} (hl : g.listener l ≠ some true)
    (error : MessagingError) : g.Alike cl (cl.notify l error) := by
  have hheard : g.Settled (cl.onListener l fun x => x.hear (.raised error)) :=
    h.aside (aside_hear cl l _ g.fits_shutdown)
  exact (alike_hear cl hl _).trans (alike_closeOnNotice hheard hl)

theorem alike_transportShutDown (h : g.Settled cl) (hc : cl.connections.has c = true)
    (hg : g.connection c = false) (cause : TransportError) :
    g.Alike cl (cl.transportShutDown c cause) := by
  unfold transportShutDown
  dsimp only
  split
  · exact { Alike.refl g cl with }
  · split
    · exact { Alike.refl g cl with }
    · next l hl =>
      have hlg : g.listener l ≠ some true := by
        have hne := (h.toConfined.connection c hc).listener l hl
        rw [hg] at hne
        exact hne
      have hnoted : g.Settled ((cl.count Metrics.shutDown).note (.shutdownReceived cause)) :=
        (h.aside (aside_countShutdown cl g.fits_shutdown)).aside (aside_note _ _)
      have hkept : g.Alike cl ((cl.count Metrics.shutDown).note (.shutdownReceived cause)) :=
        { Alike.refl g cl with }
      exact hkept.trans (alike_notify hnoted hlg _)

theorem alike_runHook (h : g.Settled cl) {hook : ShutdownHook} (hg : g.hook hook = false)
    (cause : TransportError) : g.Alike cl (runHook cause cl hook) := by
  cases hook with
  | connection c =>
    simp only [runHook]
    split
    · next hr => exact alike_transportShutDown h (has_connection_of_isReferred hr) hg cause
    · exact .refl g cl
  | recorder r =>
    have hr : g.recorder r = false := hg
    exact { Alike.refl g cl with recorders := .of_modify hr _ _ }

theorem alike_runHooks (h : g.Settled cl) {hooks : List ShutdownHook}
    (hg : ∀ hook ∈ hooks, g.hook hook = false) (cause : TransportError) :
    g.Alike cl (hooks.foldl (runHook cause) cl) := by
  induction hooks generalizing cl with
  | nil => exact .refl g cl
  | cons hook hooks ih =>
    have hnext := h.changes (changes_runHook h.toSound g.fits_shutdown cause hook)
    have hrest := ih hnext fun x hx => hg x (List.mem_cons_of_mem _ hx)
    exact (alike_runHook h (hg hook List.mem_cons_self) cause).trans hrest

theorem alike_onTransport (cl : Client) {t : TransportId} (hg : g.transport t = false)
    (f : Transport → Transport) : g.Alike cl (cl.onTransport t f) :=
  { Alike.refl g cl with transports := .of_modify hg _ _ }

theorem alike_signal (h : g.Settled cl) {t : TransportId} (hg : g.transport t = false)
    (reason : String) : g.Alike cl (cl.signal t reason) := by
  unfold signal
  dsimp only
  split
  · exact .refl g cl
  · have hdown : g.Alike cl
        ((cl.onTransport t fun x => x.signalShutdown.1).note (.loopbackShutDown reason)) :=
      { alike_onTransport cl hg _ with }
    exact hdown.trans (alike_runHooks (h.signalled t _)
      (fun hook hm => (h.toConfined.hook_of_signalled hm).trans hg) _)

theorem alike_openConnection (cl : Client) (hc : g.connection c = false) {t : TransportId}
    (ht : g.transport t = false) (r : RegistryId) (d : SubscriptionsId) (deaf : Bool) :
    g.Alike cl (cl.openConnection c t r d deaf) := by
  cases deaf with
  | true => exact { Alike.refl g cl with connections := .of_insert hc _ _ }
  | false =>
    exact { Alike.refl g cl with
      connections := .of_insert hc _ _
      transports := .of_modify ht _ _ }

/-- A factory may be of both groups, and how much it opened is told to neither. -/
theorem alike_onFactory (cl : Client) (f : FactoryId) {p : Factory → Factory}
    (hp : ∀ x, (p x).settings = x.settings) : g.Alike cl (cl.onFactory f p) :=
  { Alike.refl g cl with
    factories_has := fun _ => Table.has_modify _ _ _ _
    factories := cl.factories.proj_modify f hp }

theorem alike_connect (cl : Client) (f : FactoryId) (hc : g.connection c = false) {t : TransportId}
    (ht : g.transport t = false) {d : SubscriptionsId} (hd : g.subscriptions d = false) :
    g.Alike cl (cl.connect f c t d).1 := by
  cases hx : (cl.factory f).connector with
  | failing e =>
    simp only [connect, hx]
    exact .refl g cl
  | loopback =>
    simp only [connect, hx]
    refine Alike.trans ?_ (alike_onConnection _ hc _)
    refine Alike.trans ?_ (alike_openConnection _ hc ht _ d false)
    have hopened : g.Alike cl (cl.onFactory f fun x => { x with opened := x.opened + 1 }) :=
      alike_onFactory cl f fun _ => rfl
    exact { hopened with
      transports := .of_insert ht _ _
      subscriptions := .of_insert hd _ _ }

theorem alike_ifOpen {α : Type} {go : Unit → Client × Except MessagingError α}
    (h : g.Alike before cl) (hgo : g.Alike before (go ()).1) :
    g.Alike before (cl.ifOpen c go).1 := by
  unfold ifOpen
  split
  · exact h
  · exact hgo

theorem alike_foreclose (cl : Client) (hc : g.connection c = false) :
    g.Alike cl (cl.foreclose c) :=
  alike_onConnection cl hc _

theorem alike_metadata (cl : Client) (hc : g.connection c = false) :
    g.Alike cl (cl.metadata c).1 :=
  alike_ifOpen (alike_foreclose cl hc) (alike_foreclose cl hc)

theorem alike_exceptionListener (cl : Client) (hc : g.connection c = false) :
    g.Alike cl (cl.exceptionListener c).1 :=
  alike_ifOpen (alike_foreclose cl hc) (alike_foreclose cl hc)

theorem alike_setExceptionListener (cl : Client) (hc : g.connection c = false)
    (l : Option ListenerId) : g.Alike cl (cl.setExceptionListener c l).1 := by
  have hforeclosed := alike_foreclose cl hc
  exact alike_ifOpen hforeclosed (hforeclosed.trans (alike_onConnection _ hc _))

/-- A registry may be of both groups, and each finds its own client IDs there. -/
theorem alike_onRegistry (cl : Client) (r : RegistryId) (f : ClientIdRegistry → ClientIdRegistry)
    (hf : ∀ id, g.clientId r id = true →
      (f (cl.registry r)).holds id = (cl.registry r).holds id) :
    g.Alike cl (cl.onRegistry r f) where
  __ := Alike.refl g cl
  registries_has _ := Table.has_modify _ _ _ _
  claims r' id hid := by
    rcases cl.registries.get_modify_cases r f r' with hv | ⟨rfl, hv⟩
    · exact congrArg (ClientIdRegistry.holds · id) hv
    · exact (congrArg (ClientIdRegistry.holds · id) hv).trans (hf id hid)

/-- A claim of one group makes no difference to what the other group finds claimed. -/
theorem holds_of_claim {r : RegistryId} {x claimed : ClientIdRegistry} {id id' : String}
    (h : x.claim? id = some claimed) (hid : g.clientId r id = false)
    (hid' : g.clientId r id' = true) : claimed.holds id' = x.holds id' := by
  have hne : id' ≠ id := ne_of_group hid' hid
  rw [ClientIdRegistry.holds_of_claim? h, decide_eq_false hne, Bool.false_or]

theorem alike_setClientId (h : g.Settled cl) {id : String} (hg : g.connection c = false)
    (hid : g.clientId (g.registry c) id = false) : g.Alike cl (cl.setClientId c id).1 := by
  have hclaims := claims_setClientId cl c id
  generalize cl.setClientId c id = out at hclaims ⊢
  cases hclaims with
  | used => exact .refl g cl
  | closed => exact .refl g cl
  | identified => exact .refl g cl
  | collides => exact { Alike.refl g cl with }
  | succeeds claimed _ ho _ _ hcl =>
    have hr := (h.toConfined.connection c (has_connection ho)).registry
    have hclaimed : g.Alike cl (cl.onRegistry (cl.connection c).clientIds fun _ => claimed) := by
      refine alike_onRegistry cl _ _ fun id' hid' => holds_of_claim hcl ?_ hid'
      rw [hr]
      exact hid
    exact { hclaimed.trans (alike_onConnection _ hg _) with }

theorem alike_claimId (cl : Client) {r : RegistryId} {id : String} (hid : g.clientId r id = false) :
    g.Alike cl (cl.claimId r id).1 := by
  unfold claimId
  split
  · next claimed hcl => exact alike_onRegistry cl r _ fun _ hid' => holds_of_claim hcl hid hid'
  · exact { Alike.refl g cl with }

theorem alike_releaseId (cl : Client) {r : RegistryId} {id : String}
    (hid : g.clientId r id = false) : g.Alike cl (cl.releaseId r id) := by
  unfold releaseId
  split
  · have hreleased : g.Alike cl (cl.onRegistry r fun x => x.release id) := by
      refine alike_onRegistry cl r _ fun id' hid' => ?_
      have hne : some id ≠ some id' := fun he => ne_of_group hid' hid (Option.some.inj he).symm
      refine ((cl.registry r).holds_without (some id) id').trans ?_
      rw [decide_eq_true hne, Bool.and_true]
    exact { hreleased with }
  · exact .refl g cl

theorem alike_createSessionOf (cl : Client) (hc : g.connection c = false)
    (hs : g.session s = false) (kind : SessionKind) (transacted : Bool) (mode : AcknowledgeMode) :
    g.Alike cl (createSessionOf kind cl c s transacted mode).1 := by
  have hplain : g.Alike cl (cl.createSession c s transacted mode).1 := by
    refine alike_ifOpen (alike_foreclose cl hc) ?_
    exact { Alike.refl g cl with
      connections := (Table.Agree.of_modify hc _ _).trans (.of_modify hc _ _)
      sessions := .of_insert hs _ _ }
  cases kind with
  | plain => exact hplain
  | queue => exact alike_ifOpen (.refl g cl) hplain
  | topic => exact alike_ifOpen (.refl g cl) hplain

theorem alike_switches {stopped : Bool} (h : Switches c stopped before after)
    (hc : g.connection c = false) (hs : ∀ s ∈ (before.connection c).sessions, g.session s = false) :
    g.Alike before after := by
  have hrest : after.surroundings = before.surroundings := (congrArg surroundings h.rest :)
  refine (Alike.refl g before).of_surroundings rfl hrest ?_ ?_ ?_
  · refine (Table.Agree.refl _ _).of_keys rfl h.connection_keys fun c' hc' => ?_
    exact (h.connection c').trans (if_neg (ne_of_group hc' hc))
  · refine (Table.Agree.refl _ _).of_keys rfl h.session_keys fun s' hs' => ?_
    exact (h.session s').trans (if_neg fun hm => Bool.false_ne_true ((hs s' hm).symm.trans hs'))
  · rw [h.consumers]
    exact .refl _ _

theorem alike_switch (h : g.Settled cl) (hc : cl.connections.has c = true)
    (hg : g.connection c = false) (stopped : Bool) : g.Alike cl (cl.switch c stopped).1 := by
  have hf := alike_foreclose cl hg
  cases ho : (cl.connection c).closed with
  | true =>
    rw [switch_of_closed hc ho]
    exact hf
  | false =>
    by_cases hst : (cl.connection c).stopped = stopped
    · rw [switch_of_stopped ho hst]
      exact hf
    · refine hf.trans (alike_switches (switches_switch h.toWellFormed ho hst) hg fun s hm => ?_)
      rw [connection_foreclose hc, if_pos rfl] at hm
      exact (h.session_of_listed hm).trans hg

theorem alike_addConsumer (cl : Client) {k : ConsumerId} (hk : g.consumer k = false) {x : Consumer}
    (hs : g.session x.session = false) : g.Alike cl (cl.addConsumer k x) :=
  { Alike.refl g cl with consumers := .of_insert hk _ _, sessions := .of_modify hs _ _ }

theorem alike_onDurables (cl : Client) {d : SubscriptionsId} (hd : g.subscriptions d = false)
    (f : DurableSubscriptions → DurableSubscriptions) : g.Alike cl (cl.onDurables d f) :=
  { Alike.refl g cl with subscriptions := .of_modify hd _ _ }

theorem alike_createConsumer (cl : Client) {k : ConsumerId} (hs : g.session s = false)
    (hk : g.consumer k = false) (token : String) (destination : Destination)
    (selector : Option String) :
    g.Alike cl (cl.createConsumer s k token destination selector).1 := by
  unfold createConsumer
  split
  · exact .refl g cl
  · exact { alike_addConsumer cl hk hs with }

theorem alike_createDurable (h : g.Settled cl) {k : ConsumerId} (hhas : cl.sessions.has s = true)
    (hs : g.session s = false) (hk : g.consumer k = false) (token : String) (topic : Destination)
    (name : String) (selector : Option String) :
    g.Alike cl (cl.createDurable s k token topic name selector).1 := by
  have hd := (h.toConfined.session_subscriptions h.toWellFormed hhas).trans hs
  have hsub := subscribing_createDurable cl s k token topic name selector
  generalize cl.createDurable s k token topic name selector = out at hsub ⊢
  cases hsub with
  | fails e => exact .refl g cl
  | succeeds after log _ _ =>
    exact { (alike_onDurables cl hd _).trans (alike_addConsumer _ hk hs) with }

theorem alike_unsubscribe (h : g.Settled cl) (hhas : cl.sessions.has s = true)
    (hs : g.session s = false) (name : String) : g.Alike cl (cl.unsubscribe s name).1 := by
  have hd := (h.toConfined.session_subscriptions h.toWellFormed hhas).trans hs
  have hremoved : g.Alike cl (cl.removeDurable (cl.session s).subscriptions name).1 :=
    alike_onDurables cl hd _
  unfold unsubscribe
  dsimp only
  split
  · exact .refl g cl
  · split
    · exact .refl g cl
    · split
      · next he =>
        rw [he] at hremoved
        exact { hremoved with }
      · next he =>
        rw [he] at hremoved
        exact hremoved

theorem alike_bindDurable (cl : Client) {d : SubscriptionsId} (hd : g.subscriptions d = false)
    (name : String) (k : ConsumerId) : g.Alike cl (cl.bindDurable d name k).1 := by
  unfold bindDurable
  split
  · exact { alike_onDurables cl hd _ with }
  · exact { alike_onDurables cl hd _ with }
  · exact .refl g cl

theorem alike_readObject (cl : Client) (s : SessionId) (m : ObjectMessage) (t : PayloadType)
    (complaint : Complaint) : g.Alike cl (cl.readObject s m t complaint).1 := by
  unfold readObject countRefusal
  dsimp only
  split
  · exact { Alike.refl g cl with }
  · exact .refl g cl

/-- A listener of the other group is none that both use. -/
theorem alike_makeListener (cl : Client) {l : ListenerId} (hl : g.listener l = some false)
    (x : Listener) : g.Alike cl { cl with listeners := cl.listeners.insert l x } where
  __ := Alike.refl g cl
  listeners := by
    refine .of_insert ?_ _ _
    rw [hl]
    rfl
  shared_has l' hl' := by
    have hne : l' ≠ l := by
      rintro rfl
      rw [hl] at hl'
      cases hl'
    refine (Table.has_insert_eq _ _ _ _).trans ?_
    rw [decide_eq_false hne, Bool.false_or]

/-- A call on the other group changes nothing that the group finds. -/
theorem alike_perform (h : g.Settled cl) {call : Call} (ha : cl.admits call = true)
    (hf : g.fits call = true) (hs : g.side call = some false) :
    g.Alike cl (cl.perform call).1 := by
  cases call with
  | makeRegistry r => cases hs
  | makeFactory f config connector r => cases hs
  | makeSubscriptions d =>
    exact { Alike.refl g cl with subscriptions := .of_insert (Option.some.inj hs) _ _ }
  | makeListener l closes => exact alike_makeListener cl hs _
  | openTransport t =>
    exact { Alike.refl g cl with transports := .of_insert (Option.some.inj hs) _ _ }
  | openConnection c t r d deaf =>
    have hc := Option.some.inj hs
    simp only [fits, Bool.and_eq_true, beq_iff_eq] at hf
    exact alike_openConnection cl hc (hf.1.1.trans hc) r d deaf
  | connect f c t d =>
    have hc := Option.some.inj hs
    simp only [fits, Bool.and_eq_true, beq_iff_eq] at hf
    exact alike_connect cl f hc (hf.1.1.trans hc) (hf.1.2.trans hc)
  | share c => exact alike_onConnection cl (Option.some.inj hs) _
  | drop c => exact alike_drop h (Option.some.inj hs) (has_connection_of_isReferred ha)
  | dropGuard c => exact alike_dropGuard h (Option.some.inj hs) (has_connection_of_isReferred ha)
  | releaseGuard c => exact { Alike.refl g cl with }
  | createSession kind c s transacted mode =>
    have hc := Option.some.inj hs
    exact alike_createSessionOf cl hc ((beq_iff_eq.mp hf).trans hc) kind transacted mode
  | clientId c => exact .refl g cl
  | setClientId c id =>
    have hc := Option.some.inj hs
    exact alike_setClientId h hc ((beq_iff_eq.mp hf).trans hc)
  | metadata c => exact alike_metadata cl (Option.some.inj hs)
  | exceptionListener c => exact alike_exceptionListener cl (Option.some.inj hs)
  | setExceptionListener c l => exact alike_setExceptionListener cl (Option.some.inj hs) l
  | start c =>
    exact alike_switch h (has_connection_of_isReferred ha) (Option.some.inj hs) false
  | stop c => exact alike_switch h (has_connection_of_isReferred ha) (Option.some.inj hs) true
  | close c => exact alike_close h (Option.some.inj hs)
  | setTerminationTimeout c timeout => exact alike_onConnection cl (Option.some.inj hs) _
  | setTrusted c trusted => exact alike_onConnection cl (Option.some.inj hs) _
  | connectionConsumer c durable => exact .refl g cl
  | transportShutDown c cause =>
    exact alike_transportShutDown h (has_connection_of_isReferred ha) (Option.some.inj hs) cause
  | addRecorder t r =>
    have ht := Option.some.inj hs
    have hr : g.recorder r = false := (beq_iff_eq.mp hf).trans ht
    exact { alike_onTransport cl ht _ with recorders := .of_insert hr _ _ }
  | signal t reason => exact alike_signal h (Option.some.inj hs) reason
  | failNextClose t failure => exact alike_onTransport cl (Option.some.inj hs) _
  | closeTransport t => exact alike_onTransport cl (Option.some.inj hs) _
  | closeSession s => exact alike_closeSession h ha (Option.some.inj hs)
  | pause s => exact { Alike.refl g cl with sessions := .of_modify (Option.some.inj hs) _ _ }
  | resume s => exact { Alike.refl g cl with sessions := .of_modify (Option.some.inj hs) _ _ }
  | readObject s m t words => exact alike_readObject cl s m t fun _ _ => words
  | createConsumer s k token destination selector =>
    have hsg := Option.some.inj hs
    simp only [fits, Bool.and_eq_true, beq_iff_eq] at hf
    exact alike_createConsumer cl hsg (hf.1.trans hsg) token destination selector
  | createDurable s k token topic name selector =>
    have hsg := Option.some.inj hs
    simp only [fits, Bool.and_eq_true, beq_iff_eq] at hf
    simp only [admits, admitsConsumer, Bool.and_eq_true] at ha
    exact alike_createDurable h ha.1.1 hsg (hf.1.trans hsg) token topic name selector
  | unsubscribe s name => exact alike_unsubscribe h ha (Option.some.inj hs) name
  | closeConsumer k => exact alike_closeConsumer h (Option.some.inj hs)
  | claimId r id => exact alike_claimId cl (Option.some.inj hs)
  | releaseId r id => exact alike_releaseId cl (Option.some.inj hs)
  | bindDurable d name k => exact alike_bindDurable cl (Option.some.inj hs) name k
  | removeDurable d name => exact alike_onDurables cl (Option.some.inj hs) _

theorem alike_step (h : g.Settled cl) {call : Call} (hf : g.fits call = true)
    (hs : g.side call = some false) : g.Alike cl (cl.step call).1 := by
  unfold step
  split
  · next ha => exact alike_perform h ha hf hs
  · exact .refl g cl

end BrokerClient.Split
