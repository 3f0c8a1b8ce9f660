import Mathlib.Logic.Relation
import BrokerClient.Proofs.Client.Aside
import BrokerClient.Proofs.Client.Growing
import BrokerClient.Proofs.Client.Retiring
import BrokerClient.Proofs.Client.Switching

/-!
# What a step can do

The changes that calls are made of. Every call is a sequence of them, so whatever each change keeps,
every call keeps. A change that only certain calls make says which, and so an invariant may leave
those calls out.
-/

namespace BrokerClient

/-- What calls that look at a connection or adjust it leave alone. -/
def Connection.bearing (x : Connection) : Connection :=
  { x with
    listener := none
    assignable := true
    terminationTimeout := defaultTerminationTimeout
    trusted := .default
    handles := 0 }

/-- The call uses the connection for more than a client ID, whatever comes of it. -/
def Call.isUseOf (c : ConnectionId) : Call → Bool
  | .createSession _ c' .. | .metadata c' | .exceptionListener c' | .setExceptionListener c' _
  | .start c' | .stop c' => c' == c
  | _ => false

def Call.isTrustOf (c : ConnectionId) : Call → Bool
  | .connect _ c' .. | .setTrusted c' _ => c' == c
  | _ => false

namespace Client

/-- The client with a client ID given to a connection and claimed in its registry. -/
def identified (cl : Client) (c : ConnectionId) (id : String) (claimed : ClientIdRegistry) :
    Client :=
  (cl.onRegistry (cl.connection c).clientIds fun _ => claimed).onConnection c fun x =>
    { x with clientId := some id }

theorem connection_identified {cl : Client} {c : ConnectionId}
    (ho : (cl.connection c).closed = false) (id : String) (claimed : ClientIdRegistry)
    (c' : ConnectionId) :
    (cl.identified c id claimed).connection c' =
      if c' = c then { cl.connection c with clientId := some id } else cl.connection c' :=
  Table.get_modify_of_has (has_connection ho) _ c'

/-- One of the changes that allowed calls are made of. -/
inductive Change (allowed : Call → Prop) (cl : Client) : Client → Prop where
  | aside {after : Client} : Aside allowed cl after → Change allowed cl after
  | openConnection (c : ConnectionId) (t : TransportId) (r : RegistryId) (d : SubscriptionsId) :
    cl.connections.has c = false → cl.transports.has t = true → cl.registries.has r = true →
      cl.subscriptions.has d = true →
      ((∃ deaf, allowed (.openConnection c t r d deaf)) ∨ ∃ f, allowed (.connect f c t d) ∧
        cl.factories.has f = true ∧ (cl.factory f).clientIds = r) →
      Change allowed cl (cl.withConnection c (.fresh t r d))
  | adjust (c : ConnectionId) (f : Connection → Connection) :
    cl.connections.has c = true → (f (cl.connection c)).bearing = (cl.connection c).bearing →
      ((cl.connection c).closed = false → (f (cl.connection c)).isReferred = true) →
      ((f (cl.connection c)).assignable = (cl.connection c).assignable ∨
        ∃ call, allowed call ∧ call.isUseOf c = true) →
      ((f (cl.connection c)).listener = (cl.connection c).listener ∨
        (cl.connection c).closed = false ∧
          allowed (.setExceptionListener c (f (cl.connection c)).listener)) →
      Explained allowed (Call.isTrustOf c) (cl.connection c).trusted
        (f (cl.connection c)).trusted →
      Change allowed cl (cl.onConnection c f)
  | identify (c : ConnectionId) (id : String) (claimed : ClientIdRegistry) :
    (cl.connection c).closed = false → (cl.connection c).clientId = none →
      (cl.registry (cl.connection c).clientIds).claim? id = some claimed →
      allowed (.setClientId c id) → Change allowed cl (cl.identified c id claimed)
  | collide (id : String) :
    (∃ c, allowed (.setClientId c id)) ∨ (∃ r, allowed (.claimId r id)) →
      Change allowed cl (cl.count Metrics.collided)
  | createSession (c : ConnectionId) (s : SessionId) (transacted : Bool)
      (mode : AcknowledgeMode) :
    (cl.connection c).closed = false → cl.sessions.has s = false →
      (∃ kind, allowed (.createSession kind c s transacted mode)) →
      Change allowed cl (cl.withSession c s (cl.nextSession c transacted mode))
  | switch {after : Client} (c : ConnectionId) (stopped : Bool) :
    allowed (.switch c stopped) → (cl.connection c).closed = false →
      Switches c stopped cl after → Change allowed cl after
  | tell (s : SessionId) (paused : Bool) :
    allowed (.tell s paused) → cl.sessions.has s = true →
      Change allowed cl (tell paused cl s)
  | shut {after : Client} (c : ConnectionId) (ss : List SessionId) :
    ss.Nodup → (∀ s ∈ ss, s ∈ (cl.connection c).sessions) → Shuts c ss cl after →
      Change allowed cl after
  | retire {after : Client} (c : ConnectionId) (handles : Nat) :
    (cl.connection c).closed = false → (cl.connection c).sessions = [] →
      Retires c handles cl after → Change allowed cl after
  | addConsumer (k : ConsumerId) (x : Consumer) :
    (cl.session x.session).closed = false → cl.consumers.has k = false →
      cl.hasTag x.tag = false → x.closed = false → x.subscription = none →
      (∃ token destination selector, x.tag = Consumer.tagOf token ∧
        allowed (.createConsumer x.session k token destination selector)) →
      Change allowed cl (cl.addConsumer k x)
  | subscribe (k : ConsumerId) (x : Consumer) (name : String) (d : DurableSubscriptions) :
    (cl.session x.session).closed = false → cl.consumers.has k = false →
      cl.hasTag x.tag = false → x.closed = false → x.subscription = some name →
      ((cl.durables (cl.session x.session).subscriptions).bind cl.isOpen name k = .bound d ∨
        (cl.durables (cl.session x.session).subscriptions).bind cl.isOpen name k = .rebound d) →
      (∃ token topic selector, x.tag = Consumer.tagOf token ∧
        allowed (.createDurable x.session k token topic name selector)) →
      Change allowed cl
        ((cl.onDurables (cl.session x.session).subscriptions fun _ => d).addConsumer k x)
  | unsubscribe (s : SessionId) (name : String) :
    (cl.session s).closed = false →
      cl.activeConsumer? (cl.session s).subscriptions name = none →
      allowed (.unsubscribe s name) →
      Change allowed cl
        (cl.onDurables (cl.session s).subscriptions fun x => x.remove name)
  | closeConsumer {after : Client} (k : ConsumerId) :
    (cl.consumer k).closed = false → Detaches k cl after → Change allowed cl after
  | claims (r : RegistryId) (f : ClientIdRegistry → ClientIdRegistry) (id : String) :
    allowed (.claimId r id) ∨ allowed (.releaseId r id) →
      Change allowed cl (cl.onRegistry r f)
  | bindings (d : SubscriptionsId) (f : DurableSubscriptions → DurableSubscriptions)
      (name : String) (k : ConsumerId) :
    allowed (.bindDurable d name k) ∨ allowed (.removeDurable d name) →
      (∀ n k', (f (cl.durables d)).get? n = some k' →
        (cl.durables d).get? n = some k' ∨ allowed (.bindDurable d n k')) →
      Change allowed cl (cl.onDurables d f)
  | closeTransport (t : TransportId) :
    allowed (.closeTransport t) → Change allowed cl (cl.onTransport t fun x => x.close.1)

variable {cl : Client}

/-- A change of one connection that keeps its references. -/
theorem sameShape_onConnection {c : ConnectionId} {f : Connection → Connection}
    (hc : cl.connections.has c = true)
    (hf : (f (cl.connection c)).skeleton = (cl.connection c).skeleton) :
    SameShape cl (cl.onConnection c f) where
  connection c' := by
    rw [connection_onConnection_of_has hc]
    split
    · next he => rw [he, hf]
    · rfl
  session _ := rfl
  consumer _ := rfl
  connections_has _ := Table.has_modify _ _ _ _
  sessions_has _ := rfl
  consumers_has _ := rfl
  registries_has _ h := h
  subscriptions_has _ h := h
  transports_has _ h := h
  factory _ h := Or.inr ⟨h, rfl⟩

theorem Sound.onConnection (hs : Sound cl) {c : ConnectionId} {f : Connection → Connection}
    (hc : cl.connections.has c = true)
    (hf : (f (cl.connection c)).skeleton = (cl.connection c).skeleton)
    (hclosed : (f (cl.connection c)).closed = (cl.connection c).closed)
    (hr : (cl.connection c).closed = false → (f (cl.connection c)).isReferred = true) :
    Sound (cl.onConnection c f) := by
  have hv := connection_onConnection_of_has hc f
  refine hs.of_sameShape (sameShape_onConnection hc hf) ?_ ?_
  · intro c' hcl
    rw [hv] at hcl
    split at hcl
    · next he =>
      rw [hclosed] at hcl
      rw [he]
      exact hs.closed_bare c hcl
    · exact hs.closed_bare c' hcl
  · intro c' ho
    rw [hv] at ho ⊢
    split
    · next he =>
      rw [if_pos he, hclosed] at ho
      exact hr ho
    · next he =>
      rw [if_neg he] at ho
      exact hs.referred c' ho

/-- What registries hold makes no difference to the references. -/
theorem Sound.onRegistry (hs : Sound cl) (r : RegistryId)
    (f : ClientIdRegistry → ClientIdRegistry) : Sound (cl.onRegistry r f) := by
  refine hs.of_sameShape ?_ hs.closed_bare hs.referred
  have hr : ∀ r', (cl.onRegistry r f).registries.has r' = cl.registries.has r' :=
    Table.has_modify _ _ _
  exact {
    connection := fun _ => rfl
    session := fun _ => rfl
    consumer := fun _ => rfl
    connections_has := fun _ => rfl
    sessions_has := fun _ => rfl
    consumers_has := fun _ => rfl
    registries_has := fun r' h => (hr r').trans h
    subscriptions_has := fun _ h => h
    transports_has := fun _ h => h
    factory := fun _ h => Or.inr ⟨h, rfl⟩ }

/-- What is bound makes no difference to the references. -/
theorem Sound.onDurables (hs : Sound cl) (d : SubscriptionsId)
    (f : DurableSubscriptions → DurableSubscriptions) : Sound (cl.onDurables d f) := by
  refine hs.of_sameShape ?_ hs.closed_bare hs.referred
  have hd : ∀ d', (cl.onDurables d f).subscriptions.has d' = cl.subscriptions.has d' :=
    Table.has_modify _ _ _
  exact {
    connection := fun _ => rfl
    session := fun _ => rfl
    consumer := fun _ => rfl
    connections_has := fun _ => rfl
    sessions_has := fun _ => rfl
    consumers_has := fun _ => rfl
    registries_has := fun _ h => h
    subscriptions_has := fun d' h => (hd d').trans h
    transports_has := fun _ h => h
    factory := fun _ h => Or.inr ⟨h, rfl⟩ }

/-- What is counted makes no difference to the references. -/
theorem Sound.count (hs : Sound cl) (f : Metrics → Metrics) : Sound (cl.count f) := by
  refine hs.of_sameShape ?_ hs.closed_bare hs.referred
  exact {
    connection := fun _ => rfl
    session := fun _ => rfl
    consumer := fun _ => rfl
    connections_has := fun _ => rfl
    sessions_has := fun _ => rfl
    consumers_has := fun _ => rfl
    registries_has := fun _ h => h
    subscriptions_has := fun _ h => h
    transports_has := fun _ h => h
    factory := fun _ h => Or.inr ⟨h, rfl⟩ }

/-- What transports are like makes no difference to the references. -/
theorem Sound.onTransport (hs : Sound cl) (t : TransportId) (f : Transport → Transport) :
    Sound (cl.onTransport t f) := by
  refine hs.of_sameShape ?_ hs.closed_bare hs.referred
  exact {
    connection := fun _ => rfl
    session := fun _ => rfl
    consumer := fun _ => rfl
    connections_has := fun _ => rfl
    sessions_has := fun _ => rfl
    consumers_has := fun _ => rfl
    registries_has := fun _ h => h
    subscriptions_has := fun _ h => h
    transports_has := fun _ h => (Table.has_modify _ _ _ _).trans h
    factory := fun _ h => Or.inr ⟨h, rfl⟩ }

theorem Sound.tell (hs : Sound cl) {s : SessionId} (h : cl.sessions.has s = true)
    (paused : Bool) : Sound (tell paused cl s) := by
  refine hs.of_sameShape ?_ hs.closed_bare hs.referred
  exact {
    connection := fun _ => rfl
    session := fun s' => by
      rw [session_tell h]
      split
      · next he => rw [he, Session.skeleton_tell]
      · rfl
    consumer := fun _ => rfl
    connections_has := fun _ => rfl
    sessions_has := fun _ => Table.has_modify _ _ _ _
    consumers_has := fun _ => rfl
    registries_has := fun _ h => h
    subscriptions_has := fun _ h => h
    transports_has := fun _ h => h
    factory := fun _ h => Or.inr ⟨h, rfl⟩ }

theorem Sound.switches {c : ConnectionId} {stopped : Bool} {before after : Client}
    (hs : Sound before) (h : Switches c stopped before after) : Sound after := by
  refine hs.of_sameShape h.sameShape ?_ ?_
  · intro c' hc
    rw [h.connection_eq] at hc
    exact hs.closed_bare c' hc
  · intro c' ho
    rw [h.connection_eq] at ho ⊢
    exact hs.referred c' ho

/-- Every change keeps a client sound. -/
theorem Sound.change {allowed : Call → Prop} {before after : Client} (hs : Sound before)
    (h : Change allowed before after) : Sound after := by
  cases h with
  | aside h => exact hs.aside h
  | openConnection c t r d hc ht hr hd _ => exact hs.withConnection hc ht hr hd
  | adjust c f hc hf hr _ _ _ =>
    refine hs.onConnection hc ?_ (congrArg Connection.closed hf :) hr
    exact (congrArg Connection.skeleton hf :)
  | identify c id claimed ho hn hcl _ =>
    refine (hs.onRegistry _ _).onConnection (has_connection ho) rfl rfl fun ho => ?_
    exact hs.referred c ho
  | collide id _ => exact hs.count _
  | createSession c s transacted mode ho hn _ => exact hs.withSession ho hn transacted mode
  | switch c stopped _ _ h => exact hs.switches h
  | tell s paused _ h => exact hs.tell h paused
  | shut c ss _ hc h => exact hs.shuts h fun s hm => (hs.listed_open c s (hc s hm)).2
  | retire c handles _ hb h => exact hs.retires h hb
  | addConsumer k x ho hk ht hx _ _ => exact hs.addConsumer ho hk ht hx
  | subscribe k x name d ho hk ht hx _ _ _ => exact (hs.onDurables _ _).addConsumer ho hk ht hx
  | unsubscribe s name _ _ _ => exact hs.onDurables _ _
  | closeConsumer k _ h => exact hs.detaches h
  | claims r f _ _ => exact hs.onRegistry r f
  | bindings d f _ _ _ _ => exact hs.onDurables d f
  | closeTransport t _ => exact hs.onTransport t _

/-- Some changes that allowed calls are made of, one after the other. -/
abbrev Changes (allowed : Call → Prop) : Client → Client → Prop :=
  Relation.ReflTransGen (Change allowed)

variable {allowed : Call → Prop} {before after : Client}

theorem Change.changes (h : Change allowed before after) : Changes allowed before after :=
  Relation.ReflTransGen.single h

/-- Changes that end with one aside. -/
theorem Changes.aside {middle : Client} (h : Changes allowed before middle)
    (ha : Aside allowed middle after) : Changes allowed before after :=
  h.tail (.aside ha)

theorem Aside.changes (h : Aside allowed before after) : Changes allowed before after :=
  (Change.aside h).changes

theorem Sound.changes (hs : Sound before) (h : Changes allowed before after) : Sound after := by
  induction h with
  | refl => exact hs
  | tail _ hc ih => exact ih.change hc

end Client

end BrokerClient
