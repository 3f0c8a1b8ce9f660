import BrokerClient.Proofs.Client.Change

/-!
# What no change undoes

Objects never go away and keep what they were made with. What is closed stays closed, and a client
ID once given stays with its connection. A closed connection also keeps its direction and its
exception listener.
-/

namespace BrokerClient

/-- What a connection is made with. -/
def Connection.origin (x : Connection) : TransportId × RegistryId × SubscriptionsId :=
  (x.transport, x.clientIds, x.subscriptions)

/-- What no call changes about a closed connection. -/
def Connection.legacy (x : Connection) : Bool × Option ListenerId × Option String :=
  (x.stopped, x.listener, x.clientId)

def Session.origin (x : Session) : Session :=
  { x with closed := false, paused := true, pauses := 0, resumes := 0, consumers := [] }

structure Connection.Continues (x y : Connection) : Prop where
  origin : y.origin = x.origin
  closed : x.closed = true → y.closed = true
  clientId : ∀ id, x.clientId = some id → y.clientId = some id
  legacy : x.closed = true → y.legacy = x.legacy

structure Session.Continues (x y : Session) : Prop where
  origin : y.origin = x.origin
  closed : x.closed = true → y.closed = true

structure Consumer.Continues (x y : Consumer) : Prop where
  origin : y.shut = x.shut
  closed : x.closed = true → y.closed = true

theorem Connection.Continues.refl (x : Connection) : x.Continues x :=
  ⟨rfl, id, fun _ => id, fun _ => rfl⟩

theorem Session.Continues.refl (x : Session) : x.Continues x := ⟨rfl, id⟩

theorem Consumer.Continues.refl (x : Consumer) : x.Continues x := ⟨rfl, id⟩

theorem Connection.Continues.trans {x y z : Connection} (h : x.Continues y) (h' : y.Continues z) :
    x.Continues z where
  origin := h'.origin.trans h.origin
  closed hc := h'.closed (h.closed hc)
  clientId id hi := h'.clientId id (h.clientId id hi)
  legacy hc := (h'.legacy (h.closed hc)).trans (h.legacy hc)

theorem Session.Continues.trans {x y z : Session} (h : x.Continues y) (h' : y.Continues z) :
    x.Continues z where
  origin := h'.origin.trans h.origin
  closed hc := h'.closed (h.closed hc)

theorem Consumer.Continues.trans {x y z : Consumer} (h : x.Continues y) (h' : y.Continues z) :
    x.Continues z where
  origin := h'.origin.trans h.origin
  closed hc := h'.closed (h.closed hc)

theorem Session.continues_shut (x : Session) : x.Continues x.shut := ⟨rfl, fun _ => rfl⟩

theorem Consumer.continues_shut (x : Consumer) : x.Continues x.shut := ⟨rfl, fun _ => rfl⟩

theorem Session.continues_tell (x : Session) (paused : Bool) : x.Continues (x.tell paused) := by
  cases paused <;> exact ⟨rfl, id⟩

namespace Client

/-- Every object of the first client is in the second, at a later time. -/
structure Continues (before after : Client) : Prop where
  connections_has : ∀ c, before.connections.has c = true → after.connections.has c = true
  sessions_has : ∀ s, before.sessions.has s = true → after.sessions.has s = true
  consumers_has : ∀ k, before.consumers.has k = true → after.consumers.has k = true
  connection : ∀ c, before.connections.has c = true →
    (before.connection c).Continues (after.connection c)
  session : ∀ s, before.sessions.has s = true → (before.session s).Continues (after.session s)
  consumer : ∀ k, before.consumers.has k = true → (before.consumer k).Continues (after.consumer k)

namespace Continues

variable {before after : Client}

theorem refl (cl : Client) : Continues cl cl where
  connections_has _ h := h
  sessions_has _ h := h
  consumers_has _ h := h
  connection _ _ := .refl _
  session _ _ := .refl _
  consumer _ _ := .refl _

theorem trans {middle : Client} (h : Continues before middle) (h' : Continues middle after) :
    Continues before after where
  connections_has c hc := h'.connections_has c (h.connections_has c hc)
  sessions_has s hs := h'.sessions_has s (h.sessions_has s hs)
  consumers_has k hk := h'.consumers_has k (h.consumers_has k hk)
  connection c hc := (h.connection c hc).trans (h'.connection c (h.connections_has c hc))
  session s hs := (h.session s hs).trans (h'.session s (h.sessions_has s hs))
  consumer k hk := (h.consumer k hk).trans (h'.consumer k (h.consumers_has k hk))

/-- Tables that do not change continue. -/
theorem of_connections (hs : after.sessions = before.sessions)
    (hk : after.consumers = before.consumers)
    (hc : ∀ c, before.connections.has c = true → after.connections.has c = true ∧
      (before.connection c).Continues (after.connection c)) : Continues before after where
  connections_has c h := (hc c h).1
  sessions_has s h := by
    rw [hs]
    exact h
  consumers_has k h := by
    rw [hk]
    exact h
  connection c h := (hc c h).2
  session s _ := by
    rw [session_congr hs]
    exact .refl _
  consumer k _ := by
    rw [consumer_congr hk]
    exact .refl _

theorem of_tables (hc : after.connections = before.connections)
    (hs : after.sessions = before.sessions) (hk : after.consumers = before.consumers) :
    Continues before after := by
  refine of_connections hs hk fun c h => ?_
  rw [hc, connection_congr hc]
  exact ⟨h, .refl _⟩

end Continues

variable {cl : Client}

theorem continues_onConnection {c : ConnectionId} {f : Connection → Connection}
    (hc : cl.connections.has c = true) (hf : (cl.connection c).Continues (f (cl.connection c))) :
    Continues cl (cl.onConnection c f) := by
  refine .of_connections rfl rfl fun c' h => ⟨(Table.has_modify _ _ _ _).trans h, ?_⟩
  rw [connection_onConnection_of_has hc]
  split
  · next he => rw [he]; exact hf
  · exact .refl _

theorem continues_addConsumer {k : ConsumerId} {x : Consumer}
    (hs : cl.sessions.has x.session = true) (hk : cl.consumers.has k = false) :
    Continues cl (cl.addConsumer k x) where
  connections_has _ h := h
  sessions_has s h := (Table.has_modify _ _ _ _).trans h
  consumers_has _ h := Table.has_insert_of_has h _ _
  connection _ _ := .refl _
  session s _ := by
    rw [session_addConsumer_eq hs]
    exact ⟨rfl, id⟩
  consumer k' h := by
    rw [consumer_addConsumer hk, if_neg (Table.ne_of_has h hk)]
    exact .refl _

theorem Shuts.continues {c : ConnectionId} {ss : List SessionId} {before after : Client}
    (h : Shuts c ss before after) : Continues before after where
  connections_has c' hc := (h.connections_has c').trans hc
  sessions_has s hs := (h.sessions_has s).trans hs
  consumers_has k hk := (h.consumers_has k).trans hk
  connection c' _ := by
    rw [h.connection_eq]
    exact ⟨rfl, id, fun _ => id, fun _ => rfl⟩
  session s _ := by
    rw [h.session]
    split
    · exact Session.continues_shut _
    · exact .refl _
  consumer k _ := by
    rw [h.consumer]
    split
    · exact Consumer.continues_shut _
    · exact .refl _

theorem Change.continues {allowed : Call → Prop} {before after : Client}
    (h : Change allowed before after) : Continues before after := by
  cases h with
  | aside h => exact .of_tables h.connections h.sessions h.consumers
  | openConnection c t r d hc _ _ _ _ =>
    refine .of_connections rfl rfl fun c' h => ?_
    refine ⟨Table.has_insert_of_has h _ _, ?_⟩
    rw [connection_withConnection hc, if_neg (Table.ne_of_has h hc)]
    exact .refl _
  | adjust c f hc hf _ _ hl _ =>
    have hid : (f (before.connection c)).clientId = (before.connection c).clientId :=
      (congrArg Connection.clientId hf :)
    have hstopped : (f (before.connection c)).stopped = (before.connection c).stopped :=
      (congrArg Connection.stopped hf :)
    refine continues_onConnection hc ⟨(congrArg Connection.origin hf :), ?_, ?_, ?_⟩
    · intro h
      exact (congrArg Connection.closed hf :).trans h
    · intro id h
      exact hid.trans h
    · intro h
      have hlistener : (f (before.connection c)).listener = (before.connection c).listener :=
        hl.resolve_right fun ho => Bool.false_ne_true (ho.1.symm.trans h)
      rw [Connection.legacy, hid, hstopped, hlistener, Connection.legacy]
  | identify c id claimed ho hn _ _ =>
    let given : Client := before.onRegistry (before.connection c).clientIds fun _ => claimed
    have hg : Continues before given := .of_tables rfl rfl rfl
    refine hg.trans (continues_onConnection (has_connection ho) ⟨rfl, fun h => h, ?_, ?_⟩)
    · intro id' h
      exact absurd (h.symm.trans hn) nofun
    · intro h
      exact absurd (ho.symm.trans h) Bool.false_ne_true
  | collide id _ => exact .of_tables rfl rfl rfl
  | createSession c s transacted mode ho hn _ =>
    have hc := has_connection ho
    exact {
      connections_has := fun c' h => (Table.has_modify _ _ _ _).trans h
      sessions_has := fun s' h => Table.has_insert_of_has h _ _
      consumers_has := fun _ h => h
      connection := fun c' _ => by
        obtain ⟨ss, n, -, he⟩ := connection_withSession_eq hc s
          (before.nextSession c transacted mode) c'
        rw [he]
        exact ⟨rfl, fun h => h, fun _ h => h, fun _ => rfl⟩
      session := fun s' h => by
        rw [session_withSession hn, if_neg (Table.ne_of_has h hn)]
        exact .refl _
      consumer := fun _ _ => .refl _ }
  | switch c stopped _ ho h =>
    exact {
      connections_has := fun c' hc => (Table.has_congr h.connection_keys c').trans hc
      sessions_has := fun s hs => (Table.has_congr h.session_keys s).trans hs
      consumers_has := fun k hk => by rw [h.consumers]; exact hk
      connection := fun c' _ => by
        rw [h.connection]
        split
        · next he =>
          rw [he]
          refine ⟨rfl, fun h => h, fun _ h => h, fun hc => ?_⟩
          exact absurd (ho.symm.trans hc) Bool.false_ne_true
        · exact .refl _
      session := fun s _ => by
        rw [h.session]
        split
        · exact Session.continues_tell _ _
        · exact .refl _
      consumer := fun k _ => by
        rw [consumer_congr h.consumers]
        exact .refl _ }
  | tell s paused _ h =>
    exact {
      connections_has := fun _ h => h
      sessions_has := fun s' hs' => (Table.has_modify _ _ _ _).trans hs'
      consumers_has := fun _ h => h
      connection := fun _ _ => .refl _
      session := fun s' _ => by
        rw [session_tell h]
        split
        · next he => rw [he]; exact Session.continues_tell _ _
        · exact .refl _
      consumer := fun _ _ => .refl _ }
  | shut c ss _ _ h => exact h.continues
  | retire c handles ho _ h =>
    exact {
      connections_has := fun c' hc => (Table.has_congr h.connection_keys c').trans hc
      sessions_has := fun s hs => (Table.has_congr h.session_keys s).trans hs
      consumers_has := fun k hk => (Table.has_congr h.consumer_keys k).trans hk
      connection := fun c' _ => by
        rw [h.connection]
        split
        · next he => rw [he]; exact ⟨rfl, fun _ => rfl, fun _ h => h, fun _ => rfl⟩
        · exact .refl _
      session := fun s _ => by rw [h.session]; exact .refl _
      consumer := fun k _ => by rw [h.consumer]; exact .refl _ }
  | addConsumer k x ho hk _ _ _ _ => exact continues_addConsumer (has_session ho) hk
  | subscribe k x name d ho hk _ _ _ _ _ =>
    let bound : Client := before.onDurables (before.session x.session).subscriptions fun _ => d
    have hb : Continues before bound := .of_tables rfl rfl rfl
    have hs' : bound.sessions.has x.session = true := has_session ho
    exact hb.trans (continues_addConsumer hs' hk)
  | unsubscribe s name _ _ _ => exact .of_tables rfl rfl rfl
  | closeConsumer k _ h =>
    exact {
      connections_has := fun c hc => by rw [h.connections]; exact hc
      sessions_has := fun s hs => (Table.has_congr h.session_keys s).trans hs
      consumers_has := fun k' hk => (Table.has_congr h.consumer_keys k').trans hk
      connection := fun c _ => by rw [h.connection]; exact .refl _
      session := fun s _ => by
        rw [h.session_eq]
        exact ⟨rfl, fun h => h⟩
      consumer := fun k' _ => by
        rw [h.consumer]
        split
        · next he => rw [he]; exact Consumer.continues_shut _
        · exact .refl _ }
  | claims r f _ _ => exact .of_tables rfl rfl rfl
  | bindings d f _ _ _ _ => exact .of_tables rfl rfl rfl
  | closeTransport t _ => exact .of_tables rfl rfl rfl

variable {allowed : Call → Prop} {before after : Client}

theorem Changes.continues (h : Changes allowed before after) : Continues before after := by
  induction h with
  | refl => exact .refl before
  | tail _ hc ih => exact ih.trans hc.continues

end Client

end BrokerClient
