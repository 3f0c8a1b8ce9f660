import BrokerClient.Proofs.Client.Order
import BrokerClient.Proofs.Confluence.Closes
import BrokerClient.Proofs.Endings
import BrokerClient.Proofs.Finality.Closings

/-!
# The order of closes

In which order consumers, sessions and connections are closed, and how often, makes no difference
to what is left. Connections over one transport only compete for what its first close comes to, so
where each has a transport of its own the answers do not depend on the order either.
-/

namespace BrokerClient.Client

variable {cl before after after' : Client} {calls calls' : List Call} {c : ConnectionId}

def apartFromLog (cl : Client) : Client := { cl with log := [] }

theorem closes_run (hs : Sound cl) (hc : ∀ call ∈ calls, call.isClosing = true) :
    Closes calls cl (cl.run calls).1 := by
  induction calls generalizing cl with
  | nil => exact .idle hs (by simp) (by simp) (by simp)
  | cons call calls ih =>
    have hstep := closes_step hs (hc call List.mem_cons_self)
    exact hstep.trans (ih (hs.step call) fun x hx => hc x (List.mem_cons_of_mem _ hx))

/-- Neither the order of the calls nor their repetition matters to what they ask for. -/
theorem Closes.congr (h : Closes calls before after) (hm : ∀ call, call ∈ calls ↔ call ∈ calls') :
    Closes calls' before after := by
  have hconnection : ∀ c, before.EndsConnection calls c ↔ before.EndsConnection calls' c :=
    fun c => or_congr_right (hm _)
  have hsession : ∀ s, before.EndsSession calls s ↔ before.EndsSession calls' s :=
    fun s => or_congr_right (or_congr (hm _) (hconnection _))
  have hconsumer : ∀ k, before.EndsConsumer calls k ↔ before.EndsConsumer calls' k :=
    fun k => or_congr_right (or_congr (hm _) (hsession _))
  have hover : ∀ t, before.EndsOver calls t ↔ before.EndsOver calls' t :=
    fun t => exists_congr fun c => and_congr_right' (and_congr_right' (hm _))
  have hgives : ∀ r id, before.GivesBack calls r id ↔ before.GivesBack calls' r id :=
    fun r id => exists_congr fun c => and_congr_right' (hm _)
  exact { h with
    connection_closed := fun c => (h.connection_closed c).trans (hconnection c)
    session_closed := fun s => (h.session_closed s).trans (hsession s)
    consumer_closed := fun k => (h.consumer_closed k).trans (hconsumer k)
    registry_held := fun r id => (h.registry_held r id).trans
      (and_congr_right' (not_congr (hgives r id)))
    transport_kept := fun t hn => h.transport_kept t fun he => hn ((hover t).mp he)
    transport_closed := fun t he => h.transport_closed t ((hover t).mpr he) }

namespace Closes

theorem consumers_eq (h : Closes calls before after) (h' : Closes calls before after') :
    after.consumers = after'.consumers := by
  refine Table.ext_get (h.consumer_keys.trans h'.consumer_keys.symm) fun k => ?_
  have hclosed : (after.consumer k).closed = (after'.consumer k).closed :=
    Bool.eq_iff_iff.mpr ((h.consumer_closed k).trans (h'.consumer_closed k).symm)
  change after.consumer k = after'.consumer k
  rw [h.consumer, h'.consumer, hclosed]

/-- A session lists those of its consumers that are open, so the lists agree. -/
theorem sessions_eq (h : Closes calls before after) (h' : Closes calls before after')
    (hr : Reachable (fun _ => True) after) (hr' : Reachable (fun _ => True) after') :
    after.sessions = after'.sessions := by
  have hconsumers := h.consumers_eq h'
  refine Table.ext_get (h.session_keys.trans h'.session_keys.symm) fun s => ?_
  have hclosed : (after.session s).closed = (after'.session s).closed :=
    Bool.eq_iff_iff.mpr ((h.session_closed s).trans (h'.session_closed s).symm)
  have hlist : (after.session s).consumers = (after'.session s).consumers := by
    rw [hr.inOrder.consumers_eq hr.sound.toWellFormed,
      hr'.inOrder.consumers_eq hr'.sound.toWellFormed]
    simp only [consumersOf, consumer_congr hconsumers, hconsumers]
  change after.session s = after'.session s
  rw [h.session, h'.session, hclosed, hlist]

theorem connections_eq (h : Closes calls before after) (h' : Closes calls before after')
    (hr : Reachable (fun _ => True) after) (hr' : Reachable (fun _ => True) after') :
    after.connections = after'.connections := by
  have hsessions := h.sessions_eq h' hr hr'
  refine Table.ext_get (h.connection_keys.trans h'.connection_keys.symm) fun c => ?_
  have hclosed : (after.connection c).closed = (after'.connection c).closed :=
    Bool.eq_iff_iff.mpr ((h.connection_closed c).trans (h'.connection_closed c).symm)
  have hlist : (after.connection c).sessions = (after'.connection c).sessions := by
    rw [hr.inOrder.sessions_eq hr.sound.toWellFormed,
      hr'.inOrder.sessions_eq hr'.sound.toWellFormed]
    simp only [sessionsOf, session_congr hsessions, hsessions]
  change after.connection c = after'.connection c
  rw [h.connection, h'.connection, hclosed, hlist]

/-- What is left of a registry keeps its order. -/
theorem registries_eq (h : Closes calls before after) (h' : Closes calls before after') :
    after.registries = after'.registries := by
  refine Table.ext_get (h.registry_keys.trans h'.registry_keys.symm) fun r => ?_
  have hids : (after.registry r).ids = (after'.registry r).ids :=
    eq_of_sublist (before.registry r).nodup (h.registry r) (h'.registry r) fun id =>
      (h.registry_held r id).trans (h'.registry_held r id).symm
  exact ClientIdRegistry.eq_of_ids hids

/-- A transport was closed once for every connection over it that is closed. -/
theorem transports_eq (h : Closes calls before after) (h' : Closes calls before after')
    (hcalls : ∀ t, (after.transport t).closeCalls = (after'.transport t).closeCalls) :
    after.transports = after'.transports := by
  refine Table.ext_get (h.transport_keys.trans h'.transport_keys.symm) fun t => ?_
  change after.transport t = after'.transport t
  by_cases ht : before.EndsOver calls t
  · obtain ⟨n, hn⟩ := h.transport_closed t ht
    obtain ⟨n', hn'⟩ := h'.transport_closed t ht
    have hcalls := hcalls t
    rw [hn, hn'] at hcalls
    dsimp only at hcalls
    rw [hn, hn', hcalls]
  · rw [h.transport_kept t ht, h'.transport_kept t ht]

/-- What is open is counted, and a transport was closed once for every connection over it that was
closed, so what is asked for settles all of the client but the log. -/
theorem apart_eq (h : Closes calls before after) (h' : Closes calls before after')
    (hr : Reachable (fun _ => True) after) (hr' : Reachable (fun _ => True) after')
    (hb : ∀ t, (after.transport t).closeCalls + before.closedOver t =
      (before.transport t).closeCalls + after.closedOver t)
    (hb' : ∀ t, (after'.transport t).closeCalls + before.closedOver t =
      (before.transport t).closeCalls + after'.closedOver t) :
    after.apartFromLog = after'.apartFromLog := by
  have hconsumers := h.consumers_eq h'
  have hsessions := h.sessions_eq h' hr hr'
  have hconnections := h.connections_eq h' hr hr'
  have htransports : after.transports = after'.transports := by
    refine h.transports_eq h' fun t => ?_
    have hover : after.closedOver t = after'.closedOver t := by
      simp only [closedOver, connection_congr hconnections, hconnections]
    have hcalls := hb t
    have hcalls' := hb' t
    omega
  have hmetrics : after.metrics = after'.metrics := by
    rw [h.metrics, h'.metrics, hr.gaugesAgree.connections, hr.gaugesAgree.sessions,
      hr'.gaugesAgree.connections, hr'.gaugesAgree.sessions]
    simp only [connection_congr hconnections, hconnections, session_congr hsessions, hsessions]
  rw [apartFromLog, apartFromLog, hconsumers, hsessions, hconnections, h.registries_eq h',
    htransports, hmetrics, h.subscriptions, h'.subscriptions, h.factories, h'.factories,
    h.listeners, h'.listeners, h.recorders, h'.recorders]

end Closes

/-- No two connections have one transport. -/
def Unshared (cl : Client) : Prop :=
  ∀ c c', cl.connections.has c = true → cl.connections.has c' = true →
    (cl.connection c).transport = (cl.connection c').transport → c = c'

/-- What the first of the calls that is a given one was answered. -/
def firstAnswer (cl : Client) (call : Call) (calls : List Call) : Option Answer :=
  (calls.zip (cl.run calls).2).lookup call

theorem Closes.unshared (h : Closes calls before after) (hu : before.Unshared) :
    after.Unshared := by
  intro c c' hc hc' ht
  rw [Table.has_congr h.connection_keys] at hc hc'
  rw [h.connection_transport, h.connection_transport] at ht
  exact hu c c' hc hc' ht

/-- Closes of other connections make no difference to what the close of a connection is answered. -/
theorem Closes.answer_close (h : Closes calls before after) (hs : Sound before) (hs' : Sound after)
    (hu : before.Unshared) (hn : .close c ∉ calls) :
    (after.step (.close c)).2 = (before.step (.close c)).2 := by
  have hclosed : (after.connection c).closed = (before.connection c).closed := by
    rw [Bool.eq_iff_iff, h.connection_closed, EndsConnection, or_iff_left hn]
  have hreferred : (after.connection c).isReferred = (before.connection c).isReferred := by
    rw [h.connection]
    rfl
  cases hr : (before.connection c).isReferred with
  | false =>
    have hb : before.step (.close c) = (before, .refused) := step_refused hr
    have ha : after.step (.close c) = (after, .refused) := step_refused (hreferred.trans hr)
    rw [ha, hb]
  | true =>
    have hb : before.step (.close c) = (before.close c).map id .ofUnit := if_pos hr
    have ha : after.step (.close c) = (after.close c).map id .ofUnit := if_pos (hreferred.trans hr)
    rw [ha, hb]
    cases ho : (before.connection c).closed with
    | true => rw [close_of_closed ho, close_of_closed (hclosed.trans ho)]; rfl
    | false =>
      -- Nobody else closes the transport.
      have hkept := h.transport_kept (before.connection c).transport (by
        rintro ⟨c', ho', ht, hm⟩
        exact hn (hu c' c (has_connection ho') (has_connection ho) ht ▸ hm))
      have hresult : (after.close c).2 = (before.close c).2 := by
        rw [result_close hs'.toWellFormed (hclosed.trans ho), result_close hs.toWellFormed ho,
          h.connection_transport, hkept]
      exact congrArg Answer.ofUnit hresult

theorem firstAnswer_cons (cl : Client) (call x : Call) (calls : List Call) :
    cl.firstAnswer call (x :: calls) =
      if call = x then some (cl.step x).2 else (cl.step x).1.firstAnswer call calls := by
  have hrun : (cl.run (x :: calls)).2 = (cl.step x).2 :: ((cl.step x).1.run calls).2 := rfl
  rw [firstAnswer, hrun, List.zip_cons_cons, List.lookup_cons]
  by_cases he : call = x
  · rw [he, if_pos rfl, beq_self_eq_true]
  · rw [if_neg he, beq_false_of_ne he]
    rfl

/-- The first close of a connection is answered as it would have been at once. -/
theorem firstAnswer_close (hs : Sound cl) (hu : cl.Unshared)
    (hc : ∀ call ∈ calls, call.isClosing = true) (c : ConnectionId) :
    cl.firstAnswer (.close c) calls =
      if .close c ∈ calls then some (cl.step (.close c)).2 else none := by
  induction calls generalizing cl with
  | nil => rfl
  | cons x calls ih =>
    rw [firstAnswer_cons]
    by_cases he : .close c = x
    · rw [if_pos he, if_pos (he ▸ List.mem_cons_self), he]
    · have h := closes_step hs (hc x List.mem_cons_self)
      have hanswer := h.answer_close hs (hs.step x) hu (fun hm => he (List.mem_singleton.mp hm))
      rw [if_neg he, ih (hs.step x) (h.unshared hu) fun y hy => hc y (List.mem_cons_of_mem _ hy),
        hanswer]
      simp only [List.mem_cons, he, false_or]

/-- From a reachable state, closes of consumers, sessions and connections that are the same but for
their order and their repetition leave the same client but for the log. That goes for all flags,
lists, registries, transports and counts, also where connections share registries or transports.
Where no two connections share a transport, the first close of each connection is answered alike. -/
theorem teardown_confluent (h : Reachable (fun _ => True) cl)
    (hc : ∀ call ∈ calls, call.isClosing = true) (hm : ∀ call, call ∈ calls ↔ call ∈ calls') :
    (cl.run calls).1.apartFromLog = (cl.run calls').1.apartFromLog ∧
      (cl.Unshared → ∀ c, cl.firstAnswer (.close c) calls = cl.firstAnswer (.close c) calls') := by
  have hs := h.sound
  have hc' : ∀ call ∈ calls', call.isClosing = true := fun call hmem => hc call ((hm call).mpr hmem)
  -- No close is a direct close of a transport.
  have hbalanced : ∀ {calls : List Call}, (∀ call ∈ calls, call.isClosing = true) → ∀ t,
      ((cl.run calls).1.transport t).closeCalls + cl.closedOver t =
        (cl.transport t).closeCalls + (cl.run calls).1.closedOver t := by
    intro calls hc t
    have hchanges : Changes (fun call => call.isClosing = true) cl (cl.run calls).1 :=
      changes_run hs calls hc
    exact hchanges.balanced t Bool.false_ne_true
  refine ⟨?_, fun hu c => ?_⟩
  · exact ((closes_run hs hc).congr hm).apart_eq (closes_run hs hc')
      (h.run calls fun _ _ => trivial) (h.run calls' fun _ _ => trivial) (hbalanced hc)
      (hbalanced hc')
  · rw [firstAnswer_close hs hu hc, firstAnswer_close hs hu hc']
    simp only [hm]

/-- Two connections with client IDs share a registry. One has a session with two consumers, and the
close of its transport is going to fail. The other has an empty session. -/
def overlappingCalls : List Call :=
  [.makeRegistry ⟨0⟩, .makeSubscriptions ⟨0⟩, .openTransport ⟨0⟩, .openTransport ⟨1⟩,
    .openConnection ⟨0⟩ ⟨0⟩ ⟨0⟩ ⟨0⟩ false, .openConnection ⟨1⟩ ⟨1⟩ ⟨0⟩ ⟨0⟩ false,
    .setClientId ⟨0⟩ "a", .setClientId ⟨1⟩ "b",
    .createSession .plain ⟨0⟩ ⟨0⟩ false .autoAcknowledge,
    .createSession .plain ⟨1⟩ ⟨1⟩ false .autoAcknowledge,
    .createDurable ⟨0⟩ ⟨0⟩ "x" (.topic "t") "n" none,
    .createConsumer ⟨0⟩ ⟨1⟩ "y" (.topic "t") none,
    .failNextClose ⟨0⟩ (.io ⟨.brokenPipe, none⟩)]

/-- A consumer is closed before its session and after it, and a session likewise. -/
theorem teardown_confluent_overlapping :
    let cl := (initial.run overlappingCalls).1
    let upward : List Call :=
      [.closeConsumer ⟨0⟩, .closeSession ⟨0⟩, .close ⟨0⟩, .closeSession ⟨0⟩, .close ⟨1⟩]
    let downward : List Call :=
      [.close ⟨1⟩, .close ⟨0⟩, .close ⟨0⟩, .closeSession ⟨0⟩, .closeConsumer ⟨0⟩]
    (cl.run upward).1.apartFromLog = (cl.run downward).1.apartFromLog ∧
      cl.firstAnswer (.close ⟨0⟩) upward = cl.firstAnswer (.close ⟨0⟩) downward ∧
      cl.firstAnswer (.close ⟨0⟩) downward = some (.failed (.transport ⟨.brokenPipe, none⟩)) := by
  intro cl upward downward
  have h : Reachable (fun _ => True) cl := Reachable.initial.run overlappingCalls fun _ _ => trivial
  have hm : ∀ call, call ∈ upward ↔ call ∈ downward := by
    intro call
    simp only [upward, downward, List.mem_cons, List.not_mem_nil, or_false]
    tauto
  have hclosing : ∀ call ∈ upward, call.isClosing = true := by decide
  obtain ⟨hleft, hanswers⟩ := teardown_confluent h hclosing hm
  have hmade : ∀ c, cl.connections.has c = true → c = ⟨0⟩ ∨ c = ⟨1⟩ := by
    intro c hc
    have hk : c ∈ [(⟨0⟩ : ConnectionId), ⟨1⟩] := Table.has_iff.mp hc
    simpa using hk
  have hu : cl.Unshared := by
    intro c c' hc hc' ht
    rcases hmade c hc with rfl | rfl <;> rcases hmade c' hc' with rfl | rfl
    · rfl
    · exact absurd ht (by decide)
    · exact absurd ht (by decide)
    · rfl
  refine ⟨hleft, hanswers hu ⟨0⟩, ?_⟩
  have hfails : (cl.close ⟨0⟩).2 = .error (.transport ⟨.brokenPipe, none⟩) :=
    (result_close h.sound.toWellFormed (by decide)).trans rfl
  have hstep : cl.step (.close ⟨0⟩) = (cl.close ⟨0⟩).map id .ofUnit := if_pos (by decide)
  rw [firstAnswer_close h.sound hu (by decide), if_pos (by decide), hstep, Prod.map_snd, hfails]
  rfl

/-- Of two connections over one transport, whichever is closed first is told of its failure. -/
example :
    let cl := (initial.run [.makeRegistry ⟨0⟩, .makeSubscriptions ⟨0⟩, .openTransport ⟨0⟩,
      .openConnection ⟨0⟩ ⟨0⟩ ⟨0⟩ ⟨0⟩ false, .openConnection ⟨1⟩ ⟨0⟩ ⟨0⟩ ⟨0⟩ false,
      .failNextClose ⟨0⟩ (.io ⟨.brokenPipe, none⟩)]).1
    (cl.firstAnswer (.close ⟨0⟩) [.close ⟨0⟩, .close ⟨1⟩]).map Answer.isDone = some false ∧
      (cl.firstAnswer (.close ⟨0⟩) [.close ⟨1⟩, .close ⟨0⟩]).map Answer.isDone = some true := by
  decide

end BrokerClient.Client
