import BrokerClient.Proofs.Client.Creating
import BrokerClient.Proofs.ClientIds
import BrokerClient.Proofs.Teardown

/-!
# What a close notes

A close notes what it does in one order: the client ID is given back, then the sessions close one
after the other, each behind its consumers, and then the transport. What is listed is open and
listed once, so everything open is noted once and nothing else is.
-/

namespace BrokerClient.Client

variable {cl : Client} {c : ConnectionId} {s : SessionId}

/-- What is noted of a session that closes with the consumers on its list. -/
def sessionNotes (cl : Client) (s : SessionId) : List Event :=
  ((cl.session s).consumers.map fun k => .consumerClosedWithSession (cl.consumer k).tag) ++
    [.sessionClosed (cl.session s).number]

/-- Consumers that are open and listed once are noted once each, in the order of the list. -/
theorem log_foldl_closeWithSession {ks : List ConsumerId} (hn : ks.Nodup)
    (ho : ∀ k ∈ ks, (cl.consumer k).closed = false) :
    (ks.foldl closeWithSession cl).log =
      cl.log ++ ks.map fun k => .consumerClosedWithSession (cl.consumer k).tag := by
  induction ks generalizing cl with
  | nil => exact (List.append_nil _).symm
  | cons k ks ih =>
    obtain ⟨hk, hn⟩ := List.nodup_cons.mp hn
    -- The close of the first consumer leaves the others as they are.
    have hrest : ∀ k' ∈ ks, (cl.closeWithSession k).consumer k' = cl.consumer k' := by
      intro k' hk'
      have hne : k' ≠ k := fun he => hk (he ▸ hk')
      rw [consumer_closeWithSession, if_neg hne]
    have hlog : (cl.closeWithSession k).log =
        cl.log ++ [.consumerClosedWithSession (cl.consumer k).tag] := by
      rw [closeWithSession, if_neg (Bool.eq_false_iff.mp (ho k List.mem_cons_self))]
      rfl
    have htags : (ks.map fun k' => Event.consumerClosedWithSession
        ((cl.closeWithSession k).consumer k').tag) =
        ks.map fun k' => Event.consumerClosedWithSession (cl.consumer k').tag :=
      List.map_congr_left fun k' hk' => by rw [hrest k' hk']
    have hopen : ∀ k' ∈ ks, ((cl.closeWithSession k).consumer k').closed = false := by
      intro k' hk'
      rw [hrest k' hk']
      exact ho k' (List.mem_cons_of_mem k hk')
    rw [List.foldl_cons, ih hn hopen, hlog, htags, List.append_assoc, List.map_cons,
      List.singleton_append]

theorem log_shutSession (hw : WellFormed cl) (ho : (cl.session s).closed = false) :
    (cl.shutSession s).log = cl.log ++ cl.sessionNotes s := by
  have hks : ((cl.session s).consumers.foldl closeWithSession (cl.onSession s Session.shut)).log =
      cl.log ++ (cl.session s).consumers.map fun k =>
        .consumerClosedWithSession (cl.consumer k).tag :=
    log_foldl_closeWithSession (hw.consumers_nodup s) fun k hk => (hw.attached_open s k hk).1
  have hshut : (cl.shutSession s).log =
      ((cl.session s).consumers.foldl closeWithSession (cl.onSession s Session.shut)).log ++
        [.sessionClosed (cl.session s).number] := by
    rw [shutSession, if_neg (Bool.eq_false_iff.mp ho)]
    rfl
  rw [hshut, hks, List.append_assoc]
  rfl

/-- Shutting other sessions changes nothing of what a session notes. -/
theorem Shuts.sessionNotes {ss : List SessionId} {before after : Client}
    (h : Shuts c ss before after) (hs : s ∉ ss) :
    after.sessionNotes s = before.sessionNotes s := by
  have hsame : after.session s = before.session s := by rw [h.session, if_neg hs]
  simp only [Client.sessionNotes, hsame, h.tag]

/-- A drain notes the registered sessions in the order in which it closes them. -/
theorem log_drainWithin (ss : List SessionId) (rounds : Nat) (hw : WellFormed cl)
    (hl : (cl.connection c).sessions = ss) (hr : ss.length ≤ rounds) :
    (cl.drainWithin c rounds).log = cl.log ++ ss.flatMap cl.sessionNotes := by
  induction ss generalizing cl rounds with
  | nil =>
    have hd : cl.drainWithin c rounds = cl := drainWithin_nil hl rounds
    rw [hd, List.flatMap_nil, List.append_nil]
  | cons s ss ih =>
    cases rounds with
    | zero => cases hr
    | succ rounds =>
      obtain ⟨ho, hc⟩ := hw.listed_open c s (hl ▸ List.mem_cons_self)
      have hn := hw.sessions_nodup c
      rw [hl] at hn
      have hs := shuts_deregister_shutSession hw ho hc
      obtain ⟨hl', hw'⟩ := hs.rest hw hl
      have hrest := ih rounds hw' hl' (Nat.le_of_succ_le_succ hr)
      have hlog : ((cl.shutSession s).deregister c s).log = cl.log ++ cl.sessionNotes s :=
        log_shutSession hw ho
      have hlater : ss.flatMap ((cl.shutSession s).deregister c s).sessionNotes =
          ss.flatMap cl.sessionNotes := by
        refine List.flatMap_congr fun s' hs' => hs.sessionNotes fun hm => ?_
        exact (List.nodup_cons.mp hn).1 (List.mem_singleton.mp hm ▸ hs')
      simp only [drainWithin, drainStep?_eq hw hl]
      rw [hrest, hlog, hlater, List.append_assoc, List.flatMap_cons]

theorem log_drain (hw : WellFormed cl) (c : ConnectionId) :
    (cl.drain c).log = cl.log ++ (cl.connection c).sessions.flatMap cl.sessionNotes :=
  log_drainWithin _ _ hw rfl (Nat.le_refl _)

/-- A client ID that the registry and the connection agree on is given back. -/
theorem ClaimsAgree.releaseNotes_eq (h : ClaimsAgree cl) (ho : (cl.connection c).closed = false) :
    cl.releaseNotes c = ((cl.connection c).clientId.map Event.clientIdReleased).toList := by
  cases hid : (cl.connection c).clientId with
  | none => simp only [releaseNotes, hid, Option.map_none, Option.toList_none]
  | some id =>
    have hheld : (cl.registry (cl.connection c).clientIds).holds id = true :=
      decide_eq_true ((h.held _ id).mpr ⟨c, ho, rfl, hid⟩)
    simp only [releaseNotes, hid, hheld, if_true, Option.map_some, Option.toList_some]

/-- A teardown notes the client ID that is given back and then the sessions. -/
theorem log_tearDown (hw : WellFormed cl) (ho : (cl.connection c).closed = false) :
    (cl.tearDown c).log =
      cl.log ++ cl.releaseNotes c ++ (cl.connection c).sessions.flatMap cl.sessionNotes := by
  have hc := has_connection ho
  obtain ⟨registries, hkeys, -, htear⟩ :=
    tearDown_eq hc (hw.registry_known c hc) (cl.connection c).handles cl.log
  have hsh := sameShape_marked hc (cl.connection c).handles hkeys (cl.log ++ cl.releaseNotes c)
  have hdrain := log_drain (hw.of_sameShape hsh) c
  rw [hsh.sessions c] at hdrain
  rw [recounted_self] at htear
  rw [htear]
  exact hdrain

theorem mem_sessionNotes_session {n : Nat} :
    Event.sessionClosed n ∈ cl.sessionNotes s ↔ (cl.session s).number = n := by
  simp [sessionNotes, eq_comm]

theorem mem_sessionNotes_consumer {tag : String} :
    Event.consumerClosedWithSession tag ∈ cl.sessionNotes s ↔
      ∃ k ∈ (cl.session s).consumers, (cl.consumer k).tag = tag := by
  simp [sessionNotes]

/-- What is noted of a session is its end or that of a consumer. -/
theorem eq_of_mem_sessionNotes {e : Event} (he : e ∈ cl.sessionNotes s) :
    e = .sessionClosed (cl.session s).number ∨
      ∃ k ∈ (cl.session s).consumers, e = .consumerClosedWithSession (cl.consumer k).tag := by
  rcases List.mem_append.mp he with hc | hs
  · obtain ⟨k, hk, hke⟩ := List.mem_map.mp hc
    exact Or.inr ⟨k, hk, hke.symm⟩
  · exact Or.inl (List.mem_singleton.mp hs)

/-- A tag belongs to one of the listed consumers of all sessions. -/
theorem WellFormed.listed_tag_inj (hw : WellFormed cl) {s s' : SessionId} {k k' : ConsumerId}
    (hk : k ∈ (cl.session s).consumers) (hk' : k' ∈ (cl.session s').consumers)
    (ht : (cl.consumer k).tag = (cl.consumer k').tag) : k = k' ∧ s = s' := by
  obtain ⟨ho, hs⟩ := hw.attached_open s k hk
  obtain ⟨ho', hs'⟩ := hw.attached_open s' k' hk'
  have he := hw.tag_inj k k' (has_consumer ho) (has_consumer ho') ht
  exact ⟨he, by rw [← hs, ← hs', he]⟩

theorem WellFormed.nodup_sessionNotes (hw : WellFormed cl) (s : SessionId) :
    (cl.sessionNotes s).Nodup := by
  refine List.nodup_append.mpr ⟨?_, List.nodup_singleton _, ?_⟩
  · refine (hw.consumers_nodup s).map_on fun k hk k' hk' he => ?_
    exact (hw.listed_tag_inj hk hk' (Event.consumerClosedWithSession.inj he)).1
  · intro e he e' he'
    obtain ⟨k, -, rfl⟩ := List.mem_map.mp he
    obtain rfl := List.mem_singleton.mp he'
    nofun

/-- Two sessions of a connection have nothing to note in common. -/
theorem WellFormed.disjoint_sessionNotes (hw : WellFormed cl) {s s' : SessionId}
    (hs : s ∈ (cl.connection c).sessions) (hs' : s' ∈ (cl.connection c).sessions) (hne : s ≠ s') :
    (cl.sessionNotes s).Disjoint (cl.sessionNotes s') := by
  intro e he he'
  obtain ⟨ho, hc⟩ := hw.listed_open c s hs
  obtain ⟨ho', hc'⟩ := hw.listed_open c s' hs'
  rcases eq_of_mem_sessionNotes he with rfl | ⟨k, hk, rfl⟩
  · have hnumber := (mem_sessionNotes_session.mp he').symm
    exact hne (hw.number_inj s s' (has_session ho) (has_session ho') (hc.trans hc'.symm) hnumber)
  · obtain ⟨k', hk', ht⟩ := mem_sessionNotes_consumer.mp he'
    exact hne (hw.listed_tag_inj hk hk' ht.symm).2

theorem WellFormed.nodup_notes (hw : WellFormed cl) (c : ConnectionId) :
    ((cl.connection c).sessions.flatMap cl.sessionNotes).Nodup := by
  refine List.nodup_flatMap.mpr ⟨fun s _ => hw.nodup_sessionNotes s, ?_⟩
  refine (hw.sessions_nodup c).imp_of_mem fun hs hs' hne => ?_
  exact hw.disjoint_sessionNotes hs hs' hne

/-- A session of the connection is noted if it is open. -/
theorem WellFormed.count_sessionClosed (hw : WellFormed cl) (hs : s ∈ cl.sessionsOf c) :
    ((cl.connection c).sessions.flatMap cl.sessionNotes).count
        (.sessionClosed (cl.session s).number) =
      if (cl.session s).closed then 0 else 1 := by
  obtain ⟨hk, hc⟩ := mem_sessionsOf.mp hs
  cases ho : (cl.session s).closed with
  | true =>
    refine List.count_eq_zero.mpr fun hm => ?_
    obtain ⟨s', hs', he⟩ := List.mem_flatMap.mp hm
    obtain ⟨ho', hc'⟩ := hw.listed_open c s' hs'
    have hsame := hw.number_inj s' s (has_session ho') hk (hc'.trans hc.symm)
      (mem_sessionNotes_session.mp he)
    rw [hsame, ho] at ho'
    cases ho'
  | false =>
    refine List.count_eq_one_of_mem (hw.nodup_notes c) (List.mem_flatMap.mpr ⟨s, ?_, ?_⟩)
    · exact (hw.mem_sessions_iff c s).mpr ⟨ho, hc⟩
    · exact mem_sessionNotes_session.mpr rfl

/-- A consumer of a session of the connection is noted if it is open. -/
theorem WellFormed.count_consumerClosed (hw : WellFormed cl) (hs : s ∈ cl.sessionsOf c)
    {k : ConsumerId} (hk : k ∈ cl.consumersOf s) :
    ((cl.connection c).sessions.flatMap cl.sessionNotes).count
        (.consumerClosedWithSession (cl.consumer k).tag) =
      if cl.isOpen k then 1 else 0 := by
  obtain ⟨-, hc⟩ := mem_sessionsOf.mp hs
  obtain ⟨hknown, rfl⟩ := mem_consumersOf.mp hk
  cases ho : (cl.consumer k).closed with
  | true =>
    rw [isOpen, ho]
    refine List.count_eq_zero.mpr fun hm => ?_
    obtain ⟨s', -, he⟩ := List.mem_flatMap.mp hm
    obtain ⟨k', hk', ht⟩ := mem_sessionNotes_consumer.mp he
    have ho' := (hw.attached_open s' k' hk').1
    rw [hw.tag_inj k' k (has_consumer ho') hknown ht, ho] at ho'
    cases ho'
  | false =>
    rw [isOpen, ho]
    have hlisted := (hw.mem_sessions_iff c _).mpr ⟨hw.session_open ho, hc⟩
    refine List.count_eq_one_of_mem (hw.nodup_notes c) (List.mem_flatMap.mpr ⟨_, hlisted, ?_⟩)
    exact mem_sessionNotes_consumer.mpr ⟨k, hw.attached k ho, rfl⟩

/-- What a close notes before it asks the transport, if the registry agrees with the connection. -/
def teardownNotes (cl : Client) (c : ConnectionId) : List Event :=
  ((cl.connection c).clientId.map Event.clientIdReleased).toList ++
    (cl.connection c).sessions.flatMap cl.sessionNotes

/-- What is counted among the sessions' events is no client ID. -/
theorem count_teardownNotes (cl : Client) (c : ConnectionId) {e : Event}
    (he : ∀ id, e ≠ .clientIdReleased id) :
    (cl.teardownNotes c).count e =
      ((cl.connection c).sessions.flatMap cl.sessionNotes).count e := by
  rw [teardownNotes, List.count_append, List.count_eq_zero.mpr, Nat.zero_add]
  intro hm
  obtain ⟨id, -, rfl⟩ := Option.map_eq_some_iff.mp (Option.mem_toList.mp hm)
  exact he id rfl

theorem transports_tearDown (cl : Client) (c : ConnectionId) :
    (cl.tearDown c).transports = cl.transports :=
  (congrArg Client.transports (cl.tearDown_unread c) :)

theorem ClaimsAgree.log_tearDown (h : ClaimsAgree cl) (hw : WellFormed cl)
    (ho : (cl.connection c).closed = false) :
    (cl.tearDown c).log = cl.log ++ cl.teardownNotes c := by
  rw [Client.log_tearDown hw ho, h.releaseNotes_eq ho, List.append_assoc, teardownNotes]

/-- A close tears down, closes the transport and tells how that went, and says that it is done. -/
theorem ClaimsAgree.step_close (h : ClaimsAgree cl) (hs : Sound cl)
    (ho : (cl.connection c).closed = false) :
    (cl.step (.close c)).1 =
      { cl.tearDown c with
        transports := cl.transports.modify (cl.connection c).transport fun t => t.close.1
        log := cl.log ++ (cl.teardownNotes c ++
          closeNotes (cl.transport (cl.connection c).transport).close.2 ++
            [.connectionClosed]) } := by
  have hclose : (cl.step (.close c)).1 = (cl.close c).1 :=
    congrArg Prod.fst (if_pos (hs.referred c ho) : cl.step (.close c) = _)
  have hasked : (cl.tearDown c).transport (cl.connection c).transport =
      cl.transport (cl.connection c).transport :=
    congrArg (Table.get · _) (transports_tearDown cl c)
  rw [hclose, Client.close_eq ho, hasked, transports_tearDown, h.log_tearDown hs.toWellFormed ho]
  simp only [List.append_assoc]

theorem closeNotes_eq (outcome : Except TransportError Unit) :
    closeNotes outcome = match outcome with
      | .ok () => []
      | .error (.io e) => [.transportCloseFailed (.io e)]
      | .error e => [.transportAlreadyDown e] := by
  cases outcome with
  | ok => rfl
  | error e => cases e <;> rfl

theorem level_closeNotes (outcome : Except TransportError Unit) :
    (closeNotes outcome).map Event.level = match outcome with
      | .ok () => []
      | .error (.io _) => [.warn]
      | .error _ => [.debug] := by
  cases outcome with
  | ok => rfl
  | error e => cases e <;> rfl

/-- Closing an open connection, if registries are only changed through connections, notes its client
ID first, if it has one, and then its registered sessions in the order in which they were made, each
after those of its consumers that are open, in the order in which these were made. Every registered
session and every open consumer is noted once, and nothing that was closed before. Up to then the
transport is as it was. It is closed last, and what is noted of it, if its close fails, and the end
of the connection is all that follows. -/
theorem close_noted_in_order (calls : List Call) (c : ConnectionId)
    (hdirect : ∀ call ∈ calls, call.isOnRegistry = false)
    (ho : ((initial.run calls).1.connection c).closed = false) :
    let cl := (initial.run calls).1
    let past := initial.history calls
    let made := past.filterMap (madeSession c)
    let sessions := made.filter fun s => !(cl.session s).closed
    let consumers := fun s => (past.filterMap (madeConsumer s)).filter cl.isOpen
    let events := ((cl.connection c).clientId.map Event.clientIdReleased).toList ++
      sessions.flatMap fun s =>
        ((consumers s).map fun k => Event.consumerClosedWithSession (cl.consumer k).tag) ++
          [Event.sessionClosed (cl.session s).number]
    let outcome := (cl.transport (cl.connection c).transport).close.2
    let notes := match outcome with
      | .ok () => []
      | .error (.io e) => [Event.transportCloseFailed (.io e)]
      | .error e => [Event.transportAlreadyDown e]
    (cl.connection c).sessions = sessions ∧
    (∀ s ∈ sessions, (cl.session s).consumers = consumers s) ∧
    (cl.tearDown c).log = cl.log ++ events ∧
    (cl.tearDown c).transports = cl.transports ∧
    (cl.step (.close c)).1 =
      { cl.tearDown c with
        transports := cl.transports.modify (cl.connection c).transport fun t => t.close.1
        log := cl.log ++ (events ++ notes ++ [.connectionClosed]) } ∧
    notes.map Event.level = (match outcome with
      | .ok () => []
      | .error (.io _) => [.warn]
      | .error _ => [.debug]) ∧
    ∀ s ∈ made,
      events.count (.sessionClosed (cl.session s).number) =
        (if (cl.session s).closed then 0 else 1) ∧
      ∀ k ∈ past.filterMap (madeConsumer s),
        events.count (.consumerClosedWithSession (cl.consumer k).tag) =
          if cl.isOpen k then 1 else 0 := by
  intro cl past made sessions consumers events outcome notes
  have hreach : Reachable (fun call => call.isOnRegistry = false) cl :=
    Reachable.initial.run calls hdirect
  have hsound : Sound cl := hreach.sound
  have hw := hsound.toWellFormed
  have hclaims := hreach.claimsAgree
  have hopen : (cl.connection c).closed = false := ho
  have hmade : cl.sessionsOf c = made := sessionsOf_run calls c
  have hconsumed : ∀ s, cl.consumersOf s = past.filterMap (madeConsumer s) := consumersOf_run calls
  have hsessions : (cl.connection c).sessions = sessions := by
    rw [hreach.inOrder.sessions_eq hw c, hmade]
  have hconsumers : ∀ s, (cl.session s).consumers = consumers s := by
    intro s
    rw [hreach.inOrder.consumers_eq hw s, hconsumed]
    rfl
  have hevents : cl.teardownNotes c = events := by
    have hnoted : cl.sessionNotes = fun s =>
        ((consumers s).map fun k => Event.consumerClosedWithSession (cl.consumer k).tag) ++
          [Event.sessionClosed (cl.session s).number] := by
      funext s
      rw [sessionNotes, hconsumers]
    rw [teardownNotes, hsessions, hnoted]
  have hnotes : closeNotes outcome = notes := closeNotes_eq outcome
  rw [← hevents, ← hnotes]
  refine ⟨hsessions, fun s _ => hconsumers s, hclaims.log_tearDown hw hopen,
    transports_tearDown cl c, hclaims.step_close hsound hopen, level_closeNotes outcome,
    fun s hs => ⟨?_, fun k hk => ?_⟩⟩
  · rw [count_teardownNotes cl c fun _ => Event.noConfusion]
    exact hw.count_sessionClosed (hmade ▸ hs)
  · rw [count_teardownNotes cl c fun _ => Event.noConfusion]
    exact hw.count_consumerClosed (hmade ▸ hs) (hconsumed s ▸ hk)

/-- A connection with a client ID, two open sessions and a closed one, where one of the consumers is
closed too. The next close of its transport fails. -/
def notedCalls : List Call :=
  [.makeRegistry ⟨0⟩, .makeSubscriptions ⟨0⟩, .openTransport ⟨0⟩,
    .openConnection ⟨0⟩ ⟨0⟩ ⟨0⟩ ⟨0⟩ false, .setClientId ⟨0⟩ "a",
    .createSession .plain ⟨0⟩ ⟨0⟩ false .autoAcknowledge,
    .createSession .plain ⟨0⟩ ⟨1⟩ false .autoAcknowledge,
    .createSession .plain ⟨0⟩ ⟨2⟩ false .autoAcknowledge,
    .createConsumer ⟨2⟩ ⟨0⟩ "p" (.queue "q") none, .createConsumer ⟨0⟩ ⟨1⟩ "q" (.queue "q") none,
    .createConsumer ⟨2⟩ ⟨2⟩ "r" (.queue "q") none, .createConsumer ⟨2⟩ ⟨3⟩ "s" (.queue "q") none,
    .closeConsumer ⟨2⟩, .closeSession ⟨1⟩, .failNextClose ⟨0⟩ (.io ⟨.brokenPipe, none⟩)]

theorem close_noted_in_order_failing :
    (∀ call ∈ notedCalls, call.isOnRegistry = false) ∧
      ((initial.run notedCalls).1.connection ⟨0⟩).closed = false ∧
      ((initial.run notedCalls).1.step (.close ⟨0⟩)).1.log = (initial.run notedCalls).1.log ++
        [.clientIdReleased "a", .consumerClosedWithSession "consumer-q", .sessionClosed 1,
          .consumerClosedWithSession "consumer-p", .consumerClosedWithSession "consumer-s",
          .sessionClosed 3, .transportCloseFailed (.io ⟨.brokenPipe, none⟩), .connectionClosed] := by
  have hdirect : ∀ call ∈ notedCalls, call.isOnRegistry = false := by decide
  have ho : ((initial.run notedCalls).1.connection ⟨0⟩).closed = false := by decide
  obtain ⟨-, -, -, -, hclose, -⟩ := close_noted_in_order notedCalls ⟨0⟩ hdirect ho
  refine ⟨hdirect, ho, (congrArg Client.log hclose).trans ?_⟩
  exact congrArg ((initial.run notedCalls).1.log ++ ·) (by decide)

end BrokerClient.Client
