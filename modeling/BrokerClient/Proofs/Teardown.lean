import BrokerClient.Proofs.Client.Steps
import BrokerClient.Proofs.Client.Unread
import BrokerClient.Proofs.DurableSubscriptions

/-!
# Teardown

Closing a connection closes all that it made, gives its client ID back and leaves durable
subscriptions without an active consumer of its own. The transport is asked last and once. Nothing
before looks at it, so its answer decides the result and nothing else.
-/

namespace BrokerClient

/-- The event is about a transport that was closed already or did not close. -/
def Event.isOnTransport : Event → Bool
  | .transportAlreadyDown _ | .transportCloseFailed _ => true
  | _ => false

namespace Client

variable {cl : Client} {c : ConnectionId}

def withTransports (cl : Client) (transports : Table TransportId Transport) : Client :=
  { cl with transports }

variable (ts : Table TransportId Transport)

@[simp] theorem connection_withTransports (c : ConnectionId) :
    (cl.withTransports ts).connection c = cl.connection c := rfl

theorem tearDown_withTransports (cl : Client) (c : ConnectionId) :
    (cl.withTransports ts).tearDown c = (cl.tearDown c).withTransports ts := by
  have hother : (cl.withTransports ts).tearDown c =
      (cl.tearDown c).withUnread ts cl.listeners cl.recorders :=
    tearDown_withUnread ts cl.listeners cl.recorders cl c
  rw [hother, tearDown_unread cl c]
  rfl

/-- The second client is the first after the close of one of its connections. -/
structure TornDown (c : ConnectionId) (before after : Client) : Prop where
  closed : (after.connection c).closed = true
  sessions : (after.connection c).sessions = []
  unclaimed : ∀ id, (before.connection c).clientId = some id →
    (after.registry (before.connection c).clientIds).holds id = false
  sessions_closed : ∀ s, (before.session s).connection = c →
    (after.session s).closed = true ∧ (after.session s).consumers = []
  consumers_closed : ∀ k, (before.session (before.consumer k).session).connection = c →
    (after.consumer k).closed = true
  names : ∀ d, (after.durables d).names = (before.durables d).names
  inactive : ∀ d name k, (before.session (before.consumer k).session).connection = c →
    after.activeConsumer? d name ≠ some k
  openConnections : after.metrics.openConnections = before.metrics.openConnections - 1
  openSessions : after.metrics.openSessions = before.metrics.openSessions -
    (before.sessions.keys.countP fun s =>
      !(before.session s).closed && (before.session s).connection == c : Nat)

/-- The registered sessions are the open ones. -/
theorem WellFormed.length_sessions (hw : WellFormed cl) (c : ConnectionId) :
    (cl.connection c).sessions.length = cl.sessions.keys.countP fun s =>
      !(cl.session s).closed && (cl.session s).connection == c := by
  rw [List.countP_eq_length_filter]
  apply List.Perm.length_eq
  refine (List.perm_ext_iff_of_nodup (hw.sessions_nodup c) (cl.sessions.nodup.filter _)).mpr ?_
  intro s
  rw [hw.mem_sessions_iff, List.mem_filter, Bool.and_eq_true, Bool.not_eq_true', beq_iff_eq]
  constructor
  · exact fun h => ⟨Table.has_iff.mp (has_session h.1), h⟩
  · exact And.right

/-- What is not registered with a connection any more is closed. -/
theorem WellFormed.session_closed (hw : WellFormed cl) {s : SessionId}
    (hc : (cl.session s).connection = c) (hn : s ∉ (cl.connection c).sessions) :
    (cl.session s).closed = true := by
  cases ho : (cl.session s).closed with
  | true => rfl
  | false => exact absurd ((hw.mem_sessions_iff c s).mpr ⟨ho, hc⟩) hn

/-- A drain closes the sessions of a connection, with all their consumers. -/
theorem session_drain (hw : WellFormed cl) {s : SessionId} (hc : (cl.session s).connection = c) :
    ((cl.drain c).session s).closed = true ∧ ((cl.drain c).session s).consumers = [] := by
  rw [(shuts_drain hw c).session]
  split
  · exact ⟨rfl, rfl⟩
  · next hn =>
    have hcl := hw.session_closed hc hn
    exact ⟨hcl, hw.bare s hcl⟩

theorem consumer_drain (hw : WellFormed cl) {k : ConsumerId}
    (hc : (cl.session (cl.consumer k).session).connection = c) :
    ((cl.drain c).consumer k).closed = true := by
  rw [(shuts_drain hw c).consumer]
  split
  · rfl
  · next hn => exact hw.consumer_closed_of_session (hw.session_closed hc hn)

theorem tornDown_close (hw : WellFormed cl) (ho : (cl.connection c).closed = false) :
    TornDown c cl (cl.close c).1 := by
  have hd := shuts_drain hw c
  have hr := retires_close hw ho
  have hclosed : ∀ k, (cl.session (cl.consumer k).session).connection = c →
      ((cl.close c).1.consumer k).closed = true := by
    intro k hk
    rw [hr.consumer]
    exact consumer_drain hw hk
  have hdurables : ∀ d, (cl.close c).1.durables d = cl.durables d := by
    intro d
    rw [durables, durables, hr.subscriptions, hd.subscriptions]
  constructor
  case closed => rw [hr.connection, if_pos rfl]
  case sessions =>
    rw [hr.connection, if_pos rfl]
    exact sessions_drain hw c
  case unclaimed =>
    intro id hid
    rw [registry_close hw ho, if_pos rfl, ClientIdRegistry.holds, decide_eq_false_iff_not,
      ClientIdRegistry.mem_without]
    exact fun hm => hm.2 hid
  case sessions_closed =>
    intro s hs
    rw [hr.session]
    exact session_drain hw hs
  case consumers_closed => exact hclosed
  case names =>
    intro d
    rw [hdurables]
  case inactive =>
    intro d name k hk ha
    have hop := (DurableSubscriptions.active?_eq_some.mp ha).2
    rw [isOpen, hclosed k hk] at hop
    cases hop
  case openConnections =>
    rw [hr.metrics, hd.metrics]
    rfl
  case openSessions =>
    rw [hr.metrics, hd.metrics, hw.length_sessions]
    rfl

/-- The close of a connection whose transport is in some state. -/
def closeWith (cl : Client) (c : ConnectionId) (x : Transport) :
    Client × Except MessagingError Unit :=
  (cl.onTransport (cl.connection c).transport fun _ => x).close c

/-- All of a client but one transport and what was noted of transports that did not close well. -/
def apartFrom (cl : Client) (t : TransportId) : Client :=
  { cl with
    transports := cl.transports.modify t fun _ => .fresh
    log := cl.log.filter fun e => !e.isOnTransport }

/-- What becomes of the transport is up to its state, and all else is as without it. -/
theorem closeWith_eq (hw : WellFormed cl) (ho : (cl.connection c).closed = false) (x : Transport) :
    cl.closeWith c x =
      ({ cl.tearDown c with
          transports := cl.transports.modify (cl.connection c).transport fun _ => x.close.1
          log := (cl.tearDown c).log ++ closeNotes x.close.2 ++ [.connectionClosed] },
        closeResult x.close.2) := by
  let ts := cl.transports.modify (cl.connection c).transport fun _ => x
  have ht : ts.get (cl.connection c).transport = x :=
    (Table.get_modify_of_has (hw.transport_known c (has_connection ho)) _ _).trans (if_pos rfl)
  have hts : ts.modify (cl.connection c).transport (fun x => x.close.1) =
      cl.transports.modify (cl.connection c).transport fun _ => x.close.1 :=
    Table.modify_modify _ _ _ _
  have hclose : (cl.withTransports ts).close c = _ := close_eq ho
  refine hclose.trans ?_
  rw [tearDown_withTransports, connection_withTransports]
  have hasked : ((cl.tearDown c).withTransports ts).transport (cl.connection c).transport = x := ht
  rw [hasked, ← hts]
  rfl

/-- What is noted of the transport is all that its outcome adds to the log. -/
theorem filter_closeNotes (outcome : Except TransportError Unit) :
    (closeNotes outcome).filter (fun e => !e.isOnTransport) = [] := by
  rcases outcome with e | ⟨⟨⟩⟩
  · cases he : e.isBenignOnClose <;> simp [closeNotes, he, Event.isOnTransport]
  · rfl

/-- Any outcome of the close of a transport is that of some state. -/
theorem exists_close_eq (outcome : Except TransportError Unit) :
    ∃ x : Transport, x.close.2 = outcome := by
  cases outcome with
  | ok => exact ⟨.fresh, rfl⟩
  | error e => exact ⟨Transport.fresh.failNextClose e, rfl⟩

theorem closeWith_self (cl : Client) (c : ConnectionId) :
    cl.closeWith c (cl.transport (cl.connection c).transport) = cl.close c := by
  have hts : cl.transports.modify (cl.connection c).transport
      (fun _ => cl.transport (cl.connection c).transport) = cl.transports :=
    Table.modify_eq_self rfl
  rw [closeWith, onTransport, hts]

/-- Only an I/O error makes a close fail. -/
theorem closeResult_eq (outcome : Except TransportError Unit) :
    closeResult outcome = match outcome with
      | .error (.io e) => .error (.transport e)
      | _ => .ok () := by
  cases outcome with
  | ok => rfl
  | error e => cases e <;> rfl

theorem tornDown_closeWith (hs : Sound cl) (ho : (cl.connection c).closed = false)
    (x : Transport) : TornDown c cl (cl.closeWith c x).1 := by
  have hs' := hs.onTransport (cl.connection c).transport fun _ => x
  have h : TornDown c _ (cl.closeWith c x).1 := tornDown_close hs'.toWellFormed ho
  exact {
    closed := h.closed
    sessions := h.sessions
    unclaimed := h.unclaimed
    sessions_closed := h.sessions_closed
    consumers_closed := h.consumers_closed
    names := h.names
    inactive := h.inactive
    openConnections := h.openConnections
    openSessions := h.openSessions }

/-- Closing an open connection of a reachable client tears it down and closes its transport once,
whatever state the transport is in and so whatever its close comes to. All else ends up the same in
each case. Only an I/O error of the transport is an error of the close. -/
theorem close_tears_down (h : Reachable (fun _ => True) cl)
    (ho : (cl.connection c).closed = false) :
    (∀ outcome, ∃ x : Transport, x.close.2 = outcome) ∧
    cl.closeWith c (cl.transport (cl.connection c).transport) = cl.close c ∧
    ∀ x, TornDown c cl (cl.closeWith c x).1 ∧
      ((cl.closeWith c x).1.transport (cl.connection c).transport).closeCalls = x.closeCalls + 1 ∧
      (∀ t, t ≠ (cl.connection c).transport →
        (cl.closeWith c x).1.transport t = cl.transport t) ∧
      (∀ y, (cl.closeWith c x).1.apartFrom (cl.connection c).transport =
        (cl.closeWith c y).1.apartFrom (cl.connection c).transport) ∧
      (cl.closeWith c x).2 = match x.close.2 with
        | .error (.io e) => .error (.transport e)
        | _ => .ok () := by
  have hs := h.sound
  have hknown := hs.transport_known c (has_connection ho)
  have hv : ∀ x t, (cl.closeWith c x).1.transport t =
      if t = (cl.connection c).transport then x.close.1 else cl.transport t := by
    intro x t
    rw [closeWith_eq hs.toWellFormed ho]
    exact Table.get_modify_of_has hknown _ t
  have hapart : ∀ x, (cl.closeWith c x).1.apartFrom (cl.connection c).transport =
      { cl.tearDown c with
        transports := cl.transports.modify (cl.connection c).transport fun _ => .fresh
        log := ((cl.tearDown c).log ++ [Event.connectionClosed]).filter
          fun e => !e.isOnTransport } := by
    intro x
    rw [closeWith_eq hs.toWellFormed ho, apartFrom, Table.modify_modify]
    simp only [List.filter_append, filter_closeNotes, List.append_nil]
  refine ⟨exists_close_eq, cl.closeWith_self c, fun x => ?_⟩
  refine ⟨tornDown_closeWith hs ho x, ?_, ?_, ?_, ?_⟩
  · rw [hv, if_pos rfl]
    unfold Transport.close
    split
    · rfl
    · split <;> rfl
  · intro t ht
    rw [hv, if_neg ht]
  · intro y
    rw [hapart, hapart]
  · rw [closeWith_eq hs.toWellFormed ho, closeResult_eq]

/-- A connection with a client ID and a session with a durable subscriber. -/
def subscribedCalls : List Call :=
  [.makeRegistry ⟨0⟩, .makeSubscriptions ⟨0⟩, .openTransport ⟨0⟩,
    .openConnection ⟨0⟩ ⟨0⟩ ⟨0⟩ ⟨0⟩ false, .setClientId ⟨0⟩ "a",
    .createSession .plain ⟨0⟩ ⟨0⟩ false .autoAcknowledge,
    .createDurable ⟨0⟩ ⟨0⟩ "x" (.topic "t") "n" none]

/-- Its close fails with the I/O error of the transport and tears it down all the same. -/
theorem close_tears_down_io :
    Reachable (fun _ => True) (initial.run subscribedCalls).1 ∧
      ((initial.run subscribedCalls).1.connection ⟨0⟩).closed = false ∧
      TornDown ⟨0⟩ (initial.run subscribedCalls).1
        ((initial.run subscribedCalls).1.closeWith ⟨0⟩
          (Transport.fresh.failNextClose (.io ⟨.brokenPipe, none⟩))).1 ∧
      ((initial.run subscribedCalls).1.closeWith ⟨0⟩
        (Transport.fresh.failNextClose (.io ⟨.brokenPipe, none⟩))).2 =
        .error (.transport ⟨.brokenPipe, none⟩) := by
  have h : Reachable (fun _ => True) (initial.run subscribedCalls).1 :=
    Reachable.initial.run subscribedCalls fun _ _ => trivial
  have ho : ((initial.run subscribedCalls).1.connection ⟨0⟩).closed = false := by decide
  obtain ⟨-, -, hall⟩ := close_tears_down h ho
  obtain ⟨htorn, -, -, -, hresult⟩ :=
    hall (Transport.fresh.failNextClose (.io ⟨.brokenPipe, none⟩))
  exact ⟨h, ho, htorn, hresult⟩

end Client

end BrokerClient
