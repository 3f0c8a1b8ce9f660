import BrokerClient.Proofs.Client.Closing

/-!
# Retiring connections

Closing an open connection first shuts its sessions and then retires it: it is marked closed, gives
its client ID back and closes its transport. That a connection is marked first and gives up its
transport last makes no difference to what a look-up finds.
-/

namespace BrokerClient

/-- The registry without an ID that may have been claimed. -/
def ClientIdRegistry.without (r : ClientIdRegistry) : Option String → ClientIdRegistry
  | none => r
  | some id => r.release id

theorem ClientIdRegistry.mem_without (r : ClientIdRegistry) (id : Option String) (x : String) :
    x ∈ (r.without id).ids ↔ x ∈ r.ids ∧ id ≠ some x := by
  cases id with
  | none => simp [without]
  | some id =>
    rw [without, mem_release]
    constructor
    · rintro ⟨hne, hm⟩
      exact ⟨hm, fun he => hne (Option.some.inj he).symm⟩
    · rintro ⟨hm, hne⟩
      exact ⟨fun he => hne (congrArg some he.symm), hm⟩

theorem ClientIdRegistry.eq_of_ids {r r' : ClientIdRegistry} (h : r.ids = r'.ids) : r = r' := by
  cases r
  cases r'
  simp only [mk.injEq]
  exact h

theorem ClientIdRegistry.without_sublist (r : ClientIdRegistry) (id : Option String) :
    (r.without id).ids.Sublist r.ids := by
  cases id with
  | none => exact List.Sublist.refl _
  | some id => exact List.erase_sublist

theorem ClientIdRegistry.holds_without (r : ClientIdRegistry) (id : Option String) (x : String) :
    (r.without id).holds x = (r.holds x && decide (id ≠ some x)) := by
  rw [holds, holds, ← Bool.decide_and]
  exact decide_eq_decide.mpr (r.mem_without id x)

theorem ClientIdRegistry.holds_of_claim? {r r' : ClientIdRegistry} {id : String}
    (h : r.claim? id = some r') (x : String) : r'.holds x = (decide (x = id) || r.holds x) := by
  rw [holds, holds, ← Bool.decide_or]
  exact decide_eq_decide.mpr (mem_of_claim? h x)

/-- Releasing an ID that is not held changes nothing. -/
theorem ClientIdRegistry.release_of_not_holds {r : ClientIdRegistry} {id : String}
    (h : r.holds id = false) : r.release id = r := by
  obtain ⟨ids, nodup⟩ := r
  have hn : id ∉ ids := of_decide_eq_false h
  simp only [release, mk.injEq]
  exact List.erase_of_not_mem hn

namespace Client

variable {cl : Client}

/-- What is noted of the client ID that a connection gives back, if it was held. -/
def releaseNotes (cl : Client) (c : ConnectionId) : List Event :=
  match (cl.connection c).clientId with
  | none => []
  | some id =>
    if (cl.registry (cl.connection c).clientIds).holds id then [.clientIdReleased id] else []

/-- Giving the client ID back takes it out of the registry, if it is there. -/
theorem releaseClientId_eq {c : ConnectionId}
    (hr : cl.registries.has (cl.connection c).clientIds = true) :
    ∃ registries, registries.keys = cl.registries.keys ∧
      (∀ r, registries.get r =
        if r = (cl.connection c).clientIds then (cl.registry r).without (cl.connection c).clientId
        else cl.registry r) ∧
      cl.releaseClientId c = { cl with registries, log := cl.log ++ cl.releaseNotes c } := by
  cases hid : (cl.connection c).clientId with
  | none =>
    refine ⟨cl.registries, rfl, ?_, ?_⟩
    · intro r
      split <;> rfl
    · simp only [releaseClientId, releaseNotes, hid, List.append_nil]
  | some id =>
    cases hh : (cl.registry (cl.connection c).clientIds).holds id with
    | false =>
      refine ⟨cl.registries, rfl, ?_, ?_⟩
      · intro r
        split
        · next he =>
          rw [he, ClientIdRegistry.without, ClientIdRegistry.release_of_not_holds hh]
          rfl
        · rfl
      · simp only [releaseClientId, releaseNotes, hid, hh, Bool.false_eq_true, if_false,
          List.append_nil]
        rw [releaseId, if_neg (Bool.eq_false_iff.mp hh)]
    | true =>
      refine ⟨cl.registries.modify (cl.connection c).clientIds fun x => x.release id,
        Table.keys_modify _ _ _, ?_, ?_⟩
      · intro r
        rw [Table.get_modify_of_has hr]
        split
        · next he => rw [he]; rfl
        · rfl
      · simp only [releaseClientId, releaseNotes, hid, hh, if_true]
        rw [releaseId, if_pos hh]
        rfl

/-- What a connection's close makes of what its transport's close came to. -/
def closeResult : Except TransportError Unit → Except MessagingError Unit
  | .ok () => .ok ()
  | .error e => if e.isBenignOnClose then .ok () else .error (.ofTransport e)

/-- What is noted of what a transport's close came to. -/
def closeNotes : Except TransportError Unit → List Event
  | .ok () => []
  | .error e => [if e.isBenignOnClose then .transportAlreadyDown e else .transportCloseFailed e]

theorem shutTransport_eq (cl : Client) (t : TransportId) :
    cl.shutTransport t =
      ({ cl with
          transports := cl.transports.modify t fun x => x.close.1
          log := cl.log ++ closeNotes (cl.transport t).close.2 },
        closeResult (cl.transport t).close.2) := by
  unfold shutTransport closeTransport
  rcases (cl.transport t).close.2 with e | ⟨⟨⟩⟩
  · cases he : e.isBenignOnClose with
    | true =>
      simp only [he, closeResult, closeNotes, if_true]
      rfl
    | false =>
      simp only [he, closeResult, closeNotes, Bool.false_eq_true, if_false]
      rfl
  · simp only [closeResult, closeNotes, List.append_nil]
    rfl

/-- The second client is the first with one connection closed and with some references left to it,
its client ID given back and its transport closed. -/
structure Retires (c : ConnectionId) (handles : Nat) (before after : Client) : Prop where
  connection : ∀ c', after.connection c' =
    if c' = c then { before.connection c with closed := true, handles } else before.connection c'
  session : ∀ s, after.session s = before.session s
  consumer : ∀ k, after.consumer k = before.consumer k
  registry : ∀ r, after.registry r =
    if r = (before.connection c).clientIds then
      (before.registry r).without (before.connection c).clientId
    else before.registry r
  transport : ∀ t, after.transport t =
    if t = (before.connection c).transport then (before.transport t).close.1
    else before.transport t
  connection_keys : after.connections.keys = before.connections.keys
  session_keys : after.sessions.keys = before.sessions.keys
  consumer_keys : after.consumers.keys = before.consumers.keys
  registry_keys : after.registries.keys = before.registries.keys
  transport_keys : after.transports.keys = before.transports.keys
  subscriptions : after.subscriptions = before.subscriptions
  factories : after.factories = before.factories
  listeners : after.listeners = before.listeners
  recorders : after.recorders = before.recorders
  metrics : after.metrics = before.metrics.connectionClosed

/-- The client with another number of references to a connection. -/
def recounted (cl : Client) (c : ConnectionId) (handles : Nat) (log : List Event) : Client :=
  { cl with connections := cl.connections.modify c fun x => { x with handles }, log }

theorem connection_recounted {c : ConnectionId} (hc : cl.connections.has c = true) (handles : Nat)
    (log : List Event) (c' : ConnectionId) :
    (cl.recounted c handles log).connection c' =
      if c' = c then { cl.connection c with handles } else cl.connection c' :=
  Table.get_modify_of_has hc _ c'

/-- The client with a connection marked closed, before its sessions are. -/
def marked (cl : Client) (c : ConnectionId) (handles : Nat)
    (registries : Table RegistryId ClientIdRegistry) (log : List Event) : Client :=
  { cl with
    connections := cl.connections.modify c fun x => { x with closed := true, handles }
    registries, log }

theorem connection_marked {c : ConnectionId} (hc : cl.connections.has c = true) (handles : Nat)
    (registries : Table RegistryId ClientIdRegistry) (log : List Event) (c' : ConnectionId) :
    (cl.marked c handles registries log).connection c' =
      if c' = c then { cl.connection c with closed := true, handles } else cl.connection c' :=
  Table.get_modify_of_has hc _ c'

/-- Marking a connection closed keeps all references. -/
theorem sameShape_marked {c : ConnectionId} (hc : cl.connections.has c = true) (handles : Nat)
    {registries : Table RegistryId ClientIdRegistry} (hr : registries.keys = cl.registries.keys)
    (log : List Event) :
    SameShape cl (cl.marked c handles registries log) where
  connection c' := by
    rw [connection_marked hc]
    split
    · next he => rw [he]; rfl
    · rfl
  session _ := rfl
  consumer _ := rfl
  connections_has _ := Table.has_modify _ _ _ _
  sessions_has _ := rfl
  consumers_has _ := rfl
  registries_has r h := (Table.has_congr hr r).trans h
  subscriptions_has _ h := h
  transports_has _ h := h
  factory _ h := Or.inr ⟨h, rfl⟩

/-- A teardown marks the connection, gives its client ID back and drains it, also when the number of
references to it was changed just before. -/
theorem tearDown_eq {c : ConnectionId} (hc : cl.connections.has c = true)
    (hr : cl.registries.has (cl.connection c).clientIds = true) (handles : Nat)
    (log : List Event) :
    ∃ registries, registries.keys = cl.registries.keys ∧
      (∀ r, registries.get r =
        if r = (cl.connection c).clientIds then (cl.registry r).without (cl.connection c).clientId
        else cl.registry r) ∧
      (cl.recounted c handles log).tearDown c =
        ((cl.marked c handles registries (log ++ cl.releaseNotes c)).drain c).count
          Metrics.connectionClosed := by
  have hm := connection_marked hc handles cl.registries log c
  rw [if_pos rfl] at hm
  have hr' : (cl.marked c handles cl.registries log).registries.has
      ((cl.marked c handles cl.registries log).connection c).clientIds = true := by
    rw [hm]
    exact hr
  have hnotes : (cl.marked c handles cl.registries log).releaseNotes c = cl.releaseNotes c := by
    simp only [releaseNotes, hm]
    rfl
  obtain ⟨registries, hkeys, hget, hrel⟩ := releaseClientId_eq hr'
  refine ⟨registries, hkeys, ?_, ?_⟩
  · intro r
    rw [hget, hm]
    rfl
  · have he : (cl.recounted c handles log).onConnection c (fun x => { x with closed := true }) =
        cl.marked c handles cl.registries log := by
      simp only [recounted, onConnection, Table.modify_modify, marked]
    rw [tearDown, he, hrel, hnotes]
    rfl

/-- Closing tears the connection down and then closes the transport, which decides the result. -/
theorem close_eq {c : ConnectionId} (ho : (cl.connection c).closed = false) :
    cl.close c =
      ({ cl.tearDown c with
          transports := (cl.tearDown c).transports.modify (cl.connection c).transport
            fun x => x.close.1
          log := (cl.tearDown c).log ++
            closeNotes ((cl.tearDown c).transport (cl.connection c).transport).close.2 ++
              [.connectionClosed] },
        closeResult ((cl.tearDown c).transport (cl.connection c).transport).close.2) := by
  rw [close, if_neg (Bool.eq_false_iff.mp ho), shutTransport_eq]
  rfl

/-- Closing an open connection shuts its sessions and retires it. It makes no difference if the
number of references to it was changed just before. -/
theorem retires_close_recounted (hw : WellFormed cl) {c : ConnectionId}
    (ho : (cl.connection c).closed = false) (handles : Nat) (log : List Event) :
    Retires c handles (cl.drain c) ((cl.recounted c handles log).close c).1 := by
  have hc := has_connection ho
  obtain ⟨registries, hkeys, hget, htear⟩ :=
    tearDown_eq hc (hw.registry_known c hc) handles log
  have hm := connection_marked hc handles registries (log ++ cl.releaseNotes c)
  have hsh := sameShape_marked hc handles hkeys (log ++ cl.releaseNotes c)
  -- The sessions are shut in the marked client, but they are those of the client itself.
  have hd := shuts_drain (hw.of_sameShape hsh) c
  have hd₀ := shuts_drain hw c
  have hec := connection_recounted hc handles log c
  rw [if_pos rfl] at hec
  have hss : ((cl.marked c handles registries (log ++ cl.releaseNotes c)).connection c).sessions =
      (cl.connection c).sessions := by
    rw [hm, if_pos rfl]
  rw [hss] at hd
  have hclose : (cl.recounted c handles log).close c = _ := close_eq (by rw [hec]; exact ho)
  rw [hclose, htear, hec]
  constructor
  case connection =>
    intro c'
    refine (hd.connection c').trans ?_
    rw [hd₀.connection, hd₀.connection, hm, hm, if_pos rfl, if_pos rfl]
    by_cases hcc : c' = c
    · rw [if_pos hcc, if_pos hcc]
    · rw [if_neg hcc, if_neg hcc, if_neg hcc, if_neg hcc]
  case session =>
    intro s
    exact (hd.session s).trans (hd₀.session s).symm
  case consumer =>
    intro k
    exact (hd.consumer k).trans (hd₀.consumer k).symm
  case registry =>
    intro r
    have hr : ∀ r, (cl.drain c).registry r = cl.registry r := by
      intro r
      rw [registry, registry, hd₀.registries]
    rw [hr, hd₀.connection, if_pos rfl]
    exact (congrArg (Table.get · r) hd.registries :).trans (hget r)
  case transport =>
    intro t
    have ht : ∀ t, (cl.drain c).transport t = cl.transport t := by
      intro t
      rw [transport, transport, hd₀.transports]
    rw [ht, hd₀.connection, if_pos rfl]
    refine (congrArg (fun ts : Table TransportId Transport =>
      (ts.modify (cl.connection c).transport fun x => x.close.1).get t) hd.transports :).trans ?_
    refine (Table.get_modify_of_has (hw.transport_known c hc) _ t).trans ?_
    split
    · next he => rw [he]; rfl
    · rfl
  case connection_keys =>
    refine hd.connection_keys.trans ?_
    rw [hd₀.connection_keys]
    exact Table.keys_modify _ _ _
  case session_keys => exact hd.session_keys.trans hd₀.session_keys.symm
  case consumer_keys => exact hd.consumer_keys.trans hd₀.consumer_keys.symm
  case registry_keys =>
    rw [hd₀.registries]
    exact (congrArg Table.keys hd.registries).trans hkeys
  case transport_keys =>
    rw [hd₀.transports]
    exact (Table.keys_modify _ _ _).trans (congrArg Table.keys hd.transports)
  case subscriptions => exact hd.subscriptions.trans hd₀.subscriptions.symm
  case factories => exact hd.factories.trans hd₀.factories.symm
  case listeners =>
    exact hd.listeners.trans hd₀.listeners.symm
  case recorders =>
    exact hd.recorders.trans hd₀.recorders.symm
  case metrics =>
    rw [hd₀.metrics]
    exact congrArg Metrics.connectionClosed hd.metrics

theorem recounted_self (cl : Client) (c : ConnectionId) :
    cl.recounted c (cl.connection c).handles cl.log = cl := by
  rw [recounted, Table.modify_eq_self]
  rfl

theorem retires_close (hw : WellFormed cl) {c : ConnectionId}
    (ho : (cl.connection c).closed = false) :
    Retires c (cl.connection c).handles (cl.drain c) (cl.close c).1 := by
  have h := retires_close_recounted hw ho (cl.connection c).handles cl.log
  rw [recounted_self] at h
  exact h

theorem registry_close (hw : WellFormed cl) {c : ConnectionId}
    (ho : (cl.connection c).closed = false) (r : RegistryId) :
    (cl.close c).1.registry r =
      if r = (cl.connection c).clientIds then (cl.registry r).without (cl.connection c).clientId
      else cl.registry r := by
  have hd := shuts_drain hw c
  have hkept : (cl.drain c).registry r = cl.registry r := by
    rw [registry, registry, hd.registries]
  rw [(retires_close hw ho).registry, hd.connection_eq, hkept]

theorem transport_close (hw : WellFormed cl) {c : ConnectionId}
    (ho : (cl.connection c).closed = false) (t : TransportId) :
    (cl.close c).1.transport t =
      if t = (cl.connection c).transport then (cl.transport t).close.1 else cl.transport t := by
  have hd := shuts_drain hw c
  have hkept : (cl.drain c).transport t = cl.transport t := by
    rw [transport, transport, hd.transports]
  rw [(retires_close hw ho).transport, hd.connection_eq, hkept]

namespace Retires

variable {c : ConnectionId} {handles : Nat} {before after : Client}

/-- Being closed, referred to or not, is all that changes about a connection. -/
theorem connection_eq (h : Retires c handles before after) (c' : ConnectionId) :
    after.connection c' = { before.connection c' with
      closed := (after.connection c').closed
      handles := (after.connection c').handles } := by
  rw [h.connection]
  split
  · next he => rw [he]
  · rfl

theorem closed (h : Retires c handles before after) (c' : ConnectionId) :
    (after.connection c').closed = false ↔ c' ≠ c ∧ (before.connection c').closed = false := by
  rw [h.connection]
  split
  · next he => simp [he]
  · next he => simp [he]

theorem sameShape (h : Retires c handles before after) : SameShape before after where
  connection c' := by
    rw [h.connection_eq]
    rfl
  session s := by rw [h.session]
  consumer := h.consumer
  connections_has := Table.has_congr h.connection_keys
  sessions_has := Table.has_congr h.session_keys
  consumers_has := Table.has_congr h.consumer_keys
  registries_has r hr := (Table.has_congr h.registry_keys r).trans hr
  subscriptions_has d hd := by
    rw [h.subscriptions]
    exact hd
  transports_has t ht := (Table.has_congr h.transport_keys t).trans ht
  factory f hf := by
    rw [h.factories] at hf
    refine Or.inr ⟨hf, ?_⟩
    rw [factory, factory, h.factories]

end Retires

theorem Sound.retires {c : ConnectionId} {handles : Nat} {before after : Client}
    (hs : Sound before) (h : Retires c handles before after)
    (hb : (before.connection c).sessions = []) : Sound after := by
  refine hs.of_sameShape h.sameShape ?_ ?_
  · intro c' hc
    rw [h.connection] at hc
    split at hc
    · next he => rw [he, hb]
    · exact hs.closed_bare c' hc
  · intro c' ho
    obtain ⟨hne, ho⟩ := (h.closed c').mp ho
    rw [h.connection, if_neg hne]
    exact hs.referred c' ho

end Client

end BrokerClient
