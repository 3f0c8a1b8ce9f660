import BrokerClient.Proofs.Client.Accounting
import BrokerClient.Proofs.Client.Order

/-!
# What calls make

A call that makes an object and succeeds adds it at the end of its table, and one that fails adds
nothing. So the objects that a client has are those that the calls of its history made, in the order
of the calls.
-/

namespace BrokerClient

namespace Client

variable {cl : Client} {c : ConnectionId} {s : SessionId} {k : ConsumerId}

section Sessions

variable {transacted : Bool} {mode : AcknowledgeMode}

/-- A closed connection makes no session of any kind. -/
theorem createSessionOf_of_closed (hc : cl.connections.has c = true)
    (h : (cl.connection c).closed = true) (kind : SessionKind) :
    createSessionOf kind cl c s transacted mode =
      (if kind = .plain then cl.foreclose c else cl, .error .connectionClosed) := by
  have hf := connection_foreclose hc c
  rw [if_pos rfl] at hf
  cases kind with
  | plain => simp only [createSessionOf, createSession, ifOpen, hf, h, if_true]
  | queue => simp [createSessionOf, ifOpen, h]
  | topic => simp [createSessionOf, ifOpen, h]

/-- An open connection makes the same session of every kind. -/
theorem createSessionOf_of_open (h : (cl.connection c).closed = false) (kind : SessionKind) :
    ∃ e, createSessionOf kind cl c s transacted mode =
      (((cl.foreclose c).withSession c s ((cl.foreclose c).nextSession c transacted mode)).note e,
        .ok ()) := by
  have hf := connection_foreclose (has_connection h) c
  rw [if_pos rfl] at hf
  have ho : ¬ ((cl.foreclose c).connection c).closed = true := by
    rw [hf]
    exact Bool.eq_false_iff.mp h
  have hplain : cl.createSession c s transacted mode = _ := if_neg ho
  refine ⟨.sessionCreated ((cl.foreclose c).nextSession c transacted mode).number transacted
    ((cl.foreclose c).nextSession c transacted mode).mode, ?_⟩
  cases kind with
  | plain => exact hplain
  | queue => exact (if_neg (Bool.eq_false_iff.mp h)).trans hplain
  | topic => exact (if_neg (Bool.eq_false_iff.mp h)).trans hplain

theorem step_createSession (cl : Client) (kind : SessionKind) (c : ConnectionId) (s : SessionId)
    (transacted : Bool) (mode : AcknowledgeMode) :
    cl.step (.createSession kind c s transacted mode) =
      if (cl.connection c).isReferred && !cl.sessions.has s then
        (createSessionOf kind cl c s transacted mode).map id .ofUnit
      else (cl, .refused) :=
  rfl

/-- A session is added exactly if the call succeeds. -/
theorem sessions_step_createSession (cl : Client) (kind : SessionKind) (c : ConnectionId)
    (s : SessionId) (transacted : Bool) (mode : AcknowledgeMode) :
    let e := (cl, Call.createSession kind c s transacted mode)
    (answered e).isDone = false ∧ (cl.step e.2).1.sessions = cl.sessions ∨
      (answered e).isDone = true ∧ cl.sessions.has s = false ∧
        ∃ x, x.connection = c ∧ (cl.step e.2).1.sessions = cl.sessions.insert s x := by
  dsimp only [answered]
  rw [step_createSession]
  split
  · next ha =>
    simp only [Bool.and_eq_true, Bool.not_eq_true'] at ha
    cases hcl : (cl.connection c).closed with
    | true =>
      rw [createSessionOf_of_closed (has_connection_of_isReferred ha.1) hcl]
      refine Or.inl ⟨rfl, ?_⟩
      dsimp only [Prod.map, id]
      split <;> rfl
    | false =>
      obtain ⟨e, he⟩ : ∃ e, createSessionOf kind cl c s transacted mode = _ :=
        createSessionOf_of_open hcl kind
      rw [he]
      exact Or.inr ⟨rfl, ha.2, _, rfl, rfl⟩
  · exact Or.inl ⟨rfl, rfl⟩

/-- A session just made is as its connection was to make it. -/
theorem session_made {kind : SessionKind} {made : Client}
    (h : cl.step (.createSession kind c s transacted mode) = (made, .done)) :
    cl.connections.has c = true ∧ made.sessions.has s = true ∧
      made.session s = (cl.foreclose c).nextSession c transacted mode := by
  rw [step_createSession] at h
  split at h
  · next ha =>
    simp only [Bool.and_eq_true, Bool.not_eq_true'] at ha
    obtain ⟨hr, hn⟩ := ha
    have hc := has_connection_of_isReferred hr
    cases hcl : (cl.connection c).closed with
    | true =>
      rw [createSessionOf_of_closed hc hcl kind] at h
      cases h
    | false =>
      obtain ⟨e, hnew⟩ : ∃ e, createSessionOf kind cl c s transacted mode = _ :=
        createSessionOf_of_open hcl kind
      rw [hnew] at h
      have hmade : ((cl.foreclose c).withSession c s
          ((cl.foreclose c).nextSession c transacted mode)).note e = made := congrArg Prod.fst h
      have hv := session_withSession hn c ((cl.foreclose c).nextSession c transacted mode) s
      rw [if_pos rfl] at hv
      rw [← hmade]
      exact ⟨hc, (Table.has_insert hn _ s).mpr (Or.inr rfl), hv⟩
  · cases h

end Sessions

def madeSession (c : ConnectionId) (e : Client × Call) : Option SessionId :=
  match e.2 with
  | .createSession _ c' s _ _ => if c' = c ∧ (answered e).isDone = true then some s else none
  | _ => none

theorem madeSession_of_not {call : Call} (h : call.makesSession = false) :
    madeSession c (cl, call) = none := by
  cases call with
  | createSession => cases h
  | _ => rfl

theorem sessionsOf_step (h : Sound cl) (call : Call) (c : ConnectionId) :
    (cl.step call).1.sessionsOf c = cl.sessionsOf c ++ (madeSession c (cl, call)).toList := by
  have hc := continues_step h call
  cases call with
  | createSession kind c' s transacted mode =>
    rcases sessions_step_createSession cl kind c' s transacted mode with
      ⟨hfail, hsame⟩ | ⟨hdone, hn, x, hx, hnew⟩
    · rw [hc.sessionsOf_eq (congrArg Table.keys hsame)]
      simp [madeSession, hfail]
    · have hkeys := (congrArg Table.keys hnew).trans (Table.keys_insert hn x)
      have hv : ((cl.step (.createSession kind c' s transacted mode)).1.session s).connection =
          c' := by
        rw [session, hnew, Table.get_insert hn, if_pos rfl, hx]
      rw [hc.sessionsOf hkeys]
      simp only [madeSession, hdone, and_true, List.filter_cons, List.filter_nil, hv,
        beq_iff_eq]
      split <;> rfl
  | _ =>
    rw [hc.sessionsOf_eq ((accounted_step h _).session_keys.eq rfl), madeSession_of_not rfl]
    exact (List.append_nil _).symm

/-- What comes of an operation that makes a consumer of a session: it adds the consumer, or it fails
and adds nothing. -/
def AddsConsumer (cl : Client) (s : SessionId) (k : ConsumerId)
    (result : Client × Except MessagingError Unit) : Prop :=
  (∃ e, result.2 = .error e) ∧ result.1.consumers = cl.consumers ∨
    result.2 = .ok () ∧ ∃ x, x.session = s ∧ result.1.consumers = cl.consumers.insert k x

theorem addsConsumer_createConsumer (cl : Client) (s : SessionId) (k : ConsumerId) (token : String)
    (destination : Destination) (selector : Option String) :
    AddsConsumer cl s k (cl.createConsumer s k token destination selector) := by
  unfold createConsumer
  split
  · exact Or.inl ⟨⟨_, rfl⟩, rfl⟩
  · exact Or.inr ⟨rfl, _, rfl, rfl⟩

/-- A durable subscription that is refused leaves no consumer behind. -/
theorem addsConsumer_createDurable (cl : Client) (s : SessionId) (k : ConsumerId) (token : String)
    (topic : Destination) (name : String) (selector : Option String) :
    AddsConsumer cl s k (cl.createDurable s k token topic name selector) := by
  unfold createDurable bindDurable
  dsimp only
  split
  · exact Or.inl ⟨⟨_, rfl⟩, rfl⟩
  · split
    · exact Or.inl ⟨⟨_, rfl⟩, rfl⟩
    · split
      · exact Or.inl ⟨⟨_, rfl⟩, rfl⟩
      · cases (cl.durables (cl.session s).subscriptions).bind cl.isOpen name k with
        | bound d => exact Or.inr ⟨rfl, _, rfl, rfl⟩
        | rebound d => exact Or.inr ⟨rfl, _, rfl, rfl⟩
        | refused holder => exact Or.inl ⟨⟨_, rfl⟩, rfl⟩

def madeConsumer (s : SessionId) (e : Client × Call) : Option ConsumerId :=
  match e.2 with
  | .createConsumer s' k .. | .createDurable s' k .. =>
    if s' = s ∧ (answered e).isDone = true then some k else none
  | _ => none

theorem madeConsumer_of_not {call : Call} (h : call.makesConsumer = false) :
    madeConsumer s (cl, call) = none := by
  cases call with
  | createConsumer => cases h
  | createDurable => cases h
  | _ => rfl

/-- The two calls that make consumers add them alike. -/
theorem consumersOf_of_adds {after : Client} {answer : Answer} {s' : SessionId} {token : String}
    {result : Client × Except MessagingError Unit} (hc : Continues cl after)
    (hadds : AddsConsumer cl s' k result)
    (hstep : (after, answer) =
      if cl.admitsConsumer s' k token then result.map id .ofUnit else (cl, .refused)) :
    after.consumersOf s =
      cl.consumersOf s ++ (if s' = s ∧ answer.isDone = true then some k else none).toList := by
  split at hstep
  · next ha =>
    obtain ⟨rfl, rfl⟩ := Prod.mk.inj hstep
    rcases hadds with ⟨⟨e, he⟩, hsame⟩ | ⟨hok, x, hx, hnew⟩
    · rw [hc.consumersOf_eq (congrArg Table.keys hsame)]
      simp [he, Answer.ofUnit, Answer.isDone]
    · simp only [admitsConsumer, Bool.and_eq_true, Bool.not_eq_true'] at ha
      have hkeys := (congrArg Table.keys hnew).trans (Table.keys_insert ha.1.2 x)
      have hv : (result.1.consumer k).session = s' := by
        rw [consumer, hnew, Table.get_insert ha.1.2, if_pos rfl, hx]
      rw [hc.consumersOf hkeys]
      by_cases he : s' = s <;> simp [hok, Answer.ofUnit, Answer.isDone, hv, he]
  · obtain ⟨rfl, rfl⟩ := Prod.mk.inj hstep
    rw [hc.consumersOf_eq rfl]
    simp [Answer.isDone]

theorem consumersOf_step (h : Sound cl) (call : Call) (s : SessionId) :
    (cl.step call).1.consumersOf s = cl.consumersOf s ++ (madeConsumer s (cl, call)).toList := by
  have hc := continues_step h call
  cases call with
  | createConsumer s' k token destination selector =>
    exact consumersOf_of_adds hc
      (cl.addsConsumer_createConsumer s' k token destination selector) rfl
  | createDurable s' k token topic name selector =>
    exact consumersOf_of_adds hc
      (cl.addsConsumer_createDurable s' k token topic name selector) rfl
  | _ =>
    rw [hc.consumersOf_eq ((accounted_step h _).consumer_keys.eq rfl), madeConsumer_of_not rfl]
    exact (List.append_nil _).symm

def madeConnection (e : Client × Call) : Option ConnectionId :=
  match e.2 with
  | .openConnection c .. | .connect _ c .. =>
    if (answered e).isDone = true then some c else none
  | _ => none

theorem madeConnection_of_not {call : Call} (h : call.makesConnection = false) :
    madeConnection (cl, call) = none := by
  cases call with
  | openConnection => cases h
  | connect => cases h
  | _ => rfl

theorem keys_openConnection (hc : cl.connections.has c = false) (t : TransportId) (r : RegistryId)
    (d : SubscriptionsId) (deaf : Bool) :
    (cl.openConnection c t r d deaf).connections.keys = cl.connections.keys ++ [c] := by
  cases deaf <;> exact Table.keys_insert hc _

/-- A connection of a factory is made exactly if its connector opens a transport. -/
theorem keys_connect (hc : cl.connections.has c = false) (f : FactoryId) (t : TransportId)
    (d : SubscriptionsId) :
    (∃ e, cl.connect f c t d = (cl, .error e)) ∨
      (cl.connect f c t d).2 = .ok () ∧
        (cl.connect f c t d).1.connections.keys = cl.connections.keys ++ [c] := by
  cases hx : (cl.factory f).connector with
  | failing e =>
    simp only [connect, hx]
    exact Or.inl ⟨_, rfl⟩
  | loopback =>
    simp only [connect, hx]
    refine Or.inr ⟨trivial, ?_⟩
    exact (Table.keys_modify _ _ _).trans (keys_openConnection hc t _ d false)

theorem connection_openConnection (hc : cl.connections.has c = false) (t : TransportId)
    (r : RegistryId) (d : SubscriptionsId) (deaf : Bool) :
    (cl.openConnection c t r d deaf).connection c = .fresh t r d := by
  have hv := connection_withConnection hc (.fresh t r d) c
  rw [if_pos rfl] at hv
  cases deaf <;> exact hv

theorem connection_adjusted (hc : cl.connections.has c = false) (t : TransportId) (r : RegistryId)
    (d : SubscriptionsId) (f : Connection → Connection) :
    ((cl.openConnection c t r d false).onConnection c f).connection c = f (.fresh t r d) := by
  have hnew : (cl.openConnection c t r d false).connections.has c = true :=
    (Table.has_insert hc _ c).mpr (Or.inr rfl)
  rw [connection_onConnection_of_has hnew, if_pos rfl, connection_openConnection hc]

/-- A connection of a factory is as the factory's configuration says. -/
theorem connection_connect {f : FactoryId} {t : TransportId} {d : SubscriptionsId}
    (hc : cl.connections.has c = false) (hx : (cl.factory f).connector = .loopback) :
    (cl.connect f c t d).2 = .ok () ∧
      (cl.connect f c t d).1.connection c =
        { Connection.fresh t (cl.factory f).clientIds d with
          terminationTimeout := (cl.factory f).config.terminationTimeout
          trusted := (cl.factory f).config.trustedPackages } := by
  simp only [connect, hx]
  exact ⟨trivial, connection_adjusted hc t _ d _⟩

theorem connections_step (h : Sound cl) (call : Call) :
    (cl.step call).1.connections.keys =
      cl.connections.keys ++ (madeConnection (cl, call)).toList := by
  cases call with
  | openConnection c t r d deaf =>
    cases ha : cl.admits (.openConnection c t r d deaf) with
    | false =>
      have hstep : cl.step (.openConnection c t r d deaf) = (cl, .refused) := step_refused ha
      simp [madeConnection, answered, hstep, Answer.isDone]
    | true =>
      have hstep : cl.step (.openConnection c t r d deaf) =
          (cl.openConnection c t r d deaf, .done) :=
        if_pos ha
      simp only [admits, Bool.and_eq_true, Bool.not_eq_true'] at ha
      simp [madeConnection, answered, hstep, Answer.isDone, keys_openConnection ha.1.1.1]
  | connect f c t d =>
    cases ha : cl.admits (.connect f c t d) with
    | false =>
      have hstep : cl.step (.connect f c t d) = (cl, .refused) := step_refused ha
      simp [madeConnection, answered, hstep, Answer.isDone]
    | true =>
      have hstep : cl.step (.connect f c t d) = (cl.connect f c t d).map id .ofUnit := if_pos ha
      simp only [admits, Bool.and_eq_true, Bool.not_eq_true'] at ha
      rcases cl.keys_connect ha.1.1.2 f t d with ⟨e, he⟩ | ⟨hok, hkeys⟩
      · simp [madeConnection, answered, hstep, he, Answer.ofUnit, Answer.isDone]
      · simp [madeConnection, answered, hstep, hok, hkeys, Answer.ofUnit, Answer.isDone]
  | _ =>
    rw [(accounted_step h _).connection_keys.eq rfl, madeConnection_of_not rfl]
    exact (List.append_nil _).symm

theorem connections_run (calls : List Call) :
    (initial.run calls).1.connections.keys = (initial.history calls).filterMap madeConnection :=
  list_run (fun cl => cl.connections.keys) madeConnection (fun _ call h => connections_step h call)
    sound_initial calls

theorem sessionsOf_run (calls : List Call) (c : ConnectionId) :
    (initial.run calls).1.sessionsOf c = (initial.history calls).filterMap (madeSession c) :=
  list_run (Client.sessionsOf · c) (madeSession c) (fun _ call h => sessionsOf_step h call c)
    sound_initial calls

theorem consumersOf_run (calls : List Call) (s : SessionId) :
    (initial.run calls).1.consumersOf s = (initial.history calls).filterMap (madeConsumer s) :=
  list_run (Client.consumersOf · s) (madeConsumer s) (fun _ call h => consumersOf_step h call s)
    sound_initial calls

end Client

end BrokerClient
