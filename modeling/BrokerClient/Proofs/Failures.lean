import BrokerClient.Proofs.Client.Change
import BrokerClient.Proofs.Client.Subscribing

/-!
# Failed calls

A call that fails has changed next to nothing, a close apart: it may have ruled out a client ID for
the connection that it was made on, and it has counted its error if errors of that kind are counted.
Whatever else a call does comes after the last of its checks.
-/

namespace BrokerClient

/-- What a failure adds to the counts. -/
def Metrics.failed (m : Metrics) : MessagingError → Metrics
  | .invalidClientId _ => m.collided
  | .untrustedPayload _ => m.refused
  | _ => m

namespace Answer

theorem ofUnit_eq_failed {r : Except MessagingError Unit} {e : MessagingError} :
    ofUnit r = .failed e ↔ r = .error e := by
  rcases r with e' | ⟨⟨⟩⟩ <;> simp [ofUnit]

theorem ofResult_eq_failed {α : Type} {ok : α → Answer} {e : MessagingError}
    (hok : ∀ a, ok a ≠ .failed e) {r : Except MessagingError α} :
    ofResult ok r = .failed e ↔ r = .error e := by
  cases r with
  | error e' => simp [ofResult]
  | ok a => simp [ofResult, hok]

end Answer

namespace Client

variable {α : Type} {cl : Client} {call : Call} {c : ConnectionId} {s : SessionId}

/-- The second client is what a failure of the call with the error leaves of the first. -/
def Unspoilt (call : Call) (e : MessagingError) (before after : Client) : Prop :=
  ∃ connections log,
    after = { before with connections, metrics := before.metrics.failed e, log } ∧
      (connections = before.connections ∨
        ∃ c, call.isUseOf c = true ∧ connections = (before.foreclose c).connections)

/-- If this is what a call comes to, it spoils nothing by failing. -/
def FailsClean (call : Call) (before : Client) (out : Client × Except MessagingError α) : Prop :=
  ∀ e, out.2 = .error e → Unspoilt call e before out.1

namespace FailsClean

theorem ok (after : Client) (a : α) : FailsClean call cl (after, .ok a) := nofun

/-- A failure that is not counted and leaves everything. -/
theorem error {e : MessagingError} (h : cl.metrics.failed e = cl.metrics) :
    FailsClean call cl (cl, (.error e : Except MessagingError α)) := by
  rintro _ ⟨⟩
  exact ⟨cl.connections, cl.log, by rw [h], Or.inl rfl⟩

/-- What goes on only when a connection is open has not begun when it is closed. -/
theorem ifOpen {go : Unit → Client × Except MessagingError α}
    (hgo : (cl.connection c).closed = false → FailsClean call cl (go ())) :
    FailsClean call cl (cl.ifOpen c go) := by
  unfold Client.ifOpen
  split
  · exact error rfl
  · next hn => exact hgo (Bool.eq_false_iff.mpr hn)

/-- A use that rules out a client ID first and succeeds with every open connection. -/
theorem use {go : Unit → Client × Except MessagingError α} (hu : call.isUseOf c = true)
    (hgo : ∀ e, (go ()).2 ≠ .error e) : FailsClean call cl ((cl.foreclose c).ifOpen c go) := by
  intro e
  unfold Client.ifOpen
  split
  · rintro ⟨⟩
    exact ⟨(cl.foreclose c).connections, cl.log, rfl, Or.inr ⟨c, hu, rfl⟩⟩
  · exact fun h => absurd h (hgo e)

end FailsClean

/-- The connector fails before anything is made. -/
theorem failsClean_connect {f : FactoryId} {t : TransportId} {d : SubscriptionsId} :
    FailsClean call cl (cl.connect f c t d) := by
  unfold connect
  dsimp only
  split
  · next cause _ => cases cause <;> exact .error rfl
  · exact .ok _ ()

/-- Only a collision is counted. -/
theorem failsClean_setClientId {id : String} : FailsClean call cl (cl.setClientId c id) := by
  unfold setClientId claimId
  dsimp only
  split
  · exact .error rfl
  · refine .ifOpen fun _ => ?_
    split
    · exact .error rfl
    · cases (cl.registry (cl.connection c).clientIds).claim? id with
      | some claimed => exact .ok _ ()
      | none =>
        rintro _ ⟨⟩
        exact ⟨cl.connections, _, rfl, Or.inl rfl⟩

theorem failsClean_createSession {kind : SessionKind} {transacted : Bool}
    {mode : AcknowledgeMode} :
    FailsClean (.createSession kind c s transacted mode) cl
      (cl.createSession c s transacted mode) :=
  .use (beq_self_eq_true c) nofun

/-- Asking a closed connection for a queue or topic session is not even a use of it. -/
theorem failsClean_createSessionOf {kind : SessionKind} {transacted : Bool}
    {mode : AcknowledgeMode} :
    FailsClean (.createSession kind c s transacted mode) cl
      (createSessionOf kind cl c s transacted mode) := by
  cases kind with
  | plain => exact failsClean_createSession
  | queue => exact .ifOpen fun _ => failsClean_createSession
  | topic => exact .ifOpen fun _ => failsClean_createSession

theorem failsClean_metadata : FailsClean (.metadata c) cl (cl.metadata c) :=
  .use (beq_self_eq_true c) nofun

theorem failsClean_exceptionListener :
    FailsClean (.exceptionListener c) cl (cl.exceptionListener c) :=
  .use (beq_self_eq_true c) nofun

theorem failsClean_setExceptionListener {l : Option ListenerId} :
    FailsClean (.setExceptionListener c l) cl (cl.setExceptionListener c l) :=
  .use (beq_self_eq_true c) nofun

theorem failsClean_start : FailsClean (.start c) cl (cl.start c) := by
  refine .use (beq_self_eq_true c) fun e => ?_
  split <;> exact nofun

theorem failsClean_stop : FailsClean (.stop c) cl (cl.stop c) := by
  refine .use (beq_self_eq_true c) fun e => ?_
  split <;> exact nofun

theorem failsClean_createConsumer {k : ConsumerId} {token : String} {destination : Destination}
    {selector : Option String} :
    FailsClean call cl (cl.createConsumer s k token destination selector) := by
  unfold createConsumer
  split
  · exact .error rfl
  · exact .ok _ ()

/-- A name that an open consumer has is refused before the new consumer is known to anybody. -/
theorem failsClean_createDurable {k : ConsumerId} {token : String} {topic : Destination}
    {name : String} {selector : Option String} :
    FailsClean call cl (cl.createDurable s k token topic name selector) := by
  unfold createDurable bindDurable
  dsimp only
  split
  · exact .error rfl
  · split
    · exact .error rfl
    · split
      · exact .error rfl
      · cases (cl.durables (cl.session s).subscriptions).bind cl.isOpen name k with
        | bound d => exact .ok _ ()
        | rebound d => exact .ok _ ()
        | refused holder => exact .error rfl

theorem failsClean_unsubscribe {name : String} : FailsClean call cl (cl.unsubscribe s name) := by
  cases ho : (cl.session s).closed with
  | true =>
    rw [unsubscribe_of_closed ho]
    exact .error rfl
  | false =>
    cases ha : cl.activeConsumer? (cl.session s).subscriptions name with
    | some holder =>
      rw [unsubscribe_of_active ho ha]
      exact .error rfl
    | none =>
      cases h : (cl.durables (cl.session s).subscriptions).contains name with
      | true =>
        rw [unsubscribe_of_known ho ha h]
        exact .ok _ ()
      | false =>
        rw [unsubscribe_of_unknown ho ha h]
        exact .error rfl

/-- A refused payload is counted, one that is malformed is not. -/
theorem unspoilt_countRefusal {m : ObjectMessage} {trusted : TrustedPackages} {t : PayloadType}
    {complaint : Complaint} {e : MessagingError} (h : m.getObject trusted t complaint = .error e) :
    cl.countRefusal (m.getObject trusted t complaint) =
      { cl with metrics := cl.metrics.failed e } := by
  rw [h]
  unfold ObjectMessage.getObject ObjectMessage.decoded at h
  split at h
  · split at h
    · cases h
    · cases h
      rfl
  · cases h
    rfl

theorem failsClean_readObject {m : ObjectMessage} {t : PayloadType} {complaint : Complaint} :
    FailsClean call cl (cl.readObject s m t complaint) := fun _ h =>
  ⟨cl.connections, cl.log, unspoilt_countRefusal h, Or.inl rfl⟩

/-- The client ID of a connection is looked at without using the connection. -/
theorem failsClean_clientId : FailsClean call cl (cl, cl.clientId c) := by
  unfold clientId
  split
  · exact .error rfl
  · exact .ok _ _

/-- Operations either succeed always, or their failures are clean. -/
theorem unspoilt_perform {e : MessagingError} (hc : ∀ c, call ≠ .close c)
    (h : (cl.perform call).2 = .failed e) : Unspoilt call e cl (cl.perform call).1 := by
  cases call with
  | connect f c t d => exact failsClean_connect e (Answer.ofUnit_eq_failed.mp h)
  | createSession kind c s transacted mode =>
    exact failsClean_createSessionOf e (Answer.ofUnit_eq_failed.mp h)
  | clientId c => exact failsClean_clientId e ((Answer.ofResult_eq_failed nofun).mp h)
  | setClientId c id => exact failsClean_setClientId e (Answer.ofUnit_eq_failed.mp h)
  | metadata c => exact failsClean_metadata e ((Answer.ofResult_eq_failed nofun).mp h)
  | exceptionListener c =>
    exact failsClean_exceptionListener e ((Answer.ofResult_eq_failed nofun).mp h)
  | setExceptionListener c l =>
    exact failsClean_setExceptionListener e (Answer.ofUnit_eq_failed.mp h)
  | start c => exact failsClean_start e (Answer.ofUnit_eq_failed.mp h)
  | stop c => exact failsClean_stop e (Answer.ofUnit_eq_failed.mp h)
  | close c => exact absurd rfl (hc c)
  | connectionConsumer c durable =>
    cases h
    exact FailsClean.error (α := Unit) rfl _ rfl
  | readObject s m t words =>
    exact failsClean_readObject e ((Answer.ofResult_eq_failed nofun).mp h)
  | createConsumer s k token destination selector =>
    exact failsClean_createConsumer e (Answer.ofUnit_eq_failed.mp h)
  | createDurable s k token topic name selector =>
    exact failsClean_createDurable e (Answer.ofUnit_eq_failed.mp h)
  | unsubscribe s name => exact failsClean_unsubscribe e (Answer.ofUnit_eq_failed.mp h)
  | _ => cases h

/-- A call that fails leaves every connection, session and consumer, what is claimed and bound, the
transports and listeners and all counts as they were, unless it was a close. At most a client ID is
ruled out for the connection it was made on, a collision is counted for a client ID in use and a
refusal for a payload that is not trusted. The last goes for payloads read without a session as
well. -/
theorem failures_spoil_nothing (cl : Client) :
    (∀ call e, (∀ c, call ≠ .close c) → (cl.step call).2 = .failed e →
      Unspoilt call e cl (cl.step call).1) ∧
    ∀ (m : ObjectMessage) (trusted : TrustedPackages) (t : PayloadType) (complaint : Complaint)
      (e : MessagingError), m.getObject trusted t complaint = .error e →
        cl.countRefusal (m.getObject trusted t complaint) =
          { cl with metrics := cl.metrics.failed e } := by
  refine ⟨fun call e hc h => ?_, fun m trusted t complaint e => unspoilt_countRefusal⟩
  unfold step at h ⊢
  split
  · next ha =>
    rw [if_pos ha] at h
    exact unspoilt_perform hc h
  · next ha =>
    rw [if_neg ha] at h
    cases h

def contestedCalls : List Call :=
  [.makeRegistry ⟨0⟩, .makeSubscriptions ⟨0⟩, .openTransport ⟨0⟩, .openTransport ⟨1⟩,
    .openConnection ⟨0⟩ ⟨0⟩ ⟨0⟩ ⟨0⟩ false, .openConnection ⟨1⟩ ⟨1⟩ ⟨0⟩ ⟨0⟩ false,
    .setClientId ⟨0⟩ "a"]

/-- The collision is counted and nothing else has changed, and so is a payload that is not
trusted. -/
theorem failures_spoil_nothing_collision :
    let cl := (initial.run contestedCalls).1
    let e := MessagingError.invalidClientId "A connection with that client ID already exists [a]"
    (cl.step (.setClientId ⟨1⟩ "a")).2 = .failed e ∧
      Unspoilt (.setClientId ⟨1⟩ "a") e cl (cl.step (.setClientId ⟨1⟩ "a")).1 ∧
      (cl.metrics.failed e).collisions = 1 ∧
      cl.countRefusal ((⟨"x", []⟩ : ObjectMessage).getObject .default .any fun _ _ => "no JSON") =
        { cl with metrics := cl.metrics.failed (.untrustedPayload "x") } := by
  dsimp only
  have h := failures_spoil_nothing (initial.run contestedCalls).1
  have hfailed : ((initial.run contestedCalls).1.step (.setClientId ⟨1⟩ "a")).2 =
      .failed (.invalidClientId "A connection with that client ID already exists [a]") := by
    rfl
  have huntrusted : (⟨"x", []⟩ : ObjectMessage).getObject .default .any (fun _ _ => "no JSON") =
      .error (.untrustedPayload "x") := by
    rfl
  exact ⟨hfailed, h.1 _ _ nofun hfailed, rfl, h.2 _ _ _ _ _ huntrusted⟩

end Client

end BrokerClient
