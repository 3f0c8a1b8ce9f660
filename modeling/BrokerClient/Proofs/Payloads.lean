import BrokerClient.Proofs.Client.Attribution
import BrokerClient.Proofs.Client.Creating
import BrokerClient.Proofs.Endings
import BrokerClient.Proofs.Failures

/-!
# Payloads that are read

A session reads payloads under the policy that its connection had when the session was made,
whatever is set later. A type that no entry of the policy covers is refused before the body is
looked at, and each refusal is counted.
-/

namespace BrokerClient

/-- A payload was refused because no policy trusts its type. -/
def MessagingError.isUntrusted : MessagingError → Bool
  | untrustedPayload _ => true
  | _ => false

namespace Client

variable {cl : Client} {c : ConnectionId} {s : SessionId}

/-- The policy that the call of an entry gave the connection: the one it set, or that of the factory
which it opened the connection with. -/
def policyGiven (c : ConnectionId) (e : Client × Call) : Option TrustedPackages :=
  if (answered e).isDone then
    match e.2 with
    | .setTrusted c' trusted => if c' = c then some trusted else none
    | .connect f c' .. => if c' = c then some (e.1.factory f).config.trustedPackages else none
    | _ => none
  else none

theorem policyGiven_of_not_done {call : Call} (h : (answered (cl, call)).isDone = false) :
    policyGiven c (cl, call) = none :=
  if_neg (Bool.eq_false_iff.mp h)

theorem policyGiven_of_not {call : Call} (h : call.isTrustOf c = false) :
    policyGiven c (cl, call) = none := by
  unfold policyGiven
  split
  · cases call with
    | setTrusted c' trusted => exact if_neg (beq_eq_false_iff_ne.mp h)
    | connect f c' t d => exact if_neg (beq_eq_false_iff_ne.mp h)
    | _ => rfl
  · rfl

theorem trusted_step_setTrusted {trusted : TrustedPackages}
    (ha : cl.admits (.setTrusted c trusted) = true) :
    ((cl.step (.setTrusted c trusted)).1.connection c).trusted =
      (policyGiven c (cl, .setTrusted c trusted)).getD (cl.connection c).trusted := by
  have hstep : cl.step (.setTrusted c trusted) = (cl.setTrusted c trusted, .done) := if_pos ha
  have hset := connection_onConnection_of_has (has_connection_of_isReferred ha)
    (fun x => { x with trusted }) c
  rw [if_pos rfl] at hset
  have hgiven : policyGiven c (cl, .setTrusted c trusted) = some trusted := by
    simp [policyGiven, answered, hstep, Answer.isDone]
  rw [hgiven, hstep]
  exact congrArg Connection.trusted hset

/-- A connection of a factory starts out with the policy of the factory's configuration. -/
theorem trusted_step_connect {f : FactoryId} {t : TransportId} {d : SubscriptionsId}
    (ha : cl.admits (.connect f c t d) = true) :
    ((cl.step (.connect f c t d)).1.connection c).trusted =
      (policyGiven c (cl, .connect f c t d)).getD (cl.connection c).trusted := by
  have hstep : cl.step (.connect f c t d) = (cl.connect f c t d).map id .ofUnit := if_pos ha
  simp only [admits, Bool.and_eq_true, Bool.not_eq_true'] at ha
  cases hx : (cl.factory f).connector with
  | failing e =>
    have hfail : cl.connect f c t d = (cl, .error (.ofTransport e)) := by
      simp only [connect, hx]
    have hnone : policyGiven c (cl, .connect f c t d) = none :=
      policyGiven_of_not_done (by rw [answered, hstep, hfail]; rfl)
    rw [hnone, hstep, hfail]
    rfl
  | loopback =>
    obtain ⟨hok, hnew⟩ : (cl.connect f c t d).2 = .ok () ∧
      (cl.connect f c t d).1.connection c = _ := connection_connect ha.1.1.2 hx
    have hgiven : policyGiven c (cl, .connect f c t d) =
        some (cl.factory f).config.trustedPackages := by
      simp [policyGiven, answered, hstep, hok, Answer.ofUnit, Answer.isDone]
    rw [hgiven, hstep]
    exact congrArg Connection.trusted hnew

theorem trusted_step (h : Sound cl) (c : ConnectionId) (call : Call) :
    ((cl.step call).1.connection c).trusted =
      (policyGiven c (cl, call)).getD (cl.connection c).trusted := by
  cases ha : cl.admits call with
  | false =>
    have hstep : cl.step call = (cl, .refused) := step_refused ha
    rw [policyGiven_of_not_done (by rw [answered, hstep]; rfl), hstep]
    rfl
  | true =>
    cases hk : call.isTrustOf c with
    | false =>
      rw [policyGiven_of_not hk]
      exact ((attributed_step h call).trusted c).eq hk
    | true =>
      cases call with
      | setTrusted c' trusted =>
        obtain rfl : c' = c := beq_iff_eq.mp hk
        exact trusted_step_setTrusted ha
      | connect f c' t d =>
        obtain rfl : c' = c := beq_iff_eq.mp hk
        exact trusted_step_connect ha
      | _ => cases hk

/-- A connection has the policy that it was given last, and the default one before. -/
theorem trusted_run (calls : List Call) (c : ConnectionId) :
    ((initial.run calls).1.connection c).trusted =
      ((initial.history calls).filterMap (policyGiven c)).getLast?.getD .default :=
  last_run (fun cl => (cl.connection c).trusted) (policyGiven c)
    (fun _ call h _ => trusted_step h c call) sound_initial calls fun _ _ => trivial

/-- A session keeps the policy that its connection had when it was made. -/
theorem trusted_session_run {kind : SessionKind} {transacted : Bool} {mode : AcknowledgeMode}
    (h : Sound cl) (hdone : answered (cl, .createSession kind c s transacted mode) = .done)
    (later : List Call) :
    ((cl.run (.createSession kind c s transacted mode :: later)).1.session s).trusted =
      (cl.connection c).trusted := by
  let made := (cl.step (.createSession kind c s transacted mode)).1
  obtain ⟨hc, hs, hnew⟩ : _ ∧ made.sessions.has s = true ∧ made.session s = _ :=
    session_made (Prod.ext rfl hdone)
  have hf := connection_foreclose hc c
  rw [if_pos rfl] at hf
  have hcontinues := (continues_run (h.step _) later).session s hs
  have hkept : ((made.run later).1.session s).trusted = (made.session s).trusted :=
    (congrArg Session.trusted hcontinues.origin :)
  refine hkept.trans ?_
  rw [hnew]
  simp only [nextSession, hf]

theorem isTrusted_eq_false_iff {policy : TrustedPackages} {typeName : String} :
    policy.isTrusted typeName = false ↔
      ∀ p ∈ policy.packages, packageCovers p typeName = false := by
  simp only [TrustedPackages.isTrusted, List.any_eq_false, Bool.not_eq_true]

/-- A type that is not covered is refused and counted, and the body is not looked at. -/
theorem step_readObject_of_uncovered (hs : cl.sessions.has s = true) {m : ObjectMessage}
    (h : (cl.session s).trusted.isTrusted m.typeName = false) (t : PayloadType) (words : String) :
    cl.step (.readObject s m t words) =
      (cl.count Metrics.refused, .failed (.untrustedPayload m.typeName)) := by
  have hstep : cl.step (.readObject s m t words) =
      (cl.readObject s m t fun _ _ => words).map id (.ofResult .payload) :=
    if_pos hs
  have hrefused : m.getObject (cl.session s).trusted t (fun _ _ => words) =
      .error (.untrustedPayload m.typeName) :=
    if_neg (Bool.eq_false_iff.mp h)
  rw [hstep, readObject, hrefused]
  rfl

/-- A type that is covered is decoded, and nothing changes. -/
theorem step_readObject_of_covered (hs : cl.sessions.has s = true) {m : ObjectMessage}
    (h : (cl.session s).trusted.isTrusted m.typeName = true) (t : PayloadType)
    (complaint : Complaint) :
    cl.step (.readObject s m t (complaint m.body t)) =
      (cl, .ofResult .payload (m.decoded t complaint)) := by
  have hstep : cl.step (.readObject s m t (complaint m.body t)) =
      (cl.readObject s m t fun _ _ => complaint m.body t).map id (.ofResult .payload) :=
    if_pos hs
  -- The words of one call are those that the reader has for its body and type.
  have hdecoded : m.getObject (cl.session s).trusted t (fun _ _ => complaint m.body t) =
      m.decoded t complaint := if_pos h
  rw [hstep, readObject, hdecoded]
  unfold ObjectMessage.decoded
  split <;> rfl

/-- The call of an entry was answered that a payload is not trusted. -/
def refusesPayload (e : Client × Call) : Bool :=
  match answered e with
  | .failed error => error.isUntrusted
  | _ => false

theorem untrusted_failed (m : Metrics) (e : MessagingError) :
    (m.failed e).untrusted = m.untrusted + if e.isUntrusted then 1 else 0 := by
  cases e <;> rfl

/-- A close that fails does so for its transport. -/
theorem isUntrusted_close (h : WellFormed cl) {e : MessagingError}
    (he : (cl.close c).2 = .error e) : e.isUntrusted = false := by
  cases ho : (cl.connection c).closed with
  | true =>
    rw [close_of_closed ho] at he
    cases he
  | false =>
    rw [result_close h ho] at he
    cases hr : (cl.transport (cl.connection c).transport).close.2 with
    | ok _ =>
      rw [hr] at he
      cases he
    | error cause =>
      rw [hr, closeResult] at he
      split at he
      · cases he
      · cases he
        cases cause <;> rfl

/-- A call that does not fail refuses no payload. -/
theorem untrusted_perform_of_ok (h : Sound cl) {call : Call} (ha : cl.admits call = true)
    (hok : ∀ e, (cl.perform call).2 ≠ .failed e) :
    (cl.perform call).1.metrics.untrusted = cl.metrics.untrusted := by
  have hstep : cl.step call = cl.perform call := if_pos ha
  cases hk : call.isReading with
  | false =>
    rw [← hstep]
    exact (attributed_step h call).untrusted.eq hk
  | true =>
    cases call with
    | readObject s m t words =>
      have hread : cl.perform (.readObject s m t words) =
          (cl.readObject s m t fun _ _ => words).map id (.ofResult .payload) := rfl
      rw [hread] at hok ⊢
      unfold readObject at hok ⊢
      cases hr : m.getObject (cl.session s).trusted t (fun _ _ => words) with
      | ok v => rfl
      | error e =>
        rw [hr] at hok
        exact absurd rfl (hok e)
    | _ => cases hk

/-- A step counts a refusal exactly if it answers with one. -/
theorem untrusted_step (h : Sound cl) (call : Call) :
    (cl.step call).1.metrics.untrusted =
      cl.metrics.untrusted + if refusesPayload (cl, call) then 1 else 0 := by
  cases ha : cl.admits call with
  | false =>
    have hstep : cl.step call = (cl, .refused) := step_refused ha
    simp [refusesPayload, answered, hstep]
  | true =>
    have hstep : cl.step call = cl.perform call := if_pos ha
    simp only [refusesPayload, answered, hstep]
    cases hanswer : (cl.perform call).2 with
    | failed e =>
      by_cases hclose : ∃ c, call = .close c
      · obtain ⟨c, rfl⟩ := hclose
        have hkept := (attributed_step h (.close c)).untrusted.eq rfl
        have he : (cl.close c).2 = .error e := Answer.ofUnit_eq_failed.mp hanswer
        rw [hstep] at hkept
        simp only [hkept, isUntrusted_close h.toWellFormed he, Bool.false_eq_true, if_false,
          Nat.add_zero]
      · obtain ⟨connections, log, hafter, -⟩ :=
          unspoilt_perform (fun c hc => hclose ⟨c, hc⟩) hanswer
        rw [hafter]
        exact untrusted_failed cl.metrics e
    | _ => exact untrusted_perform_of_ok h ha (by simp [hanswer])

/-- As many payloads were counted as refused as calls were answered so. -/
theorem untrusted_run (calls : List Call) :
    (initial.run calls).1.metrics.untrusted = (initial.history calls).countP refusesPayload := by
  have hrun := count_run (fun cl => cl.metrics.untrusted) refusesPayload
    (fun _ call h _ => untrusted_step h call) sound_initial calls fun _ _ => trivial
  have h₀ : initial.metrics.untrusted = 0 := rfl
  rw [h₀, Nat.zero_add] at hrun
  exact hrun

/-- Whatever happens after a session was made, it reads payloads under the policy that its
connection was given last before, by a call that set it or by the factory that opened the
connection, or under the default one. If no entry covers the type of a payload it is refused,
counted and nothing else, whatever the body and whatever it is to be decoded as. Else it is decoded
or found malformed, and nothing changes. In a whole run as many refusals are counted as calls were
answered with. -/
theorem payloads_gated :
    (∀ (before : List Call) kind c s transacted mode (later : List Call),
      let creation := Call.createSession kind c s transacted mode
      let policy := ((initial.history before).filterMap (policyGiven c)).getLast?.getD .default
      let cl := (initial.run (before ++ creation :: later)).1
      answered ((initial.run before).1, creation) = .done → ∀ (m : ObjectMessage) t,
        ((∀ p ∈ policy.packages, packageCovers p m.typeName = false) → ∀ body t' words,
          cl.step (.readObject s { m with body } t' words) =
            (cl.count Metrics.refused, .failed (.untrustedPayload m.typeName))) ∧
        ((∃ p ∈ policy.packages, packageCovers p m.typeName = true) → ∀ complaint : Complaint,
          cl.step (.readObject s m t (complaint m.body t)) =
            (cl, .ofResult .payload (m.decoded t complaint)))) ∧
    ∀ calls, (initial.run calls).1.metrics.untrusted =
      (initial.history calls).countP refusesPayload := by
  refine ⟨?_, untrusted_run⟩
  intro before kind c s transacted mode later creation policy cl hdone m t
  have hsound : Sound (initial.run before).1 := sound_initial.run before
  have hrun : cl = ((initial.run before).1.run (creation :: later)).1 :=
    run_append initial before (creation :: later)
  have hpolicy : (cl.session s).trusted = policy := by
    rw [hrun, trusted_session_run hsound hdone later]
    exact trusted_run before c
  have hs : cl.sessions.has s = true := by
    have hmade := (session_made (Prod.ext rfl hdone)).2.1
    rw [hrun]
    exact (continues_run (hsound.step creation) later).sessions_has s hmade
  constructor
  · intro huncovered body t' words
    refine step_readObject_of_uncovered hs ?_ t' words
    rw [hpolicy]
    exact isTrusted_eq_false_iff.mpr huncovered
  · intro hcovered complaint
    refine step_readObject_of_covered hs ?_ t complaint
    rw [hpolicy]
    exact List.any_eq_true.mpr hcovered

def trustingCalls : List Call :=
  [.makeRegistry ⟨0⟩, .makeFactory ⟨0⟩ { trustedPackages := ⟨["a"]⟩ } .loopback ⟨0⟩,
    .connect ⟨0⟩ ⟨0⟩ ⟨0⟩ ⟨0⟩]

/-- A session is made, and then the connection is set to trust all types and closed. -/
def trustedLateCalls : List Call :=
  [.createSession .plain ⟨0⟩ ⟨0⟩ false .autoAcknowledge, .setTrusted ⟨0⟩ ⟨["*"]⟩, .close ⟨0⟩]

/-- A type of another package is refused, and one of the package is decoded or found malformed. -/
theorem payloads_gated_factory :
    let cl := (initial.run (trustingCalls ++ trustedLateCalls)).1
    cl.step (.readObject ⟨0⟩ ⟨"b.c", [55]⟩ .int64 "no integer") =
        (cl.count Metrics.refused, .failed (.untrustedPayload "b.c")) ∧
      cl.step (.readObject ⟨0⟩ ⟨"a.b", [55]⟩ .int64 "no integer") = (cl, .payload (.integer 7)) ∧
      cl.step (.readObject ⟨0⟩ ⟨"a.b", []⟩ .int64 "end of input") =
        (cl, .failed (.serialization "end of input")) := by
  intro cl
  have hmade : answered ((initial.run trustingCalls).1,
      .createSession .plain ⟨0⟩ ⟨0⟩ false .autoAcknowledge) = .done := by
    rfl
  have hgate := payloads_gated.1 trustingCalls .plain ⟨0⟩ ⟨0⟩ false .autoAcknowledge
    [.setTrusted ⟨0⟩ ⟨["*"]⟩, .close ⟨0⟩] hmade
  let complaint : Complaint := fun body _ => if body.isEmpty then "end of input" else "no integer"
  have hrefused := (hgate ⟨"b.c", [55]⟩ .int64).1 (by decide) [55] .int64 "no integer"
  have hdecoded := (hgate ⟨"a.b", [55]⟩ .int64).2 (by decide) complaint
  have hmalformed := (hgate ⟨"a.b", []⟩ .int64).2 (by decide) complaint
  exact ⟨hrefused, hdecoded.trans (by rfl), hmalformed.trans (by rfl)⟩

end Client

end BrokerClient
