import BrokerClient.Proofs.ClientIds.Claiming
import BrokerClient.Proofs.ClientIds.Foreclosure

/-!
# What a claim is answered

The answer to a claim of a client ID depends on what was done to the connection before and on what
the other connections of its registry have. Which of several reasons against it is given depends on
nothing else.
-/

namespace BrokerClient.Client

variable {cl : Client} {c : ConnectionId}

/-- The answer to a claim, from the history of the client. -/
def claimAnswer (past : List (Client × Call)) (cl : Client) (c : ConnectionId) (id : String) :
    Answer :=
  if past.any (forecloses c) then
    .failed (.illegalState "Client ID can only be set right after connection creation")
  else if (cl.connection c).closed then .failed (.illegalState "Connection is closed")
  else if past.any (identifies c) then .failed (.illegalState "Client ID already set")
  else if cl.heldByOther c id then
    .failed (.invalidClientId ("A connection with that client ID already exists [" ++ id ++ "]"))
  else .done

/-- A claim is answered by what the fields of the connection say of its history. -/
theorem ClaimsAgree.answer_setClientId (h : ClaimsAgree cl)
    (hr : (cl.connection c).isReferred = true) {past : List (Client × Call)}
    (hused : (cl.connection c).assignable = !past.any (forecloses c))
    (hset : (cl.connection c).clientId.isSome = past.any (identifies c)) (id : String) :
    (cl.step (.setClientId c id)).2 = claimAnswer past cl c id := by
  have hanswer : (cl.step (.setClientId c id)).2 = .ofUnit (cl.setClientId c id).2 :=
    congrArg Prod.snd (step_setClientId hr id)
  have hunused : (cl.connection c).assignable = true → past.any (forecloses c) = false := by
    intro ha
    rw [ha] at hused
    exact (Bool.not_eq_true' _).mp hused.symm
  have hunset : (cl.connection c).clientId = none → past.any (identifies c) = false := by
    intro hn
    rw [← hset, hn]
    rfl
  -- Each outcome of the claim is the first of the cases that its premises do not rule out.
  have hclaims := claims_setClientId cl c id
  rw [hanswer, claimAnswer]
  generalize cl.setClientId c id = result at hclaims ⊢
  cases hclaims with
  | used ha =>
    rw [ha] at hused
    rw [if_pos ((Bool.not_eq_false' _).mp hused.symm)]
    rfl
  | closed ha hcl =>
    rw [hunused ha, hcl]
    rfl
  | identified held ha ho hi =>
    rw [hi] at hset
    rw [hunused ha, ho, ← hset]
    rfl
  | collides ha ho hn hheld =>
    rw [h.holds_iff hn] at hheld
    rw [hunused ha, ho, hunset hn, hheld]
    rfl
  | succeeds claimed ha ho hn hfree _ =>
    rw [h.holds_iff hn] at hfree
    rw [hunused ha, ho, hunset hn, hfree]
    rfl

/-- A collision leaves the connection as it was, assignable as before. -/
theorem connection_of_collides {id : String} (h : collides (cl, .setClientId c id) = true) :
    ((cl.step (.setClientId c id)).1.connection c) = cl.connection c ∧
      (cl.connection c).assignable = true := by
  have hcollides : (cl.step (.setClientId c id)).2.isCollision = true := h
  by_cases hr : (cl.connection c).isReferred = true
  · rw [step_setClientId hr] at hcollides ⊢
    have hclaims := claims_setClientId cl c id
    generalize cl.setClientId c id = result at hclaims hcollides ⊢
    cases hclaims with
    | collides ha _ _ _ => exact ⟨rfl, ha⟩
    | used => cases hcollides
    | closed => cases hcollides
    | identified => cases hcollides
    | succeeds => cases hcollides
  · rw [step_setClientId_of_refused hr] at hcollides
    cases hcollides

/-- If registries are used through connections only, a claim of a client ID for a connection that
somebody refers to is answered by its history: that it was used, that it is closed, that it has an
ID, that another open connection on its registry has the one claimed, or that the claim succeeds, in
this order. No call makes a difference to the first of these but the uses of the connection. A
collision leaves the connection as it was, and the count of collisions is that of all claims that
came to one. -/
theorem setClientId_outcome {calls : List Call}
    (hcalls : ∀ call ∈ calls, call.isOnRegistry = false) (c : ConnectionId) :
    let past := initial.history calls
    let cl := (initial.run calls).1
    (∀ id, (cl.connection c).isReferred = true →
      (cl.step (.setClientId c id)).2 = claimAnswer past cl c id) ∧
    (∀ call, ((cl.step call).1.connection c).assignable =
      ((cl.connection c).assignable && !forecloses c (cl, call))) ∧
    (∀ id, collides (cl, .setClientId c id) = true →
      ((cl.step (.setClientId c id)).1.connection c) = cl.connection c ∧
        (cl.connection c).assignable = true) ∧
    cl.metrics.collisions = past.countP collides := by
  intro past cl
  have hreach : Reachable (fun call => call.isOnRegistry = false) cl :=
    Reachable.initial.run calls hcalls
  refine ⟨fun id hr => ?_, fun call => ?_, fun id h => connection_of_collides h, ?_⟩
  · exact hreach.claimsAgree.answer_setClientId hr (assignable_run calls c) (clientId_run calls c) id
  · exact assignable_step hreach.sound call c
  · exact collisions_run calls hcalls

/-- Two connections on one registry claim the same client ID. -/
def collidingCalls : List Call :=
  [.makeRegistry ⟨0⟩, .makeSubscriptions ⟨0⟩, .openTransport ⟨0⟩, .openTransport ⟨1⟩,
    .openConnection ⟨0⟩ ⟨0⟩ ⟨0⟩ ⟨0⟩ false, .openConnection ⟨1⟩ ⟨1⟩ ⟨0⟩ ⟨0⟩ false,
    .clientId ⟨1⟩, .setClientId ⟨0⟩ "a", .setClientId ⟨1⟩ "a"]

/-- The second one may still claim another, until it is asked for a description of the provider. -/
theorem setClientId_outcome_colliding :
    (∀ call ∈ collidingCalls, call.isOnRegistry = false) ∧
      let cl := (initial.run collidingCalls).1
      (cl.step (.setClientId ⟨0⟩ "b")).2 = .failed (.illegalState "Client ID already set") ∧
      (cl.step (.setClientId ⟨1⟩ "a")).2 = .failed (.invalidClientId
        "A connection with that client ID already exists [a]") ∧
      (cl.step (.setClientId ⟨1⟩ "b")).2 = .done ∧
      ((cl.step (.setClientId ⟨1⟩ "a")).1.connection ⟨1⟩) = cl.connection ⟨1⟩ ∧
      ((cl.step (.metadata ⟨1⟩)).1.connection ⟨1⟩).assignable = false ∧
      cl.metrics.collisions = 1 := by
  have hcalls : ∀ call ∈ collidingCalls, call.isOnRegistry = false := by decide
  obtain ⟨hfirst, -, -, -⟩ := setClientId_outcome hcalls ⟨0⟩
  obtain ⟨hsecond, hstays, hcollision, hcount⟩ := setClientId_outcome hcalls ⟨1⟩
  refine ⟨hcalls, ?_, ?_, ?_, ?_, ?_, ?_⟩
  · exact (hfirst "b" (by decide)).trans rfl
  · exact (hsecond "a" (by decide)).trans rfl
  · exact (hsecond "b" (by decide)).trans rfl
  · exact (hcollision "a" (by decide)).1
  · exact (hstays (.metadata ⟨1⟩)).trans (by decide)
  · exact hcount.trans (by decide)

end BrokerClient.Client
