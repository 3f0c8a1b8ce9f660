import BrokerClient.Proofs.Client.Accounting
import BrokerClient.Proofs.ClientIds

/-!
# Claiming a client ID

What comes of a claim, case by case. A claim that fails leaves the connection as it is, and of the
failures only the one on a held ID is counted.
-/

namespace BrokerClient

def Answer.isCollision : Answer → Bool
  | failed (.invalidClientId _) => true
  | _ => false

namespace Client

variable {cl : Client} {c : ConnectionId} {id : String}

/-- What may come of a claim, in the order in which the cases are ruled out. -/
inductive Claims (cl : Client) (c : ConnectionId) (id : String) :
    Client × Except MessagingError Unit → Prop where
  | used : (cl.connection c).assignable = false →
    Claims cl c id
      (cl, .error (.illegalState "Client ID can only be set right after connection creation"))
  | closed : (cl.connection c).assignable = true → (cl.connection c).closed = true →
    Claims cl c id (cl, .error .connectionClosed)
  | identified (held : String) : (cl.connection c).assignable = true →
    (cl.connection c).closed = false → (cl.connection c).clientId = some held →
      Claims cl c id (cl, .error (.illegalState "Client ID already set"))
  | collides : (cl.connection c).assignable = true → (cl.connection c).closed = false →
    (cl.connection c).clientId = none →
      (cl.registry (cl.connection c).clientIds).holds id = true →
      Claims cl c id
        ((cl.count Metrics.collided).note (.clientIdHeld id),
          .error (.invalidClientId
            ("A connection with that client ID already exists [" ++ id ++ "]")))
  | succeeds (claimed : ClientIdRegistry) : (cl.connection c).assignable = true →
    (cl.connection c).closed = false → (cl.connection c).clientId = none →
      (cl.registry (cl.connection c).clientIds).holds id = false →
      (cl.registry (cl.connection c).clientIds).claim? id = some claimed →
      Claims cl c id ((cl.identified c id claimed).note (.clientIdSet id), .ok ())

theorem claims_setClientId (cl : Client) (c : ConnectionId) (id : String) :
    Claims cl c id (cl.setClientId c id) := by
  unfold setClientId ifOpen claimId
  dsimp only
  cases ha : (cl.connection c).assignable with
  | false => exact .used ha
  | true =>
    rw [Bool.not_true, if_neg Bool.false_ne_true]
    cases hcl : (cl.connection c).closed with
    | true => exact .closed ha hcl
    | false =>
      rw [if_neg Bool.false_ne_true]
      cases hi : (cl.connection c).clientId with
      | some held => exact .identified held ha hcl hi
      | none =>
        cases hcr : (cl.registry (cl.connection c).clientIds).claim? id with
        | none =>
          have hheld := (ClientIdRegistry.claim?_eq_none_iff _ id).mp hcr
          exact .collides ha hcl hi (decide_eq_true hheld)
        | some claimed =>
          have hfree : ¬ id ∈ (cl.registry (cl.connection c).clientIds).ids := by
            intro hheld
            rw [(ClientIdRegistry.claim?_eq_none_iff _ id).mpr hheld] at hcr
            cases hcr
          exact .succeeds claimed ha hcl hi (decide_eq_false hfree) hcr

/-- The call of an entry gave the connection its client ID. -/
def identifies (c : ConnectionId) (e : Client × Call) : Bool :=
  match e.2 with
  | .setClientId c' _ => c' == c && (answered e).isDone
  | _ => false

/-- The call of an entry claimed a client ID for a connection that another one had. -/
def collides (e : Client × Call) : Bool :=
  match e.2 with
  | .setClientId .. => (answered e).isCollision
  | _ => false

theorem identifies_of_not {call : Call} (h : call.isClaimFor c = false) :
    identifies c (cl, call) = false := by
  cases call with
  | setClientId c' i =>
    have hne : (c' == c) = false := h
    simp only [identifies, hne, Bool.false_and]
  | _ => rfl

theorem collides_of_not {call : Call} (h : call.isClaim = false) :
    collides (cl, call) = false := by
  cases call with
  | setClientId => cases h
  | _ => rfl

theorem step_setClientId_of_refused (hr : ¬ (cl.connection c).isReferred = true) (id : String) :
    cl.step (.setClientId c id) = (cl, .refused) :=
  if_neg hr

theorem step_setClientId (hr : (cl.connection c).isReferred = true) (id : String) :
    cl.step (.setClientId c id) = ((cl.setClientId c id).1, .ofUnit (cl.setClientId c id).2) :=
  if_pos hr

/-- A connection gets a client ID by a claim that succeeds. -/
theorem clientId_step (h : Sound cl) (call : Call) (c : ConnectionId) :
    ((cl.step call).1.connection c).clientId.isSome =
      ((cl.connection c).clientId.isSome || identifies c (cl, call)) := by
  cases hclaim : call.isClaimFor c with
  | false =>
    rw [((accounted_step h call).clientId c).eq hclaim, identifies_of_not hclaim, Bool.or_false]
  | true =>
    cases call with
    | setClientId c' id =>
      obtain rfl := beq_iff_eq.mp hclaim
      have hidentifies : identifies c' (cl, .setClientId c' id) =
          (cl.step (.setClientId c' id)).2.isDone := by
        simp only [identifies, answered, beq_self_eq_true, Bool.true_and]
      rw [hidentifies]
      by_cases hr : (cl.connection c').isReferred = true
      · rw [step_setClientId hr]
        have hclaims := claims_setClientId cl c' id
        generalize cl.setClientId c' id = result at hclaims ⊢
        cases hclaims with
        | used => exact (Bool.or_false _).symm
        | closed => exact (Bool.or_false _).symm
        | identified => exact (Bool.or_false _).symm
        | collides => exact (Bool.or_false _).symm
        | succeeds claimed _ ho _ _ _ =>
          have hv := connection_identified ho id claimed c'
          rw [if_pos rfl] at hv
          have hsome : (((cl.identified c' id claimed).note (.clientIdSet id)).connection
              c').clientId = some id := congrArg Connection.clientId hv
          rw [hsome]
          exact (Bool.or_true _).symm
      · rw [step_setClientId_of_refused hr]
        exact (Bool.or_false _).symm
    | _ => cases hclaim

/-- Every claim that fails on a held ID is counted, and nothing else is if nobody claims at a
registry directly. -/
theorem collisions_step (h : Sound cl) (call : Call) (hr : call.isOnRegistry = false) :
    (cl.step call).1.metrics.collisions =
      cl.metrics.collisions + if collides (cl, call) then 1 else 0 := by
  -- A direct claim at a registry is the only other one, and it is left out.
  cases hclaim : call.isClaim with
  | false =>
    rw [(accounted_step h call).collisions.eq hclaim, collides_of_not hclaim]
    rfl
  | true =>
    cases call with
    | setClientId c id =>
      have hcollides : collides (cl, .setClientId c id) =
          (cl.step (.setClientId c id)).2.isCollision := rfl
      rw [hcollides]
      by_cases hr : (cl.connection c).isReferred = true
      · rw [step_setClientId hr]
        have hclaims := claims_setClientId cl c id
        generalize cl.setClientId c id = result at hclaims ⊢
        cases hclaims <;> rfl
      · rw [step_setClientId_of_refused hr]
        rfl
    | claimId => cases hr
    | _ => cases hclaim

theorem clientId_run (calls : List Call) (c : ConnectionId) :
    ((initial.run calls).1.connection c).clientId.isSome =
      (initial.history calls).any (identifies c) :=
  flag_run (fun cl => (cl.connection c).clientId.isSome) (identifies c)
    (fun _ call h => clientId_step h call c) sound_initial calls

theorem collisions_run (calls : List Call) (hcalls : ∀ call ∈ calls, call.isOnRegistry = false) :
    (initial.run calls).1.metrics.collisions = (initial.history calls).countP collides :=
  (count_run (fun cl => cl.metrics.collisions) collides
    (fun _ call h hr => collisions_step h call hr) sound_initial calls hcalls).trans
    (Nat.zero_add _)

/-- Another open connection on the same registry has the client ID. -/
def heldByOther (cl : Client) (c : ConnectionId) (id : String) : Bool :=
  cl.connections.keys.any fun c' =>
    c' != c && !(cl.connection c').closed &&
      (cl.connection c').clientIds == (cl.connection c).clientIds &&
      (cl.connection c').clientId == some id

/-- The registry of a connection without a client ID holds what other connections have. -/
theorem ClaimsAgree.holds_iff (h : ClaimsAgree cl) (hn : (cl.connection c).clientId = none)
    (id : String) :
    (cl.registry (cl.connection c).clientIds).holds id = cl.heldByOther c id := by
  rw [Bool.eq_iff_iff, ClientIdRegistry.holds, decide_eq_true_iff, h.held, heldByOther,
    List.any_eq_true]
  constructor
  · rintro ⟨c', ho, hr, hi⟩
    have hne : c' ≠ c := by
      rintro rfl
      rw [hn] at hi
      cases hi
    refine ⟨c', Table.has_iff.mp (has_connection ho), ?_⟩
    simp [hne, ho, hr, hi]
  · rintro ⟨c', -, hc'⟩
    simp only [Bool.and_eq_true, Bool.not_eq_true', beq_iff_eq] at hc'
    exact ⟨c', hc'.1.1.2, hc'.1.2, hc'.2⟩

end Client

end BrokerClient
