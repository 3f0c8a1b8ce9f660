import Mathlib.Data.List.Nodup
import BrokerClient.Proofs.Client.Steps

/-!
# Client IDs

A registry holds an ID as long as an open connection has it. The registry and the connections record
this separately, and a release goes by the ID alone. It hits the right claim because no two open
connections on a registry have one ID.
-/

namespace BrokerClient

/-- The call goes to a registry and not to a connection. -/
def Call.isOnRegistry : Call → Bool
  | .claimId .. | .releaseId .. => true
  | _ => false

namespace Client

/-- An open connection on a registry has a client ID. -/
def Carries (cl : Client) (c : ConnectionId) (r : RegistryId) (id : String) : Prop :=
  (cl.connection c).closed = false ∧ (cl.connection c).clientIds = r ∧
    (cl.connection c).clientId = some id

/-- The registries and the connections agree. -/
structure ClaimsAgree (cl : Client) : Prop where
  held : ∀ r id, id ∈ (cl.registry r).ids ↔ ∃ c, cl.Carries c r id
  unique : ∀ c c' r id, cl.Carries c r id → cl.Carries c' r id → c = c'

variable {cl : Client}

theorem ClaimsAgree.congr {before after : Client} (h : ClaimsAgree before)
    (hr : ∀ r, after.registry r = before.registry r)
    (hc : ∀ c r id, after.Carries c r id ↔ before.Carries c r id) : ClaimsAgree after where
  held r id := by
    rw [hr, h.held]
    exact exists_congr fun c => (hc c r id).symm
  unique c c' r id h₁ h₂ := h.unique c c' r id ((hc c r id).mp h₁) ((hc c' r id).mp h₂)

/-- Whether an ID is carried depends on three fields of the connection. -/
theorem carries_congr {before after : Client} {c : ConnectionId}
    (hcl : (after.connection c).closed = (before.connection c).closed)
    (hr : (after.connection c).clientIds = (before.connection c).clientIds)
    (hi : (after.connection c).clientId = (before.connection c).clientId) (r : RegistryId)
    (id : String) : after.Carries c r id ↔ before.Carries c r id := by
  rw [Carries, Carries, hcl, hr, hi]

theorem carries_of_connection_eq {before after : Client} {c : ConnectionId}
    (h : after.connection c = before.connection c) (r : RegistryId) (id : String) :
    after.Carries c r id ↔ before.Carries c r id :=
  carries_congr (by rw [h]) (by rw [h]) (by rw [h]) r id

/-- A connection just opened has no client ID. -/
theorem carries_withConnection {c : ConnectionId} (hc : cl.connections.has c = false)
    (t : TransportId) (r : RegistryId) (d : SubscriptionsId) (c' : ConnectionId) (r' : RegistryId)
    (id : String) :
    (cl.withConnection c (.fresh t r d)).Carries c' r' id ↔ cl.Carries c' r' id := by
  have hv := connection_withConnection hc (.fresh t r d) c'
  by_cases he : c' = c
  · rw [if_pos he] at hv
    constructor
    · rintro ⟨-, -, hid⟩
      rw [hv] at hid
      cases hid
    · rintro ⟨ho, -, -⟩
      exact absurd he (Table.ne_of_has (has_connection ho) hc)
  · rw [if_neg he] at hv
    exact carries_of_connection_eq hv r' id

/-- A claim adds the ID of the connection to what is carried. -/
theorem carries_identified {c : ConnectionId} (ho : (cl.connection c).closed = false)
    (hn : (cl.connection c).clientId = none) (id : String) (claimed : ClientIdRegistry)
    (c' : ConnectionId) (r : RegistryId) (id' : String) :
    (cl.identified c id claimed).Carries c' r id' ↔
      cl.Carries c' r id' ∨ c' = c ∧ r = (cl.connection c).clientIds ∧ id' = id := by
  have hv := connection_identified ho id claimed c'
  by_cases he : c' = c
  · rw [if_pos he] at hv
    have hold : ¬ cl.Carries c' r id' := by
      rintro ⟨-, -, hid⟩
      rw [he, hn] at hid
      cases hid
    rw [Carries, hv]
    constructor
    · rintro ⟨-, hr, hid⟩
      exact Or.inr ⟨he, hr.symm, (Option.some.inj hid).symm⟩
    · rintro (hc | ⟨-, hr, hid⟩)
      · exact absurd hc hold
      · exact ⟨ho, hr.symm, congrArg some hid.symm⟩
  · rw [if_neg he] at hv
    rw [carries_of_connection_eq hv]
    constructor
    · exact Or.inl
    · rintro (hc | ⟨hc, -⟩)
      · exact hc
      · exact absurd hc he

/-- A claim is of an ID that no open connection on the registry has. -/
theorem ClaimsAgree.identified (h : ClaimsAgree cl) {c : ConnectionId} {id : String}
    {claimed : ClientIdRegistry} (hk : cl.registries.has (cl.connection c).clientIds = true)
    (ho : (cl.connection c).closed = false) (hn : (cl.connection c).clientId = none)
    (hcl : (cl.registry (cl.connection c).clientIds).claim? id = some claimed) :
    ClaimsAgree (cl.identified c id claimed) := by
  have hfree : id ∉ (cl.registry (cl.connection c).clientIds).ids := by
    intro hm
    have hnone := (ClientIdRegistry.claim?_eq_none_iff _ id).mpr hm
    rw [hcl] at hnone
    cases hnone
  have hcarries := carries_identified ho hn id claimed
  constructor
  case held =>
    intro r id'
    have hr : (cl.identified c id claimed).registry r =
        if r = (cl.connection c).clientIds then claimed else cl.registry r :=
      registry_onRegistry hk _ r
    rw [hr]
    by_cases he : r = (cl.connection c).clientIds
    · rw [if_pos he, ClientIdRegistry.mem_of_claim? hcl, ← he, h.held]
      constructor
      · rintro (hid | ⟨c', hc'⟩)
        · exact ⟨c, (hcarries c r id').mpr (Or.inr ⟨rfl, he, hid⟩)⟩
        · exact ⟨c', (hcarries c' r id').mpr (Or.inl hc')⟩
      · rintro ⟨c', hc'⟩
        rcases (hcarries c' r id').mp hc' with hc' | ⟨-, -, hid⟩
        · exact Or.inr ⟨c', hc'⟩
        · exact Or.inl hid
    · rw [if_neg he, h.held]
      refine exists_congr fun c' => ?_
      rw [hcarries]
      constructor
      · exact Or.inl
      · rintro (hc' | ⟨-, hr', -⟩)
        · exact hc'
        · exact absurd hr' he
  case unique =>
    intro c₁ c₂ r id' h₁ h₂
    have hclash : ∀ c', cl.Carries c' (cl.connection c).clientIds id → False := fun c' hc' =>
      hfree ((h.held _ _).mpr ⟨c', hc'⟩)
    rcases (hcarries c₁ r id').mp h₁ with h₁ | ⟨e₁, hr₁, hi₁⟩ <;>
      rcases (hcarries c₂ r id').mp h₂ with h₂ | ⟨e₂, hr₂, hi₂⟩
    · exact h.unique c₁ c₂ r id' h₁ h₂
    · rw [hr₂, hi₂] at h₁
      exact (hclash c₁ h₁).elim
    · rw [hr₁, hi₁] at h₂
      exact (hclash c₂ h₂).elim
    · rw [e₁, e₂]

/-- A close takes what its connection carries away. -/
theorem Retires.carries {before after : Client} {c : ConnectionId} {handles : Nat}
    (hr : Retires c handles before after) (c' : ConnectionId) (r : RegistryId) (id : String) :
    after.Carries c' r id ↔ before.Carries c' r id ∧ c' ≠ c := by
  rw [Carries, Carries, hr.closed, hr.connection_eq]
  constructor
  · rintro ⟨⟨hne, hop⟩, hrest⟩
    exact ⟨⟨hop, hrest⟩, hne⟩
  · rintro ⟨⟨hop, hrest⟩, hne⟩
    exact ⟨⟨hne, hop⟩, hrest⟩

/-- The ID that a connection gives back when it closes is that of no other open connection. -/
theorem ClaimsAgree.retires {before after : Client} (h : ClaimsAgree before) {c : ConnectionId}
    {handles : Nat} (ho : (before.connection c).closed = false)
    (hr : Retires c handles before after) : ClaimsAgree after := by
  have hcarries := hr.carries
  constructor
  case held =>
    intro r id
    have hold := h.held r id
    rw [hr.registry]
    by_cases he : r = (before.connection c).clientIds
    · rw [if_pos he, ClientIdRegistry.mem_without, hold]
      constructor
      · rintro ⟨⟨c', hc'⟩, hne⟩
        refine ⟨c', (hcarries c' r id).mpr ⟨hc', fun hcc => hne ?_⟩⟩
        rw [← hcc]
        exact hc'.2.2
      · rintro ⟨c', hc'⟩
        obtain ⟨hc', hne⟩ := (hcarries c' r id).mp hc'
        refine ⟨⟨c', hc'⟩, fun hid => hne ?_⟩
        exact h.unique c' c r id hc' ⟨ho, he.symm, hid⟩
    · rw [if_neg he, hold]
      refine exists_congr fun c' => ?_
      rw [hcarries]
      constructor
      · intro hc'
        refine ⟨hc', fun hcc => he ?_⟩
        rw [← hcc]
        exact hc'.2.1.symm
      · exact And.left
  case unique =>
    intro c₁ c₂ r id h₁ h₂
    exact h.unique c₁ c₂ r id ((hcarries c₁ r id).mp h₁).1 ((hcarries c₂ r id).mp h₂).1

theorem ClaimsAgree.change {before after : Client} (h : ClaimsAgree before) (hs : Sound before)
    (hc : Change (fun call => call.isOnRegistry = false) before after) : ClaimsAgree after := by
  cases hc with
  | aside ha =>
    exact h.congr ha.registry fun c => carries_of_connection_eq (connection_congr ha.connections c)
  | openConnection c t r d hn _ _ _ _ =>
    exact h.congr (fun _ => rfl) (carries_withConnection hn t r d)
  | adjust c f hk hf _ _ _ _ =>
    refine h.congr (fun _ => rfl) fun c' => ?_
    have hv := connection_onConnection_of_has hk f c'
    by_cases he : c' = c
    · rw [if_pos he] at hv
      rw [he] at hv ⊢
      have hb : (Client.connection (before.onConnection c f) c).bearing =
          (before.connection c).bearing := by rw [hv, hf]
      exact carries_congr (congrArg Connection.closed hb :) (congrArg Connection.clientIds hb :)
        (congrArg Connection.clientId hb :)
    · rw [if_neg he] at hv
      exact carries_of_connection_eq hv
  | identify c id claimed ho hn hcl _ =>
    exact h.identified (hs.registry_known c (has_connection ho)) ho hn hcl
  | collide id _ => exact h.congr (fun _ => rfl) fun _ _ _ => Iff.rfl
  | createSession c s transacted mode ho hn _ =>
    refine h.congr (fun _ => rfl) fun c' => ?_
    obtain ⟨ss, n, -, he⟩ := connection_withSession_eq (has_connection ho) s
      (before.nextSession c transacted mode) c'
    exact carries_congr (by rw [he]) (by rw [he]) (by rw [he])
  | switch c stopped _ _ hsw =>
    refine h.congr (fun r => by rw [registry, registry, hsw.registries]) fun c' => ?_
    have he := hsw.connection_eq c'
    exact carries_congr (by rw [he]) (by rw [he]) (by rw [he])
  | tell s paused _ _ => exact h.congr (fun _ => rfl) fun _ _ _ => Iff.rfl
  | shut c ss _ _ hsh =>
    refine h.congr (fun r => by rw [registry, registry, hsh.registries]) fun c' => ?_
    have he := hsh.connection_eq c'
    exact carries_congr (by rw [he]) (by rw [he]) (by rw [he])
  | retire c handles ho _ hr => exact h.retires ho hr
  | addConsumer k x _ _ _ _ _ _ => exact h.congr (fun _ => rfl) fun _ _ _ => Iff.rfl
  | subscribe k x name d _ _ _ _ _ _ _ => exact h.congr (fun _ => rfl) fun _ _ _ => Iff.rfl
  | unsubscribe s name _ _ _ => exact h.congr (fun _ => rfl) fun _ _ _ => Iff.rfl
  | closeConsumer k _ hd =>
    refine h.congr (fun r => by rw [registry, registry, hd.registries]) fun c' => ?_
    exact carries_of_connection_eq (hd.connection c')
  | claims r f id ha =>
    rcases ha with ha | ha <;> cases ha
  | bindings d f name k _ _ => exact h.congr (fun _ => rfl) fun _ _ _ => Iff.rfl
  | closeTransport t _ => exact h.congr (fun _ => rfl) fun _ _ _ => Iff.rfl

theorem claimsAgree_initial : ClaimsAgree initial where
  held r id := by
    constructor
    · exact fun hm => absurd hm List.not_mem_nil
    · rintro ⟨c, ho, -⟩
      cases ho
  unique c c' r id h := by
    cases h.1

theorem Reachable.claimsAgree (h : Reachable (fun call => call.isOnRegistry = false) cl) :
    ClaimsAgree cl :=
  h.invariant claimsAgree_initial fun _ _ hs ha hc => ha.change hs hc

def claimOf (cl : Client) (r : RegistryId) (c : ConnectionId) : Option String :=
  if (cl.connection c).closed = false ∧ (cl.connection c).clientIds = r then
    (cl.connection c).clientId
  else none

theorem claimOf_eq_some (cl : Client) (r : RegistryId) (c : ConnectionId) (id : String) :
    cl.claimOf r c = some id ↔ cl.Carries c r id := by
  unfold claimOf Carries
  split
  · next h => simp [h]
  · next h =>
    constructor
    · exact fun hn => absurd hn nofun
    · rintro ⟨ho, hr, -⟩
      exact absurd ⟨ho, hr⟩ h

/-- Listing the claims of all connections lists what the registry holds. -/
theorem ClaimsAgree.perm (h : ClaimsAgree cl) (r : RegistryId) :
    (cl.registry r).ids.Perm (cl.connections.keys.filterMap (cl.claimOf r)) := by
  have hn : (cl.connections.keys.filterMap (cl.claimOf r)).Nodup := by
    refine List.Nodup.filterMap (fun c c' id h₁ h₂ => ?_) cl.connections.nodup
    exact h.unique c c' r id ((claimOf_eq_some cl r c id).mp h₁)
      ((claimOf_eq_some cl r c' id).mp h₂)
  refine (List.perm_ext_iff_of_nodup (cl.registry r).nodup hn).mpr fun id => ?_
  rw [h.held, List.mem_filterMap]
  constructor
  · rintro ⟨c, hc⟩
    exact ⟨c, Table.has_iff.mp (has_connection hc.1), (claimOf_eq_some cl r c id).mpr hc⟩
  · rintro ⟨c, -, hc⟩
    exact ⟨c, (claimOf_eq_some cl r c id).mp hc⟩

/-- A registry holds exactly the client IDs of the open connections on it, no two of which have one
ID, so it holds as many as there are open connections with an ID on it. A client ID once set stays
with its connection, whatever calls follow. -/
theorem registry_exact (h : Reachable (fun call => call.isOnRegistry = false) cl) :
    (∀ r id, (cl.registry r).holds id = true ↔
      ∃ c, (cl.connection c).closed = false ∧ (cl.connection c).clientIds = r ∧
        (cl.connection c).clientId = some id) ∧
    (∀ c c' id, (cl.connection c).closed = false → (cl.connection c').closed = false →
      (cl.connection c).clientIds = (cl.connection c').clientIds →
      (cl.connection c).clientId = some id → (cl.connection c').clientId = some id → c = c') ∧
    (∀ r, (cl.registry r).size = cl.connections.keys.countP fun c =>
      !(cl.connection c).closed && (cl.connection c).clientIds == r &&
        (cl.connection c).clientId.isSome) ∧
    ∀ c id, (cl.connection c).clientId = some id →
      ∀ calls, ((cl.run calls).1.connection c).clientId = some id := by
  have hagree := h.claimsAgree
  refine ⟨?_, ?_, ?_, ?_⟩
  · intro r id
    rw [ClientIdRegistry.holds, decide_eq_true_iff]
    exact hagree.held r id
  · intro c c' id ho ho' hr hi hi'
    exact hagree.unique c c' _ id ⟨ho, hr, hi⟩ ⟨ho', rfl, hi'⟩
  · intro r
    rw [ClientIdRegistry.size, (hagree.perm r).length_eq, List.length_filterMap_eq_countP]
    apply List.countP_congr
    intro c _
    unfold claimOf
    split
    · next hc => simp [hc]
    · next hc =>
      constructor
      · exact fun hn => absurd hn Bool.false_ne_true
      · intro hp
        simp only [Bool.and_eq_true, Bool.not_eq_true', beq_iff_eq] at hp
        exact absurd hp.1 hc
  · intro c id hi calls
    have hc : cl.connections.has c = true := by
      apply Table.has_of_get_ne
      intro hd
      have hnone : (cl.connection c).clientId = none := congrArg Connection.clientId hd
      rw [hnone] at hi
      cases hi
    have hrun : Changes (fun _ => True) cl (cl.run calls).1 :=
      changes_run h.sound calls fun _ _ => trivial
    exact (hrun.continues.connection c hc).clientId id hi

def claimingCalls : List Call :=
  [.makeRegistry ⟨0⟩, .makeSubscriptions ⟨0⟩, .openTransport ⟨0⟩,
    .openConnection ⟨0⟩ ⟨0⟩ ⟨0⟩ ⟨0⟩ false, .setClientId ⟨0⟩ "a"]

theorem registry_exact_claiming :
    Reachable (fun call => call.isOnRegistry = false) (initial.run claimingCalls).1 ∧
      ∃ c, ((initial.run claimingCalls).1.connection c).clientId = some "a" := by
  have h : Reachable (fun call => call.isOnRegistry = false) (initial.run claimingCalls).1 :=
    Reachable.initial.run claimingCalls (by decide)
  obtain ⟨c, -, -, hc⟩ := ((registry_exact h).1 ⟨0⟩ "a").mp (by decide)
  exact ⟨h, c, hc⟩

end Client

end BrokerClient
