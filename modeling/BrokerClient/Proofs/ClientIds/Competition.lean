import BrokerClient.Proofs.Client.History
import BrokerClient.Proofs.ClientIds.Claiming
import Mathlib.Data.List.Dedup

/-!
# Competing claims

Connections of one registry claim client IDs one after the other, several of them perhaps the same
one. Who gets an ID depends on the order, but nothing else does: what comes of the claims is told
from what the registry held and from which IDs are claimed how often.
-/

namespace BrokerClient

def Answer.collision (id : String) : Answer :=
  .failed (.invalidClientId ("A connection with that client ID already exists [" ++ id ++ "]"))

namespace Client

variable {cl before middle after : Client} {c : ConnectionId} {r : RegistryId} {id : String}

/-- The connection is open, has not been used and has no ID, and claims one at the registry. -/
structure MayClaim (cl : Client) (r : RegistryId) (c : ConnectionId) : Prop where
  isOpen : (cl.connection c).closed = false
  assignable : (cl.connection c).assignable = true
  unidentified : (cl.connection c).clientId = none
  clientIds : (cl.connection c).clientIds = r

theorem MayClaim.congr (h : before.MayClaim r c) (he : after.connection c = before.connection c) :
    after.MayClaim r c :=
  ⟨he ▸ h.isOpen, he ▸ h.assignable, he ▸ h.unidentified, he ▸ h.clientIds⟩

/-- The second client is the first after a connection has claimed an ID at the registry, which was
answered so. -/
structure Claimed (r : RegistryId) (c : ConnectionId) (id : String) (before after : Client)
    (answer : Answer) : Prop where
  answered : answer = if (before.registry r).holds id then .collision id else .done
  connection : after.connection c =
    { before.connection c with
      clientId := if (before.registry r).holds id then none else some id }
  others : ∀ c', c' ≠ c → after.connection c' = before.connection c'
  held : ∀ r' id', (after.registry r').holds id' =
    ((before.registry r').holds id' || (r' == r && id' == id))
  collisions : after.metrics.collisions =
    before.metrics.collisions + if (before.registry r).holds id then 1 else 0

theorem claimed_step (hs : Sound cl) (hm : cl.MayClaim r c) (id : String) :
    Claimed r c id cl (cl.step (.setClientId c id)).1 (cl.step (.setClientId c id)).2 := by
  obtain ⟨ho, ha, hn, rfl⟩ := hm
  rw [step_setClientId (hs.referred c ho)]
  have hclaims := claims_setClientId cl c id
  generalize cl.setClientId c id = result at hclaims ⊢
  cases hclaims with
  | used hu =>
    rw [ha] at hu
    cases hu
  | closed _ hcl =>
    rw [ho] at hcl
    cases hcl
  | identified held _ _ hi =>
    rw [hn] at hi
    cases hi
  | collides _ _ _ hheld =>
    constructor
    case answered =>
      rw [hheld, if_pos rfl]
      rfl
    case connection =>
      rw [hheld, if_pos rfl, ← hn]
      rfl
    case others => exact fun _ _ => rfl
    case held =>
      intro r' id'
      cases hsame : (r' == (cl.connection c).clientIds && id' == id) with
      | false => exact (Bool.or_false _).symm
      | true =>
        obtain ⟨hr, hid⟩ := Bool.and_eq_true_iff.mp hsame
        rw [beq_iff_eq.mp hr, beq_iff_eq.mp hid, Bool.or_true]
        exact hheld
    case collisions =>
      rw [hheld]
      rfl
  | succeeds claimed _ _ _ hfree hclaim =>
    have hv := connection_identified ho id claimed
    constructor
    case answered =>
      rw [hfree]
      rfl
    case connection =>
      rw [hfree]
      exact (hv c).trans (if_pos rfl)
    case others => exact fun c' hne => (hv c').trans (if_neg hne)
    case held =>
      intro r' id'
      have hr : ((cl.identified c id claimed).note (.clientIdSet id)).registry r' = _ :=
        registry_onRegistry (hs.registry_known c (has_connection ho)) (fun _ => claimed) r'
      rw [hr]
      by_cases he : r' = (cl.connection c).clientIds
      · rw [if_pos he, ← he, beq_self_eq_true, Bool.true_and]
        rw [Bool.eq_iff_iff, Bool.or_eq_true, beq_iff_eq, ClientIdRegistry.holds,
          ClientIdRegistry.holds, decide_eq_true_iff, decide_eq_true_iff,
          ClientIdRegistry.mem_of_claim? (he ▸ hclaim)]
        exact Or.comm
      · rw [if_neg he, beq_eq_false_iff_ne.mpr he, Bool.false_and, Bool.or_false]
    case collisions =>
      rw [hfree]
      rfl

def claimCalls (pairs : List (ConnectionId × String)) : List Call :=
  pairs.map fun p => .setClientId p.1 p.2

def afterClaims (cl : Client) (pairs : List (ConnectionId × String)) : Client :=
  (cl.run (claimCalls pairs)).1

def claimOutcomes (cl : Client) (pairs : List (ConnectionId × String)) :
    List ((ConnectionId × String) × Answer) :=
  pairs.zip (cl.run (claimCalls pairs)).2

def isClaimedIn (pairs : List (ConnectionId × String)) (id : String) : Bool :=
  pairs.any fun p => p.2 == id

/-- The claim was for the ID and succeeded. -/
def isWin (id : String) (o : (ConnectionId × String) × Answer) : Bool :=
  o.1.2 == id && o.2.isDone

/-- The claim was for the ID and failed because that was held. -/
def isLoss (id : String) (o : (ConnectionId × String) × Answer) : Bool :=
  o.1.2 == id && o.2.isCollision

variable {pairs order : List (ConnectionId × String)}
  {outcomes : List ((ConnectionId × String) × Answer)} {answer : Answer}

/-- The second client is the first after pairs have claimed IDs at the registry in turn, which was
answered so. -/
structure ClaimedInTurn (r : RegistryId) (before after : Client)
    (outcomes : List ((ConnectionId × String) × Answer)) : Prop where
  answered : ∀ o ∈ outcomes, o.2 = .done ∨
    o.2 = .collision o.1.2 ∧ after.connection o.1.1 = before.connection o.1.1
  others : ∀ c, c ∉ outcomes.map (·.1.1) → after.connection c = before.connection c
  held : ∀ r' id, (after.registry r').holds id =
    ((before.registry r').holds id || (r' == r && outcomes.any (·.1.2 == id)))
  wins : ∀ id, outcomes.countP (isWin id) =
    if (before.registry r).holds id || !outcomes.any (·.1.2 == id) then 0 else 1
  collisions : after.metrics.collisions =
    before.metrics.collisions + outcomes.countP (·.2.isCollision)

/-- One more claim before the others. -/
theorem Claimed.inTurn (h : Claimed r c id before middle answer)
    (hn : (before.connection c).clientId = none) (hrest : ClaimedInTurn r middle after outcomes)
    (hnew : c ∉ outcomes.map (·.1.1)) :
    ClaimedInTurn r before after (((c, id), answer) :: outcomes) := by
  have hanswer := h.answered
  constructor
  case answered =>
    intro o ho
    rcases List.mem_cons.mp ho with rfl | ho
    · cases hheld : (before.registry r).holds id with
      | false => exact Or.inl (hanswer.trans (by rw [hheld]; rfl))
      | true =>
        have hsame : middle.connection c = before.connection c := by
          rw [h.connection, hheld, if_pos rfl, ← hn]
        exact Or.inr ⟨hanswer.trans (by rw [hheld]; rfl), (hrest.others c hnew).trans hsame⟩
    · have hne : o.1.1 ≠ c := fun he => hnew (he ▸ List.mem_map_of_mem ho)
      refine (hrest.answered o ho).imp_right fun hlost => ⟨hlost.1, ?_⟩
      rw [hlost.2, h.others _ hne]
  case others =>
    intro c' hc'
    rw [List.map_cons, List.mem_cons, not_or] at hc'
    rw [hrest.others c' hc'.2, h.others c' hc'.1]
  case held =>
    intro r' id'
    have hsame : (id' == id) = (id == id') := Bool.beq_comm
    rw [hrest.held, h.held, List.any_cons, Bool.or_assoc, ← Bool.and_or_distrib_left, hsame]
  case wins =>
    intro id'
    have hmiddle := h.held r id'
    rw [beq_self_eq_true, Bool.true_and] at hmiddle
    rw [List.countP_cons, hrest.wins, hmiddle, List.any_cons]
    by_cases hid : id' = id
    · -- The claim leaves the ID held, so it is the only one that may win it.
      rw [hid, hanswer, isWin, beq_self_eq_true, Bool.or_true, Bool.true_or]
      cases (before.registry r).holds id <;> rfl
    · have hother : (id == id') = false := beq_eq_false_iff_ne.mpr (Ne.symm hid)
      rw [isWin, hother, beq_eq_false_iff_ne.mpr hid, Bool.or_false, Bool.false_or]
      rfl
  case collisions =>
    rw [hrest.collisions, h.collisions, List.countP_cons, hanswer, Nat.add_assoc]
    cases (before.registry r).holds id <;> simp [Answer.isCollision, Answer.collision, Nat.add_comm]

/-- Pairs of distinct connections that may claim IDs claim them in turn. -/
theorem claimedInTurn (hs : Sound cl) (hnodup : (pairs.map Prod.fst).Nodup)
    (hmay : ∀ p ∈ pairs, cl.MayClaim r p.1) :
    ClaimedInTurn r cl (cl.afterClaims pairs) (cl.claimOutcomes pairs) ∧
      (cl.claimOutcomes pairs).map Prod.fst = pairs := by
  induction pairs generalizing cl with
  | nil =>
    refine ⟨?_, rfl⟩
    constructor
    case answered => exact nofun
    case others => exact fun _ _ => rfl
    case held =>
      intro r' id
      exact ((congrArg (_ || ·) (Bool.and_false _)).trans (Bool.or_false _)).symm
    case wins =>
      intro id
      exact (if_pos (Bool.or_true _)).symm
    case collisions => rfl
  | cons p pairs ih =>
    obtain ⟨c, id⟩ := p
    rw [List.map_cons, List.nodup_cons] at hnodup
    have hm : cl.MayClaim r c := hmay (c, id) List.mem_cons_self
    have hclaimed := claimed_step hs hm id
    obtain ⟨hrest, hpairs⟩ := ih (hs.step (.setClientId c id)) hnodup.2
      fun p hp => by
        have hne : p.1 ≠ c := fun he => hnodup.1 (List.mem_map.mpr ⟨p, hp, he⟩)
        exact (hmay p (List.mem_cons_of_mem _ hp)).congr (hclaimed.others _ hne)
    have hnew : c ∉ ((cl.step (.setClientId c id)).1.claimOutcomes pairs).map (·.1.1) := by
      have hconnections := congrArg (List.map Prod.fst) hpairs
      rw [List.map_map] at hconnections
      exact fun hc => hnodup.1 (hconnections ▸ hc)
    exact ⟨hclaimed.inTurn hm.unidentified hrest hnew, congrArg (List.cons (c, id)) hpairs⟩

/-- The claimed IDs that the registry does not hold, each once. -/
def freeIds (cl : Client) (r : RegistryId) (pairs : List (ConnectionId × String)) : List String :=
  (pairs.map Prod.snd).dedup.filter fun id => !(cl.registry r).holds id

/-- What comes of the claims of pairs in an order, as far as it is told from the client before them
and from which pairs there are. -/
structure ClaimsSettled (cl : Client) (r : RegistryId)
    (pairs order : List (ConnectionId × String)) : Prop where
  claims : (cl.claimOutcomes order).map Prod.fst = order
  answers : ∀ o ∈ cl.claimOutcomes order, o.2 = .done ∨ o.2 = .collision o.1.2
  wins : ∀ id, isClaimedIn pairs id = true →
    (cl.claimOutcomes order).countP (isWin id) = if (cl.registry r).holds id then 0 else 1
  losses : ∀ id, (cl.claimOutcomes order).countP (isWin id) +
    (cl.claimOutcomes order).countP (isLoss id) = pairs.countP (·.2 == id)
  held : ∀ r' id, ((cl.afterClaims order).registry r').holds id =
    ((cl.registry r').holds id || (r' == r && isClaimedIn pairs id))
  collisions : (cl.afterClaims order).metrics.collisions + (cl.freeIds r pairs).length =
    cl.metrics.collisions + pairs.length
  losers : ∀ o ∈ cl.claimOutcomes order, o.2 ≠ .done →
    ((cl.afterClaims order).connection o.1.1).clientId = none ∧
    ∀ id, ((cl.afterClaims order).registry r).holds id = false →
      ((cl.afterClaims order).step (.setClientId o.1.1 id)).2 = .done ∧
      (((cl.afterClaims order).step (.setClientId o.1.1 id)).1.connection o.1.1).clientId = some id

theorem isClaimedIn_iff : isClaimedIn pairs id = true ↔ id ∈ pairs.map Prod.snd := by
  simp only [isClaimedIn, List.any_eq_true, List.mem_map, beq_iff_eq]

theorem count_freeIds (cl : Client) (r : RegistryId) (pairs : List (ConnectionId × String))
    (id : String) : (cl.freeIds r pairs).count id =
      if (cl.registry r).holds id || !isClaimedIn pairs id then 0 else 1 := by
  have hfree : id ∈ cl.freeIds r pairs ↔
      isClaimedIn pairs id = true ∧ (cl.registry r).holds id = false := by
    rw [freeIds, List.mem_filter, List.mem_dedup, isClaimedIn_iff, Bool.not_eq_true']
  have hnodup : (cl.freeIds r pairs).Nodup := (List.nodup_dedup _).filter _
  rw [hnodup.count]
  simp only [hfree]
  cases (cl.registry r).holds id <;> cases isClaimedIn pairs id <;> rfl

/-- What is claimed does not depend on the order. -/
theorem any_claimed (hpairs : (outcomes.map Prod.fst).Perm pairs) (id : String) :
    outcomes.any (·.1.2 == id) = isClaimedIn pairs id := by
  rw [isClaimedIn, ← hpairs.any_eq, List.any_map]
  rfl

namespace ClaimedInTurn

theorem isCollision_iff (h : ClaimedInTurn r before after outcomes)
    {o : (ConnectionId × String) × Answer} (ho : o ∈ outcomes) :
    o.2.isCollision = true ↔ ¬o.2.isDone = true := by
  rcases h.answered o ho with hdone | ⟨hcollision, -⟩
  · simp [hdone, Answer.isCollision, Answer.isDone]
  · simp [hcollision, Answer.isCollision, Answer.isDone, Answer.collision]

/-- A claim for an ID that did not succeed met a holder. -/
theorem wins_add_losses (h : ClaimedInTurn r before after outcomes) (id : String) :
    outcomes.countP (isWin id) + outcomes.countP (isLoss id) =
      outcomes.countP (·.1.2 == id) := by
  have hlosses : outcomes.countP (isLoss id) =
      outcomes.countP fun o => o.1.2 == id && !o.2.isDone := by
    refine List.countP_congr fun o ho => ?_
    rw [isLoss, Bool.and_eq_true, Bool.and_eq_true, h.isCollision_iff ho, Bool.not_eq_true',
      Bool.not_eq_true]
  rw [List.countP_eq_countP_filter_add outcomes (·.1.2 == id) (·.2.isDone), List.countP_filter,
    List.countP_filter, hlosses]
  rfl

/-- As many claims succeed as IDs among those claimed are free. -/
theorem countP_isDone (h : ClaimedInTurn r cl after outcomes)
    (hpairs : (outcomes.map Prod.fst).Perm pairs) :
    outcomes.countP (·.2.isDone) = (cl.freeIds r pairs).length := by
  have hwon : ((outcomes.filter (·.2.isDone)).map (·.1.2)).Perm (cl.freeIds r pairs) := by
    refine List.perm_iff_count.mpr fun id => ?_
    rw [List.count_eq_countP, List.countP_map, List.countP_filter, count_freeIds,
      ← any_claimed hpairs, ← h.wins id]
    rfl
  rw [List.countP_eq_length_filter, ← hwon.length_eq, List.length_map]

end ClaimedInTurn

/-- Distinct connections on one registry, each open, without an ID and never used, claim IDs in any
order. One claim for an ID succeeds if the registry did not hold it and otherwise none, and all
others fail because the ID is held. Which IDs are held afterwards and by how much the count of
collisions has risen does not depend on the order either. A connection whose claim failed has no ID
and may claim any that is free. -/
theorem competing_claims_settle {allowed : Call → Prop} (h : Reachable allowed cl)
    (hnodup : (pairs.map Prod.fst).Nodup) (hmay : ∀ p ∈ pairs, cl.MayClaim r p.1)
    (hperm : order.Perm pairs) : cl.ClaimsSettled r pairs order := by
  obtain ⟨hturn, hclaims⟩ := claimedInTurn (r := r) h.sound
    ((hperm.map Prod.fst).nodup_iff.mpr hnodup) fun p hp => hmay p (hperm.mem_iff.mp hp)
  have hpairs : ((cl.claimOutcomes order).map Prod.fst).Perm pairs := hclaims.symm ▸ hperm
  constructor
  case claims => exact hclaims
  case answers => exact fun o ho => (hturn.answered o ho).imp_right And.left
  case wins =>
    intro id hid
    rw [hturn.wins, any_claimed hpairs, hid, Bool.not_true, Bool.or_false]
  case losses =>
    intro id
    rw [hturn.wins_add_losses, ← hpairs.countP_eq, List.countP_map]
    rfl
  case held =>
    intro r' id
    rw [hturn.held, any_claimed hpairs]
  case collisions =>
    have hlength : (cl.claimOutcomes order).length = pairs.length :=
      (List.length_map _).symm.trans hpairs.length_eq
    have hlost : (cl.claimOutcomes order).countP (·.2.isCollision) =
        (cl.claimOutcomes order).countP fun o => ¬o.2.isDone = true :=
      List.countP_congr fun o ho => by rw [hturn.isCollision_iff ho, decide_eq_true_iff]
    have hsplit := List.length_eq_countP_add_countP (·.2.isDone) (l := cl.claimOutcomes order)
    rw [hturn.collisions, hlost, ← hlength, ← hturn.countP_isDone hpairs]
    omega
  case losers =>
    intro o ho hlost
    obtain ⟨-, hkept⟩ := (hturn.answered o ho).resolve_left hlost
    have hm : (cl.afterClaims order).MayClaim r o.1.1 :=
      (hmay o.1 (hpairs.mem_iff.mp (List.mem_map_of_mem ho))).congr hkept
    refine ⟨hm.unidentified, fun id hfree => ?_⟩
    have hsound : Sound (cl.afterClaims order) := h.sound.run _
    have hclaim := claimed_step hsound hm id
    constructor
    · exact hclaim.answered.trans (by rw [hfree]; rfl)
    · rw [hclaim.connection, hfree]
      rfl

/-- Four connections on one registry, of which the first one has a client ID. -/
def competingCalls : List Call :=
  [.makeRegistry ⟨0⟩, .makeSubscriptions ⟨0⟩, .openTransport ⟨0⟩,
    .openConnection ⟨0⟩ ⟨0⟩ ⟨0⟩ ⟨0⟩ false, .openConnection ⟨1⟩ ⟨0⟩ ⟨0⟩ ⟨0⟩ false,
    .openConnection ⟨2⟩ ⟨0⟩ ⟨0⟩ ⟨0⟩ false, .openConnection ⟨3⟩ ⟨0⟩ ⟨0⟩ ⟨0⟩ false,
    .setClientId ⟨0⟩ "a"]

/-- Two of the others claim one free ID and the third the ID of the first. Whoever of the two comes
first, one succeeds, and each of those who fail may claim another ID. -/
theorem competing_claims_settle_reversed :
    let cl := (initial.run competingCalls).1
    let pairs : List (ConnectionId × String) := [(⟨1⟩, "b"), (⟨2⟩, "b"), (⟨3⟩, "a")]
    (∀ p ∈ pairs, cl.MayClaim ⟨0⟩ p.1) ∧
      cl.ClaimsSettled ⟨0⟩ pairs pairs ∧ cl.ClaimsSettled ⟨0⟩ pairs pairs.reverse ∧
      cl.claimOutcomes pairs.reverse =
        [((⟨3⟩, "a"), .collision "a"), ((⟨2⟩, "b"), .done), ((⟨1⟩, "b"), .collision "b")] ∧
      ((cl.afterClaims pairs.reverse).step (.setClientId ⟨1⟩ "d")).2 = .done := by
  intro cl pairs
  have h : Reachable (fun _ => True) cl := Reachable.initial.run competingCalls fun _ _ => trivial
  have hmay : ∀ p ∈ pairs, cl.MayClaim ⟨0⟩ p.1 := by
    intro p hp
    have hone : p = (⟨1⟩, "b") ∨ p = (⟨2⟩, "b") ∨ p = (⟨3⟩, "a") := by simpa [pairs] using hp
    rcases hone with rfl | rfl | rfl <;> constructor <;> decide
  have hnodup : (pairs.map Prod.fst).Nodup := by decide
  have hreversed := competing_claims_settle h hnodup hmay pairs.reverse_perm
  have houtcomes : cl.claimOutcomes pairs.reverse =
      [((⟨3⟩, "a"), .collision "a"), ((⟨2⟩, "b"), .done), ((⟨1⟩, "b"), .collision "b")] :=
    rfl
  refine ⟨hmay, competing_claims_settle h hnodup hmay (List.Perm.refl pairs), hreversed, houtcomes,
    ?_⟩
  have hlast : ((⟨1⟩, "b"), .collision "b") ∈ cl.claimOutcomes pairs.reverse := by
    rw [houtcomes]
    simp
  have hlost := hreversed.losers _ hlast nofun
  exact (hlost.2 "d" (by decide)).1

end Client

end BrokerClient
