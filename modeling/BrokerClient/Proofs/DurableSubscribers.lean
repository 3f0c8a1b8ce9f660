import BrokerClient.Proofs.Client.Accounting
import BrokerClient.Proofs.DurableSubscriptions

/-!
# Durable subscribers

Which consumer has a durable name is recorded in the subscriptions, and which consumers are open is
recorded elsewhere. A name is free exactly if no open consumer was made for it, so at most one open
consumer has it, whatever closed its predecessors.
-/

namespace BrokerClient

/-- The call goes to durable subscriptions and not to a session. -/
def Call.isOnSubscriptions : Call → Bool
  | .bindDurable .. | .removeDurable .. => true
  | _ => false

theorem Call.isDirectOn_of_not {call : Call} (h : call.isOnSubscriptions = false)
    (d : SubscriptionsId) : call.isDirectOn d = false := by
  cases call with
  | bindDurable => cases h
  | removeDurable => cases h
  | _ => rfl

namespace Client

/-- An open consumer of a session that uses the subscriptions was made for the name. -/
def Subscribes (cl : Client) (k : ConsumerId) (d : SubscriptionsId) (name : String) : Prop :=
  (cl.consumer k).closed = false ∧ (cl.consumer k).subscription = some name ∧
    (cl.session (cl.consumer k).session).subscriptions = d

/-- The subscriptions and the consumers that were made for names in them agree. A name may still be
bound to a closed consumer that was made for it. -/
structure BindingsAgreeOn (cl : Client) (d : SubscriptionsId) : Prop where
  bound : ∀ k name, cl.Subscribes k d name → (cl.durables d).get? name = some k
  holder : ∀ name k, (cl.durables d).get? name = some k →
    cl.consumers.has k = true ∧ (cl.consumer k).subscription = some name ∧
      (cl.session (cl.consumer k).session).subscriptions = d

def BindingsAgree (cl : Client) : Prop :=
  ∀ d, BindingsAgreeOn cl d

variable {cl : Client} {d : SubscriptionsId}

/-- A consumer that was there before was made for the same name by a session with the same
subscriptions. -/
theorem Continues.subscriber {before after : Client} (h : Continues before after)
    (hs : Sound before) {k : ConsumerId} (hk : before.consumers.has k = true) :
    (after.consumer k).subscription = (before.consumer k).subscription ∧
      (after.session (after.consumer k).session).subscriptions =
        (before.session (before.consumer k).session).subscriptions := by
  have hshut := (h.consumer k hk).origin
  have hsession : (after.consumer k).session = (before.consumer k).session :=
    (congrArg Consumer.session hshut :)
  have horigin := (h.session _ (hs.session_known k hk)).origin
  refine ⟨(congrArg Consumer.subscription hshut :), ?_⟩
  rw [hsession]
  exact (congrArg Session.subscriptions horigin :)

theorem Continues.subscribes {before after : Client} (h : Continues before after)
    (hs : Sound before) {k : ConsumerId} (hk : before.consumers.has k = true) {name : String}
    (ha : after.Subscribes k d name) :
    before.Subscribes k d name := by
  obtain ⟨ho, hn, hd⟩ := ha
  obtain ⟨he, hed⟩ := h.subscriber hs hk
  refine ⟨?_, he.symm.trans hn, hed.symm.trans hd⟩
  cases hc : (before.consumer k).closed with
  | false => rfl
  | true =>
    rw [(h.consumer k hk).closed hc] at ho
    cases ho

/-- Nothing but new subscribers and new bindings can make the two disagree. -/
theorem BindingsAgreeOn.of_continues {before after : Client} (h : BindingsAgreeOn before d)
    (hs : Sound before) (hc : Continues before after)
    (hk : ∀ k name, after.Subscribes k d name → before.consumers.has k = true)
    (hd : after.durables d = before.durables d) : BindingsAgreeOn after d where
  bound k name ha := by
    rw [hd]
    exact h.bound k name (hc.subscribes hs (hk k name ha) ha)
  holder name k hg := by
    rw [hd] at hg
    obtain ⟨hkn, hn, hdn⟩ := h.holder name k hg
    obtain ⟨he, hed⟩ := hc.subscriber hs hkn
    exact ⟨hc.consumers_has k hkn, he.trans hn, hed.trans hdn⟩

/-- An open subscriber is the active consumer of its name. -/
theorem BindingsAgreeOn.activeConsumer?_eq_some (h : BindingsAgreeOn cl d) {name : String}
    {k : ConsumerId} : cl.activeConsumer? d name = some k ↔ cl.Subscribes k d name := by
  rw [activeConsumer?, DurableSubscriptions.active?_eq_some]
  constructor
  · rintro ⟨hg, ho⟩
    obtain ⟨-, hn, hd⟩ := h.holder name k hg
    refine ⟨?_, hn, hd⟩
    simpa [isOpen] using ho
  · intro hk
    refine ⟨h.bound k name hk, ?_⟩
    rw [isOpen, hk.1]
    rfl

/-- The subscriptions of a session exist. -/
theorem WellFormed.subscriptions_has (h : WellFormed cl) {s : SessionId}
    (hs : cl.sessions.has s = true) :
    cl.subscriptions.has (cl.session s).subscriptions = true := by
  rw [h.subscriptions_shared s hs]
  exact h.subscriptions_known _ (h.connection_known s hs)

theorem BindingsAgreeOn.subscribe (h : BindingsAgreeOn cl d) (hs : Sound cl) {k : ConsumerId}
    {x : Consumer} {name : String} {x' : DurableSubscriptions}
    (ho : (cl.session x.session).closed = false) (hk : cl.consumers.has k = false)
    (hx : x.subscription = some name)
    (hb : (cl.durables (cl.session x.session).subscriptions).bind cl.isOpen name k = .bound x' ∨
      (cl.durables (cl.session x.session).subscriptions).bind cl.isOpen name k = .rebound x') :
    BindingsAgreeOn
      ((cl.onDurables (cl.session x.session).subscriptions fun _ => x').addConsumer k x) d := by
  let bound : Client := cl.onDurables (cl.session x.session).subscriptions fun _ => x'
  obtain ⟨hget, hclosed⟩ := DurableSubscriptions.get?_bind hb
  have hv : ∀ k', (bound.addConsumer k x).consumer k' = if k' = k then x else cl.consumer k' :=
    consumer_addConsumer hk x
  have hsub : ∀ s, ((bound.addConsumer k x).session s).subscriptions =
      (cl.session s).subscriptions := fun s =>
    (congrArg Session.subscriptions (session_bound_addConsumer (has_session ho) _ _ k s) :)
  have hd : ∀ n, ((bound.addConsumer k x).durables d).get? n =
      if d = (cl.session x.session).subscriptions ∧ n = name then some k
      else (cl.durables d).get? n := by
    intro n
    have hdv : (bound.addConsumer k x).durables d =
        if d = (cl.session x.session).subscriptions then x' else cl.durables d :=
      durables_onDurables (hs.subscriptions_has (has_session ho)) _ d
    rw [hdv]
    by_cases he : d = (cl.session x.session).subscriptions
    · rw [if_pos he, hget, ← he]
      simp
    · rw [if_neg he, if_neg fun hc => he hc.1]
  constructor
  case bound =>
    intro k' n hsubs
    obtain ⟨hop, hn, hds⟩ := hsubs
    rw [hsub] at hds
    rw [hv] at hop hn hds
    rw [hd]
    by_cases he : k' = k
    · rw [if_pos he] at hn hds
      rw [if_pos ⟨hds.symm, Option.some.inj (hn.symm.trans hx)⟩, he]
    · rw [if_neg he] at hop hn hds
      have hold := h.bound k' n ⟨hop, hn, hds⟩
      split
      · next hc =>
        -- The name was not open for binding while its holder was.
        rw [hc.1, hc.2] at hold
        have hno := hclosed k' hold
        rw [isOpen, hop] at hno
        cases hno
      · exact hold
  case holder =>
    intro n k' hg
    rw [hd] at hg
    rw [hsub, hv]
    split at hg
    · next hc =>
      cases hg
      rw [if_pos rfl, hx, hc.1, hc.2]
      exact ⟨(Table.has_insert hk x k).mpr (Or.inr rfl), rfl, rfl⟩
    · obtain ⟨hkn, hn, hds⟩ := h.holder n k' hg
      rw [if_neg (Table.ne_of_has hkn hk)]
      exact ⟨Table.has_insert_of_has hkn k x, hn, hds⟩

/-- Only a name without an open subscriber is removed. -/
theorem BindingsAgreeOn.unsubscribe (h : BindingsAgreeOn cl d) (hs : Sound cl) {s : SessionId}
    {name : String} (ho : (cl.session s).closed = false)
    (ha : cl.activeConsumer? (cl.session s).subscriptions name = none) :
    BindingsAgreeOn (cl.onDurables (cl.session s).subscriptions fun x => x.remove name) d := by
  have hd : ∀ n,
      ((cl.onDurables (cl.session s).subscriptions fun x => x.remove name).durables d).get? n =
        if d = (cl.session s).subscriptions ∧ n = name then none else (cl.durables d).get? n := by
    intro n
    rw [durables_onDurables (hs.subscriptions_has (has_session ho))]
    by_cases he : d = (cl.session s).subscriptions
    · rw [if_pos he, DurableSubscriptions.get?_remove, ← he]
      simp
    · rw [if_neg he, if_neg fun hc => he hc.1]
  constructor
  case bound =>
    intro k n hsubs
    have hsubs : cl.Subscribes k d n := hsubs
    rw [hd]
    split
    · next hc =>
      have hact := h.activeConsumer?_eq_some.mpr hsubs
      rw [hc.1, hc.2, ha] at hact
      cases hact
    · exact h.bound k n hsubs
  case holder =>
    intro n k hg
    rw [hd] at hg
    split at hg
    · cases hg
    · exact h.holder n k hg

theorem BindingsAgreeOn.change {before after : Client} (h : BindingsAgreeOn before d)
    (hs : Sound before) (hc : Change (fun call => call.isDirectOn d = false) before after) :
    BindingsAgreeOn after d := by
  have hcont := hc.continues
  -- All but a few kinds of change neither add subscribers nor bind names.
  have hkeep : (∀ k, after.consumers.has k = true → before.consumers.has k = true) →
      after.durables d = before.durables d → BindingsAgreeOn after d := fun hk =>
    h.of_continues hs hcont fun k _ ha => hk k (has_consumer ha.1)
  cases hc with
  | aside ha => exact hkeep (fun k hk => by rw [← ha.consumers]; exact hk) (ha.durables d)
  | openConnection c t r d _ _ _ _ _ => exact hkeep (fun _ hk => hk) rfl
  | adjust c f _ _ _ _ _ _ => exact hkeep (fun _ hk => hk) rfl
  | identify c id claimed _ _ _ _ => exact hkeep (fun _ hk => hk) rfl
  | collide id _ => exact hkeep (fun _ hk => hk) rfl
  | createSession c s transacted mode _ _ _ => exact hkeep (fun _ hk => hk) rfl
  | switch c stopped _ _ hsw =>
    exact hkeep (fun k hk => by rw [← hsw.consumers]; exact hk)
      (by rw [durables, durables, hsw.subscriptions])
  | tell s paused _ _ => exact hkeep (fun _ hk => hk) rfl
  | shut c ss _ _ hsh =>
    exact hkeep (fun k hk => (hsh.consumers_has k).symm.trans hk)
      (by rw [durables, durables, hsh.subscriptions])
  | retire c handles _ _ hr =>
    exact hkeep (fun k hk => (Table.has_congr hr.consumer_keys k).symm.trans hk)
      (by rw [durables, durables, hr.subscriptions])
  | addConsumer k x ho hk _ _ hx _ =>
    refine h.of_continues hs hcont (fun k' name ha => ?_) rfl
    have hne : k' ≠ k := by
      intro he
      have hn := ha.2.1
      rw [consumer_addConsumer hk, if_pos he, hx] at hn
      cases hn
    exact ((Table.has_insert hk x k').mp (has_consumer ha.1)).resolve_right hne
  | subscribe k x name _ ho hk _ _ hx hb _ => exact h.subscribe hs ho hk hx hb
  | unsubscribe s name ho ha _ => exact h.unsubscribe hs ho ha
  | closeConsumer k _ hd =>
    exact hkeep (fun k' hk => (Table.has_congr hd.consumer_keys k').symm.trans hk)
      (by rw [durables, durables, hd.subscriptions])
  | claims r f id _ => exact hkeep (fun _ hk => hk) rfl
  | bindings d' f name k ha _ =>
    have hne : (d' == d) = false := ha.elim id id
    exact hkeep (fun _ hk => hk)
      (before.subscriptions.get_modify_of_ne (Ne.symm (beq_eq_false_iff_ne.mp hne)) f)
  | closeTransport t _ => exact hkeep (fun _ hk => hk) rfl

theorem bindingsAgreeOn_initial (d : SubscriptionsId) : BindingsAgreeOn initial d where
  bound k name h := by
    cases h.1
  holder name k h := by
    cases h

/-- Subscriptions that are only used through sessions agree with the consumers. -/
theorem Reachable.bindingsAgreeOn (h : Reachable (fun call => call.isDirectOn d = false) cl) :
    BindingsAgreeOn cl d :=
  h.invariant (P := (BindingsAgreeOn · d)) (bindingsAgreeOn_initial d)
    fun _ _ hs ha hc => ha.change hs hc

theorem Reachable.bindingsAgree (h : Reachable (fun call => call.isOnSubscriptions = false) cl) :
    BindingsAgree cl := fun d =>
  Reachable.bindingsAgreeOn (h.mono fun _ hn => Call.isDirectOn_of_not hn d)

section CreateDurable

variable {s : SessionId} {k : ConsumerId} {token : String} {topic : Destination} {name : String}
  {selector : Option String}

/-- A name with an active consumer is refused, and nothing changes. -/
theorem createDurable_of_active {holder : ConsumerId} (ho : (cl.session s).closed = false)
    (ht : topic.isTopic = true) (hn : Text.isBlankText name = false)
    (h : cl.activeConsumer? (cl.session s).subscriptions name = some holder) :
    cl.createDurable s k token topic name selector =
      (cl, .error (.illegalState ("Durable subscription '" ++ name ++ "' is already active"))) := by
  have hb : cl.bindDurable (cl.session s).subscriptions name k = (cl, some holder) := by
    rw [bindDurable, DurableSubscriptions.bind_of_active h]
  simp only [createDurable, ho, ht, hn, hb, Bool.not_true, Bool.false_eq_true, if_false]

theorem createDurable_of_inactive (ho : (cl.session s).closed = false)
    (ht : topic.isTopic = true) (hn : Text.isBlankText name = false)
    (h : cl.activeConsumer? (cl.session s).subscriptions name = none) :
    (cl.createDurable s k token topic name selector).2 = .ok () := by
  have hb : ∃ cl', cl.bindDurable (cl.session s).subscriptions name k = (cl', none) := by
    obtain ⟨d, hd⟩ := DurableSubscriptions.bind_of_inactive (k := k) h
    rcases hd with hd | hd
    · exact ⟨_, by rw [bindDurable, hd]⟩
    · exact ⟨_, by rw [bindDurable, hd]⟩
  obtain ⟨cl', hb⟩ := hb
  simp only [createDurable, ho, ht, hn, hb, Bool.not_true, Bool.false_eq_true, if_false]

end CreateDurable

/-- At most one open consumer has a durable name among the sessions that share subscriptions, and it
is the active one. An open session can subscribe under a name exactly if no open consumer has it,
and is otherwise told so, with that consumer still the active one. -/
theorem durable_subscriber_unique
    (h : Reachable (fun call => call.isOnSubscriptions = false) cl) :
    (∀ d name k k', cl.Subscribes k d name → cl.Subscribes k' d name → k = k') ∧
    (∀ d name k, cl.activeConsumer? d name = some k ↔ cl.Subscribes k d name) ∧
    ∀ s k token topic name selector,
      cl.admits (.createDurable s k token topic name selector) = true →
      (cl.session s).closed = false → topic.isTopic = true → Text.isBlankText name = false →
      ((cl.step (.createDurable s k token topic name selector)).2 = .done ↔
        ¬ ∃ holder, cl.Subscribes holder (cl.session s).subscriptions name) ∧
      ∀ holder, cl.Subscribes holder (cl.session s).subscriptions name →
        (cl.step (.createDurable s k token topic name selector)).2 =
          .failed (.illegalState ("Durable subscription '" ++ name ++ "' is already active")) ∧
        (cl.step (.createDurable s k token topic name selector)).1.activeConsumer?
          (cl.session s).subscriptions name = some holder := by
  have hagree := h.bindingsAgree
  refine ⟨?_, fun d name k => (hagree d).activeConsumer?_eq_some, ?_⟩
  · intro d name k k' hk hk'
    have hb := (hagree d).bound k name hk
    rw [(hagree d).bound k' name hk'] at hb
    exact (Option.some.inj hb).symm
  · intro s k token topic name selector ha ho ht hn
    have hstep : cl.step (.createDurable s k token topic name selector) =
        (cl.createDurable s k token topic name selector).map id .ofUnit :=
      if_pos ha
    have hrefused : ∀ holder, cl.Subscribes holder (cl.session s).subscriptions name →
        cl.step (.createDurable s k token topic name selector) = (cl, .failed (.illegalState
          ("Durable subscription '" ++ name ++ "' is already active"))) := by
      intro holder hh
      rw [hstep, createDurable_of_active ho ht hn ((hagree _).activeConsumer?_eq_some.mpr hh)]
      rfl
    constructor
    · constructor
      · rintro hdone ⟨holder, hh⟩
        rw [hrefused holder hh] at hdone
        cases hdone
      · intro hnone
        have hinactive : cl.activeConsumer? (cl.session s).subscriptions name = none := by
          cases hact : cl.activeConsumer? (cl.session s).subscriptions name with
          | none => rfl
          | some holder =>
            exact absurd ⟨holder, (hagree _).activeConsumer?_eq_some.mp hact⟩ hnone
        have hok : (cl.createDurable s k token topic name selector).2 = .ok () :=
          createDurable_of_inactive ho ht hn hinactive
        rw [hstep]
        exact congrArg Answer.ofUnit hok
    · intro holder hh
      rw [hrefused holder hh]
      exact ⟨rfl, (hagree _).activeConsumer?_eq_some.mpr hh⟩

def subscribingCalls : List Call :=
  [.makeRegistry ⟨0⟩, .makeSubscriptions ⟨0⟩, .openTransport ⟨0⟩,
    .openConnection ⟨0⟩ ⟨0⟩ ⟨0⟩ ⟨0⟩ false,
    .createSession .plain ⟨0⟩ ⟨0⟩ false .autoAcknowledge,
    .createSession .plain ⟨0⟩ ⟨1⟩ false .autoAcknowledge,
    .createDurable ⟨0⟩ ⟨0⟩ "x" (.topic "t") "n" none]

/-- The second session cannot subscribe under the name that the first has. -/
theorem durable_subscriber_unique_refused :
    Reachable (fun call => call.isOnSubscriptions = false) (initial.run subscribingCalls).1 ∧
      ((initial.run subscribingCalls).1.step
        (.createDurable ⟨1⟩ ⟨1⟩ "y" (.topic "t") "n" none)).2 =
        .failed (.illegalState ("Durable subscription '" ++ "n" ++ "' is already active")) := by
  have h : Reachable (fun call => call.isOnSubscriptions = false)
      (initial.run subscribingCalls).1 :=
    Reachable.initial.run subscribingCalls (by decide)
  obtain ⟨-, -, hsub⟩ := durable_subscriber_unique h
  obtain ⟨-, hrefused⟩ := hsub ⟨1⟩ ⟨1⟩ "y" (.topic "t") "n" none (by decide) (by decide) rfl
    (by decide)
  exact ⟨h, (hrefused ⟨0⟩ ⟨by decide, by decide, by decide⟩).1⟩

end Client

end BrokerClient
