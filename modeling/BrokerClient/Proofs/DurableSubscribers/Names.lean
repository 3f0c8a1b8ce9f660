import BrokerClient.Proofs.Client.Subscribing
import BrokerClient.Proofs.DurableSubscribers

/-!
# Durable names

Which names durable subscriptions have is a matter of the calls that subscribed and unsubscribed.
Closing whatever was subscribed leaves the name, and subscribing again under it takes it over.
-/

namespace BrokerClient.Client

variable {cl : Client} {d : SubscriptionsId} {name : String}

/-- Whether the call of an entry subscribed under the name or gave it up, in a session that uses the
subscriptions. -/
def naming (d : SubscriptionsId) (name : String) (e : Client × Call) : Option Bool :=
  match e.2 with
  | .createDurable s _ _ _ name' _ =>
    if (e.1.session s).subscriptions = d ∧ name' = name ∧ (answered e).isDone = true then some true
    else none
  | .unsubscribe s name' =>
    if (e.1.session s).subscriptions = d ∧ name' = name ∧ (answered e).isDone = true then some false
    else none
  | _ => none

/-- Some session subscribed under the name, and since it was last done none has given it up. -/
def Subscribed (d : SubscriptionsId) (name : String) (past : List (Client × Call)) : Prop :=
  ∃ earlier e later, past = earlier ++ e :: later ∧ naming d name e = some true ∧
    ∀ e' ∈ later, naming d name e' = none

theorem subscribed_iff {past : List (Client × Call)} :
    Subscribed d name past ↔ (past.filterMap (naming d name)).getLast? = some true := by
  rw [List.getLast?_filterMap, List.findSome?_eq_some_iff]
  constructor
  · rintro ⟨earlier, e, later, rfl, he, hlater⟩
    refine ⟨later.reverse, e, earlier.reverse, by simp, he, fun x hx => ?_⟩
    exact hlater x (List.mem_reverse.mp hx)
  · rintro ⟨later, e, earlier, hpast, he, hlater⟩
    refine ⟨earlier.reverse, e, later.reverse, ?_, he, fun x hx => ?_⟩
    · have := congrArg List.reverse hpast
      simpa using this
    · exact hlater x (List.mem_reverse.mp hx)

theorem naming_of_not {call : Call} (h : call.isOnNames d = false) :
    naming d name (cl, call) = none := by
  cases call with
  | createDurable => cases h
  | unsubscribe => cases h
  | _ => rfl

/-- A call that is not done does nothing to a name. -/
theorem contains_of_not_done {call : Call} {answer : Answer} (h : cl.step call = (cl, answer))
    (ha : answer.isDone = false) :
    ((cl.step call).1.durables d).contains name =
      (naming d name (cl, call)).getD ((cl.durables d).contains name) := by
  have hn : naming d name (cl, call) = none := by
    have hdone : (answered (cl, call)).isDone = false := by rw [answered, h, ha]
    cases call with
    | createDurable s k token topic name' selector => simp [naming, hdone]
    | unsubscribe s name' => simp [naming, hdone]
    | _ => rfl
  rw [hn, h]
  rfl

theorem contains_step_createDurable (hs : Sound cl) (s : SessionId) (k : ConsumerId)
    (token : String) (topic : Destination) (name' : String) (selector : Option String) :
    ((cl.step (.createDurable s k token topic name' selector)).1.durables d).contains name =
      (naming d name (cl, .createDurable s k token topic name' selector)).getD
        ((cl.durables d).contains name) := by
  cases ha : cl.admits (.createDurable s k token topic name' selector) with
  | false =>
    have hstep : cl.step (.createDurable s k token topic name' selector) = (cl, .refused) :=
      step_refused ha
    exact contains_of_not_done hstep rfl
  | true =>
    have hstep : cl.step (.createDurable s k token topic name' selector) =
        (cl.createDurable s k token topic name' selector).map id .ofUnit :=
      if_pos ha
    have hsub := subscribing_createDurable cl s k token topic name' selector
    generalize cl.createDurable s k token topic name' selector = result at hstep hsub
    cases hsub with
    | fails e => exact contains_of_not_done hstep rfl
    | succeeds after log ho hb =>
      have hdone : (answered (cl, .createDurable s k token topic name' selector)).isDone = true := by
        rw [answered, hstep]
        rfl
      have hv := durables_onDurables (hs.subscriptions_has (has_session ho)) (fun _ => after) d
      rw [hstep]
      refine (congrArg (DurableSubscriptions.contains · name) hv).trans ?_
      by_cases he : d = (cl.session s).subscriptions
      · by_cases hn : name = name'
        · simp [naming, hdone, he, hn, consumerOf, DurableSubscriptions.contains_bind hb]
        · simp [naming, he, Ne.symm hn, hn, consumerOf, DurableSubscriptions.contains_bind hb]
      · simp [naming, consumerOf, he, Ne.symm he]

theorem step_unsubscribe {s : SessionId} (hs : cl.sessions.has s = true) (name : String) :
    cl.step (.unsubscribe s name) =
      ((cl.unsubscribe s name).1, .ofUnit (cl.unsubscribe s name).2) :=
  if_pos hs

theorem contains_step_unsubscribe (hs : Sound cl) (s : SessionId) (name' : String) :
    ((cl.step (.unsubscribe s name')).1.durables d).contains name =
      (naming d name (cl, .unsubscribe s name')).getD ((cl.durables d).contains name) := by
  cases hk : cl.sessions.has s with
  | false => exact contains_of_not_done (if_neg (Bool.eq_false_iff.mp hk)) rfl
  | true =>
    have hstep := step_unsubscribe hk name'
    cases ho : (cl.session s).closed with
    | true =>
      rw [unsubscribe_of_closed ho] at hstep
      exact contains_of_not_done hstep rfl
    | false =>
      cases ha : cl.activeConsumer? (cl.session s).subscriptions name' with
      | some holder =>
        rw [unsubscribe_of_active ho ha] at hstep
        exact contains_of_not_done hstep rfl
      | none =>
        cases hc : (cl.durables (cl.session s).subscriptions).contains name' with
        | false =>
          rw [unsubscribe_of_unknown ho ha hc] at hstep
          exact contains_of_not_done hstep rfl
        | true =>
          rw [unsubscribe_of_known ho ha hc] at hstep
          have hdone : (answered (cl, .unsubscribe s name')).isDone = true := by
            rw [answered, hstep]
            rfl
          have hv := durables_onDurables (hs.subscriptions_has hk)
            (fun x => x.remove name') d
          rw [hstep]
          refine (congrArg (DurableSubscriptions.contains · name) hv).trans ?_
          by_cases he : d = (cl.session s).subscriptions
          · by_cases hn : name = name'
            · simp [naming, hdone, he, hn, DurableSubscriptions.contains_remove]
            · simp [naming, he, Ne.symm hn, hn, DurableSubscriptions.contains_remove]
          · simp [naming, he, Ne.symm he]

/-- Names come by subscribing and go by unsubscribing. -/
theorem contains_step (hs : Sound cl) (call : Call) (hd : call.isDirectOn d = false) :
    ((cl.step call).1.durables d).contains name =
      (naming d name (cl, call)).getD ((cl.durables d).contains name) := by
  cases hn : call.isOnNames d with
  | false =>
    rw [((accounted_step hs call).durables d).eq hn, naming_of_not hn]
    rfl
  | true =>
    cases call with
    | createDurable s k token topic name' selector =>
      exact contains_step_createDurable hs s k token topic name' selector
    | unsubscribe s name' => exact contains_step_unsubscribe hs s name'
    | bindDurable d' name' k => exact absurd (hd.symm.trans hn) Bool.false_ne_true
    | removeDurable d' name' => exact absurd (hd.symm.trans hn) Bool.false_ne_true
    | _ => cases hn

/-- A name is there exactly if it was subscribed to and not given up since. -/
theorem contains_run (calls : List Call) (hd : ∀ call ∈ calls, call.isDirectOn d = false) :
    ((initial.run calls).1.durables d).contains name = true ↔
      Subscribed d name (initial.history calls) := by
  have hlast := last_run (fun cl => (cl.durables d).contains name) (naming d name)
    (fun _ call hs => contains_step hs call) sound_initial calls hd
  have h₀ : (initial.durables d).contains name = false := rfl
  rw [h₀] at hlast
  rw [hlast, subscribed_iff]
  cases ((initial.history calls).filterMap (naming d name)).getLast? with
  | none => simp
  | some b => simp

/-- A name with an open subscriber cannot be given up. -/
theorem illegalState_unsubscribe_iff (h : BindingsAgreeOn cl d) {s : SessionId}
    (hs : cl.sessions.has s = true) (hd : (cl.session s).subscriptions = d)
    (ho : (cl.session s).closed = false) :
    (∃ text, (cl.step (.unsubscribe s name)).2 = .failed (.illegalState text)) ↔
      ∃ k, cl.Subscribes k d name := by
  rw [step_unsubscribe hs, ← hd]
  cases ha : cl.activeConsumer? (cl.session s).subscriptions name with
  | some holder =>
    rw [unsubscribe_of_active ho ha]
    rw [hd] at ha ⊢
    exact ⟨fun _ => ⟨holder, h.activeConsumer?_eq_some.mp ha⟩, fun _ => ⟨_, rfl⟩⟩
  | none =>
    have hno : ¬ ∃ k, cl.Subscribes k (cl.session s).subscriptions name := by
      rintro ⟨k, hk⟩
      rw [hd] at hk ha
      rw [h.activeConsumer?_eq_some.mpr hk] at ha
      cases ha
    refine iff_of_false ?_ hno
    rintro ⟨text, ht⟩
    cases hc : (cl.durables (cl.session s).subscriptions).contains name with
    | true =>
      rw [unsubscribe_of_known ho ha hc] at ht
      cases ht
    | false =>
      rw [unsubscribe_of_unknown ho ha hc] at ht
      cases ht

/-- Only a name that is there can be given up. -/
theorem invalidDestination_unsubscribe_iff {s : SessionId} (hs : cl.sessions.has s = true)
    (ho : (cl.session s).closed = false) :
    (∃ text, (cl.step (.unsubscribe s name)).2 = .failed (.invalidDestination text)) ↔
      (cl.durables (cl.session s).subscriptions).contains name = false := by
  rw [step_unsubscribe hs]
  cases hc : (cl.durables (cl.session s).subscriptions).contains name with
  | false =>
    have ha : cl.activeConsumer? (cl.session s).subscriptions name = none := by
      have hg := DurableSubscriptions.contains_eq_isSome
        (cl.durables (cl.session s).subscriptions) name
      rw [hc, eq_comm, Option.isSome_eq_false_iff, Option.isNone_iff_eq_none] at hg
      rw [activeConsumer?, DurableSubscriptions.active?, hg]
      rfl
    rw [unsubscribe_of_unknown ho ha hc]
    exact ⟨fun _ => rfl, fun _ => ⟨_, rfl⟩⟩
  | true =>
    refine iff_of_false ?_ (Ne.symm Bool.false_ne_true)
    rintro ⟨text, ht⟩
    cases ha : cl.activeConsumer? (cl.session s).subscriptions name with
    | some holder =>
      rw [unsubscribe_of_active ho ha] at ht
      cases ht
    | none =>
      rw [unsubscribe_of_known ho ha hc] at ht
      cases ht

/-- Durable subscriptions that are only used through sessions have a name exactly if some session
that uses them subscribed under it and none has given it up since. No other call makes a difference
to the names, whatever it closes. So a session can give a name up exactly if it is open, the name
was subscribed to in that sense and nobody who has it is open, and then only that name goes. -/
theorem durable_names_exact (d : SubscriptionsId) (calls : List Call)
    (hd : ∀ call ∈ calls, call.isDirectOn d = false) :
    let cl := (initial.run calls).1
    let past := initial.history calls
    (∀ name, (cl.durables d).contains name = true ↔ Subscribed d name past) ∧
    (∀ call, call.isOnNames d = false →
      ((cl.step call).1.durables d).names = (cl.durables d).names) ∧
    ∀ s, cl.sessions.has s = true → (cl.session s).subscriptions = d → ∀ name,
      ((cl.session s).closed = true →
        cl.step (.unsubscribe s name) = (cl, .failed (.illegalState "Session is closed"))) ∧
      ((cl.session s).closed = false →
        ((∃ text, (cl.step (.unsubscribe s name)).2 = .failed (.illegalState text)) ↔
          ∃ k, cl.Subscribes k d name) ∧
        ((∃ text, (cl.step (.unsubscribe s name)).2 = .failed (.invalidDestination text)) ↔
          ¬ Subscribed d name past) ∧
        ((∀ k, ¬ cl.Subscribes k d name) → Subscribed d name past →
          (cl.step (.unsubscribe s name)).2 = .done ∧
          (∀ n, ((cl.step (.unsubscribe s name)).1.durables d).contains n = true ↔
            (cl.durables d).contains n = true ∧ n ≠ name) ∧
          ∃ log, (cl.step (.unsubscribe s name)).1 =
            { cl.onDurables d fun x => x.remove name with log })) := by
  intro cl past
  have hnames : ∀ name, (cl.durables d).contains name = true ↔ Subscribed d name past :=
    fun name => contains_run calls hd
  have hreach : Reachable (fun call => call.isDirectOn d = false) cl :=
    Reachable.initial.run calls hd
  refine ⟨hnames, fun call hcall => ?_, fun s hs hds name => ⟨fun hc => ?_, fun ho => ?_⟩⟩
  · rw [((accounted_step hreach.sound call).durables d).eq hcall]
  · rw [step_unsubscribe hs, unsubscribe_of_closed hc]
    rfl
  · refine ⟨illegalState_unsubscribe_iff hreach.bindingsAgreeOn hs hds ho, ?_, ?_⟩
    · rw [invalidDestination_unsubscribe_iff hs ho, hds, ← hnames, Bool.not_eq_true]
    · intro hno hsub
      have hc : (cl.durables (cl.session s).subscriptions).contains name = true := by
        rw [hds]
        exact (hnames name).mpr hsub
      have ha : cl.activeConsumer? (cl.session s).subscriptions name = none := by
        cases ha : cl.activeConsumer? (cl.session s).subscriptions name with
        | none => rfl
        | some holder =>
          rw [hds] at ha
          exact absurd (hreach.bindingsAgreeOn.activeConsumer?_eq_some.mp ha) (hno holder)
      have hstep := step_unsubscribe hs name
      rw [unsubscribe_of_known ho ha hc, hds] at hstep
      rw [hstep]
      refine ⟨rfl, fun n => ?_, _, rfl⟩
      have hhas : cl.subscriptions.has d = true := by
        rw [← hds]
        exact hreach.sound.subscriptions_has hs
      have hv := durables_onDurables hhas (fun x => x.remove name) d
      rw [if_pos rfl] at hv
      have hcn : (((cl.onDurables d fun x => x.remove name).durables d).contains n) = _ :=
        congrArg (DurableSubscriptions.contains · n) hv
      rw [DurableSubscriptions.contains_remove] at hcn
      refine (Bool.eq_iff_iff.mp hcn).trans ?_
      rw [Bool.and_eq_true, bne_iff_ne, and_comm]

/-- Of two sessions that share subscriptions, the one that subscribed is closed. -/
def abandoningCalls : List Call :=
  subscribingCalls ++ [.closeSession ⟨0⟩]

/-- The name stays until the other session gives it up, which the closed one cannot do. -/
theorem durable_names_exact_abandoned :
    let cl := (initial.run abandoningCalls).1
    (∀ call ∈ abandoningCalls, call.isDirectOn ⟨0⟩ = false) ∧
      Subscribed ⟨0⟩ "n" (initial.history abandoningCalls) ∧
      (cl.step (.unsubscribe ⟨1⟩ "n")).2 = .done ∧
      cl.step (.unsubscribe ⟨0⟩ "n") = (cl, .failed (.illegalState "Session is closed")) := by
  intro cl
  have hd : ∀ call ∈ abandoningCalls, call.isDirectOn ⟨0⟩ = false := by decide
  obtain ⟨hnames, -, hunsubscribe⟩ := durable_names_exact ⟨0⟩ abandoningCalls hd
  have hsub : Subscribed ⟨0⟩ "n" (initial.history abandoningCalls) := (hnames "n").mp (by decide)
  have hno : ∀ k, ¬ cl.Subscribes k ⟨0⟩ "n" := by
    rintro k ⟨ho, -⟩
    have hk : k ∈ [(⟨0⟩ : ConsumerId)] := Table.has_iff.mp (has_consumer ho)
    rw [List.mem_singleton.mp hk] at ho
    exact absurd ho (by decide)
  have hopen := (hunsubscribe ⟨1⟩ (by decide) (by decide) "n").2 (by decide)
  have hclosed := (hunsubscribe ⟨0⟩ (by decide) (by decide) "n").1 (by decide)
  exact ⟨hd, hsub, (hopen.2.2 hno hsub).1, hclosed⟩

end BrokerClient.Client
