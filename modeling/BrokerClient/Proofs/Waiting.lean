import BrokerClient.Proofs.Client.Attribution
import BrokerClient.Proofs.Delivery.InStep
import BrokerClient.Proofs.Delivery.Told

/-!
# Waiting for delivery

What a consumer gets that waits for delivery while nothing else happens. Four flags on three objects
decide it, but as long as nobody pauses or resumes sessions directly, whether the connection is
stopped is all that an open consumer depends on.
-/

namespace BrokerClient.Client

variable {cl : Client} {c : ConnectionId} {k : ConsumerId}

/-- The wait for a consumer that has looked at its session so many times since it began, with
nothing else happening. -/
def waited (cl : Client) (k : ConsumerId) : Nat → DeliveryWait
  | 0 => cl.awaitConsumer k
  | looks + 1 => (cl.waited k looks).observe cl

theorem observe_of_over {w : DeliveryWait} (h : w.outcome.isSome = true) (cl : Client) :
    w.observe cl = w := by
  cases hw : w.outcome with
  | none =>
    rw [hw] at h
    cases h
  | some b => simp only [DeliveryWait.observe, hw, Option.isNone_some, Bool.false_and,
      Bool.false_eq_true, if_false]

/-- A second look sees what the first one saw. -/
theorem observe_observe (w : DeliveryWait) (cl : Client) :
    (w.observe cl).observe cl = w.observe cl := by
  by_cases hend : (w.outcome.isNone &&
      ((cl.session w.session).delivers || (cl.session w.session).closed)) = true
  · have hover : w.observe cl = { w with outcome := some (cl.session w.session).delivers } :=
      if_pos hend
    rw [hover]
    exact observe_of_over rfl cl
  · have hsame : w.observe cl = w := if_neg hend
    rw [hsame, hsame]

/-- A wait for a session that still goes on ends with whether the session delivers, at the latest
when its time is up. -/
theorem result_awaitSession (cl : Client) (s : SessionId) :
    (cl.awaitSession s).result = (cl.session s).delivers := by
  cases hd : (cl.session s).delivers with
  | true => simp [awaitSession, DeliveryWait.observe, DeliveryWait.result, hd]
  | false => cases hc : (cl.session s).closed <;>
      simp [awaitSession, DeliveryWait.observe, DeliveryWait.result, hd, hc]

theorem result_awaitConsumer (cl : Client) (k : ConsumerId) :
    (cl.awaitConsumer k).result = cl.delivers k := by
  unfold awaitConsumer delivers
  cases cl.isOpen k with
  | true => exact result_awaitSession cl (cl.consumer k).session
  | false => rfl

/-- How long the wait may take makes no difference. -/
theorem waited_eq (cl : Client) (k : ConsumerId) (looks : Nat) :
    cl.waited k looks = cl.awaitConsumer k := by
  have hfirst : (cl.awaitConsumer k).observe cl = cl.awaitConsumer k := by
    unfold awaitConsumer awaitSession
    split
    · exact observe_observe _ cl
    · exact observe_of_over rfl cl
  induction looks with
  | zero => rfl
  | succ looks ih => rw [waited, ih, hfirst]

/-- An open consumer is made to wait by nothing but the direction of its session. -/
theorem result_waited (h : Sound cl) (k : ConsumerId) (looks : Nat) :
    (cl.waited k looks).result = true ↔
      cl.isOpen k = true ∧ (cl.session (cl.consumer k).session).paused = false := by
  rw [waited_eq, result_awaitConsumer]
  simp only [delivers, Session.delivers, Bool.and_eq_true, Bool.not_eq_true']
  constructor
  · rintro ⟨ho, hp, -⟩
    exact ⟨ho, hp⟩
  · rintro ⟨ho, hp⟩
    exact ⟨ho, hp, h.session_open ((Bool.not_eq_true' _).mp ho)⟩

/-- The direction that the call of an entry gave the connection, if it succeeded. -/
def switched (c : ConnectionId) (e : Client × Call) : Option Bool :=
  if (answered e).isDone then
    if e.2 = .start c then some false else if e.2 = .stop c then some true else none
  else none

/-- Calls that are answered in the same way give the direction that they ask for. -/
theorem switched_switch (stopped : Bool) (h : answered (cl, .switch c stopped) = .done) :
    switched c (cl, .switch c stopped) = some stopped := by
  unfold switched
  rw [h]
  refine (if_pos rfl).trans ?_
  cases stopped with
  | true => exact (if_neg nofun).trans (if_pos rfl)
  | false => exact if_pos rfl

theorem switched_of_not_done {call : Call} (h : (answered (cl, call)).isDone = false) :
    switched c (cl, call) = none :=
  if_neg (Bool.eq_false_iff.mp h)

theorem switched_of_not {call : Call} (h : call.isSwitchOf c = false) :
    switched c (cl, call) = none := by
  have hstart : call ≠ .start c := by
    rintro rfl
    simp [Call.isSwitchOf] at h
  have hstop : call ≠ .stop c := by
    rintro rfl
    simp [Call.isSwitchOf] at h
  unfold switched
  rw [if_neg hstart, if_neg hstop, ite_self]

/-- A connection takes the direction that a call gives it if that succeeds, and else keeps its
own. -/
theorem stopped_step_switch (h : Sound cl) (c : ConnectionId) (stopped : Bool) :
    ((cl.step (.switch c stopped)).1.connection c).stopped =
      (switched c (cl, .switch c stopped)).getD (cl.connection c).stopped := by
  have hstep := step_switch cl c stopped
  cases ho : (cl.connection c).closed with
  | true =>
    have hrefused : (answered (cl, .switch c stopped)).isDone = false ∧
        ((cl.step (.switch c stopped)).1.connection c).stopped = (cl.connection c).stopped := by
      rw [answered, hstep]
      split
      · next hr =>
        have hc := has_connection_of_isReferred hr
        rw [switch_of_closed hc ho stopped]
        have hf := connection_foreclose hc c
        rw [if_pos rfl] at hf
        exact ⟨rfl, (congrArg Connection.stopped hf :)⟩
      · exact ⟨rfl, rfl⟩
    rw [switched_of_not_done hrefused.1, hrefused.2]
    rfl
  | false =>
    rw [if_pos (h.referred c ho)] at hstep
    have hdone : answered (cl, .switch c stopped) = .done := by
      rw [answered, hstep]
      exact congrArg Answer.ofUnit (result_switch ho)
    have hf := connection_foreclose (has_connection ho) c
    rw [if_pos rfl] at hf
    rw [switched_switch stopped hdone, hstep]
    by_cases hs : (cl.connection c).stopped = stopped
    · rw [switch_of_stopped ho hs]
      exact (congrArg Connection.stopped hf :).trans hs
    · have hturned := (switches_switch h.toWellFormed ho hs).connection c
      rw [if_pos rfl] at hturned
      exact (congrArg Connection.stopped hturned :)

theorem stopped_step (h : Sound cl) (c : ConnectionId) (call : Call) :
    ((cl.step call).1.connection c).stopped =
      (switched c (cl, call)).getD (cl.connection c).stopped := by
  cases hk : call.isSwitchOf c with
  | false =>
    rw [switched_of_not hk]
    exact ((attributed_step h call).stopped c).eq hk
  | true =>
    have hcall : ∃ stopped, call = .switch c stopped := by
      cases call with
      | start c' => exact ⟨false, congrArg Call.start (beq_iff_eq.mp hk)⟩
      | stop c' => exact ⟨true, congrArg Call.stop (beq_iff_eq.mp hk)⟩
      | _ => cases hk
    obtain ⟨stopped, rfl⟩ := hcall
    exact stopped_step_switch h c stopped

/-- A connection has the direction of the last call that gave it one, and is stopped before. -/
theorem stopped_run (calls : List Call) (c : ConnectionId) :
    ((initial.run calls).1.connection c).stopped =
      ((initial.history calls).filterMap (switched c)).getLast?.getD true :=
  last_run (fun cl => (cl.connection c).stopped) (switched c)
    (fun _ call h _ => stopped_step h c call) sound_initial calls fun _ _ => trivial

def MadeUnder (past : List (Client × Call)) (c : ConnectionId) (k : ConsumerId) : Prop :=
  ∃ s, s ∈ past.filterMap (madeSession c) ∧ k ∈ past.filterMap (madeConsumer s)

/-- A consumer refers to the connection under which it was made. -/
theorem MadeUnder.connection {calls : List Call} (h : MadeUnder (initial.history calls) c k) :
    ((initial.run calls).1.session ((initial.run calls).1.consumer k).session).connection = c := by
  obtain ⟨s, hs, hk⟩ := h
  rw [← sessionsOf_run] at hs
  rw [← consumersOf_run] at hk
  rw [(mem_consumersOf.mp hk).2]
  exact (mem_sessionsOf.mp hs).2

/-- An open consumer has an open session of an open connection. -/
theorem MadeUnder.open {calls : List Call} (h : MadeUnder (initial.history calls) c k)
    (ho : (initial.run calls).1.isOpen k = true) :
    ((initial.run calls).1.session ((initial.run calls).1.consumer k).session).closed = false ∧
      ((initial.run calls).1.connection c).closed = false := by
  have hsound := sound_initial.run calls
  have hs := hsound.session_open ((Bool.not_eq_true' _).mp ho)
  have hc := hsound.connection_open hs
  rw [h.connection] at hc
  exact ⟨hs, hc⟩

/-- However long a consumer waits while nothing else happens, it gets to receive messages if it is
open and its session is not paused, and else it does not. If nobody pauses or resumes sessions
directly, that is if it is open and its connection is not stopped: from the last successful start
on, unless a successful stop came after it. An open consumer has an open session and an open
connection, so none receives anything after its connection was closed or given up. -/
theorem delivery_gated (calls : List Call) :
    let cl := (initial.run calls).1
    let past := initial.history calls
    ∀ c k, MadeUnder past c k →
      (cl.isOpen k = true →
        (cl.session (cl.consumer k).session).closed = false ∧
          (cl.connection c).closed = false) ∧
      (∀ looks, (cl.waited k looks).result = true ↔
        cl.isOpen k = true ∧ (cl.session (cl.consumer k).session).paused = false) ∧
      ((∀ call ∈ calls, call.isOnDelivery = false) → ∀ looks,
        ((cl.waited k looks).result = true ↔
          cl.isOpen k = true ∧ (cl.connection c).stopped = false) ∧
        ((cl.waited k looks).result = true ↔
          cl.isOpen k = true ∧ (past.filterMap (switched c)).getLast? = some false)) ∧
      ∀ before later, calls = before ++ later →
        let earlier := (initial.run before).1
        earlier.connections.has c = true →
        ((earlier.connection c).closed = true ∨ (earlier.connection c).isReferred = false) →
        ∀ looks, (cl.waited k looks).result = false := by
  intro cl past c k hmade
  have hsound : Sound cl := sound_initial.run calls
  refine ⟨hmade.open, result_waited hsound k, fun hdirect looks => ?_, ?_⟩
  · have hreach : Reachable (fun call => call.isOnDelivery = false) cl :=
      Reachable.initial.run calls hdirect
    have hgate : (cl.waited k looks).result = true ↔
        cl.isOpen k = true ∧ (cl.connection c).stopped = false := by
      rw [result_waited hsound]
      refine and_congr_right fun ho => ?_
      rw [hreach.inStep _ (hmade.open ho).1, hmade.connection]
    have hlast : (cl.connection c).stopped = false ↔
        (past.filterMap (switched c)).getLast? = some false := by
      have hrun : (cl.connection c).stopped = (past.filterMap (switched c)).getLast?.getD true :=
        stopped_run calls c
      rw [hrun]
      cases (past.filterMap (switched c)).getLast? with
      | none => simp
      | some b => simp
    exact ⟨hgate, hgate.trans (and_congr_right fun _ => hlast)⟩
  · rintro before later rfl earlier hc hend looks
    have hclosed := (sound_initial.run before).closed_of_ended hend
    have hlater : (cl.connection c).closed = true := by
      have hcontinues := (continues_run (sound_initial.run before) later).connection c hc
      have hrun : cl = ((initial.run before).1.run later).1 := run_append initial before later
      rw [hrun]
      exact hcontinues.closed hclosed
    refine Bool.eq_false_iff.mpr fun hr => ?_
    have ho := ((result_waited hsound k looks).mp hr).1
    have hopen := (hmade.open ho).2
    rw [hlater] at hopen
    cases hopen

def gateOpenedCalls : List Call :=
  [.makeRegistry ⟨0⟩, .makeSubscriptions ⟨0⟩, .openTransport ⟨0⟩,
    .openConnection ⟨0⟩ ⟨0⟩ ⟨0⟩ ⟨0⟩ false,
    .createSession .plain ⟨0⟩ ⟨0⟩ false .autoAcknowledge,
    .createConsumer ⟨0⟩ ⟨0⟩ "a" (.queue "q") none, .start ⟨0⟩]

def gateClosedCalls : List Call := [.drop ⟨0⟩, .start ⟨0⟩]

theorem delivery_gated_started :
    ((initial.run gateOpenedCalls).1.waited ⟨0⟩ 2).result = true ∧
      ((initial.run (gateOpenedCalls ++ gateClosedCalls)).1.waited ⟨0⟩ 2).result = false := by
  have hmade : MadeUnder (initial.history gateOpenedCalls) ⟨0⟩ ⟨0⟩ :=
    ⟨⟨0⟩, by decide, by decide⟩
  have hmade' : MadeUnder (initial.history (gateOpenedCalls ++ gateClosedCalls)) ⟨0⟩ ⟨0⟩ :=
    ⟨⟨0⟩, by decide, by decide⟩
  have hopened := (delivery_gated gateOpenedCalls ⟨0⟩ ⟨0⟩ hmade).2.2.1 (by decide) 2
  have hclosed := (delivery_gated _ ⟨0⟩ ⟨0⟩ hmade').2.2.2 (gateOpenedCalls ++ [.drop ⟨0⟩])
    [.start ⟨0⟩] rfl (by decide) (Or.inr (by decide)) 2
  exact ⟨hopened.1.mpr (by decide), hclosed⟩

end BrokerClient.Client
