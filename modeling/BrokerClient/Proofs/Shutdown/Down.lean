import BrokerClient.Proofs.Finality.Closings

/-!
# When a transport is down

A transport is down from the first time on that somebody closes it or the broker shuts it down. So
the broker can shut it down only once, and not after a close.
-/

namespace BrokerClient.Client

variable {cl before after : Client} {allowed : Call → Prop} {t : TransportId}

def signalled (t : TransportId) (e : Client × Call) : Bool :=
  e.2.isSignalOf t && e.1.transports.has t

/-- The call of an entry is a shutdown that found the transport open. -/
def shutsDown (t : TransportId) (e : Client × Call) : Bool :=
  signalled t e && !e.1.isDown t

/-- The transport is down if it was closed, or if something else is the case. -/
def DownBy (other : Bool) (t : TransportId) (cl : Client) : Prop :=
  cl.isDown t = (decide (0 < (cl.transport t).closeCalls) || other)

theorem isDown_eq (ht : cl.transports.has t = true) : cl.isDown t = (cl.transport t).closed := by
  rw [isDown, ht, Bool.true_and]

/-- What is down is down for some other reason, too. -/
theorem downBy_true : DownBy true t cl ↔ cl.isDown t = true := by
  rw [DownBy, Bool.or_true]

/-- A transport that has just been closed is down for that reason. -/
theorem downBy_closed {other : Bool} (ht : after.transports.has t = true) {x : Transport}
    (hx : after.transport t = x.close.1) : DownBy other t after := by
  rw [Transport.close_eq] at hx
  rw [DownBy, isDown_eq ht, hx]
  simp

/-- Without a shutdown by the broker, only a close takes a transport down. -/
theorem DownBy.change {other : Bool} (h : DownBy other t before) (hs : Sound before)
    (hc : Change allowed before after) (hno : ∀ call, allowed call → call.isSignalOf t = false) :
    DownBy other t after := by
  cases hc.closings with
  | none hcalls _ hdown =>
    rcases hdown t with hsame | ⟨call, ha, hsignal⟩
    · rw [DownBy, hsame, hcalls]
      exact h
    · rw [hno call ha] at hsignal
      cases hsignal
  | direct t' _ he =>
    cases ht : before.transports.has t' with
    | false =>
      have hsame : after = before := by
        rw [he, onTransport, Table.modify_of_not_has ht]
      rw [hsame]
      exact h
    | true =>
      have hv : after.transport t = if t = t' then (before.transport t').close.1
          else before.transport t := by
        rw [he]
        exact Table.get_modify_of_has ht _ t
      have hhas : after.transports.has t = before.transports.has t := by
        rw [he]
        exact Table.has_modify _ _ _ _
      by_cases htt : t = t'
      · rw [if_pos htt] at hv
        refine downBy_closed ?_ hv
        rw [hhas, htt, ht]
      · rw [if_neg htt] at hv
        rw [DownBy, isDown, hhas, hv]
        exact h
  | retire c handles ho hr =>
    have hv := hr.transport t
    have hhas : after.transports.has t = before.transports.has t :=
      Table.has_congr hr.transport_keys t
    by_cases htc : t = (before.connection c).transport
    · rw [if_pos htc] at hv
      refine downBy_closed ?_ hv
      rw [hhas, htc]
      exact hs.transport_known c (has_connection ho)
    · rw [if_neg htc] at hv
      rw [DownBy, isDown, hhas, hv]
      exact h

theorem DownBy.changes {other : Bool} (h : DownBy other t before) (hs : Sound before)
    (hc : Changes allowed before after)
    (hno : ∀ call, allowed call → call.isSignalOf t = false) : DownBy other t after :=
  hc.invariant hs h fun _ _ hs hd hc => hd.change hs hc hno

/-- The broker finds the transport down or takes it down, whatever those do who hear of it. -/
theorem isDown_signal (h : Sound cl) (ht : cl.transports.has t = true) (reason : String) :
    (cl.signal t reason).isDown t = true := by
  unfold signal
  dsimp only
  split
  · next hc => rw [isDown_eq ht, hc]
  · next hc =>
    let shut : Client :=
      (cl.onTransport t fun x => x.signalShutdown.1).note (.loopbackShutDown reason)
    have hv : shut.transport t = (cl.transport t).signalShutdown.1 :=
      (Table.get_modify_of_has ht _ t).trans (if_pos rfl)
    have hdown : shut.isDown t = true := by
      rw [isDown_eq ((Table.has_modify _ _ _ _).trans ht), hv, Transport.signalShutdown, if_neg hc]
    have hsound : Sound shut := by
      have ha : Aside (· = Call.signal t reason) cl _ := aside_signalShutdown cl rfl
      exact h.changes (ha.changes.aside (aside_note _ _))
    -- Those who hear of it do nothing that a direct call would not do.
    have hdirect : ∃ call, call = Call.transportShutDown ⟨0⟩ (.shutdownSignal reason) ∧
        call.isShutdown = true := ⟨_, rfl, rfl⟩
    have hhooks := changes_runHooks hsound hdirect (.shutdownSignal reason)
      (cl.transport t).signalShutdown.2
    refine downBy_true.mp ((downBy_true.mpr hdown).changes hsound hhooks ?_)
    rintro _ rfl
    rfl

theorem step_signal (ht : cl.transports.has t = true) (reason : String) :
    cl.step (.signal t reason) = (cl.signal t reason, .done) :=
  if_pos ht

theorem isDown_of_signalled (h : Sound cl) {call : Call} (hk : signalled t (cl, call) = true) :
    (cl.step call).1.isDown t = true := by
  obtain ⟨hsignal, ht⟩ := Bool.and_eq_true_iff.mp hk
  cases call with
  | signal t' reason =>
    obtain rfl : t' = t := beq_iff_eq.mp hsignal
    rw [step_signal ht]
    exact isDown_signal h ht reason
  | _ => cases hsignal

theorem DownBy.step {other : Bool} (h : DownBy other t cl) (hs : Sound cl) (call : Call) :
    DownBy (other || signalled t (cl, call)) t (cl.step call).1 := by
  cases hk : signalled t (cl, call) with
  | true =>
    rw [Bool.or_true]
    exact downBy_true.mpr (isDown_of_signalled hs hk)
  | false =>
    rw [Bool.or_false]
    cases hsignal : call.isSignalOf t with
    | false =>
      have hc : Changes (· = call) cl (cl.step call).1 := changes_step hs rfl
      refine h.changes hs hc ?_
      rintro _ rfl
      exact hsignal
    | true =>
      -- A shutdown of a transport that does not exist is refused.
      have ht : cl.transports.has t = false := by simpa [signalled, hsignal] using hk
      have hstep : cl.step call = (cl, .refused) := by
        cases call with
        | signal t' reason =>
          obtain rfl : t' = t := beq_iff_eq.mp hsignal
          exact if_neg (Bool.eq_false_iff.mp ht)
        | _ => cases hsignal
      rw [hstep]
      exact h

theorem DownBy.run {other : Bool} (h : DownBy other t cl) (hs : Sound cl) (calls : List Call) :
    DownBy (other || (cl.history calls).any (signalled t)) t (cl.run calls).1 := by
  induction calls generalizing cl other with
  | nil =>
    rw [history, List.any_nil, Bool.or_false]
    exact h
  | cons call calls ih =>
    have hrest := ih (h.step hs call) (hs.step call)
    rw [Bool.or_assoc] at hrest
    exact hrest

/-- A transport is down if it was closed or shut down before, and open else. -/
theorem isDown_run (calls : List Call) (t : TransportId) :
    let cl := (initial.run calls).1
    cl.isDown t =
      (decide (0 < (cl.transport t).closeCalls) || (initial.history calls).any (signalled t)) := by
  have h₀ : DownBy false t initial := rfl
  exact h₀.run sound_initial calls

/-- A transport that is down is not shut down any more, and one that is open at most once. -/
theorem countP_shutsDown (h : Sound cl) (calls : List Call) :
    (cl.history calls).countP (shutsDown t) ≤ if cl.isDown t then 0 else 1 := by
  induction calls generalizing cl with
  | nil => exact Nat.zero_le _
  | cons call calls ih =>
    have hrest := ih (h.step call)
    rw [history, List.countP_cons]
    cases hd : cl.isDown t with
    | true =>
      have hdown := downBy_true.mpr hd
      have hafter : (cl.step call).1.isDown t = true := downBy_true.mp (hdown.step h call)
      have hnone : shutsDown t (cl, call) = false := by simp [shutsDown, hd]
      simp only [hafter, hnone, if_true, Bool.false_eq_true, if_false] at hrest ⊢
      omega
    | false =>
      cases hk : shutsDown t (cl, call) with
      | false =>
        have hone : (if (cl.step call).1.isDown t then 0 else 1) ≤ 1 := by split <;> omega
        simp only [Bool.false_eq_true, if_false]
        omega
      | true =>
        -- From the shutdown on the transport is down, so none can follow.
        have hafter := isDown_of_signalled h (Bool.and_eq_true_iff.mp hk).1
        simp only [hafter, if_true, Bool.false_eq_true, if_false] at hrest ⊢
        omega

end BrokerClient.Client
