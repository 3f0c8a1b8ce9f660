import BrokerClient.Proofs.Client.Creating

/-!
# Foreclosure

The first use of a connection for anything but a client ID rules one out, also a use that fails.
Only a queue or topic session that a closed connection is asked for does not count. Nothing takes a
foreclosure back.
-/

namespace BrokerClient.Client

variable {cl : Client} {c : ConnectionId}

/-- The call of an entry rules out a client ID for the connection. -/
def forecloses (c : ConnectionId) (e : Client × Call) : Bool :=
  e.1.admits e.2 && match e.2 with
    | .createSession kind c' .. => c' == c && (kind == .plain || !(e.1.connection c).closed)
    | .metadata c' | .exceptionListener c' | .setExceptionListener c' _ | .start c' | .stop c' =>
      c' == c
    | _ => false

theorem forecloses_of_not {call : Call} (h : call.isUseOf c = false) :
    forecloses c (cl, call) = false := by
  cases call with
  | createSession _ c' | metadata c' | exceptionListener c' | setExceptionListener c' | start c'
  | stop c' =>
    have hne : (c' == c) = false := h
    simp only [forecloses, hne, Bool.false_and, Bool.and_false]
  | _ => exact Bool.and_false _

theorem assignable_foreclose (hc : cl.connections.has c = true) :
    ((cl.foreclose c).connection c).assignable = false := by
  rw [connection_foreclose hc, if_pos rfl]

/-- A use forecloses whether or not the connection is open. -/
theorem assignable_ifOpen {α : Type} {go : Unit → Client × Except MessagingError α}
    (h : (cl.connection c).assignable = false)
    (hgo : ((go ()).1.connection c).assignable = false) :
    ((cl.ifOpen c go).1.connection c).assignable = false := by
  unfold ifOpen
  split
  · exact h
  · exact hgo

theorem assignable_metadata (hc : cl.connections.has c = true) :
    ((cl.metadata c).1.connection c).assignable = false :=
  assignable_ifOpen (assignable_foreclose hc) (assignable_foreclose hc)

theorem assignable_exceptionListener (hc : cl.connections.has c = true) :
    ((cl.exceptionListener c).1.connection c).assignable = false :=
  assignable_ifOpen (assignable_foreclose hc) (assignable_foreclose hc)

theorem assignable_setExceptionListener (hc : cl.connections.has c = true)
    (l : Option ListenerId) : ((cl.setExceptionListener c l).1.connection c).assignable = false := by
  have hf := assignable_foreclose hc
  have hc' : (cl.foreclose c).connections.has c = true := (Table.has_modify _ _ _ _).trans hc
  refine assignable_ifOpen hf ?_
  rw [connection_onConnection_of_has hc', if_pos rfl]
  exact hf

theorem assignable_switch (hw : WellFormed cl) (hc : cl.connections.has c = true)
    (stopped : Bool) : ((cl.switch c stopped).1.connection c).assignable = false := by
  have hf := assignable_foreclose hc
  cases hcl : (cl.connection c).closed with
  | true =>
    rw [switch_of_closed hc hcl]
    exact hf
  | false =>
    by_cases hst : (cl.connection c).stopped = stopped
    · rw [switch_of_stopped hcl hst]
      exact hf
    · rw [(switches_switch hw hcl hst).connection_eq]
      exact hf

theorem assignable_createSessionOf (hc : cl.connections.has c = true) (kind : SessionKind)
    (s : SessionId) (transacted : Bool) (mode : AcknowledgeMode) :
    ((createSessionOf kind cl c s transacted mode).1.connection c).assignable =
      ((cl.connection c).assignable && !(kind == .plain || !(cl.connection c).closed)) := by
  have hf := assignable_foreclose hc
  cases hcl : (cl.connection c).closed with
  | true =>
    rw [createSessionOf_of_closed hc hcl]
    cases kind with
    | plain => exact hf.trans (Bool.and_false _).symm
    | queue => exact (Bool.and_true _).symm
    | topic => exact (Bool.and_true _).symm
  | false =>
    obtain ⟨e, he⟩ : ∃ e, createSessionOf kind cl c s transacted mode = _ :=
      createSessionOf_of_open hcl kind
    have hc' : (cl.foreclose c).connections.has c = true := (Table.has_modify _ _ _ _).trans hc
    obtain ⟨ss, n, -, hnew⟩ := connection_withSession_eq hc' s
      ((cl.foreclose c).nextSession c transacted mode) c
    have hlost : (((cl.foreclose c).withSession c s
        ((cl.foreclose c).nextSession c transacted mode)).connection c).assignable = false := by
      rw [hnew]
      exact hf
    rw [he, Bool.not_false, Bool.or_true, Bool.not_true, Bool.and_false]
    exact hlost

/-- A connection stays assignable through every step that does not foreclose it. -/
theorem assignable_step (h : Sound cl) (call : Call) (c : ConnectionId) :
    ((cl.step call).1.connection c).assignable =
      ((cl.connection c).assignable && !forecloses c (cl, call)) := by
  cases huse : call.isUseOf c with
  | false =>
    rw [((accounted_step h call).assignable c).eq huse, forecloses_of_not huse, Bool.not_false,
      Bool.and_true]
  | true =>
    cases ha : cl.admits call with
    | false =>
      have hstep : cl.step call = (cl, .refused) := step_refused ha
      rw [hstep, forecloses, ha, Bool.false_and, Bool.not_false, Bool.and_true]
    | true =>
      have hstep : cl.step call = cl.perform call := if_pos ha
      -- Most uses foreclose in any case.
      have hlost : forecloses c (cl, call) = true →
          ((cl.perform call).1.connection c).assignable = false →
          ((cl.perform call).1.connection c).assignable =
            ((cl.connection c).assignable && !forecloses c (cl, call)) := by
        intro hforecloses hfalse
        rw [hforecloses, hfalse, Bool.not_true, Bool.and_false]
      rw [hstep]
      cases call with
      | createSession kind c' s transacted mode =>
        obtain rfl := beq_iff_eq.mp huse
        simp only [forecloses, ha, Bool.true_and, beq_self_eq_true]
        simp only [admits, Bool.and_eq_true] at ha
        exact assignable_createSessionOf (has_connection_of_isReferred ha.1) kind s transacted mode
      | metadata c' =>
        obtain rfl := beq_iff_eq.mp huse
        refine hlost (by simp [forecloses, ha]) ?_
        exact assignable_metadata (has_connection_of_isReferred ha)
      | exceptionListener c' =>
        obtain rfl := beq_iff_eq.mp huse
        refine hlost (by simp [forecloses, ha]) ?_
        exact assignable_exceptionListener (has_connection_of_isReferred ha)
      | setExceptionListener c' l =>
        obtain rfl := beq_iff_eq.mp huse
        refine hlost (by simp [forecloses, ha]) ?_
        simp only [admits, Bool.and_eq_true] at ha
        exact assignable_setExceptionListener (has_connection_of_isReferred ha.1) l
      | start c' =>
        obtain rfl := beq_iff_eq.mp huse
        refine hlost (by simp [forecloses, ha]) ?_
        exact assignable_switch h.toWellFormed (has_connection_of_isReferred ha) false
      | stop c' =>
        obtain rfl := beq_iff_eq.mp huse
        refine hlost (by simp [forecloses, ha]) ?_
        exact assignable_switch h.toWellFormed (has_connection_of_isReferred ha) true
      | _ => cases huse

/-- A connection is assignable as long as no call of the history foreclosed it. -/
theorem assignable_run (calls : List Call) (c : ConnectionId) :
    ((initial.run calls).1.connection c).assignable =
      !(initial.history calls).any (forecloses c) := by
  have hrun := flag_run (fun cl => !(cl.connection c).assignable) (forecloses c)
    (fun cl call h => by rw [assignable_step h, Bool.not_and, Bool.not_not]) sound_initial calls
  have hfresh : (initial.connection c).assignable = true := rfl
  rw [hfresh, Bool.not_true, Bool.false_or] at hrun
  rw [← hrun, Bool.not_not]

end BrokerClient.Client
