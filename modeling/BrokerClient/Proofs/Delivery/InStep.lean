import BrokerClient.Proofs.Client.Steps

/-!
# Sessions in step

As long as nobody pauses or resumes a session directly, every open session has the direction of its
connection: it is made with that, and a registered session misses no switch.
-/

namespace BrokerClient

def Call.isOnDelivery : Call → Bool
  | .pause _ | .resume _ => true
  | _ => false

namespace Client

variable {cl : Client} {c : ConnectionId}

/-- Every open session has the direction of its connection. -/
def InStep (cl : Client) : Prop :=
  ∀ s, (cl.session s).closed = false →
    (cl.session s).paused = (cl.connection (cl.session s).connection).stopped

/-- Open sessions and connections that keep their directions stay in step. -/
theorem InStep.congr {before after : Client} (h : InStep before)
    (hs : ∀ s, (after.session s).closed = false → (before.session s).closed = false ∧
      (after.session s).connection = (before.session s).connection ∧
      (after.session s).paused = (before.session s).paused)
    (hc : ∀ s, (before.session s).closed = false →
      (after.connection (before.session s).connection).stopped =
        (before.connection (before.session s).connection).stopped) : InStep after := by
  intro s ho
  obtain ⟨ho', hconn, hp⟩ := hs s ho
  rw [hconn, hp, hc s ho']
  exact h s ho'

theorem InStep.switches {before after : Client} (h : InStep before) (hw : WellFormed before)
    {stopped : Bool} (hsw : Switches c stopped before after) : InStep after := by
  intro s ho
  have hm := hw.mem_sessions_iff c s
  have hsv := hsw.session s
  by_cases hl : s ∈ (before.connection c).sessions
  · rw [if_pos hl] at hsv
    rw [hsv, Session.paused_tell, Session.connection_tell, hsw.connection, if_pos (hm.mp hl).2]
  · rw [if_neg hl] at hsv
    rw [hsv] at ho ⊢
    have hne : (before.session s).connection ≠ c := fun he => hl (hm.mpr ⟨ho, he⟩)
    rw [hsw.connection, if_neg hne]
    exact h s ho

theorem InStep.change {before after : Client} (h : InStep before) (hs : Sound before)
    (hc : Change (fun call => call.isOnDelivery = false) before after) : InStep after := by
  cases hc with
  | aside ha =>
    refine h.congr (fun s ho => ?_) fun s _ => by rw [connection_congr ha.connections]
    rw [session_congr ha.sessions] at ho ⊢
    exact ⟨ho, rfl, rfl⟩
  | openConnection c t r d hn _ _ _ _ =>
    refine h.congr (fun _ ho => ⟨ho, rfl, rfl⟩) fun s ho => ?_
    rw [connection_withConnection hn, if_neg (hs.connection_ne hn (has_session ho))]
  | adjust c f hk hf _ _ _ _ =>
    refine h.congr (fun _ ho => ⟨ho, rfl, rfl⟩) fun s _ => ?_
    rw [connection_onConnection_of_has hk]
    split
    · next he =>
      rw [he]
      exact (congrArg Connection.stopped hf :)
    · rfl
  | identify c id claimed ho _ _ _ =>
    refine h.congr (fun _ ho => ⟨ho, rfl, rfl⟩) fun s _ => ?_
    rw [connection_identified ho]
    split
    · next he => rw [he]
    · rfl
  | collide id _ => exact h
  | createSession c s' transacted mode ho hn _ =>
    intro s hop
    have hcs : ∀ c', ((before.withSession c s' (before.nextSession c transacted mode)).connection
        c').stopped = (before.connection c').stopped := by
      intro c'
      obtain ⟨ss, n, -, he⟩ := connection_withSession_eq (has_connection ho) s'
        (before.nextSession c transacted mode) c'
      rw [he]
    rw [hcs]
    rw [session_withSession hn] at hop ⊢
    split
    · rfl
    · next hne =>
      rw [if_neg hne] at hop
      exact h s hop
  | switch c stopped _ _ hsw => exact h.switches hs.toWellFormed hsw
  | tell s paused ha _ => cases paused <;> cases ha
  | shut c ss _ _ hsh =>
    refine h.congr (fun s ho => ?_) fun s _ => by rw [hsh.connection_eq]
    obtain ⟨hns, ho⟩ := (hsh.session_closed s).mp ho
    rw [hsh.session, if_neg hns]
    exact ⟨ho, rfl, rfl⟩
  | retire c handles _ _ hr =>
    refine h.congr (fun s ho => ?_) fun s _ => by rw [hr.connection_eq]
    rw [hr.session] at ho ⊢
    exact ⟨ho, rfl, rfl⟩
  | addConsumer k x ho _ _ _ _ _ =>
    refine h.congr (fun s hop => ?_) fun _ _ => rfl
    rw [session_addConsumer_eq (has_session ho)] at hop ⊢
    exact ⟨hop, rfl, rfl⟩
  | subscribe k x name d ho _ _ _ _ _ _ =>
    refine h.congr (fun s hop => ?_) fun _ _ => rfl
    rw [session_bound_addConsumer (has_session ho)] at hop ⊢
    exact ⟨hop, rfl, rfl⟩
  | unsubscribe s name _ _ _ => exact h
  | closeConsumer k _ hd =>
    refine h.congr (fun s ho => ?_) fun s _ => by rw [hd.connection]
    rw [hd.session_eq] at ho ⊢
    exact ⟨ho, rfl, rfl⟩
  | claims r f id _ => exact h
  | bindings d f name k _ _ => exact h
  | closeTransport t _ => exact h

theorem Reachable.inStep (h : Reachable (fun call => call.isOnDelivery = false) cl) : InStep cl :=
  h.invariant (fun _ ho => (Bool.false_ne_true ho.symm).elim) fun _ _ hs ha hc => ha.change hs hc

end Client

end BrokerClient
