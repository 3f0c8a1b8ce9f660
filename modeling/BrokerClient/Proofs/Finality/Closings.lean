import BrokerClient.Proofs.Client.History
import BrokerClient.Proofs.Registration.Gauges

/-!
# Closings of transports

A transport is closed by whoever has it, directly, and by the connections over it. Each of them
closes it when it is closed itself and at no other time, so the calls that a transport has had can
be counted from the connections that are closed.
-/

namespace BrokerClient.Client

variable {allowed : Call → Prop} {cl before after : Client} {c : ConnectionId} {t : TransportId}

/-- What a change may do to transports: close one directly, close one with its connection, or leave
all of them as closed as they were. -/
inductive Closings (allowed : Call → Prop) (before after : Client) : Prop where
  | none : (∀ t, (after.transport t).closeCalls = (before.transport t).closeCalls) →
    (∀ t, before.transports.has t = true → (before.transport t).closed = true →
      (after.transport t).closed = true) →
    (∀ t, Explained allowed (Call.isSignalOf t) (before.isDown t) (after.isDown t)) →
      Closings allowed before after
  | direct (t : TransportId) : allowed (.closeTransport t) →
    after = before.onTransport t (fun x => x.close.1) → Closings allowed before after
  | retire (c : ConnectionId) (handles : Nat) : (before.connection c).closed = false →
    Retires c handles before after → Closings allowed before after

theorem Closings.of_transports (h : after.transports = before.transports) :
    Closings allowed before after := by
  refine .none (fun t => ?_) (fun t _ hc => ?_) fun t => Or.inl ?_
  · rw [transport, transport, h]
  · rw [transport, h]
    exact hc
  · rw [isDown, isDown, transport, transport, h]

theorem Change.closings (h : Change allowed before after) : Closings allowed before after := by
  cases h with
  | aside h => exact .none h.closeCalls h.transport_closed h.shut_down
  | openConnection c t r d _ _ _ _ _ => exact .of_transports rfl
  | adjust c f _ _ _ _ _ _ => exact .of_transports rfl
  | identify c id claimed _ _ _ _ => exact .of_transports rfl
  | collide id _ => exact .of_transports rfl
  | createSession c s transacted mode _ _ _ => exact .of_transports rfl
  | switch c stopped _ _ h => exact .of_transports h.transports
  | tell s paused _ _ => exact .of_transports rfl
  | shut c ss _ _ h => exact .of_transports h.transports
  | retire c handles ho _ h => exact .retire c handles ho h
  | addConsumer k x _ _ _ _ _ _ => exact .of_transports rfl
  | subscribe k x name d _ _ _ _ _ _ _ => exact .of_transports rfl
  | unsubscribe s name _ _ _ => exact .of_transports rfl
  | closeConsumer k _ h => exact .of_transports h.transports
  | claims r f id _ => exact .of_transports rfl
  | bindings d f name k _ _ => exact .of_transports rfl
  | closeTransport t ha => exact .direct t ha rfl

/-- No change opens a transport. -/
theorem Closings.closed (h : Closings allowed before after) (ht : before.transports.has t = true)
    (hc : (before.transport t).closed = true) : (after.transport t).closed = true := by
  cases h with
  | none _ hclosed _ => exact hclosed t ht hc
  | direct t' _ he =>
    rw [he]
    rcases before.transports.get_modify_cases t' (fun x => x.close.1) t with hv | ⟨-, hv⟩
    · exact (congrArg Transport.closed hv).trans hc
    · rw [Transport.close_eq] at hv
      exact congrArg Transport.closed hv
  | retire c handles _ hr =>
    rw [hr.transport]
    split
    · rw [Transport.close_eq]
    · exact hc

/-- A connection that is closed was closed before or has just been retired. -/
theorem Registers.closed (h : Registers before after) (hc : after.connections.has c = true)
    (hcl : (after.connection c).closed = true) :
    (before.connections.has c = true ∧ (before.connection c).closed = true) ∨
      ∃ handles, Retires c handles before after := by
  cases h with
  | none hsame =>
    rw [hsame.connection_closed] at hcl
    exact Or.inl ⟨(Table.has_congr hsame.connection_keys c).symm.trans hc, hcl⟩
  | openConnection c' t r d hn =>
    have hv := connection_withConnection hn (.fresh t r d) c
    rw [hv] at hcl
    split at hcl
    · cases hcl
    · next hne => exact Or.inl ⟨((Table.has_insert hn _ c).mp hc).resolve_right hne, hcl⟩
  | createSession c' s transacted mode ho hn =>
    obtain ⟨ss, n, -, he⟩ := connection_withSession_eq (has_connection ho) s
      (before.nextSession c' transacted mode) c
    rw [he] at hcl
    exact Or.inl ⟨(Table.has_modify _ _ _ _).symm.trans hc, hcl⟩
  | shut c' ss _ _ hs =>
    rw [hs.connection_eq] at hcl
    exact Or.inl ⟨(hs.connections_has c).symm.trans hc, hcl⟩
  | retire c' handles ho hr =>
    by_cases he : c = c'
    · exact Or.inr ⟨handles, he ▸ hr⟩
    · rw [hr.connection, if_neg he] at hcl
      exact Or.inl ⟨(Table.has_congr hr.connection_keys c).symm.trans hc, hcl⟩

/-- The transports of closed connections are closed. -/
def TransportsClosed (cl : Client) : Prop :=
  ∀ c, cl.connections.has c = true → (cl.connection c).closed = true →
    (cl.transport (cl.connection c).transport).closed = true

theorem TransportsClosed.change (hd : TransportsClosed before) (hs : Sound before)
    (h : Change allowed before after) : TransportsClosed after := by
  intro c hc hcl
  rcases h.registers.closed hc hcl with ⟨hc₀, hcl₀⟩ | ⟨handles, hr⟩
  · have ht : (after.connection c).transport = (before.connection c).transport :=
      congrArg Prod.fst (h.continues.connection c hc₀).origin
    rw [ht]
    exact h.closings.closed (hs.transport_known c hc₀) (hd c hc₀ hcl₀)
  · have ht : (after.connection c).transport = (before.connection c).transport := by
      rw [hr.connection_eq]
    rw [ht, hr.transport, if_pos rfl, Transport.close_eq]

theorem Reachable.transportsClosed (h : Reachable allowed cl) : TransportsClosed cl :=
  h.invariant (fun c hc => by cases hc) fun _ _ hs hd hc => hd.change hs hc

/-- How many closed connections a transport has. -/
def closedOver (cl : Client) (t : TransportId) : Nat :=
  cl.connections.keys.countP fun c =>
    (cl.connection c).closed && (cl.connection c).transport == t

/-- Connections that are closed alike count alike. -/
theorem closedOver_congr (hk : after.connections.keys = before.connections.keys)
    (hc : ∀ c, (after.connection c).closed = (before.connection c).closed)
    (h : Continues before after) (t : TransportId) : after.closedOver t = before.closedOver t := by
  unfold closedOver
  rw [hk]
  refine List.countP_congr fun c hm => ?_
  have ht : (after.connection c).transport = (before.connection c).transport :=
    congrArg Prod.fst (h.connection c (Table.has_iff.mpr hm)).origin
  rw [hc, ht]

theorem closedOver_withConnection {x : Connection} (hc : cl.connections.has c = false)
    (hx : x.closed = false) (t : TransportId) :
    (cl.withConnection c x).closedOver t = cl.closedOver t := by
  have hkeys : (cl.withConnection c x).connections.keys = cl.connections.keys ++ [c] :=
    Table.keys_insert hc x
  have hv := connection_withConnection hc x
  unfold closedOver
  rw [hkeys, List.countP_append, List.countP_singleton, hv, if_pos rfl, hx]
  refine (Nat.add_zero _).trans (List.countP_congr fun c' hm => ?_)
  rw [hv, if_neg (Table.ne_of_has (Table.has_iff.mpr hm) hc)]

theorem Retires.closedOver {handles : Nat} (h : Retires c handles before after)
    (ho : (before.connection c).closed = false) (t : TransportId) :
    after.closedOver t =
      before.closedOver t + if (before.connection c).transport = t then 1 else 0 := by
  have hv := h.connection
  unfold Client.closedOver
  rw [h.connection_keys]
  by_cases ht : (before.connection c).transport = t
  · rw [if_pos ht, ← List.length_singleton (a := c)]
    refine countP_eq_add_length before.connections.nodup (List.nodup_singleton c)
      (fun c' hm => ?_) fun c' => ?_
    · rw [List.mem_singleton.mp hm, hv, if_pos rfl, ← ht]
      exact ⟨Table.has_iff.mp (has_connection ho), by simp⟩
    · rw [hv, List.mem_singleton]
      split
      · next he => simp [he, ho]
      · next he => simp [he]
  · rw [if_neg ht]
    refine List.countP_congr fun c' _ => ?_
    rw [hv]
    split
    · next he => simp [he, ht]
    · rfl

theorem Retires.closeCalls {handles : Nat} (h : Retires c handles before after) (t : TransportId) :
    (after.transport t).closeCalls =
      (before.transport t).closeCalls + if (before.connection c).transport = t then 1 else 0 := by
  rw [h.transport]
  split
  · next he => rw [if_pos he.symm, Transport.close_eq]
  · next he => rw [if_neg (Ne.symm he)]; rfl

/-- Calls of a transport and closed connections over it keep in step, but for direct calls. -/
theorem Change.balanced (h : Change allowed before after) (t : TransportId)
    (ha : ¬ allowed (.closeTransport t)) :
    (after.transport t).closeCalls + before.closedOver t =
      (before.transport t).closeCalls + after.closedOver t := by
  have hcontinues := h.continues
  have hregisters := h.registers
  cases h.closings with
  | none hcalls _ _ =>
    rw [hcalls]
    congr 1
    cases hregisters with
    | none hsame =>
      exact (closedOver_congr hsame.connection_keys hsame.connection_closed hcontinues t).symm
    | openConnection c t' r d hn => exact (closedOver_withConnection hn rfl t).symm
    | createSession c s transacted mode ho hn =>
      refine (closedOver_congr (Table.keys_modify _ _ _) (fun c' => ?_) hcontinues t).symm
      obtain ⟨ss, n, -, he⟩ := connection_withSession_eq (has_connection ho) s
        (before.nextSession c transacted mode) c'
      rw [he]
    | shut c ss _ _ hs =>
      refine (closedOver_congr hs.connection_keys (fun c' => ?_) hcontinues t).symm
      rw [hs.connection_eq]
    | retire c handles _ hr =>
      -- A retirement would have closed a transport.
      have hcalls := (hcalls (before.connection c).transport).symm.trans
        (hr.closeCalls (before.connection c).transport)
      rw [if_pos rfl] at hcalls
      omega
  | direct t' ha' he =>
    have hne : t ≠ t' := fun het => ha (het ▸ ha')
    have hv : (before.onTransport t' fun x => x.close.1).transport t = before.transport t :=
      before.transports.get_modify_of_ne hne _
    rw [he, hv]
    rfl
  | retire c handles ho hr =>
    rw [hr.closeCalls, hr.closedOver ho]
    omega

/-- The call of an entry closed the transport directly. -/
def closesDirectly (t : TransportId) (e : Client × Call) : Bool :=
  e.2 == .closeTransport t && e.1.transports.has t

theorem Changes.balanced (h : Changes allowed before after) (t : TransportId)
    (ha : ¬ allowed (.closeTransport t)) :
    (after.transport t).closeCalls + before.closedOver t =
      (before.transport t).closeCalls + after.closedOver t := by
  induction h with
  | refl => rfl
  | tail _ hlast ih =>
    have hbalanced := hlast.balanced t ha
    omega

/-- A step closes a transport as often as it closes connections over it, and once more if it is a
direct call. -/
theorem closeCalls_step (h : Sound cl) (call : Call) (t : TransportId) :
    ((cl.step call).1.transport t).closeCalls + cl.closedOver t =
      (cl.transport t).closeCalls + (cl.step call).1.closedOver t +
        if closesDirectly t (cl, call) then 1 else 0 := by
  by_cases hcall : call = .closeTransport t
  · rw [hcall]
    cases ht : cl.transports.has t with
    | false =>
      have hstep : cl.step (.closeTransport t) = (cl, .refused) := step_refused ht
      rw [hstep]
      simp [closesDirectly, ht]
    | true =>
      have hstep : cl.step (.closeTransport t) = (cl.closeTransport t).map id .transport :=
        if_pos ht
      have hv : ((cl.step (.closeTransport t)).1.transport t).closeCalls =
          (cl.transport t).closeCalls + 1 := by
        have hget := Table.get_modify_of_has ht (fun x => x.close.1) t
        rw [if_pos rfl, Transport.close_eq] at hget
        rw [hstep]
        exact congrArg Transport.closeCalls hget
      have hover : (cl.step (.closeTransport t)).1.closedOver t = cl.closedOver t := by
        rw [hstep]
        rfl
      rw [hv, hover]
      simp [closesDirectly, ht]
      omega
  · have hchanges : Changes (· = call) cl (cl.step call).1 := changes_step h rfl
    have hdirect : closesDirectly t (cl, call) = false := by simp [closesDirectly, hcall]
    rw [hdirect]
    exact hchanges.balanced t (Ne.symm hcall)

theorem closeCalls_run (h : Sound cl) (calls : List Call) (t : TransportId) :
    ((cl.run calls).1.transport t).closeCalls + cl.closedOver t =
      (cl.transport t).closeCalls + (cl.run calls).1.closedOver t +
        (cl.history calls).countP (closesDirectly t) := by
  induction calls generalizing cl with
  | nil => rfl
  | cons call calls ih =>
    have hrest := ih (h.step call)
    have hstep := closeCalls_step h call t
    have hrun : (cl.run (call :: calls)).1 = ((cl.step call).1.run calls).1 := rfl
    rw [hrun, history, List.countP_cons]
    omega

end BrokerClient.Client
