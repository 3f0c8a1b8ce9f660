import BrokerClient.Proofs.Client.Retiring

/-!
# Giving up references

A reference that is given up is one less. The last one takes an open connection with it, which is
closed then without any references to it.
-/

namespace BrokerClient.Client

variable {cl : Client} {c : ConnectionId}

theorem close_of_closed (hc : (cl.connection c).closed = true) : cl.close c = (cl, .ok ()) :=
  if_pos hc

theorem onConnection_drop (cl : Client) (c : ConnectionId) :
    cl.onConnection c (fun x => { x with handles := x.handles - 1 }) =
      cl.recounted c ((cl.connection c).handles - 1) cl.log := by
  have hm : cl.connections.modify c (fun x => { x with handles := x.handles - 1 }) =
      cl.connections.modify c fun x => { x with handles := (cl.connection c).handles - 1 } :=
    Table.modify_congr rfl
  rw [onConnection, hm]
  rfl

/-- A connection that somebody still refers to, or that is closed, only loses the reference. -/
theorem drop_eq_recounted (hc : cl.connections.has c = true)
    (h : (cl.connection c).handles - 1 ≠ 0 ∨ (cl.connection c).closed = true) :
    cl.drop c = cl.recounted c ((cl.connection c).handles - 1) cl.log := by
  have hv := connection_recounted hc ((cl.connection c).handles - 1) cl.log c
  rw [if_pos rfl] at hv
  rw [drop, onConnection_drop]
  split
  · rfl
  · next hr =>
    have hcl : ((cl.recounted c ((cl.connection c).handles - 1) cl.log).connection c).closed =
        true := by
      rw [hv] at hr ⊢
      rcases h with h | h
      · exact absurd (bne_iff_ne.mpr h) hr
      · exact h
    exact if_pos hcl

/-- With its last reference an open connection is closed. -/
theorem drop_of_last (ho : (cl.connection c).closed = false)
    (h : (cl.connection c).handles - 1 = 0) :
    cl.drop c =
      match (cl.recounted c 0 (cl.log ++ [.connectionDropped])).close c with
      | (cl, .ok ()) => cl
      | (cl, .error e) => cl.note (.dropCloseFailed e) := by
  have hv := connection_recounted (has_connection ho) 0 cl.log c
  rw [if_pos rfl] at hv
  have hr : ¬ ((cl.recounted c 0 cl.log).connection c).isReferred = true := by
    rw [hv]
    exact Bool.false_ne_true
  have hopen : ¬ ((cl.recounted c 0 cl.log).connection c).closed = true := by
    rw [hv]
    exact Bool.eq_false_iff.mp ho
  rw [drop, onConnection_drop, h]
  rw [if_neg hr, closeDropped, if_neg hopen]
  rfl

/-- Only the log tells what came of the close. -/
theorem exists_drop_of_last (ho : (cl.connection c).closed = false)
    (h : (cl.connection c).handles - 1 = 0) :
    ∃ log, cl.drop c =
      { ((cl.recounted c 0 (cl.log ++ [.connectionDropped])).close c).1 with log } := by
  rw [drop_of_last ho h]
  split
  · next hd =>
    rw [hd]
    exact ⟨_, rfl⟩
  · next hd =>
    rw [hd]
    exact ⟨_, rfl⟩

/-- A guard gives up its reference to the closed connection, and only the log tells what came of the
close. -/
theorem exists_dropGuard (cl : Client) (c : ConnectionId) :
    ∃ log, cl.dropGuard c = ({ (cl.close c).1 with log } : Client).drop c := by
  unfold dropGuard
  split
  · next hd =>
    rw [hd]
    exact ⟨_, rfl⟩
  · next hd =>
    rw [hd]
    exact ⟨_, rfl⟩

end BrokerClient.Client
