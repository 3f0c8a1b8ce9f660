import BrokerClient.Proofs.Client.Order
import BrokerClient.Proofs.Registration.Changes

/-!
# Numbers of sessions

A connection numbers its sessions from 1 on in the order in which it makes them. No number is left
out and none is given twice, whatever becomes of the sessions.
-/

namespace BrokerClient.Client

variable {cl before after : Client}

/-- The numbers of the sessions that each connection made are those before its next one. -/
def Numbered (cl : Client) : Prop :=
  ∀ c, 0 < (cl.connection c).nextSession ∧
    (cl.sessionsOf c).map (fun s => (cl.session s).number) =
      List.range' 1 ((cl.connection c).nextSession - 1)

/-- Where no session is made the numbers stay. -/
theorem Numbered.of_continues (h : Numbered before) (hc : Continues before after)
    (hk : after.sessions.keys = before.sessions.keys)
    (hn : ∀ c, (after.connection c).nextSession = (before.connection c).nextSession) :
    Numbered after := by
  intro c
  have hnum : ∀ s ∈ before.sessionsOf c, (after.session s).number = (before.session s).number :=
    fun s hs => hc.session_number (Table.has_iff.mp (mem_sessionsOf.mp hs).1)
  rw [hn, hc.sessionsOf_eq hk, List.map_congr_left hnum]
  exact h c

section WithSession

variable {c : ConnectionId} {s : SessionId} {x : Session}

theorem sessionsOf_withSession (hs : cl.sessions.has s = false) (hx : x.connection = c)
    (hcont : Continues cl (cl.withSession c s x)) (c' : ConnectionId) :
    (cl.withSession c s x).sessionsOf c' = cl.sessionsOf c' ++ if c = c' then [s] else [] := by
  have hnew := session_withSession hs c x s
  rw [if_pos rfl] at hnew
  rw [hcont.sessionsOf (Table.keys_insert hs x), List.filter_cons, List.filter_nil, hnew, hx]
  simp only [beq_iff_eq]

theorem nextSession_withSession (hc : cl.connections.has c = true) (c' : ConnectionId) :
    ((cl.withSession c s x).connection c').nextSession =
      (cl.connection c').nextSession + if c = c' then 1 else 0 := by
  rw [connection_withSession hc]
  by_cases he : c' = c
  · rw [if_pos he, if_pos he.symm, he]
  · rw [if_neg he, if_neg (Ne.symm he)]
    rfl

/-- The session that a connection makes gets the next number. -/
theorem Numbered.withSession (h : Numbered cl) (hc : cl.connections.has c = true)
    (hs : cl.sessions.has s = false) (hx : x.connection = c)
    (hn : x.number = (cl.connection c).nextSession)
    (hcont : Continues cl (cl.withSession c s x)) : Numbered (cl.withSession c s x) := by
  intro c'
  obtain ⟨hpos, hnums⟩ := h c'
  have hold : ∀ s' ∈ cl.sessionsOf c',
      ((cl.withSession c s x).session s').number = (cl.session s').number :=
    fun s' hs' => hcont.session_number (Table.has_iff.mp (mem_sessionsOf.mp hs').1)
  rw [nextSession_withSession hc, sessionsOf_withSession hs hx hcont, List.map_append,
    List.map_congr_left hold, hnums]
  refine ⟨Nat.add_pos_left hpos _, ?_⟩
  split
  · next he =>
    have hnew := session_withSession hs c x s
    rw [if_pos rfl] at hnew
    have hlast : x.number = 1 + ((cl.connection c').nextSession - 1) := by
      rw [hn, he]
      omega
    have hnext : (cl.connection c').nextSession + 1 - 1 =
        (cl.connection c').nextSession - 1 + 1 := by omega
    rw [List.map_singleton, hnew, hlast, hnext, List.range'_1_concat]
  · exact List.append_nil _

end WithSession

theorem Numbered.change {allowed : Call → Prop} (h : Numbered before)
    (hc : Change allowed before after) : Numbered after := by
  have hcont := hc.continues
  cases hc.registers with
  | none hsame => exact h.of_continues hcont hsame.session_keys hsame.nextSession
  | openConnection c t r d hn =>
    refine h.of_continues hcont rfl fun c' => ?_
    rw [connection_withConnection hn]
    split
    · next he =>
      -- A connection that does not exist would begin with the same number.
      have hdef : before.connection c = default := Table.get_of_not_has hn
      rw [he, hdef]
      rfl
    · rfl
  | createSession c s transacted mode ho hn =>
    exact h.withSession (has_connection ho) hn rfl rfl hcont
  | shut c ss _ _ hs =>
    refine h.of_continues hcont hs.session_keys fun c' => ?_
    rw [hs.connection_eq]
  | retire c handles _ hr =>
    refine h.of_continues hcont hr.session_keys fun c' => ?_
    rw [hr.connection_eq]

theorem numbered_initial : Numbered initial := fun _ => ⟨Nat.one_pos, rfl⟩

theorem Reachable.numbered {allowed : Call → Prop} (h : Reachable allowed cl) : Numbered cl :=
  h.invariant numbered_initial fun _ _ _ hx hc => hx.change hc

end BrokerClient.Client
