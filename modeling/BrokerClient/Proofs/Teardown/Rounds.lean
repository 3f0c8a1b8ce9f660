import BrokerClient.Proofs.Client.Draining
import Mathlib.Data.List.Nodup

/-!
# The rounds of a drain

A drain does not count its rounds: as long as a session is listed, it closes the first one and takes
it off the list. Numbers that are pairwise distinct are all that this needs to end. Every round then
takes exactly one session off, whether the session is open, and whether it still finds its
connection and so is off the list before the drain takes it off.
-/

namespace BrokerClient.Client

variable {cl mid : Client} {c : ConnectionId} {s : SessionId} {calls : List SessionId}

/-- No two sessions on the list of a connection have one number. -/
def NumbersApart (cl : Client) (c : ConnectionId) : Prop :=
  ((cl.connection c).sessions.map fun s => (cl.session s).number).Nodup

def drainRound (cl : Client) (c : ConnectionId) (s : SessionId) : Client :=
  (cl.closeSession s).deregister c s

/-- What a drain has come to after some rounds, and the sessions it has closed in them, in order. -/
inductive Rounds (c : ConnectionId) (cl : Client) : List SessionId → Client → Prop where
  | start : Rounds c cl [] cl
  | next {calls : List SessionId} {mid : Client} {s : SessionId} {rest : List SessionId}
      (h : Rounds c cl calls mid) (hl : (mid.connection c).sessions = s :: rest) :
      Rounds c cl (calls ++ [s]) (mid.drainRound c s)

/-- The listed sessions of other numbers. -/
def listedApart (cl : Client) (c : ConnectionId) (s : SessionId) : List SessionId :=
  (cl.connection c).sessions.filter fun s' => (cl.session s').number ≠ (cl.session s).number

theorem listedApart_eq_erase (h : NumbersApart cl c) (hs : s ∈ (cl.connection c).sessions) :
    cl.listedApart c s = (cl.connection c).sessions.erase s := by
  rw [h.of_map.erase_eq_filter, listedApart]
  refine List.filter_congr fun s' hs' => ?_
  have hiff : (cl.session s').number = (cl.session s).number ↔ s' = s :=
    ⟨fun he => List.inj_on_of_nodup_map h hs' hs he, fun he => by rw [he]⟩
  rw [Bool.eq_iff_iff, decide_eq_true_iff, bne_iff_ne, ne_eq, ne_eq, hiff]

/-- What a session is once it is closed does not depend on the lists that it leaves. -/
theorem session_closeSession (cl : Client) (s s' : SessionId) :
    (cl.closeSession s).session s' = (cl.shutSession s).session s' := by
  simp only [closeSession]
  split <;> rfl

theorem number_closeSession (cl : Client) (s s' : SessionId) :
    ((cl.closeSession s).session s').number = (cl.session s').number := by
  rw [session_closeSession, number_shutSession]

/-- Closing a session takes it off the list itself if it finds the connection, and not otherwise. -/
theorem sessions_closeSession (cl : Client) (c : ConnectionId) (s : SessionId) :
    ((cl.closeSession s).connection c).sessions =
      if (cl.session s).connection = c ∧ (cl.connection c).isReferred = true then
        cl.listedApart c s
      else (cl.connection c).sessions := by
  have hkept := connection_congr (connections_shutSession cl s)
  have hnumber := number_shutSession cl s
  simp only [closeSession, hkept]
  by_cases hr : (cl.connection (cl.session s).connection).isReferred = true
  · rw [if_pos hr, connection_deregister, hkept]
    simp only [hkept, hnumber]
    by_cases hc : (cl.session s).connection = c
    · subst hc
      rw [if_pos rfl, if_pos ⟨rfl, hr⟩]
      rfl
    · rw [if_neg (Ne.symm hc), if_neg fun hfinds => hc hfinds.1]
  · rw [if_neg hr, hkept, if_neg]
    rintro ⟨rfl, hr'⟩
    exact hr hr'

/-- Afterwards only sessions of other numbers are listed, however many there were of this one. -/
theorem sessions_drainRound (cl : Client) (c : ConnectionId) (s : SessionId) :
    ((cl.drainRound c s).connection c).sessions = cl.listedApart c s := by
  rw [drainRound, connection_deregister, if_pos rfl]
  simp only [number_closeSession, sessions_closeSession]
  split
  · rw [listedApart, List.filter_filter]
    simp only [Bool.and_self]
  · rfl

theorem closed_closeSession (cl : Client) (s s' : SessionId) :
    ((cl.closeSession s).session s').closed = true ↔ s' = s ∨ (cl.session s').closed = true := by
  rw [session_closeSession]
  cases hc : (cl.session s).closed with
  | true =>
    rw [shutSession_of_closed hc]
    exact ⟨Or.inr, fun h => h.elim (fun he => by rw [he]; exact hc) id⟩
  | false =>
    obtain ⟨t, l, -, -, h⟩ := shutSession_eq hc
    have hs : (cl.sessions.modify s Session.shut).get s' = _ := Table.get_modify (fun _ => rfl) s'
    rw [h]
    change ((cl.sessions.modify s Session.shut).get s').closed = true ↔ _
    rw [hs]
    by_cases he : s' = s
    · simp [he]
    · rw [if_neg he, or_iff_right he]
      rfl

theorem NumbersApart.drainRound (h : NumbersApart cl c) (s : SessionId) :
    NumbersApart (cl.drainRound c s) c := by
  have hnumber : ∀ s', ((cl.drainRound c s).session s').number = (cl.session s').number :=
    number_closeSession cl s
  unfold NumbersApart
  simp only [sessions_drainRound, hnumber]
  exact h.sublist (List.filter_sublist.map _)

theorem drainStep?_cons_eq {rest : List SessionId} (hl : (cl.connection c).sessions = s :: rest) :
    cl.drainStep? c = some (cl.drainRound c s) := by
  simp only [drainStep?, hl]
  rfl

namespace Rounds

/-- The sessions closed so far and those still listed are the ones that were listed at first. -/
theorem listed (h : Rounds c cl calls mid) (hn : NumbersApart cl c) :
    (cl.connection c).sessions = calls ++ (mid.connection c).sessions ∧ NumbersApart mid c := by
  induction h with
  | start => exact ⟨rfl, hn⟩
  | @next calls mid s rest h hl ih =>
    obtain ⟨hlisted, hapart⟩ := ih
    refine ⟨?_, hapart.drainRound s⟩
    have hs : s ∈ (mid.connection c).sessions := hl ▸ List.mem_cons_self
    rw [sessions_drainRound, listedApart_eq_erase hapart hs, hlisted, hl, List.erase_cons_head,
      List.append_assoc]
    rfl

theorem eq_foldl (h : Rounds c cl calls mid) :
    mid = calls.foldl (fun x s => x.drainRound c s) cl := by
  induction h with
  | start => rfl
  | next h hl ih =>
    rw [List.foldl_append, ← ih]
    rfl

theorem closed (h : Rounds c cl calls mid) (s : SessionId) :
    (mid.session s).closed = true ↔ s ∈ calls ∨ (cl.session s).closed = true := by
  induction h with
  | start => exact (or_iff_right List.not_mem_nil).symm
  | next h hl ih =>
    rw [List.mem_append, List.mem_singleton, or_right_comm, ← ih, or_comm]
    exact closed_closeSession _ _ _

/-- Given a round for each session that is left, a drain closes them all. -/
theorem drainWithin {rest : List SessionId} {rounds : Nat} (h : Rounds c cl calls mid)
    (hn : NumbersApart cl c) (hl : (mid.connection c).sessions = rest)
    (hr : rest.length ≤ rounds) : Rounds c cl (calls ++ rest) (mid.drainWithin c rounds) := by
  induction rest generalizing calls mid rounds with
  | nil =>
    rw [List.append_nil, drainWithin_nil hl]
    exact h
  | cons s rest ih =>
    cases rounds with
    | zero => cases hr
    | succ rounds =>
      have hnext := h.next hl
      have hrest : ((mid.drainRound c s).connection c).sessions = rest := by
        have hlisted := (hnext.listed hn).1
        rw [(h.listed hn).1, hl, List.append_assoc] at hlisted
        exact (List.cons.inj (List.append_cancel_left hlisted)).2.symm
      have hdrained := ih hnext hrest (Nat.le_of_succ_le_succ hr)
      rw [List.append_assoc] at hdrained
      simp only [Client.drainWithin, drainStep?_cons_eq hl]
      exact hdrained

end Rounds

/-- If the numbers of the listed sessions are pairwise distinct, a drain closes each of them once,
in the order of the list, in as many rounds as there are sessions, and leaves none. After any rounds
the sessions closed and those left make up the first list, so no other way of going on ends
elsewhere. A session that finds the connection is off the list as soon as it is closed and others
are not, and the round takes off this session and no other, whether it was open or not. -/
theorem drain_exact (cl : Client) (c : ConnectionId) (h : NumbersApart cl c) :
    Rounds c cl (cl.connection c).sessions (cl.drain c) ∧
    ((cl.drain c).connection c).sessions = [] ∧
    (cl.connection c).sessions.Nodup ∧
    (∀ s, ((cl.drain c).session s).closed = true ↔
      s ∈ (cl.connection c).sessions ∨ (cl.session s).closed = true) ∧
    ∀ calls mid, Rounds c cl calls mid →
      (cl.connection c).sessions = calls ++ (mid.connection c).sessions ∧
      ((mid.connection c).sessions = [] →
        calls = (cl.connection c).sessions ∧ mid = cl.drain c) ∧
      ∀ s ∈ (mid.connection c).sessions,
        ((mid.closeSession s).connection c).sessions =
          (if (mid.session s).connection = c ∧ (mid.connection c).isReferred = true then
            (mid.connection c).sessions.erase s
          else (mid.connection c).sessions) ∧
        ((mid.drainRound c s).connection c).sessions = (mid.connection c).sessions.erase s := by
  have hdrain : Rounds c cl (cl.connection c).sessions (cl.drain c) :=
    Rounds.start.drainWithin h rfl (Nat.le_refl _)
  have hempty : ((cl.drain c).connection c).sessions = [] :=
    List.self_eq_append_right.mp (hdrain.listed h).1
  refine ⟨hdrain, hempty, h.of_map, hdrain.closed, fun calls mid hrounds => ?_⟩
  obtain ⟨hlisted, hapart⟩ := hrounds.listed h
  refine ⟨hlisted, fun hnone => ?_, fun s hs => ?_⟩
  · have hcalls : calls = (cl.connection c).sessions := by
      rw [hlisted, hnone, List.append_nil]
    refine ⟨hcalls, ?_⟩
    rw [hrounds.eq_foldl, hdrain.eq_foldl, hcalls]
  · rw [sessions_closeSession, sessions_drainRound, listedApart_eq_erase hapart hs]
    exact ⟨rfl, rfl⟩

/-- A connection to which nobody refers any more, with three sessions. The second is closed though
it is still listed. -/
def forsaken : Client :=
  let calls : List Call := [.makeRegistry ⟨0⟩, .makeSubscriptions ⟨0⟩, .openTransport ⟨0⟩,
    .openConnection ⟨0⟩ ⟨0⟩ ⟨0⟩ ⟨0⟩ false,
    .createSession .plain ⟨0⟩ ⟨0⟩ false .autoAcknowledge,
    .createSession .queue ⟨0⟩ ⟨1⟩ false .autoAcknowledge,
    .createSession .topic ⟨0⟩ ⟨2⟩ false .autoAcknowledge]
  ((initial.run calls).1.onSession ⟨1⟩ Session.shut).onConnection ⟨0⟩ fun x =>
    { x with handles := 0 }

/-- Closing the second session does not take it off the list, but the round does. -/
theorem drain_exact_forsaken :
    NumbersApart forsaken ⟨0⟩ ∧
    Rounds ⟨0⟩ forsaken [⟨0⟩, ⟨1⟩, ⟨2⟩] (forsaken.drain ⟨0⟩) ∧
    ((forsaken.drain ⟨0⟩).connection ⟨0⟩).sessions = [] ∧
    ((forsaken.closeSession ⟨1⟩).connection ⟨0⟩).sessions = [⟨0⟩, ⟨1⟩, ⟨2⟩] ∧
    ((forsaken.drainRound ⟨0⟩ ⟨1⟩).connection ⟨0⟩).sessions = [⟨0⟩, ⟨2⟩] := by
  have hapart : NumbersApart forsaken ⟨0⟩ := by
    unfold NumbersApart
    decide
  have hsessions : (forsaken.connection ⟨0⟩).sessions = [⟨0⟩, ⟨1⟩, ⟨2⟩] := by decide
  obtain ⟨hrounds, hempty, -, -, hall⟩ := drain_exact forsaken ⟨0⟩ hapart
  obtain ⟨-, -, hround⟩ := hall [] forsaken .start
  obtain ⟨hkept, hleft⟩ := hround ⟨1⟩ (by decide)
  rw [hsessions] at hrounds hkept hleft
  rw [if_neg (by decide)] at hkept
  exact ⟨hapart, hrounds, hempty, hkept, hleft⟩

end BrokerClient.Client
