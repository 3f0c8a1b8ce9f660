import Mathlib.Algebra.GroupWithZero.Nat
import Mathlib.Data.List.Nodup
import BrokerClient.Proofs.Client.Steps
import BrokerClient.Proofs.Registration.Changes

/-!
# Gauges

The gauges count what is open: the one of connections goes with the connections that were made and
not yet closed, the one of sessions with what all connections have registered.
-/

namespace BrokerClient.Client

variable {cl before after : Client}

/-- The gauges show how many of the connections and sessions made are open. -/
structure GaugesAgree (cl : Client) : Prop where
  connections : cl.metrics.openConnections =
    (cl.connections.keys.countP fun c => !(cl.connection c).closed : Nat)
  sessions : cl.metrics.openSessions =
    (cl.sessions.keys.countP fun s => !(cl.session s).closed : Nat)

/-- A count rises by one with a new entry that counts. -/
theorem countP_concat {α : Type} {l : List α} {a : α} {p q : α → Bool}
    (hold : ∀ b ∈ l, q b = p b) (hnew : q a = true) :
    (l ++ [a]).countP q = l.countP p + 1 := by
  rw [List.countP_append, List.countP_singleton, if_pos hnew,
    List.countP_congr fun b hb => by rw [hold b hb]]

/-- A count falls by the number of entries that it loses. -/
theorem countP_eq_add_length {α : Type} {l lost : List α} {p q : α → Bool} (hl : l.Nodup)
    (hn : lost.Nodup) (hlost : ∀ a ∈ lost, a ∈ l ∧ p a = true)
    (hq : ∀ a, q a = true ↔ p a = true ∧ a ∉ lost) : l.countP p = l.countP q + lost.length := by
  have hboth : (l.filter q ++ lost).Nodup := by
    refine (hl.filter q).append hn fun a ha hmem => ?_
    exact ((hq a).mp (List.mem_filter.mp ha).2).2 hmem
  have hperm : (l.filter p).Perm (l.filter q ++ lost) := by
    refine (List.perm_ext_iff_of_nodup (hl.filter p) hboth).mpr fun a => ?_
    rw [List.mem_append, List.mem_filter, List.mem_filter, hq]
    constructor
    · intro ha
      by_cases hmem : a ∈ lost
      · exact Or.inr hmem
      · exact Or.inl ⟨ha.1, ha.2, hmem⟩
    · rintro (ha | ha)
      · exact ⟨ha.1, ha.2.1⟩
      · exact hlost a ha
  rw [List.countP_eq_length_filter, List.countP_eq_length_filter, hperm.length_eq,
    List.length_append]

theorem GaugesAgree.sameRegistration (h : GaugesAgree before) (hs : SameRegistration before after) :
    GaugesAgree after where
  connections := by
    rw [hs.openConnections, hs.connection_keys, h.connections]
    simp only [hs.connection_closed]
  sessions := by
    rw [hs.openSessions, hs.session_keys, h.sessions]
    simp only [hs.session_closed]

theorem GaugesAgree.withConnection (h : GaugesAgree cl) {c : ConnectionId} {x : Connection}
    (hc : cl.connections.has c = false) (hx : x.closed = false) :
    GaugesAgree (cl.withConnection c x) where
  connections := by
    have hkeys : (cl.withConnection c x).connections.keys = cl.connections.keys ++ [c] :=
      Table.keys_insert hc x
    have hgauge : (cl.withConnection c x).metrics.openConnections =
        cl.metrics.openConnections + 1 := rfl
    have hv := connection_withConnection hc x
    have hold : ∀ c' ∈ cl.connections.keys,
        (!((cl.withConnection c x).connection c').closed) = !(cl.connection c').closed := by
      intro c' hc'
      rw [hv, if_neg (Table.ne_of_has (Table.has_iff.mpr hc') hc)]
    have hnew : (!((cl.withConnection c x).connection c).closed) = true := by
      rw [hv, if_pos rfl, hx]
      rfl
    rw [hkeys, hgauge, h.connections, countP_concat hold hnew]
    rfl
  sessions := h.sessions

theorem GaugesAgree.withSession (h : GaugesAgree cl) {c : ConnectionId} {s : SessionId}
    {x : Session} (hc : cl.connections.has c = true) (hs : cl.sessions.has s = false)
    (hx : x.closed = false) : GaugesAgree (cl.withSession c s x) where
  connections := by
    have hkeys : (cl.withSession c s x).connections.keys = cl.connections.keys :=
      Table.keys_modify _ _ _
    have hclosed : ∀ c', ((cl.withSession c s x).connection c').closed =
        (cl.connection c').closed := by
      intro c'
      obtain ⟨ss, n, -, he⟩ := connection_withSession_eq hc s x c'
      rw [he]
    rw [hkeys]
    simp only [hclosed]
    exact h.connections
  sessions := by
    have hkeys : (cl.withSession c s x).sessions.keys = cl.sessions.keys ++ [s] :=
      Table.keys_insert hs x
    have hgauge : (cl.withSession c s x).metrics.openSessions = cl.metrics.openSessions + 1 := rfl
    have hv := session_withSession hs c x
    have hold : ∀ s' ∈ cl.sessions.keys,
        (!((cl.withSession c s x).session s').closed) = !(cl.session s').closed := by
      intro s' hs'
      rw [hv, if_neg (Table.ne_of_has (Table.has_iff.mpr hs') hs)]
    have hnew : (!((cl.withSession c s x).session s).closed) = true := by
      rw [hv, if_pos rfl, hx]
      rfl
    rw [hkeys, hgauge, h.sessions, countP_concat hold hnew]
    rfl

theorem GaugesAgree.shuts (h : GaugesAgree before) (hw : WellFormed before) {c : ConnectionId}
    {ss : List SessionId} (hn : ss.Nodup) (hmem : ∀ s ∈ ss, s ∈ (before.connection c).sessions)
    (hs : Shuts c ss before after) : GaugesAgree after where
  connections := by
    have hclosed : ∀ c', (after.connection c').closed = (before.connection c').closed := by
      intro c'
      rw [hs.connection_eq]
    rw [hs.connection_keys, hs.metrics]
    simp only [hclosed]
    exact h.connections
  sessions := by
    have hlost := countP_eq_add_length (l := before.sessions.keys)
      (p := fun s => !(before.session s).closed) (q := fun s => !(after.session s).closed)
      before.sessions.nodup hn
      (fun s hm => by
        have ho := (hw.listed_open c s (hmem s hm)).1
        exact ⟨Table.has_iff.mp (has_session ho), (Bool.not_eq_true' _).mpr ho⟩)
      (fun s => by
        rw [Bool.not_eq_true', Bool.not_eq_true', hs.session_closed]
        exact and_comm)
    have hcount : after.metrics.openSessions = before.metrics.openSessions - ss.length := by
      rw [hs.metrics]
    rw [hs.session_keys, hcount, h.sessions]
    omega

theorem GaugesAgree.retires (h : GaugesAgree before) {c : ConnectionId} {handles : Nat}
    (ho : (before.connection c).closed = false) (hr : Retires c handles before after) :
    GaugesAgree after where
  connections := by
    have hlost := countP_eq_add_length (l := before.connections.keys)
      (p := fun c => !(before.connection c).closed) (q := fun c => !(after.connection c).closed)
      before.connections.nodup (List.nodup_singleton c)
      (fun c' hm => by
        rw [List.mem_singleton.mp hm]
        exact ⟨Table.has_iff.mp (has_connection ho), (Bool.not_eq_true' _).mpr ho⟩)
      (fun c' => by
        rw [Bool.not_eq_true', Bool.not_eq_true', hr.closed, List.mem_singleton]
        exact and_comm)
    have hcount : after.metrics.openConnections = before.metrics.openConnections - 1 := by
      rw [hr.metrics]
      rfl
    rw [hr.connection_keys, hcount, h.connections]
    rw [List.length_singleton] at hlost
    omega
  sessions := by
    have hcount : after.metrics.openSessions = before.metrics.openSessions := by
      rw [hr.metrics]
      rfl
    rw [hr.session_keys, hcount, h.sessions]
    simp only [hr.session]

theorem GaugesAgree.change {allowed : Call → Prop} (h : GaugesAgree before) (hw : WellFormed before)
    (hc : Change allowed before after) : GaugesAgree after := by
  cases hc.registers with
  | none hsame => exact h.sameRegistration hsame
  | openConnection c t r d hn => exact h.withConnection hn rfl
  | createSession c s transacted mode ho hn => exact h.withSession (has_connection ho) hn rfl
  | shut c ss hn hmem hs => exact h.shuts hw hn hmem hs
  | retire c handles ho hr => exact h.retires ho hr

theorem gaugesAgree_initial : GaugesAgree initial := ⟨rfl, rfl⟩

theorem Reachable.gaugesAgree {allowed : Call → Prop} (h : Reachable allowed cl) :
    GaugesAgree cl :=
  h.invariant gaugesAgree_initial fun _ _ hs hx hc => hx.change hs.toWellFormed hc

/-- The open sessions of a client are those that its connections have registered. -/
theorem WellFormed.sum_sessions (hw : WellFormed cl) :
    (cl.connections.keys.map fun c => (cl.connection c).sessions.length).sum =
      cl.sessions.keys.countP fun s => !(cl.session s).closed := by
  -- No session is registered twice, so the lists can be put together.
  have hflat : (cl.connections.keys.flatMap fun c => (cl.connection c).sessions).Nodup := by
    refine List.nodup_flatMap.mpr ⟨fun c _ => hw.sessions_nodup c, ?_⟩
    refine cl.connections.nodup.imp fun {c c'} hne s hs hs' => hne ?_
    exact (hw.listed_open c s hs).2.symm.trans (hw.listed_open c' s hs').2
  have hperm : (cl.connections.keys.flatMap fun c => (cl.connection c).sessions).Perm
      (cl.sessions.keys.filter fun s => !(cl.session s).closed) := by
    refine (List.perm_ext_iff_of_nodup hflat (cl.sessions.nodup.filter _)).mpr fun s => ?_
    rw [List.mem_flatMap, List.mem_filter, Bool.not_eq_true']
    constructor
    · rintro ⟨c, -, hs⟩
      have ho := (hw.listed_open c s hs).1
      exact ⟨Table.has_iff.mp (has_session ho), ho⟩
    · rintro ⟨hs, ho⟩
      have hc := hw.connection_known s (Table.has_iff.mpr hs)
      exact ⟨_, Table.has_iff.mp hc, hw.listed s ho⟩
  rw [List.countP_eq_length_filter, ← hperm.length_eq, List.length_flatMap]

end BrokerClient.Client
