import BrokerClient.Proofs.Client.Shutting

/-!
# Draining

A drain shuts the sessions of a connection one by one, always the first that is left. Each round
takes exactly one session off the list, because no two sessions of a connection have one number.
The second attempt at taking it off, for a connection that the session no longer finds, changes
nothing if the session was found.
-/

namespace BrokerClient.Client

variable {cl : Client} {c : ConnectionId} {s : SessionId}

theorem consumer_closeWithSession (cl : Client) (k k' : ConsumerId) :
    (cl.closeWithSession k).consumer k' =
      if k' = k then (cl.consumer k').shut else cl.consumer k' := by
  unfold closeWithSession
  by_cases hc : (cl.consumer k).closed = true
  · rw [if_pos hc]
    split
    · next hk => rw [hk, Consumer.shut_eq_self hc]
    · rfl
  · rw [if_neg hc]
    refine (consumer_onConsumer (fun _ => rfl) k').trans ?_
    split
    · next hk => rw [hk]; rfl
    · rfl

/-- Closing a consumer with its session touches the consumers and the log only. -/
theorem closeWithSession_eq (cl : Client) (k : ConsumerId) :
    ∃ consumers log, consumers.keys = cl.consumers.keys ∧
      cl.closeWithSession k = { cl with consumers, log } := by
  cases hc : (cl.consumer k).closed with
  | true => exact ⟨cl.consumers, cl.log, rfl, if_pos hc⟩
  | false =>
    refine ⟨cl.consumers.modify k Consumer.shut,
      cl.log ++ [.consumerClosedWithSession (cl.consumer k).tag], Table.keys_modify _ _ _, ?_⟩
    rw [closeWithSession, if_neg (Bool.eq_false_iff.mp hc)]
    rfl

theorem foldl_closeWithSession_eq (ks : List ConsumerId) (cl : Client) :
    ∃ consumers log, consumers.keys = cl.consumers.keys ∧
      ks.foldl closeWithSession cl = { cl with consumers, log } := by
  induction ks generalizing cl with
  | nil => exact ⟨cl.consumers, cl.log, rfl, rfl⟩
  | cons k ks ih =>
    obtain ⟨t, l, ht, h⟩ := closeWithSession_eq cl k
    obtain ⟨t', l', ht', h'⟩ := ih (cl.closeWithSession k)
    refine ⟨t', l', ?_, ?_⟩
    · rw [ht', h, ht]
    · rw [List.foldl_cons, h', h]

theorem consumer_foldl_closeWithSession (ks : List ConsumerId) (cl : Client) (k : ConsumerId) :
    (ks.foldl closeWithSession cl).consumer k =
      if k ∈ ks then (cl.consumer k).shut else cl.consumer k := by
  induction ks generalizing cl with
  | nil => rfl
  | cons k' ks ih =>
    rw [List.foldl_cons, ih, consumer_closeWithSession]
    by_cases hk : k = k' <;> by_cases hks : k ∈ ks <;> simp [hk, hks]

/-- An open session closes with the consumers on its list and stays registered. -/
theorem shutSession_eq (ho : (cl.session s).closed = false) :
    ∃ consumers log, consumers.keys = cl.consumers.keys ∧
      (∀ k, consumers.get k =
        if k ∈ (cl.session s).consumers then (cl.consumer k).shut else cl.consumer k) ∧
      cl.shutSession s =
        { cl with
          sessions := cl.sessions.modify s Session.shut
          consumers
          metrics := cl.metrics.sessionClosed
          log } := by
  obtain ⟨t, l, ht, h⟩ := foldl_closeWithSession_eq (cl.session s).consumers
    (cl.onSession s Session.shut)
  refine ⟨t, l ++ [.sessionClosed (cl.session s).number], ht, ?_, ?_⟩
  · intro k
    have hk := consumer_foldl_closeWithSession (cl.session s).consumers
      (cl.onSession s Session.shut) k
    rw [h] at hk
    exact hk
  · unfold shutSession
    rw [if_neg (Bool.eq_false_iff.mp ho)]
    change Client.note
      (Client.count (List.foldl closeWithSession (cl.onSession s Session.shut) _) _) _ = _
    rw [h]
    rfl

theorem shutSession_of_closed (hc : (cl.session s).closed = true) : cl.shutSession s = cl :=
  if_pos hc

theorem number_shutSession (cl : Client) (s s' : SessionId) :
    ((cl.shutSession s).session s').number = (cl.session s').number := by
  cases hc : (cl.session s).closed with
  | true => rw [shutSession_of_closed hc]
  | false =>
    obtain ⟨t, l, -, -, h⟩ := shutSession_eq hc
    rw [h]
    have hs : (cl.sessions.modify s Session.shut).get s' = _ := Table.get_modify (fun _ => rfl) s'
    change ((cl.sessions.modify s Session.shut).get s').number = _
    rw [hs]
    split
    · next he => rw [he]; rfl
    · rfl

theorem connections_shutSession (cl : Client) (s : SessionId) :
    (cl.shutSession s).connections = cl.connections := by
  cases hc : (cl.session s).closed with
  | true => rw [shutSession_of_closed hc]
  | false =>
    obtain ⟨t, l, -, -, h⟩ := shutSession_eq hc
    rw [h]

theorem connection_deregister (cl : Client) (c : ConnectionId) (s : SessionId)
    (c' : ConnectionId) :
    (cl.deregister c s).connection c' =
      if c' = c then
        { cl.connection c with
          sessions := (cl.connection c).sessions.filter fun s' =>
            (cl.session s').number ≠ (cl.session s).number }
      else cl.connection c' :=
  connection_onConnection (fun _ => rfl) c'

/-- A session has left the list after the first time. -/
theorem deregister_deregister (cl : Client) (c : ConnectionId) (s : SessionId) :
    (cl.deregister c s).deregister c s = cl.deregister c s := by
  have hm : ∀ (t : Table ConnectionId Connection) (p : SessionId → Bool),
      (t.modify c fun x => { x with sessions := x.sessions.filter p }).modify c
        (fun x => { x with sessions := x.sessions.filter p }) =
      t.modify c fun x => { x with sessions := x.sessions.filter p } := by
    intro t p
    rw [Table.modify_modify]
    congr 1
    funext x
    simp only [List.filter_filter, Bool.and_self]
  exact congrArg (fun t => { cl with connections := t }) (hm cl.connections _)

/-- Only the sessions of one number leave the list, and there is one. -/
theorem filter_number (h : WellFormed cl) (hs : cl.sessions.has s = true)
    (hc : (cl.session s).connection = c) :
    ((cl.connection c).sessions.filter fun s' =>
      (cl.session s').number ≠ (cl.session s).number) =
      (cl.connection c).sessions.filter (· ∉ [s]) := by
  apply List.filter_congr
  intro s' hs'
  obtain ⟨ho, hc'⟩ := h.listed_open c s' hs'
  have hi : (cl.session s').number = (cl.session s).number ↔ s' = s :=
    ⟨h.number_inj s' s (has_session ho) hs (hc'.trans hc.symm), fun he => by rw [he]⟩
  simp only [ne_eq, hi, List.mem_singleton]

/-- An open session is shut by closing it and taking it off the list. -/
theorem shuts_deregister_shutSession (h : WellFormed cl) (ho : (cl.session s).closed = false)
    (hc : (cl.session s).connection = c) :
    Shuts c [s] cl ((cl.shutSession s).deregister c s) := by
  have hn := number_shutSession cl s
  have hcs := connection_congr (connections_shutSession cl s)
  obtain ⟨t, l, ht, hk, he⟩ := shutSession_eq ho
  have hsurr : ((cl.shutSession s).deregister c s).surroundings = cl.surroundings := by
    rw [he]; rfl
  have hmetrics : ((cl.shutSession s).deregister c s).metrics = cl.metrics.sessionClosed := by
    rw [he]; rfl
  have hsession : ∀ s', ((cl.shutSession s).deregister c s).session s' =
      (cl.sessions.modify s Session.shut).get s' := by
    intro s'; rw [he]; rfl
  have hconsumer : ∀ k, ((cl.shutSession s).deregister c s).consumer k = t.get k := by
    intro k; rw [he]; rfl
  constructor
  case connection =>
    intro c'
    rw [connection_deregister, hcs, hcs]
    simp only [hn]
    rw [filter_number h (has_session ho) hc]
  case session =>
    intro s'
    rw [hsession, Table.get_modify (fun _ => rfl)]
    by_cases hs : s' = s
    · rw [if_pos hs, if_pos (List.mem_singleton.mpr hs), hs]; rfl
    · rw [if_neg hs, if_neg (fun hm => hs (List.mem_singleton.mp hm))]; rfl
  case consumer =>
    intro k
    rw [hconsumer, hk]
    -- A consumer of the session that is not on its list is closed already.
    by_cases hm : k ∈ (cl.session s).consumers
    · rw [if_pos hm, if_pos (List.mem_singleton.mpr (h.attached_open s k hm).2)]
    · rw [if_neg hm]
      split
      · next hks =>
        cases hkc : (cl.consumer k).closed with
        | true => rw [Consumer.shut_eq_self hkc]
        | false =>
          exact absurd ((h.mem_consumers_iff s k).mpr ⟨hkc, List.mem_singleton.mp hks⟩) hm
      · rfl
  case connection_keys =>
    change ((cl.shutSession s).connections.modify c _).keys = _
    rw [Table.keys_modify, connections_shutSession]
  case session_keys =>
    rw [he]
    exact Table.keys_modify _ _ _
  case consumer_keys =>
    rw [he]
    exact ht
  case metrics => rw [hmetrics]; rfl
  case surroundings => exact hsurr

/-- A closed session is on no list, so taking it off its connection's list changes nothing. -/
theorem shuts_deregister_of_closed (h : WellFormed cl) (hs : cl.sessions.has s = true)
    (hc : (cl.session s).closed = true) :
    Shuts (cl.session s).connection [] cl (cl.deregister (cl.session s).connection s) := by
  have hn : s ∉ (cl.connection (cl.session s).connection).sessions := by
    intro hm
    have ho := (h.listed_open _ s hm).1
    exact Bool.false_ne_true (ho.symm.trans hc)
  have hf : (cl.connection (cl.session s).connection).sessions.filter (· ∉ [s]) =
      (cl.connection (cl.session s).connection).sessions.filter (· ∉ []) := by
    apply List.filter_congr
    intro s' hs'
    have hne : s' ≠ s := fun he => hn (he ▸ hs')
    simp [hne]
  constructor
  case connection =>
    intro c'
    rw [connection_deregister, filter_number h hs rfl, hf]
  case session => exact fun _ => rfl
  case consumer => exact fun _ => rfl
  case connection_keys => exact Table.keys_modify _ _ _
  case session_keys => rfl
  case consumer_keys => rfl
  case metrics => exact (Shuts.refl (cl.session s).connection cl).metrics
  case surroundings => rfl

/-- Whether the session finds its connection or not, it is taken off the list once. -/
theorem drainStep?_eq (h : WellFormed cl) {ss : List SessionId}
    (hl : (cl.connection c).sessions = s :: ss) :
    cl.drainStep? c = some ((cl.shutSession s).deregister c s) := by
  have hc := (h.listed_open c s (hl ▸ List.mem_cons_self)).2
  simp only [drainStep?, hl, closeSession, hc]
  split
  · rw [deregister_deregister]
  · rfl

/-- One round shuts the first session. -/
theorem drainStep?_cons (h : WellFormed cl) {ss : List SessionId}
    (hl : (cl.connection c).sessions = s :: ss) :
    ∃ cl', cl.drainStep? c = some cl' ∧ Shuts c [s] cl cl' := by
  obtain ⟨ho, hc⟩ := h.listed_open c s (hl ▸ List.mem_cons_self)
  exact ⟨_, drainStep?_eq h hl, shuts_deregister_shutSession h ho hc⟩

/-- A round leaves the other sessions on the list. -/
theorem Shuts.rest {ss : List SessionId} {before after : Client} (h : Shuts c [s] before after)
    (hw : WellFormed before) (hl : (before.connection c).sessions = s :: ss) :
    (after.connection c).sessions = ss ∧ WellFormed after := by
  have hn := hw.sessions_nodup c
  rw [hl] at hn
  constructor
  · rw [h.sessions, if_pos rfl, hl, List.filter_cons_of_neg (by simp)]
    apply List.filter_eq_self.mpr
    intro s' hs'
    have hne : s' ≠ s := fun he => (List.nodup_cons.mp hn).1 (he ▸ hs')
    simp [hne]
  · refine hw.shuts h fun s' hs' => ?_
    rw [List.mem_singleton.mp hs']
    exact (hw.listed_open c s (hl ▸ List.mem_cons_self)).2

theorem drainStep?_nil (hl : (cl.connection c).sessions = []) : cl.drainStep? c = none := by
  simp only [drainStep?, hl]

theorem drainWithin_nil (hl : (cl.connection c).sessions = []) (rounds : Nat) :
    cl.drainWithin c rounds = cl := by
  cases rounds with
  | zero => rfl
  | succ rounds => simp only [drainWithin, drainStep?_nil hl]

/-- Given a round for each registered session, a drain shuts all of them. -/
theorem shuts_drainWithin (ss : List SessionId) (rounds : Nat) (hw : WellFormed cl)
    (hl : (cl.connection c).sessions = ss) (hr : ss.length ≤ rounds) :
    Shuts c ss cl (cl.drainWithin c rounds) := by
  induction ss generalizing cl rounds with
  | nil =>
    rw [drainWithin_nil hl]
    exact .refl c cl
  | cons s ss ih =>
    cases rounds with
    | zero => cases hr
    | succ rounds =>
      obtain ⟨cl', hstep, hs⟩ := drainStep?_cons hw hl
      obtain ⟨hl', hw'⟩ := hs.rest hw hl
      have hrest := ih rounds hw' hl' (Nat.le_of_succ_le_succ hr)
      simp only [drainWithin, hstep]
      exact hs.trans hrest

theorem shuts_drain (hw : WellFormed cl) (c : ConnectionId) :
    Shuts c (cl.connection c).sessions cl (cl.drain c) :=
  shuts_drainWithin _ _ hw rfl (Nat.le_refl _)

end BrokerClient.Client
