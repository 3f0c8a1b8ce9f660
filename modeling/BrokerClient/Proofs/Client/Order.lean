import BrokerClient.Proofs.Client.Steps

/-!
# The order of creation

A table has its rows in the order in which they were added. The sessions that a connection lists and
the consumers that a session lists stand in that order, because a new one comes last in the table
and in the list, and what leaves a list leaves the others where they are.
-/

namespace BrokerClient.Client

/-- The sessions that a connection made, open or closed, in the order in which it made them. -/
def sessionsOf (cl : Client) (c : ConnectionId) : List SessionId :=
  cl.sessions.keys.filter fun s => (cl.session s).connection == c

/-- The consumers that a session made, open or closed, in the order in which it made them. -/
def consumersOf (cl : Client) (s : SessionId) : List ConsumerId :=
  cl.consumers.keys.filter fun k => (cl.consumer k).session == s

variable {cl before after : Client}

theorem mem_sessionsOf {c : ConnectionId} {s : SessionId} :
    s ∈ cl.sessionsOf c ↔ cl.sessions.has s = true ∧ (cl.session s).connection = c := by
  rw [sessionsOf, List.mem_filter, Table.has_iff, beq_iff_eq]

theorem mem_consumersOf {s : SessionId} {k : ConsumerId} :
    k ∈ cl.consumersOf s ↔ cl.consumers.has k = true ∧ (cl.consumer k).session = s := by
  rw [consumersOf, List.mem_filter, Table.has_iff, beq_iff_eq]

theorem Continues.session_connection (h : Continues before after) {s : SessionId}
    (hs : s ∈ before.sessions.keys) :
    (after.session s).connection = (before.session s).connection :=
  (congrArg Session.connection (h.session s (Table.has_iff.mpr hs)).origin :)

theorem Continues.session_number (h : Continues before after) {s : SessionId}
    (hs : s ∈ before.sessions.keys) : (after.session s).number = (before.session s).number :=
  (congrArg Session.number (h.session s (Table.has_iff.mpr hs)).origin :)

theorem Continues.consumer_session (h : Continues before after) {k : ConsumerId}
    (hk : k ∈ before.consumers.keys) :
    (after.consumer k).session = (before.consumer k).session :=
  (congrArg Consumer.session (h.consumer k (Table.has_iff.mpr hk)).origin :)

/-- Sessions added at the end of the table are added at the end of what their connections made. -/
theorem Continues.sessionsOf (h : Continues before after) {new : List SessionId}
    (hkeys : after.sessions.keys = before.sessions.keys ++ new) (c : ConnectionId) :
    after.sessionsOf c =
      before.sessionsOf c ++ new.filter fun s => (after.session s).connection == c := by
  rw [Client.sessionsOf, hkeys, List.filter_append]
  congr 1
  exact List.filter_congr fun s hs => by rw [h.session_connection hs]

/-- Where no session is made the same ones are there. -/
theorem Continues.sessionsOf_eq (h : Continues before after)
    (hkeys : after.sessions.keys = before.sessions.keys) (c : ConnectionId) :
    after.sessionsOf c = before.sessionsOf c := by
  rw [h.sessionsOf (hkeys.trans (List.append_nil _).symm)]
  exact List.append_nil _

theorem Continues.consumersOf (h : Continues before after) {new : List ConsumerId}
    (hkeys : after.consumers.keys = before.consumers.keys ++ new) (s : SessionId) :
    after.consumersOf s =
      before.consumersOf s ++ new.filter fun k => (after.consumer k).session == s := by
  rw [Client.consumersOf, hkeys, List.filter_append]
  congr 1
  exact List.filter_congr fun k hk => by rw [h.consumer_session hk]

theorem Continues.consumersOf_eq (h : Continues before after)
    (hkeys : after.consumers.keys = before.consumers.keys) (s : SessionId) :
    after.consumersOf s = before.consumersOf s := by
  rw [h.consumersOf (hkeys.trans (List.append_nil _).symm)]
  exact List.append_nil _

theorem sublist_of_eq {α : Type} {l l' : List α} (h : l = l') : l.Sublist l' :=
  h ▸ List.Sublist.refl l

/-- What is listed stands in the order in which it was made. -/
structure InOrder (cl : Client) : Prop where
  sessions : ∀ c, (cl.connection c).sessions.Sublist cl.sessions.keys
  consumers : ∀ s, (cl.session s).consumers.Sublist cl.consumers.keys

/-- Lists that only lose entries stay in order. -/
theorem InOrder.of_sublist (h : InOrder before)
    (hs : ∀ c, (after.connection c).sessions.Sublist (before.connection c).sessions)
    (hk : ∀ s, (after.session s).consumers.Sublist (before.session s).consumers)
    (hsk : after.sessions.keys = before.sessions.keys)
    (hkk : after.consumers.keys = before.consumers.keys) : InOrder after where
  sessions c := by
    rw [hsk]
    exact (hs c).trans (h.sessions c)
  consumers s := by
    rw [hkk]
    exact (hk s).trans (h.consumers s)

theorem InOrder.of_sameShape (h : InOrder before) (hsh : SameShape before after)
    (hsk : after.sessions.keys = before.sessions.keys)
    (hkk : after.consumers.keys = before.consumers.keys) : InOrder after := by
  exact h.of_sublist (fun c => sublist_of_eq (hsh.sessions c))
    (fun s => sublist_of_eq (hsh.consumers s)) hsk hkk

theorem InOrder.withSession (h : InOrder cl) {c : ConnectionId} {s : SessionId}
    (hc : cl.connections.has c = true) (hn : cl.sessions.has s = false) {x : Session}
    (hx : x.consumers = []) : InOrder (cl.withSession c s x) := by
  have hkeys : (cl.withSession c s x).sessions.keys = cl.sessions.keys ++ [s] :=
    Table.keys_insert hn x
  constructor
  case sessions =>
    intro c'
    rw [hkeys, connection_withSession hc]
    split
    · exact (h.sessions c).append (List.Sublist.refl [s])
    · exact (h.sessions c').trans (List.sublist_append_left _ _)
  case consumers =>
    intro s'
    rw [session_withSession hn]
    split
    · rw [hx]
      exact List.nil_sublist _
    · exact h.consumers s'

theorem InOrder.addConsumer (h : InOrder cl) {k : ConsumerId} {x : Consumer}
    (hs : cl.sessions.has x.session = true) (hk : cl.consumers.has k = false) :
    InOrder (cl.addConsumer k x) := by
  have hkeys : (cl.addConsumer k x).consumers.keys = cl.consumers.keys ++ [k] :=
    Table.keys_insert hk x
  constructor
  case sessions =>
    intro c
    have hsk : (cl.addConsumer k x).sessions.keys = cl.sessions.keys := Table.keys_modify _ _ _
    rw [hsk]
    exact h.sessions c
  case consumers =>
    intro s
    rw [hkeys, session_addConsumer hs]
    split
    · exact (h.consumers x.session).append (List.Sublist.refl [k])
    · exact (h.consumers s).trans (List.sublist_append_left _ _)

theorem InOrder.change {allowed : Call → Prop} (h : InOrder before)
    (hc : Change allowed before after) : InOrder after := by
  cases hc with
  | aside ha => exact h.of_sameShape ha.sameShape (by rw [ha.sessions]) (by rw [ha.consumers])
  | openConnection c t r d hn _ _ _ _ =>
    refine h.of_sublist (fun c' => ?_) (fun _ => List.Sublist.refl _) rfl rfl
    rw [connection_withConnection hn]
    split
    · exact List.nil_sublist _
    · exact List.Sublist.refl _
  | adjust c f hk hf _ _ _ _ =>
    have hsk : (f (before.connection c)).skeleton = (before.connection c).skeleton :=
      (congrArg Connection.skeleton hf :)
    exact h.of_sameShape (sameShape_onConnection hk hsk) rfl rfl
  | identify c id claimed ho _ _ _ =>
    refine h.of_sublist (fun c' => sublist_of_eq ?_) (fun _ => List.Sublist.refl _) rfl rfl
    rw [connection_identified ho]
    split
    · next he => rw [he]
    · rfl
  | collide id _ => exact ⟨h.sessions, h.consumers⟩
  | createSession c s transacted mode ho hn _ => exact h.withSession (has_connection ho) hn rfl
  | switch c stopped _ _ hsw =>
    exact h.of_sameShape hsw.sameShape hsw.session_keys (by rw [hsw.consumers])
  | tell s paused _ hk =>
    have hsk : (Client.tell paused before s).sessions.keys = before.sessions.keys :=
      Table.keys_modify _ _ _
    refine h.of_sublist (fun _ => List.Sublist.refl _) (fun s' => ?_) hsk rfl
    rw [session_tell hk]
    split
    · next he =>
      rw [he]
      cases paused <;> exact List.Sublist.refl _
    · exact List.Sublist.refl _
  | shut c ss _ _ hsh =>
    refine h.of_sublist (fun c' => ?_) (fun s => ?_) hsh.session_keys hsh.consumer_keys
    · rw [hsh.sessions]
      split
      · next he =>
        rw [he]
        exact List.filter_sublist
      · exact List.Sublist.refl _
    · rw [hsh.session]
      split
      · exact List.nil_sublist _
      · exact List.Sublist.refl _
  | retire c handles _ _ hr => exact h.of_sameShape hr.sameShape hr.session_keys hr.consumer_keys
  | addConsumer k x ho hk _ _ _ _ => exact h.addConsumer (has_session ho) hk
  | subscribe k x name d ho hk _ _ _ _ _ =>
    have hbound : InOrder
        (before.onDurables (before.session x.session).subscriptions fun _ => d) :=
      ⟨h.sessions, h.consumers⟩
    exact hbound.addConsumer (has_session ho) hk
  | unsubscribe s name _ _ _ => exact ⟨h.sessions, h.consumers⟩
  | closeConsumer k _ hd =>
    refine h.of_sublist (fun c => ?_) (fun s => ?_) hd.session_keys hd.consumer_keys
    · exact sublist_of_eq (by rw [hd.connection])
    · rw [hd.session]
      split
      · exact List.filter_sublist
      · exact List.Sublist.refl _
  | claims r f id _ => exact ⟨h.sessions, h.consumers⟩
  | bindings d f name k _ _ => exact ⟨h.sessions, h.consumers⟩
  | closeTransport t _ => exact ⟨h.sessions, h.consumers⟩

theorem inOrder_initial : InOrder initial where
  sessions _ := List.nil_sublist _
  consumers _ := List.nil_sublist _

theorem Reachable.inOrder {allowed : Call → Prop} (h : Reachable allowed cl) : InOrder cl :=
  h.invariant inOrder_initial fun _ _ _ hx hc => hx.change hc

/-- A list in the order of another, without repetition, is picked from it by membership. -/
theorem eq_filter_of_sublist {α : Type} {l l' : List α} {p : α → Bool} (hn : l.Nodup)
    (hs : l'.Sublist l) (hp : ∀ a, a ∈ l' ↔ a ∈ l ∧ p a = true) : l' = l.filter p := by
  -- A sublist of what is picked that has all of it leaves nothing out.
  have hpicked : l'.filter p = l' := List.filter_eq_self.mpr fun a ha => ((hp a).mp ha).2
  have hsub : l'.Sublist (l.filter p) := hpicked ▸ hs.filter p
  have hperm : l'.Perm (l.filter p) := by
    refine (List.perm_ext_iff_of_nodup (hn.sublist hs) (hn.filter p)).mpr fun a => ?_
    rw [hp, List.mem_filter]
  exact hsub.eq_of_length hperm.length_eq

/-- Two lists in the order of one without repetition are equal if they have the same entries. -/
theorem eq_of_sublist {α : Type} [DecidableEq α] {l l₁ l₂ : List α} (hn : l.Nodup)
    (h₁ : l₁.Sublist l) (h₂ : l₂.Sublist l) (hm : ∀ a, a ∈ l₁ ↔ a ∈ l₂) : l₁ = l₂ := by
  have hpicked : ∀ a, a ∈ l₂ ↔ a ∈ l ∧ decide (a ∈ l₂) = true := by
    intro a
    rw [decide_eq_true_iff]
    exact ⟨fun ha => ⟨h₂.subset ha, ha⟩, And.right⟩
  rw [eq_filter_of_sublist hn h₁ fun a => (hm a).trans (hpicked a)]
  exact (eq_filter_of_sublist hn h₂ hpicked).symm

/-- A connection lists those of its sessions that are open, in the order in which it made them. -/
theorem InOrder.sessions_eq (h : InOrder cl) (hw : WellFormed cl) (c : ConnectionId) :
    (cl.connection c).sessions = (cl.sessionsOf c).filter fun s => !(cl.session s).closed := by
  rw [sessionsOf, List.filter_filter]
  refine eq_filter_of_sublist cl.sessions.nodup (h.sessions c) fun s => ?_
  rw [hw.mem_sessions_iff, Bool.and_eq_true, Bool.not_eq_true', beq_iff_eq]
  constructor
  · exact fun hs => ⟨Table.has_iff.mp (has_session hs.1), hs⟩
  · exact And.right

/-- A session lists those of its consumers that are open, in the order in which it made them. -/
theorem InOrder.consumers_eq (h : InOrder cl) (hw : WellFormed cl) (s : SessionId) :
    (cl.session s).consumers = (cl.consumersOf s).filter fun k => !(cl.consumer k).closed := by
  rw [consumersOf, List.filter_filter]
  refine eq_filter_of_sublist cl.consumers.nodup (h.consumers s) fun k => ?_
  rw [hw.mem_consumers_iff, Bool.and_eq_true, Bool.not_eq_true', beq_iff_eq]
  constructor
  · exact fun hk => ⟨Table.has_iff.mp (has_consumer hk.1), hk⟩
  · exact And.right

end BrokerClient.Client
