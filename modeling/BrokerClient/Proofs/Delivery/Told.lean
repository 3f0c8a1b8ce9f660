import BrokerClient.Proofs.Client.Creating

/-!
# What sessions are told

A session is told to pause and to resume by its connection, once for each stop and start that has an
effect while the session is open, and by whoever pauses and resumes it directly. One call tells a
session one thing or nothing, so a run tells it what its calls tell it, one after the other.
-/

namespace BrokerClient

namespace Call

theorem switch_inj {c c' : ConnectionId} {b b' : Bool} :
    switch c b = switch c' b' ↔ c = c' ∧ b = b' := by
  cases b <;> cases b' <;> simp [switch]

theorem tell_inj {s s' : SessionId} {b b' : Bool} : tell s b = tell s' b' ↔ s = s' ∧ b = b' := by
  cases b <;> cases b' <;> simp [tell]

theorem switch_ne_tell (c : ConnectionId) (s : SessionId) (b b' : Bool) :
    switch c b ≠ tell s b' := by
  cases b <;> cases b' <;> simp [switch, tell]

end Call

namespace Session

/-- How a session delivers and how often it was told to. -/
def delivery (x : Session) : Bool × Nat × Nat := (x.paused, x.pauses, x.resumes)

/-- The session, told to pause, to resume or nothing. -/
def toldBy (x : Session) : Option Bool → Session
  | some paused => x.tell paused
  | none => x

theorem timesTold_congr {x y : Session} (h : x.delivery = y.delivery) (b : Bool) :
    x.timesTold b = y.timesTold b := by
  cases b with
  | true => exact (congrArg (fun d => d.2.1) h :)
  | false => exact (congrArg (fun d => d.2.2) h :)

theorem timesTold_toldBy (x : Session) (told : Option Bool) (b : Bool) :
    (x.toldBy told).timesTold b = x.timesTold b + if told = some b then 1 else 0 := by
  cases told with
  | none => rfl
  | some told =>
    rw [toldBy, timesTold_tell]
    simp only [Option.some.injEq]

end Session

namespace Client

/-- The call stops or starts a connection that was open and had the other direction, with a session
open. -/
def turns (c : ConnectionId) (s : SessionId) (stopped : Bool) (e : Client × Call) : Bool :=
  e.2 == .switch c stopped && !(e.1.connection c).closed &&
    (e.1.connection c).stopped == !stopped && !(e.1.session s).closed

/-- What a call tells a session of a connection: to pause, to resume or nothing. -/
def direction (c : ConnectionId) (s : SessionId) (e : Client × Call) : Option Bool :=
  if turns c s true e = true ∨ e.2 = .pause s then some true
  else if turns c s false e = true ∨ e.2 = .resume s then some false
  else none

variable {cl : Client} {c : ConnectionId} {s : SessionId}

theorem turns_iff {stopped : Bool} {call : Call} :
    turns c s stopped (cl, call) = true ↔ call = .switch c stopped ∧
      (cl.connection c).closed = false ∧ (cl.connection c).stopped = !stopped ∧
        (cl.session s).closed = false := by
  simp only [turns, Bool.and_eq_true, beq_iff_eq, Bool.not_eq_true', and_assoc]

theorem Change.delivery {allowed : Call → Prop} {before after : Client}
    (h : Change allowed before after) (hsw : ∀ c stopped, ¬ allowed (.switch c stopped))
    (ht : ∀ s paused, ¬ allowed (.tell s paused)) (hs : before.sessions.has s = true) :
    (after.session s).delivery = (before.session s).delivery := by
  cases h with
  | aside h => rw [session_congr h.sessions]
  | openConnection c t r d _ _ _ _ _ => rfl
  | adjust c f _ _ _ _ _ _ => rfl
  | identify c id claimed _ _ _ _ => rfl
  | collide id _ => rfl
  | createSession c s' transacted mode _ hn _ =>
    rw [session_withSession hn, if_neg (Table.ne_of_has hs hn)]
  | switch c stopped ha _ _ => exact absurd ha (hsw c stopped)
  | tell s' paused ha _ => exact absurd ha (ht s' paused)
  | shut c ss _ _ h =>
    rw [h.session]
    split <;> rfl
  | retire c handles _ _ h => rw [h.session]
  | addConsumer k x ho _ _ _ _ _ =>
    rw [session_addConsumer_eq (has_session ho)]
    rfl
  | subscribe k x name d ho _ _ _ _ _ _ =>
    rw [session_bound_addConsumer (has_session ho)]
    rfl
  | unsubscribe s' name _ _ _ => rfl
  | closeConsumer k _ h =>
    rw [h.session_eq]
    rfl
  | claims r f id _ => rfl
  | bindings d f name k _ _ => rfl
  | closeTransport t _ => rfl

theorem Changes.delivery {allowed : Call → Prop} {before after : Client}
    (h : Changes allowed before after) (hsw : ∀ c stopped, ¬ allowed (.switch c stopped))
    (ht : ∀ s paused, ¬ allowed (.tell s paused)) (hs : before.sessions.has s = true) :
    (after.session s).delivery = (before.session s).delivery := by
  induction h with
  | refl => rfl
  | tail hm hlast ih => rw [hlast.delivery hsw ht (Changes.continues hm |>.sessions_has s hs), ih]

/-- Most calls leave the delivery of a session alone. -/
theorem delivery_step (h : Sound cl) {call : Call} (hsw : ∀ c stopped, call ≠ .switch c stopped)
    (ht : ∀ s paused, call ≠ .tell s paused) (hs : cl.sessions.has s = true) :
    ((cl.step call).1.session s).delivery = (cl.session s).delivery := by
  have hc : Changes (· = call) cl (cl.step call).1 := changes_step h rfl
  exact hc.delivery (fun c b he => hsw c b he.symm) (fun s b he => ht s b he.symm) hs

theorem step_switch (cl : Client) (c : ConnectionId) (stopped : Bool) :
    cl.step (.switch c stopped) =
      if (cl.connection c).isReferred then (cl.switch c stopped).map id .ofUnit
      else (cl, .refused) := by
  cases stopped <;> rfl

theorem step_tell (cl : Client) (s : SessionId) (paused : Bool) :
    cl.step (.tell s paused) =
      if cl.sessions.has s then (tell paused cl s, .done) else (cl, .refused) := by
  cases paused <;> rfl

/-- A switch tells a session if it turns the connection of the session while that is open. -/
theorem session_step_switch (h : Sound cl) (s : SessionId) (c : ConnectionId)
    (stopped : Bool) :
    (cl.step (.switch c stopped)).1.session s =
      if turns (cl.session s).connection s stopped (cl, .switch c stopped) then
        (cl.session s).tell stopped
      else cl.session s := by
  have hnone : ((cl.connection c).closed = true ∨ (cl.connection c).stopped = stopped) →
      ¬ turns (cl.session s).connection s stopped (cl, .switch c stopped) = true := by
    intro hor ht
    obtain ⟨hc, ho, hst, -⟩ := turns_iff.mp ht
    rw [← (Call.switch_inj.mp hc).1] at ho hst
    rcases hor with hcl | hst'
    · rw [ho] at hcl
      cases hcl
    · rw [hst'] at hst
      cases stopped <;> cases hst
  rw [step_switch]
  cases hcl : (cl.connection c).closed with
  | true =>
    rw [if_neg (hnone (Or.inl hcl))]
    split
    · next hr =>
      rw [switch_of_closed (has_connection_of_isReferred hr) hcl stopped]
      rfl
    · rfl
  | false =>
    rw [if_pos (h.referred c hcl)]
    by_cases hst : (cl.connection c).stopped = stopped
    · rw [if_neg (hnone (Or.inr hst)), switch_of_stopped hcl hst]
      rfl
    · have hsw := switches_switch h.toWellFormed hcl hst
      have hl : ((cl.foreclose c).connection c).sessions = (cl.connection c).sessions := by
        rw [connection_foreclose (has_connection hcl), if_pos rfl]
      have hiff : s ∈ (cl.connection c).sessions ↔
          turns (cl.session s).connection s stopped (cl, .switch c stopped) = true := by
        rw [h.mem_sessions_iff, turns_iff, Call.switch_inj]
        constructor
        · rintro ⟨ho, rfl⟩
          exact ⟨⟨rfl, rfl⟩, hcl, Bool.eq_not_of_ne hst, ho⟩
        · rintro ⟨⟨he, -⟩, -, -, ho⟩
          exact ⟨ho, he.symm⟩
      refine (hsw.session s).trans ?_
      simp only [hl, hiff]
      rfl

theorem session_step_tell (hs : cl.sessions.has s = true) (s' : SessionId) (paused : Bool) :
    (cl.step (.tell s' paused)).1.session s =
      if s' = s then (cl.session s).tell paused else cl.session s := by
  rw [step_tell]
  by_cases hh : cl.sessions.has s' = true
  · rw [if_pos hh]
    refine (session_tell hh paused s).trans ?_
    by_cases he : s = s'
    · rw [if_pos he, if_pos he.symm, he]
    · rw [if_neg he, if_neg (Ne.symm he)]
  · have hne : s' ≠ s := by
      intro he
      rw [he] at hh
      exact hh hs
    rw [if_neg hh, if_neg hne]

/-- No call both stops and starts, nor both turns a connection and tells a session directly. -/
theorem told_unique {e : Client × Call} {b b' : Bool}
    (h : turns c s b e = true ∨ e.2 = .tell s b) (h' : turns c s b' e = true ∨ e.2 = .tell s b') :
    b = b' := by
  rcases h with h | h <;> rcases h' with h' | h'
  · exact (Call.switch_inj.mp ((turns_iff.mp h).1.symm.trans (turns_iff.mp h').1)).2
  · exact absurd ((turns_iff.mp h).1.symm.trans h') (Call.switch_ne_tell c s b b')
  · exact absurd ((turns_iff.mp h').1.symm.trans h) (Call.switch_ne_tell c s b' b)
  · exact (Call.tell_inj.mp (h.symm.trans h')).2

theorem direction_eq_some {b : Bool} {e : Client × Call} :
    direction c s e = some b ↔ turns c s b e = true ∨ e.2 = .tell s b := by
  unfold direction
  by_cases ht : turns c s true e = true ∨ e.2 = .pause s
  · rw [if_pos ht]
    constructor
    · intro hb
      cases hb
      exact ht
    · exact fun hb => congrArg some (told_unique ht hb)
  · rw [if_neg ht]
    by_cases hf : turns c s false e = true ∨ e.2 = .resume s
    · rw [if_pos hf]
      constructor
      · intro hb
        cases hb
        exact hf
      · exact fun hb => congrArg some (told_unique hf hb)
    · rw [if_neg hf]
      cases b with
      | true => exact ⟨fun hb => absurd hb nofun, fun hb => absurd hb ht⟩
      | false => exact ⟨fun hb => absurd hb nofun, fun hb => absurd hb hf⟩

/-- A session is told what the call tells it. -/
theorem session_step (h : Sound cl) (hs : cl.sessions.has s = true) (call : Call) :
    ((cl.step call).1.session s).delivery =
      ((cl.session s).toldBy (direction (cl.session s).connection s (cl, call))).delivery := by
  cases hd : direction (cl.session s).connection s (cl, call) with
  | some b =>
    rcases direction_eq_some.mp hd with ht | ht
    · have hcall : call = .switch (cl.session s).connection b := (turns_iff.mp ht).1
      rw [hcall] at ht ⊢
      rw [session_step_switch h, if_pos ht]
      rfl
    · have hcall : call = .tell s b := ht
      rw [hcall, session_step_tell hs, if_pos rfl]
      rfl
  | none =>
    have hno : ∀ b,
        ¬ (turns (cl.session s).connection s b (cl, call) = true ∨ call = .tell s b) := by
      intro b hb
      have hsome : direction (cl.session s).connection s (cl, call) = some b :=
        direction_eq_some.mpr hb
      rw [hd] at hsome
      cases hsome
    by_cases hsw : ∃ c b, call = .switch c b
    · obtain ⟨c, b, rfl⟩ := hsw
      rw [session_step_switch h, if_neg fun ht => hno b (Or.inl ht)]
      rfl
    · by_cases ht : ∃ s' b, call = .tell s' b
      · obtain ⟨s', b, rfl⟩ := ht
        have hne : s' ≠ s := fun he => hno b (Or.inr (by rw [he]))
        rw [session_step_tell hs, if_neg hne]
        rfl
      · exact delivery_step h (fun c b he => hsw ⟨c, b, he⟩) (fun s' b he => ht ⟨s', b, he⟩) hs

theorem timesTold_step (h : Sound cl) (hs : cl.sessions.has s = true) (call : Call) (b : Bool) :
    ((cl.step call).1.session s).timesTold b = (cl.session s).timesTold b +
      ((if turns (cl.session s).connection s b (cl, call) then 1 else 0) +
        if call == .tell s b then 1 else 0) := by
  rw [Session.timesTold_congr (session_step h hs call), Session.timesTold_toldBy]
  by_cases ht : turns (cl.session s).connection s b (cl, call) = true
  · have hne : ¬ (call == .tell s b) = true := by
      rw [beq_iff_eq, (turns_iff.mp ht).1]
      exact Call.switch_ne_tell _ s b b
    rw [if_pos (direction_eq_some.mpr (Or.inl ht)), if_pos ht, if_neg hne]
  · rw [if_neg ht, Nat.zero_add]
    by_cases hc : call = .tell s b
    · rw [if_pos (direction_eq_some.mpr (Or.inr hc)), if_pos (beq_iff_eq.mpr hc)]
    · have hd : ¬ direction (cl.session s).connection s (cl, call) = some b := by
        intro hd
        rcases direction_eq_some.mp hd with hd | hd
        · exact ht hd
        · exact hc hd
      rw [if_neg hd, if_neg fun he => hc (beq_iff_eq.mp he)]

theorem paused_step (h : Sound cl) (hs : cl.sessions.has s = true) (call : Call) :
    ((cl.step call).1.session s).paused =
      (direction (cl.session s).connection s (cl, call)).getD (cl.session s).paused := by
  have hd := (congrArg Prod.fst (session_step h hs call) :)
  refine hd.trans ?_
  cases direction (cl.session s).connection s (cl, call) with
  | none => rfl
  | some b => exact Session.paused_tell b _

/-- A session stays and stays with its connection. -/
theorem session_persists (h : Sound cl) (hs : cl.sessions.has s = true) (call : Call) :
    (cl.step call).1.sessions.has s = true ∧
      ((cl.step call).1.session s).connection = (cl.session s).connection := by
  have hc := continues_step h call
  exact ⟨hc.sessions_has s hs, hc.session_connection (Table.has_iff.mp hs)⟩

theorem timesTold_run (h : Sound cl) (hs : cl.sessions.has s = true) (calls : List Call)
    (b : Bool) :
    ((cl.run calls).1.session s).timesTold b = (cl.session s).timesTold b +
      ((cl.history calls).countP (turns (cl.session s).connection s b) +
        calls.count (.tell s b)) := by
  induction calls generalizing cl with
  | nil => rfl
  | cons call calls ih =>
    obtain ⟨hs', hconn⟩ := session_persists h hs call
    have hrest := ih (h.step call) hs'
    rw [hconn] at hrest
    have hstep := timesTold_step h hs call b
    rw [history, List.countP_cons, List.count_cons]
    refine hrest.trans ?_
    omega

theorem paused_run (h : Sound cl) (hs : cl.sessions.has s = true) (calls : List Call) :
    ((cl.run calls).1.session s).paused =
      ((cl.history calls).filterMap (direction (cl.session s).connection s)).getLast?.getD
        (cl.session s).paused := by
  induction calls generalizing cl with
  | nil => rfl
  | cons call calls ih =>
    obtain ⟨hs', hconn⟩ := session_persists h hs call
    have hrest := ih (h.step call) hs'
    rw [hconn, paused_step h hs] at hrest
    refine hrest.trans ?_
    rw [history]
    cases hd : direction (cl.session s).connection s (cl, call) with
    | none => rw [List.filterMap_cons_none hd]; rfl
    | some b =>
      rw [List.filterMap_cons_some hd, List.getLast?_cons]
      rfl

section Created

variable {transacted : Bool} {mode : AcknowledgeMode}

/-- A session just made was never told anything and delivers if its connection is started. -/
theorem session_created {kind : SessionKind} {made : Client}
    (h : cl.step (.createSession kind c s transacted mode) = (made, .done)) :
    made.sessions.has s = true ∧ (made.session s).connection = c ∧
      (made.session s).delivery = ((cl.connection c).stopped, 0, 0) := by
  obtain ⟨hc, hs, hmade⟩ := session_made h
  have hf := connection_foreclose hc c
  rw [if_pos rfl] at hf
  rw [hmade]
  refine ⟨hs, rfl, ?_⟩
  simp only [Session.delivery, nextSession, hf]

end Created

end Client

end BrokerClient
