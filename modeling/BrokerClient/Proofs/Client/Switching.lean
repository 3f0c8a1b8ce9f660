import BrokerClient.Proofs.Client.WellFormed

/-!
# Starting and stopping

Stopping and starting a connection are one operation with two directions, and so are pausing and
resuming a session. A switch turns the connection and tells each registered session once.
-/

namespace BrokerClient

namespace Session

def tell (paused : Bool) (s : Session) : Session := if paused then s.pause else s.resume
def timesTold (paused : Bool) (s : Session) : Nat := if paused then s.pauses else s.resumes

@[simp] theorem paused_tell (paused : Bool) (s : Session) : (s.tell paused).paused = paused := by
  cases paused <;> rfl

theorem timesTold_tell (told paused : Bool) (s : Session) :
    (s.tell told).timesTold paused = s.timesTold paused + if told = paused then 1 else 0 := by
  cases told <;> cases paused <;> rfl

@[simp] theorem skeleton_tell (paused : Bool) (s : Session) :
    (s.tell paused).skeleton = s.skeleton := by
  cases paused <;> rfl

@[simp] theorem connection_tell (paused : Bool) (s : Session) :
    (s.tell paused).connection = s.connection := by
  cases paused <;> rfl

end Session

namespace Call

def switch (c : ConnectionId) (stopped : Bool) : Call := if stopped then .stop c else .start c
def tell (s : SessionId) (paused : Bool) : Call := if paused then .pause s else .resume s

end Call

namespace Client

def tell (paused : Bool) (cl : Client) (s : SessionId) : Client :=
  (cl.onSession s (Session.tell paused)).note
    (if paused then .sessionPaused (cl.session s).number else .sessionResumed (cl.session s).number)

def switch (cl : Client) (c : ConnectionId) (stopped : Bool) :
    Client × Except MessagingError Unit :=
  if stopped then cl.stop c else cl.start c

variable {cl : Client}

/-- Telling a session touches the sessions and the log only. -/
theorem foldl_tell_eq (paused : Bool) (ss : List SessionId) (cl : Client) :
    ∃ sessions log, sessions.keys = cl.sessions.keys ∧
      ss.foldl (tell paused) cl = { cl with sessions, log } := by
  induction ss generalizing cl with
  | nil => exact ⟨cl.sessions, cl.log, rfl, rfl⟩
  | cons s ss ih =>
    obtain ⟨t, l, ht, h⟩ := ih (tell paused cl s)
    refine ⟨t, l, ?_, h⟩
    rw [ht]
    exact Table.keys_modify _ _ _

theorem session_tell {s : SessionId} (hs : cl.sessions.has s = true) (paused : Bool)
    (s' : SessionId) :
    (tell paused cl s).session s' =
      if s' = s then (cl.session s).tell paused else cl.session s' :=
  Table.get_modify_of_has hs _ s'

/-- Each session of a list without repetition is told once. -/
theorem session_foldl_tell (paused : Bool) {ss : List SessionId} (hn : ss.Nodup)
    (hs : ∀ s ∈ ss, cl.sessions.has s = true) (s : SessionId) :
    (ss.foldl (tell paused) cl).session s =
      if s ∈ ss then (cl.session s).tell paused else cl.session s := by
  induction ss generalizing cl with
  | nil => rfl
  | cons s' ss ih =>
    obtain ⟨hns, hn⟩ := List.nodup_cons.mp hn
    have hs' : cl.sessions.has s' = true := hs s' List.mem_cons_self
    have hrest : ∀ x ∈ ss, (tell paused cl s').sessions.has x = true := by
      intro x hx
      exact (Table.has_modify _ _ _ _).trans (hs x (List.mem_cons_of_mem _ hx))
    rw [List.foldl_cons, ih hn hrest, session_tell hs']
    by_cases he : s = s'
    · rw [he, if_pos rfl, if_neg hns, if_pos List.mem_cons_self]
    · rw [if_neg he]
      simp only [List.mem_cons, he, false_or]

/-- The second client is the first with one connection turned and its sessions told. -/
structure Switches (c : ConnectionId) (stopped : Bool) (before after : Client) : Prop where
  connection : ∀ c', after.connection c' =
    if c' = c then { before.connection c with stopped } else before.connection c'
  session : ∀ s, after.session s =
    if s ∈ (before.connection c).sessions then (before.session s).tell stopped
    else before.session s
  connection_keys : after.connections.keys = before.connections.keys
  session_keys : after.sessions.keys = before.sessions.keys
  rest : { after with connections := .empty, sessions := .empty, log := [] } =
    { before with connections := .empty, sessions := .empty, log := [] }

namespace Switches

variable {c : ConnectionId} {stopped : Bool} {before after : Client}

theorem consumers (h : Switches c stopped before after) : after.consumers = before.consumers :=
  (congrArg Client.consumers h.rest :)

theorem registries (h : Switches c stopped before after) : after.registries = before.registries :=
  (congrArg Client.registries h.rest :)

theorem subscriptions (h : Switches c stopped before after) :
    after.subscriptions = before.subscriptions :=
  (congrArg Client.subscriptions h.rest :)

theorem factories (h : Switches c stopped before after) : after.factories = before.factories :=
  (congrArg Client.factories h.rest :)

theorem transports (h : Switches c stopped before after) : after.transports = before.transports :=
  (congrArg Client.transports h.rest :)

theorem listeners (h : Switches c stopped before after) : after.listeners = before.listeners :=
  (congrArg Client.listeners h.rest :)

theorem metrics (h : Switches c stopped before after) : after.metrics = before.metrics :=
  (congrArg Client.metrics h.rest :)

theorem connection_eq (h : Switches c stopped before after) (c' : ConnectionId) :
    after.connection c' =
      { before.connection c' with stopped := (after.connection c').stopped } := by
  rw [h.connection]
  split
  · next he => rw [he]
  · rfl

theorem session_skeleton (h : Switches c stopped before after) (s : SessionId) :
    (after.session s).skeleton = (before.session s).skeleton := by
  rw [h.session]
  split
  · exact Session.skeleton_tell _ _
  · rfl

theorem sameShape (h : Switches c stopped before after) : SameShape before after where
  connection c' := by
    rw [h.connection_eq]
    rfl
  session := h.session_skeleton
  consumer k := by rw [consumer, consumer, h.consumers]
  connections_has := Table.has_congr h.connection_keys
  sessions_has := Table.has_congr h.session_keys
  consumers_has k := by rw [h.consumers]
  registries_has r hr := by
    rw [h.registries]
    exact hr
  subscriptions_has d hd := by
    rw [h.subscriptions]
    exact hd
  transports_has t ht := by
    rw [h.transports]
    exact ht
  factory f hf := by
    rw [h.factories] at hf
    refine Or.inr ⟨hf, ?_⟩
    rw [factory, factory, h.factories]

end Switches

theorem connection_foreclose {c : ConnectionId} (hc : cl.connections.has c = true)
    (c' : ConnectionId) :
    (cl.foreclose c).connection c' =
      if c' = c then { cl.connection c with assignable := false } else cl.connection c' :=
  Table.get_modify_of_has hc _ c'

/-- Whatever comes of it, asking for a switch forecloses a client ID. -/
theorem switch_of_closed {c : ConnectionId} (hc : cl.connections.has c = true)
    (h : (cl.connection c).closed = true) (stopped : Bool) :
    cl.switch c stopped = (cl.foreclose c, .error .connectionClosed) := by
  have hf := connection_foreclose hc c
  rw [if_pos rfl] at hf
  have h' : ((cl.foreclose c).connection c).closed = true := by
    rw [hf]
    exact h
  cases stopped <;> exact if_pos h'

/-- A connection that has the direction already stays as it is. -/
theorem switch_of_stopped {c : ConnectionId} {stopped : Bool}
    (ho : (cl.connection c).closed = false) (h : (cl.connection c).stopped = stopped) :
    cl.switch c stopped = (cl.foreclose c, .ok ()) := by
  have hf := connection_foreclose (has_connection ho) c
  rw [if_pos rfl] at hf
  cases stopped with
  | true => simp [switch, stop, ifOpen, hf, ho, h]
  | false => simp [switch, start, ifOpen, hf, ho, h]

/-- Turning an open connection cannot fail. -/
theorem result_switch {c : ConnectionId} {stopped : Bool} (ho : (cl.connection c).closed = false) :
    (cl.switch c stopped).2 = .ok () := by
  have hf := connection_foreclose (has_connection ho) c
  rw [if_pos rfl] at hf
  cases stopped with
  | true =>
    simp only [switch, stop, ifOpen, hf, ho, if_true, Bool.false_eq_true, if_false]
    split <;> rfl
  | false =>
    simp only [switch, start, ifOpen, hf, ho, Bool.false_eq_true, if_false]
    split <;> rfl

theorem switches_switch (hw : WellFormed cl) {c : ConnectionId} {stopped : Bool}
    (ho : (cl.connection c).closed = false) (h : (cl.connection c).stopped ≠ stopped) :
    Switches c stopped (cl.foreclose c) (cl.switch c stopped).1 := by
  have hf := connection_foreclose (has_connection ho) c
  rw [if_pos rfl] at hf
  let turned : Client := (cl.foreclose c).onConnection c fun x => { x with stopped }
  have hhas : (cl.foreclose c).connections.has c = true :=
    (Table.has_modify _ _ _ _).trans (has_connection ho)
  have ht : ∀ c', turned.connection c' =
      if c' = c then { (cl.foreclose c).connection c with stopped }
      else (cl.foreclose c).connection c' :=
    Table.get_modify_of_has hhas _
  have hts : (turned.connection c).sessions = (cl.connection c).sessions := by
    rw [ht, if_pos rfl, hf]
  obtain ⟨sessions, log, hkeys, htold⟩ :=
    foldl_tell_eq stopped (cl.connection c).sessions turned
  have hclosed : ¬ ((cl.foreclose c).connection c).closed = true := by
    rw [hf]
    exact Bool.eq_false_iff.mp ho
  have hstopped : ((cl.foreclose c).connection c).stopped = !stopped := by
    rw [hf]
    exact Bool.eq_not_of_ne h
  have hswitch : ∃ e, cl.switch c stopped =
      (((cl.connection c).sessions.foldl (tell stopped) turned).note e, .ok ()) := by
    rw [← hts]
    cases stopped with
    | true =>
      exact ⟨.connectionStopped,
        (if_neg hclosed).trans (if_neg (Bool.eq_false_iff.mp hstopped))⟩
    | false => exact ⟨.connectionStarted, (if_neg hclosed).trans (if_pos hstopped)⟩
  obtain ⟨e, hswitch⟩ := hswitch
  have hs : ∀ s ∈ (cl.connection c).sessions, turned.sessions.has s = true := fun s hm =>
    has_session (hw.listed_open c s hm).1
  have hsession := session_foldl_tell stopped (hw.sessions_nodup c) hs
  obtain ⟨sessions, log, hkeys, htold⟩ :=
    foldl_tell_eq stopped (cl.connection c).sessions turned
  rw [hswitch]
  constructor
  case connection =>
    rw [htold]
    exact ht
  case session =>
    rw [hf]
    exact hsession
  case connection_keys =>
    rw [htold]
    exact Table.keys_modify _ _ _
  case session_keys =>
    rw [htold]
    exact hkeys
  case rest =>
    rw [htold]
    rfl

end Client

end BrokerClient
