import BrokerClient.Proofs.ClientIds.Claiming
import BrokerClient.Proofs.Endings
import BrokerClient.Proofs.Finality.Closings

/-!
# Closed for good

A connection once closed, however it came to that, is never as much as started or told of another
exception listener, and all that asks for an open connection fails. Over its whole life it has
closed its transport once.
-/

namespace BrokerClient

/-- The call asks for the connection to be open. -/
def Call.needsOpen (c : ConnectionId) : Call → Bool
  | .createSession _ c' .. | .clientId c' | .setClientId c' _ | .metadata c'
  | .exceptionListener c' | .setExceptionListener c' _ | .start c' | .stop c' => c' == c
  | _ => false

namespace Client

variable {cl : Client} {c : ConnectionId} {t : TransportId}

theorem ifOpen_of_closed {α : Type} (h : (cl.connection c).closed = true)
    (go : Unit → Client × Except MessagingError α) :
    cl.ifOpen c go = (cl, .error .connectionClosed) :=
  if_pos h

theorem closed_foreclose (hc : cl.connections.has c = true)
    (h : (cl.connection c).closed = true) : ((cl.foreclose c).connection c).closed = true := by
  rw [connection_foreclose hc, if_pos rfl]
  exact h

/-- A use of a closed connection only rules out a client ID. -/
theorem use_of_closed {α : Type} (hc : cl.connections.has c = true)
    (h : (cl.connection c).closed = true) (go : Unit → Client × Except MessagingError α) :
    (cl.foreclose c).ifOpen c go = (cl.foreclose c, .error .connectionClosed) :=
  ifOpen_of_closed (closed_foreclose hc h) go

/-- The second client and the answer are those of a call that a closed connection refuses. -/
def Refuses (cl : Client) (c : ConnectionId) (call : Call) (result : Client × Answer) : Prop :=
  (∃ text, result.2 = .failed (.illegalState text) ∧
    (call.isClaimFor c = false → text = "Connection is closed")) ∧
  (result.1 = cl ∨ result.1 = cl.foreclose c)

theorem refuses_of_kept {call : Call} : Refuses cl c call (cl, .failed .connectionClosed) :=
  ⟨⟨_, rfl, fun _ => rfl⟩, Or.inl rfl⟩

theorem refuses_of_foreclosed {call : Call} :
    Refuses cl c call (cl.foreclose c, .failed .connectionClosed) :=
  ⟨⟨_, rfl, fun _ => rfl⟩, Or.inr rfl⟩

/-- A claim may be ruled out already, and then it is told so. -/
theorem refuses_setClientId (h : (cl.connection c).closed = true) (i : String) :
    Refuses cl c (.setClientId c i) ((cl.setClientId c i).map id .ofUnit) := by
  have hself : (Call.setClientId c i).isClaimFor c = true := beq_self_eq_true c
  have hclaims := claims_setClientId cl c i
  generalize cl.setClientId c i = result at hclaims
  cases hclaims with
  | used => exact ⟨⟨_, rfl, fun hn => absurd (hself.symm.trans hn) nofun⟩, Or.inl rfl⟩
  | closed => exact refuses_of_kept
  | identified _ _ ho => exact absurd (ho.symm.trans h) nofun
  | collides _ ho => exact absurd (ho.symm.trans h) nofun
  | succeeds _ _ ho => exact absurd (ho.symm.trans h) nofun

theorem refuses_createSessionOf (hc : cl.connections.has c = true)
    (h : (cl.connection c).closed = true) (kind : SessionKind) (s : SessionId) (transacted : Bool)
    (mode : AcknowledgeMode) :
    Refuses cl c (.createSession kind c s transacted mode)
      ((createSessionOf kind cl c s transacted mode).map id .ofUnit) := by
  cases kind with
  | plain =>
    rw [createSessionOf, createSession, use_of_closed hc h]
    exact refuses_of_foreclosed
  | queue =>
    rw [createSessionOf, ifOpen_of_closed h]
    exact refuses_of_kept
  | topic =>
    rw [createSessionOf, ifOpen_of_closed h]
    exact refuses_of_kept

/-- A closed connection refuses all that asks for an open one. -/
theorem refuses_step {call : Call} (h : (cl.connection c).closed = true)
    (hn : call.needsOpen c = true) (ha : cl.admits call = true) :
    Refuses cl c call (cl.step call) := by
  have hstep : cl.step call = cl.perform call := if_pos ha
  rw [hstep]
  have hc : (cl.connection c).isReferred = true → cl.connections.has c = true :=
    has_connection_of_isReferred
  cases call with
  | createSession kind c' s transacted mode =>
    obtain rfl := beq_iff_eq.mp hn
    simp only [admits, Bool.and_eq_true] at ha
    exact refuses_createSessionOf (hc ha.1) h kind s transacted mode
  | clientId c' =>
    obtain rfl := beq_iff_eq.mp hn
    rw [perform, clientId, if_pos h]
    exact refuses_of_kept
  | setClientId c' i =>
    obtain rfl := beq_iff_eq.mp hn
    exact refuses_setClientId h i
  | metadata c' =>
    obtain rfl := beq_iff_eq.mp hn
    rw [perform, metadata, use_of_closed (hc ha) h]
    exact refuses_of_foreclosed
  | exceptionListener c' =>
    obtain rfl := beq_iff_eq.mp hn
    rw [perform, exceptionListener, use_of_closed (hc ha) h]
    exact refuses_of_foreclosed
  | setExceptionListener c' l =>
    obtain rfl := beq_iff_eq.mp hn
    simp only [admits, Bool.and_eq_true] at ha
    rw [perform, setExceptionListener, use_of_closed (hc ha.1) h]
    exact refuses_of_foreclosed
  | start c' =>
    obtain rfl := beq_iff_eq.mp hn
    rw [perform, start, use_of_closed (hc ha) h]
    exact refuses_of_foreclosed
  | stop c' =>
    obtain rfl := beq_iff_eq.mp hn
    rw [perform, stop, use_of_closed (hc ha) h]
    exact refuses_of_foreclosed
  | _ => cases hn

theorem closed_apart (cl : Client) (c : ConnectionId) :
    ((cl.apartFromReferences c).connection c).closed = (cl.connection c).closed :=
  cl.connections.proj_modify (f := fun x => { x with handles := 0 }) (p := Connection.closed) c
    (fun _ => rfl) c

/-- A close, the end of a guard and the end of the last reference leave a connection closed. -/
theorem closed_of_ending (hs : Sound cl) {call : Call} (hr : (cl.connection c).isReferred = true)
    (h : call = .close c ∨ call = .dropGuard c ∨
      call = .drop c ∧ (cl.connection c).handles = 1) :
    ((cl.step call).1.connection c).closed = true := by
  have hc := has_connection_of_isReferred hr
  cases ho : (cl.connection c).closed with
  | true => exact ((continues_step hs call).connection c hc).closed ho
  | false =>
    have hw := hs.toWellFormed
    have hclose := closed_close hw ho
    rcases h with rfl | rfl | ⟨rfl, hlast⟩
    · have hstep : cl.step (.close c) = (cl.close c).map id .ofUnit := if_pos hr
      rw [hstep]
      exact hclose
    · have hstep : cl.step (.dropGuard c) = (cl.dropGuard c, .done) := if_pos hr
      rw [hstep, ← closed_apart, apart_dropGuard hw ho, closed_apart]
      exact hclose
    · rw [step_drop hr, ← closed_apart, apart_drop_of_last hw ho hlast, closed_apart]
      exact hclose

/-- A transport over which one connection at most is closed has one closed connection or none. -/
theorem closedOver_of_only (hc : cl.connections.has c = true)
    (honly : ∀ c', cl.connections.has c' = true → (cl.connection c').closed = true →
      (cl.connection c').transport = (cl.connection c).transport → c' = c) :
    cl.closedOver (cl.connection c).transport = if (cl.connection c).closed then 1 else 0 := by
  unfold closedOver
  cases ho : (cl.connection c).closed with
  | true =>
    have hone : cl.connections.keys.count c = 1 :=
      List.count_eq_one_of_mem cl.connections.nodup (Table.has_iff.mp hc)
    rw [if_pos rfl, ← hone]
    refine List.countP_congr fun c' hm => ?_
    rw [Bool.and_eq_true, beq_iff_eq, beq_iff_eq]
    constructor
    · rintro ⟨hcl, ht⟩
      exact honly c' (Table.has_iff.mpr hm) hcl ht
    · rintro rfl
      exact ⟨ho, rfl⟩
  | false =>
    refine List.countP_eq_zero.mpr fun c' hm hboth => ?_
    rw [Bool.and_eq_true, beq_iff_eq] at hboth
    have he := honly c' (Table.has_iff.mpr hm) hboth.1 hboth.2
    rw [he, ho] at hboth
    cases hboth.1

/-- Whatever closed a connection, it is closed for good: it has no sessions, keeps its direction,
its exception listener and its client ID, and its transport is closed. All that asks for an open
connection is refused and at most rules out a client ID, and closing it again does nothing at all.
Each step closes a transport once for every connection over it that the step closes, and a direct
call does so once more. So in a whole run each closed connection has closed its transport once and
no open one has, and a transport that nothing else closes was closed once or not at all. -/
theorem closed_for_good (calls : List Call) :
    let cl := (initial.run calls).1
    let past := initial.history calls
    (∀ c call, (cl.connection c).isReferred = true →
      (call = .close c ∨ call = .dropGuard c ∨ call = .drop c ∧ (cl.connection c).handles = 1) →
      ((cl.step call).1.connection c).closed = true) ∧
    (∀ c, cl.connections.has c = true → (cl.connection c).closed = true → ∀ later,
      let cl' := (cl.run later).1
      (cl'.connection c).closed = true ∧ (cl'.connection c).sessions = [] ∧
      (cl'.connection c).stopped = (cl.connection c).stopped ∧
      (cl'.connection c).listener = (cl.connection c).listener ∧
      (cl'.connection c).clientId = (cl.connection c).clientId ∧
      (cl'.transport (cl'.connection c).transport).closed = true ∧
      (∀ call, call.needsOpen c = true → cl'.admits call = true →
        Refuses cl' c call (cl'.step call)) ∧
      (cl'.admits (.close c) = true → cl'.step (.close c) = (cl', .done))) ∧
    (∀ t call, ((cl.step call).1.transport t).closeCalls + cl.closedOver t =
      (cl.transport t).closeCalls + (cl.step call).1.closedOver t +
        if closesDirectly t (cl, call) then 1 else 0) ∧
    (∀ t, (cl.transport t).closeCalls = past.countP (closesDirectly t) + cl.closedOver t) ∧
    ∀ c, cl.connections.has c = true →
      (∀ e ∈ past, closesDirectly (cl.connection c).transport e = false) →
      (∀ c', cl.connections.has c' = true → (cl.connection c').closed = true →
        (cl.connection c').transport = (cl.connection c).transport → c' = c) →
      (cl.transport (cl.connection c).transport).closeCalls =
        if (cl.connection c).closed then 1 else 0 := by
  intro cl past
  have hreach : Reachable (fun _ => True) cl := Reachable.initial.run calls fun _ _ => trivial
  have hs := hreach.sound
  have hcalls : ∀ t, (cl.transport t).closeCalls =
      past.countP (closesDirectly t) + cl.closedOver t := by
    intro t
    have hrun := closeCalls_run sound_initial calls t
    have h₀ : (initial.transport t).closeCalls = 0 := rfl
    have h₁ : initial.closedOver t = 0 := rfl
    rw [h₀, h₁, Nat.add_zero, Nat.zero_add, Nat.add_comm] at hrun
    exact hrun
  refine ⟨fun c call hr => closed_of_ending hs hr, fun c hc hcl later => ?_,
    fun t call => closeCalls_step hs call t, hcalls, fun c hc hdirect honly => ?_⟩
  · have hreach' := hreach.run later fun _ _ => trivial
    have hcontinues := (continues_run hs later).connection c hc
    have hc' := (continues_run hs later).connections_has c hc
    have hcl' := hcontinues.closed hcl
    have hlegacy := hcontinues.legacy hcl
    refine ⟨hcl', hreach'.sound.closed_bare c hcl', congrArg Prod.fst hlegacy,
      congrArg (fun x => x.2.1) hlegacy, congrArg (fun x => x.2.2) hlegacy,
      hreach'.transportsClosed c hc' hcl', fun call => refuses_step hcl', fun ha => ?_⟩
    have hstep : (cl.run later).1.step (.close c) = ((cl.run later).1.close c).map id .ofUnit :=
      if_pos ha
    rw [hstep, close_of_closed hcl']
    rfl
  · have hnone : past.countP (closesDirectly (cl.connection c).transport) = 0 :=
      List.countP_eq_zero.mpr fun e he => Bool.eq_false_iff.mp (hdirect e he)
    rw [hcalls, hnone, Nat.zero_add]
    exact closedOver_of_only hc honly

/-- A connection with a second reference is closed while its transport fails to, and one over a
transport of its own is left open. -/
def closedForGoodCalls : List Call :=
  [.makeRegistry ⟨0⟩, .makeSubscriptions ⟨0⟩, .openTransport ⟨0⟩, .openTransport ⟨1⟩,
    .openConnection ⟨0⟩ ⟨0⟩ ⟨0⟩ ⟨0⟩ false, .openConnection ⟨1⟩ ⟨1⟩ ⟨0⟩ ⟨0⟩ false, .start ⟨0⟩,
    .share ⟨0⟩, .failNextClose ⟨0⟩ (.io ⟨.brokenPipe, none⟩), .dropGuard ⟨0⟩]

/-- The closed connection stays started and refuses to be started, and it alone has closed its
transport. -/
theorem closed_for_good_io :
    let cl := (initial.run closedForGoodCalls).1
    let cl' := (cl.run [.metadata ⟨0⟩, .stop ⟨0⟩]).1
    (cl.connection ⟨0⟩).closed = true ∧ (cl'.connection ⟨0⟩).stopped = false ∧
      Refuses cl' ⟨0⟩ (.start ⟨0⟩) (cl'.step (.start ⟨0⟩)) ∧
      cl'.step (.close ⟨0⟩) = (cl', .done) ∧ (cl.transport ⟨0⟩).closeCalls = 1 ∧
      (cl.transport ⟨1⟩).closeCalls = 0 := by
  intro cl cl'
  obtain ⟨-, hfinal, -, -, hsole⟩ := closed_for_good closedForGoodCalls
  have hcl : (cl.connection ⟨0⟩).closed = true := by decide
  have hlater := hfinal ⟨0⟩ (by decide) hcl [.metadata ⟨0⟩, .stop ⟨0⟩]
  obtain ⟨-, -, hstopped, -, -, -, hrefuses, hclose⟩ := hlater
  have hstarted : (cl.connection ⟨0⟩).stopped = false := by decide
  have hmade : ∀ c, cl.connections.has c = true → c = ⟨0⟩ ∨ c = ⟨1⟩ := by
    intro c hc
    have hm : c ∈ [(⟨0⟩ : ConnectionId), ⟨1⟩] := Table.has_iff.mp hc
    simpa using hm
  refine ⟨hcl, hstopped.trans hstarted, hrefuses _ (by decide) (by decide), hclose (by decide),
    hsole ⟨0⟩ (by decide) (by decide) fun c hc hcl ht => ?_,
    hsole ⟨1⟩ (by decide) (by decide) fun c hc hcl ht => ?_⟩
  · rcases hmade c hc with rfl | rfl
    · rfl
    · exact absurd hcl (by decide)
  · rcases hmade c hc with rfl | rfl
    · exact absurd ht (by decide)
    · rfl

end Client

end BrokerClient
