import BrokerClient.Proofs.Client.Unread
import BrokerClient.Proofs.Shutdown

/-!
# Closing from inside a listener

A listener that closes a connection when it hears of a shutdown does so while the transport runs its
hooks. It comes to the same as closing the connection when they have run, because a close does not
look at listeners and recorders, and those are all that the rest of the shutdown changes.
-/

namespace BrokerClient

/-- The close of a transport that is down fails as was set for it, or because it is down. -/
theorem Transport.result_of_down {x : Transport} (h : x.closed = true) :
    x.close.2 = .error (x.pendingFailure.getD .alreadyClosed) := by
  unfold close
  cases x.pendingFailure with
  | none => exact congrArg Prod.snd (if_pos h)
  | some e => rfl

namespace Client

variable {cl : Client} {c d : ConnectionId} {t : TransportId} {l : ListenerId}

def withAudience (cl : Client) (listeners : Table ListenerId Listener)
    (recorders : Table RecorderId (List TransportError)) : Client :=
  { cl with listeners, recorders }

/-- A close is the same whoever listens. -/
theorem close_withAudience (cl : Client) (c : ConnectionId) (ls : Table ListenerId Listener)
    (rs : Table RecorderId (List TransportError)) :
    (cl.withAudience ls rs).close c = ((cl.close c).1.withAudience ls rs, (cl.close c).2) := by
  cases hc : (cl.connection c).closed with
  | true =>
    have hsame : cl.close c = (cl, .ok ()) := if_pos hc
    have hother : (cl.withAudience ls rs).close c = (cl.withAudience ls rs, .ok ()) := if_pos hc
    rw [hsame, hother]
  | false =>
    have ho : ((cl.withAudience ls rs).connection c).closed = false := hc
    have htear : (cl.withAudience ls rs).tearDown c =
        (cl.tearDown c).withUnread cl.transports ls rs :=
      tearDown_withUnread cl.transports ls rs cl c
    rw [close_eq ho, close_eq hc, htear, tearDown_unread cl c]
    rfl

/-- A close changes no listener and no recorder. -/
theorem close_audience (cl : Client) (c : ConnectionId) :
    (cl.close c).1 = (cl.close c).1.withAudience cl.listeners cl.recorders :=
  congrArg Prod.fst (close_withAudience cl c cl.listeners cl.recorders)

/-- The listener only records. -/
def withIdle (cl : Client) (l : ListenerId) : Client :=
  cl.onListener l fun x => { x with closes := none }

theorem closes_withIdle (cl : Client) (l : ListenerId) :
    ((cl.withIdle l).listener l).closes = none := by
  have hv : (cl.withIdle l).listener l = _ := Table.get_modify (fun _ => rfl) l
  rw [hv, if_pos rfl]

/-- A listener that closes a connection does so after it has recorded the error. -/
theorem notify_of_closing (hl : (cl.listener l).closes = some d)
    (hd : (cl.connection d).isReferred = true) (error : MessagingError) :
    cl.notify l error =
      let told := cl.onListener l fun x => x.hear (.raised error)
      (told.close d).1.onListener l fun x => x.hear (.ofClose (told.close d).2) := by
  have hcloses : ((cl.onListener l fun x => x.hear (.raised error)).listener l).closes = some d :=
    (cl.listeners.proj_modify (f := fun x => x.hear (.raised error)) (p := Listener.closes) l
      (fun _ => rfl) l).trans hl
  have hreferred : ((cl.onListener l fun x => x.hear (.raised error)).connection d).isReferred =
      true := hd
  rw [notify, closeOnNotice, hcloses]
  exact if_pos hreferred

def shutdownNotice (reason : String) : Notice :=
  .raised (.transport ⟨.connectionAborted, some ("Shutdown signal received: " ++ reason)⟩)

/-- The client when the listener has recorded a shutdown, and some recorders have. -/
def toldBy (cl : Client) (t : TransportId) (l : ListenerId) (reason : String)
    (recorders : Table RecorderId (List TransportError)) : Client :=
  (cl.shutDownBy t reason recorders).onListener l fun x => x.hear (shutdownNotice reason)

/-- A shutdown with a listener that closes a connection, and the same one with the listener only
recording. -/
structure Reentry (cl : Client) (t : TransportId) (l : ListenerId) (d : ConnectionId)
    (reason : String) (recorders : Table RecorderId (List TransportError)) (told : Client) :
    Prop where
  closing : cl.signal t reason =
    { (told.close d).1.onListener l fun x => x.hear (.ofClose (told.close d).2) with recorders }
  recording : (cl.withIdle l).signal t reason = told.withAudience
    ((cl.withIdle l).listeners.modify l fun x => x.hear (shutdownNotice reason)) recorders

theorem exists_reentry (hone : (cl.transport t).hooks.filterMap ShutdownHook.connection? = [c])
    (ho : (cl.transport t).closed = false) (hc : (cl.connection c).closed = false)
    (hr : (cl.connection c).isReferred = true) (hl : (cl.connection c).listener = some l)
    (hcloses : (cl.listener l).closes = some d) (hd : (cl.connection d).isReferred = true)
    (reason : String) :
    ∃ earlier later, Reentry cl t l d reason later (cl.toldBy t l reason earlier) := by
  obtain ⟨earlier, later, hsignal⟩ := signal_of_open hone t reason
  let error : MessagingError :=
    .transport ⟨.connectionAborted, some ("Shutdown signal received: " ++ reason)⟩
  refine ⟨earlier cl.recorders, later (earlier cl.recorders), ?_, ?_⟩
  · let found : Client := cl.shutDownBy t reason (earlier cl.recorders)
    let told : Client := cl.toldBy t l reason (earlier cl.recorders)
    let left : Client := (told.close d).1.onListener l fun x => x.hear (.ofClose (told.close d).2)
    have hcloses' : (found.listener l).closes = some d := hcloses
    have hnotify : found.notify l error = left := notify_of_closing hcloses' hd error
    have hkept : left.recorders = told.recorders :=
      (congrArg Client.recorders (close_audience told d) :)
    have hclosing := hsignal cl ho rfl hc hr
    rw [hl, heardBy, hnotify] at hclosing
    exact hclosing.trans (congrArg (fun rs => { left with recorders := later rs }) hkept)
  · let found : Client := (cl.withIdle l).shutDownBy t reason (earlier cl.recorders)
    have hidle' : (found.listener l).closes = none := closes_withIdle cl l
    have hidle := notify_of_idle hidle' error
    have hl' : ((cl.withIdle l).connection c).listener = some l := hl
    have hrecorders : (cl.withIdle l).recorders = cl.recorders := rfl
    have hrecording := hsignal (cl.withIdle l) ho rfl hc hr
    rw [hl', heardBy, hrecorders, hidle] at hrecording
    exact hrecording

namespace Reentry

variable {reason : String} {recorders : Table RecorderId (List TransportError)}
  {earlier : Table RecorderId (List TransportError)} {told : Client}

/-- The later close does and returns what the nested one does and returns. -/
theorem close_recording (h : Reentry cl t l d reason recorders told) :
    ((cl.withIdle l).signal t reason).close d =
      ((told.close d).1.withAudience
        ((cl.withIdle l).listeners.modify l fun x => x.hear (shutdownNotice reason)) recorders,
        (told.close d).2) := by
  rw [h.recording, close_withAudience]

/-- Closing in the middle of a shutdown comes to closing after it. -/
theorem signal_eq (h : Reentry cl t l d reason recorders (cl.toldBy t l reason earlier))
    (hcloses : (cl.listener l).closes = some d) :
    let later := ((cl.withIdle l).signal t reason).close d
    cl.signal t reason =
      later.1.onListener l fun x => ⟨some d, x.notices ++ [.ofClose later.2]⟩ := by
  intro later
  have hlater : later = _ := h.close_recording
  have haudience := close_audience (cl.toldBy t l reason earlier) d
  rw [h.closing, hlater]
  dsimp only
  generalize (cl.toldBy t l reason earlier).close d = closed at haudience ⊢
  -- Both sides are what the close left, but for listeners and recorders.
  have hlisteners : (cl.toldBy t l reason earlier).listeners.modify l
      (fun x => x.hear (.ofClose closed.2)) =
      ((cl.withIdle l).listeners.modify l fun x => x.hear (shutdownNotice reason)).modify l
        fun x => ⟨some d, x.notices ++ [.ofClose closed.2]⟩ := by
    have htold : (cl.toldBy t l reason earlier).listeners =
        cl.listeners.modify l fun x => x.hear (shutdownNotice reason) := rfl
    have hidle : (cl.withIdle l).listeners =
        cl.listeners.modify l fun x => { x with closes := none } := rfl
    rw [htold, hidle, Table.modify_modify, Table.modify_modify, Table.modify_modify]
    exact Table.modify_congr (congrArg (fun o => Listener.mk o _) hcloses)
  rw [haudience]
  exact congrArg (fun ls => closed.1.withAudience ls recorders) hlisteners

theorem notices_recording (h : Reentry cl t l d reason recorders (cl.toldBy t l reason earlier))
    (hl : cl.listeners.has l = true) :
    (((cl.withIdle l).signal t reason).listener l).notices =
      (cl.listener l).notices ++ [shutdownNotice reason] := by
  have hidle := Table.get_modify_of_has hl (fun x => { x with closes := none }) l
  have hhas : (cl.withIdle l).listeners.has l = true := (Table.has_modify _ _ _ _).trans hl
  have hheard := Table.get_modify_of_has hhas (fun x => x.hear (shutdownNotice reason)) l
  rw [if_pos rfl] at hidle hheard
  rw [h.recording]
  have hkept : ((cl.withIdle l).listener l).notices = (cl.listener l).notices :=
    (congrArg Listener.notices hidle :)
  refine (congrArg Listener.notices hheard).trans ?_
  exact congrArg (· ++ [shutdownNotice reason]) hkept

/-- If the listener closes its own connection, that is torn down, whatever its transport says to
being closed after it was shut down. -/
theorem tornDown (h : Reentry cl t l c reason recorders (cl.toldBy t l reason earlier))
    (hs : Sound cl) (hc : (cl.connection c).closed = false)
    (ht : (cl.connection c).transport = t) (ho : (cl.transport t).closed = false) :
    TornDown c cl (cl.signal t reason) ∧
      (cl.signal t reason).transport t =
        { cl.transport t with
          closed := true, pendingFailure := none, closeCalls := (cl.transport t).closeCalls + 1 } ∧
      (((cl.withIdle l).signal t reason).close c).2 =
        match (cl.transport t).pendingFailure with
        | some (.io e) => .error (.transport e)
        | _ => .ok () := by
  let told : Client := cl.toldBy t l reason earlier
  have hsound : Sound told := sound_heard (sound_shutDownBy hs t reason earlier) l _
  have hto : (told.connection c).closed = false := hc
  have htt : (told.connection c).transport = t := ht
  have hknown : cl.transports.has t = true := ht ▸ hs.transport_known c (has_connection hc)
  have htold : told.transport t = { cl.transport t with closed := true } := by
    have hv : told.transport t = _ := Table.get_modify_of_has hknown _ t
    have hopen : ¬ (cl.transports.get t).closed = true := Bool.eq_false_iff.mp ho
    rw [hv, if_pos rfl, Transport.signalShutdown, if_neg hopen]
    rfl
  have htorn := tornDown_close hsound.toWellFormed hto
  refine ⟨?_, ?_, ?_⟩
  · rw [h.closing]
    exact {
      closed := htorn.closed
      sessions := htorn.sessions
      unclaimed := htorn.unclaimed
      sessions_closed := htorn.sessions_closed
      consumers_closed := htorn.consumers_closed
      names := htorn.names
      inactive := htorn.inactive
      openConnections := htorn.openConnections
      openSessions := htorn.openSessions }
  · have hclosed : (told.close c).1.transport t = (told.transport t).close.1 := by
      have hhas : told.transports.has t = true := (Table.has_modify _ _ _ _).trans hknown
      have hv := Table.get_modify_of_has hhas (fun _ => (told.transport t).close.1) t
      rw [← closeWith_self, closeWith_eq hsound.toWellFormed hto, htt]
      exact hv.trans (if_pos rfl)
    rw [h.closing]
    exact hclosed.trans (by rw [Transport.close_eq, htold])
  · rw [h.close_recording]
    refine (result_close hsound.toWellFormed hto).trans ?_
    rw [htt, htold, Transport.result_of_down rfl, closeResult_eq]
    dsimp only
    cases (cl.transport t).pendingFailure with
    | none => rfl
    | some e => cases e <;> rfl

end Reentry

/-- A listener that closes a connection in the middle of a shutdown leaves all as it would be if it
had only recorded the shutdown and the connection had been closed after it, and is told what that
close returns. If it is the connection that was shut down, that ends torn down, and what the close
returns is a failure only if one of I/O was set for it. -/
theorem closing_listener_defers (h : Reachable (fun _ => True) cl)
    (hhook : .connection c ∈ (cl.transport t).hooks)
    (honly : ∀ c', cl.connections.has c' = true → (cl.connection c').transport = t → c' = c)
    (ho : (cl.transport t).closed = false) (hl : (cl.connection c).listener = some l)
    (hcloses : (cl.listener l).closes = some d) (hd : (cl.connection d).isReferred = true)
    (reason : String) :
    let recorded := (cl.withIdle l).signal t reason
    let later := recorded.close d
    (recorded.listener l).notices = (cl.listener l).notices ++
        [.raised (.transport
          ⟨.connectionAborted, some ("Shutdown signal received: " ++ reason)⟩)] ∧
      cl.signal t reason =
        (later.1.onListener l fun x => ⟨some d, x.notices ++ [.ofClose later.2]⟩) ∧
      (d = c →
        TornDown c cl (cl.signal t reason) ∧
          (cl.signal t reason).transport t =
            { cl.transport t with
              closed := true, pendingFailure := none
              closeCalls := (cl.transport t).closeCalls + 1 } ∧
          later.2 = match (cl.transport t).pendingFailure with
            | some (.io e) => .error (.transport e)
            | _ => .ok ()) := by
  intro recorded later
  have hs := h.sound
  obtain ⟨calls, -, rfl⟩ := h.exists_run
  rw [hooks_run] at hhook
  obtain ⟨hhas, ht⟩ := hooked_known hhook
  have hc : ((initial.run calls).1.connection c).closed = false := by
    refine Bool.eq_false_iff.mpr fun hclosed => ?_
    have hdown := h.transportsClosed c hhas hclosed
    rw [ht, ho] at hdown
    cases hdown
  obtain ⟨earlier, recorders, hre⟩ := exists_reentry (connections_hooked hhook honly) ho hc
    (hs.referred c hc) hl hcloses hd reason
  have hlhas : (initial.run calls).1.listeners.has l = true := listener_known hl
  refine ⟨hre.notices_recording hlhas, hre.signal_eq hcloses, ?_⟩
  rintro rfl
  exact hre.tornDown hs hc ht ho

/-- A connection with a session and a listener that closes it, over a transport whose next close
fails. -/
def reentrantCalls : List Call :=
  [.makeRegistry ⟨0⟩, .makeSubscriptions ⟨0⟩, .openTransport ⟨0⟩,
    .openConnection ⟨0⟩ ⟨0⟩ ⟨0⟩ ⟨0⟩ false, .makeListener ⟨0⟩ (some ⟨0⟩),
    .setExceptionListener ⟨0⟩ (some ⟨0⟩), .createSession .plain ⟨0⟩ ⟨0⟩ false .autoAcknowledge,
    .addRecorder ⟨0⟩ ⟨0⟩, .failNextClose ⟨0⟩ (.io ⟨.brokenPipe, none⟩)]

/-- The listener hears of the shutdown and then of the failure of its own close, which has torn the
connection down all the same. -/
theorem closing_listener_defers_io :
    let cl := (initial.run reentrantCalls).1
    TornDown ⟨0⟩ cl (cl.signal ⟨0⟩ "maintenance") ∧
      ((cl.signal ⟨0⟩ "maintenance").listener ⟨0⟩).notices =
        [.raised (.transport ⟨.connectionAborted, some "Shutdown signal received: maintenance"⟩),
          .raised (.transport ⟨.brokenPipe, none⟩)] := by
  intro cl
  have hsole : ∀ c' : ConnectionId, c' ∈ [(⟨0⟩ : ConnectionId)] → c' = ⟨0⟩ := by
    intro c' hm
    exact List.mem_singleton.mp hm
  have h : Reachable (fun _ => True) cl := Reachable.initial.run reentrantCalls fun _ _ => trivial
  have hdefers := closing_listener_defers (c := ⟨0⟩) (d := ⟨0⟩) (t := ⟨0⟩) (l := ⟨0⟩) h (by decide)
    (fun c' hc _ => hsole c' (Table.has_iff.mp hc)) (by decide) (by decide) (by decide) (by decide)
    "maintenance"
  obtain ⟨-, hsignal, hown⟩ := hdefers
  refine ⟨(hown rfl).1, ?_⟩
  rw [hsignal]
  decide

end Client

end BrokerClient
