import BrokerClient.Proofs.Endings
import BrokerClient.Proofs.Shutdown.Down
import BrokerClient.Proofs.Shutdown.Hooks

/-!
# Shutdown by the broker

What the exception listener of a connection hears when the broker shuts its transport down. It hears
of the first shutdown unless the transport was closed before, and of no other.
-/

namespace BrokerClient.Client

variable {cl : Client} {c : ConnectionId} {t : TransportId} {l : ListenerId}

/-- The listener, or its absence, that the call of an entry set on the connection. -/
def listenerSet (c : ConnectionId) (e : Client × Call) : Option (Option ListenerId) :=
  if (answered e).isDone then
    match e.2 with
    | .setExceptionListener c' l => if c' = c then some l else none
    | _ => none
  else none

theorem listenerSet_of_not_done {call : Call} (h : (answered (cl, call)).isDone = false) :
    listenerSet c (cl, call) = none :=
  if_neg (Bool.eq_false_iff.mp h)

theorem listenerSet_of_not {call : Call} (h : call.isListenerOf c = false) :
    listenerSet c (cl, call) = none := by
  unfold listenerSet
  split
  · cases call with
    | setExceptionListener c' l => exact if_neg (beq_eq_false_iff_ne.mp h)
    | _ => rfl
  · rfl

theorem listener_step_set (cl : Client) (c : ConnectionId) (l : Option ListenerId) :
    ((cl.step (.setExceptionListener c l)).1.connection c).listener =
      (listenerSet c (cl, .setExceptionListener c l)).getD (cl.connection c).listener := by
  cases ha : cl.admits (.setExceptionListener c l) with
  | false =>
    have hstep : cl.step (.setExceptionListener c l) = (cl, .refused) := step_refused ha
    rw [listenerSet_of_not_done (by rw [answered, hstep]; rfl), hstep]
    rfl
  | true =>
    have hstep : cl.step (.setExceptionListener c l) =
        (cl.setExceptionListener c l).map id .ofUnit := if_pos ha
    simp only [admits, Bool.and_eq_true] at ha
    have hc := has_connection_of_isReferred ha.1
    have hf := connection_foreclose hc c
    rw [if_pos rfl] at hf
    cases ho : (cl.connection c).closed with
    | true =>
      have hfail : cl.setExceptionListener c l =
          (cl.foreclose c, .error .connectionClosed) := by
        simp only [setExceptionListener, ifOpen, hf, ho, if_true]
      rw [listenerSet_of_not_done (by rw [answered, hstep, hfail]; rfl), hstep, hfail]
      exact (congrArg Connection.listener hf :)
    | false =>
      have hset : cl.setExceptionListener c l =
          ((cl.foreclose c).onConnection c fun x => { x with listener := l }, .ok ()) := by
        simp only [setExceptionListener, ifOpen, hf, ho, Bool.false_eq_true, if_false]
      have hhas : (cl.foreclose c).connections.has c = true :=
        (Table.has_modify _ _ _ _).trans hc
      have hv := connection_onConnection_of_has hhas (fun x => { x with listener := l }) c
      rw [if_pos rfl] at hv
      have hsome : listenerSet c (cl, .setExceptionListener c l) = some l := by
        simp [listenerSet, answered, hstep, hset, Answer.ofUnit, Answer.isDone]
      rw [hsome, hstep, hset]
      exact (congrArg Connection.listener hv :)

theorem listener_step (h : Sound cl) (c : ConnectionId) (call : Call) :
    ((cl.step call).1.connection c).listener =
      (listenerSet c (cl, call)).getD (cl.connection c).listener := by
  cases hk : call.isListenerOf c with
  | false =>
    rw [listenerSet_of_not hk]
    exact ((attributed_step h call).listener c).eq hk
  | true =>
    cases call with
    | setExceptionListener c' l =>
      obtain rfl : c' = c := beq_iff_eq.mp hk
      exact listener_step_set cl c' l
    | _ => cases hk

/-- A connection has the listener that was set last. -/
theorem listener_run (calls : List Call) (c : ConnectionId) :
    ((initial.run calls).1.connection c).listener =
      ((initial.history calls).filterMap (listenerSet c)).getLast?.getD none :=
  last_run (fun cl => (cl.connection c).listener) (listenerSet c)
    (fun _ call h _ => listener_step h c call) sound_initial calls fun _ _ => trivial

/-- Only a listener that exists can be set. -/
theorem has_listener_of_set {call : Call} (h : listenerSet c (cl, call) = some (some l)) :
    cl.listeners.has l = true := by
  unfold listenerSet at h
  split at h
  · next hdone =>
    cases call with
    | setExceptionListener c' l' =>
      obtain ⟨rfl, hl⟩ : c' = c ∧ l' = some l := by simpa using h
      cases ha : cl.admits (.setExceptionListener c' l') with
      | false =>
        have hstep : cl.step (.setExceptionListener c' l') = (cl, .refused) := step_refused ha
        rw [answered, hstep] at hdone
        cases hdone
      | true =>
        simp only [admits, Bool.and_eq_true] at ha
        rw [hl] at ha
        exact ha.2
    | _ => cases h
  · cases h

theorem listeners_has_step (h : Sound cl) (hl : cl.listeners.has l = true) (call : Call) :
    (cl.step call).1.listeners.has l = true :=
  (attributed_step h call).listeners_has l hl

theorem listeners_has_run (h : Sound cl) (hl : cl.listeners.has l = true) (calls : List Call) :
    (cl.run calls).1.listeners.has l = true := by
  induction calls generalizing cl with
  | nil => exact hl
  | cons call calls ih => exact ih (h.step call) (listeners_has_step h hl call)

/-- The listener of a connection exists. -/
theorem listener_known {calls : List Call}
    (h : ((initial.run calls).1.connection c).listener = some l) :
    (initial.run calls).1.listeners.has l = true := by
  rw [listener_run] at h
  cases hlast : ((initial.history calls).filterMap (listenerSet c)).getLast? with
  | none =>
    rw [hlast] at h
    cases h
  | some set =>
    rw [hlast] at h
    obtain ⟨⟨found, call⟩, he, hset⟩ := List.mem_filterMap.mp (List.mem_of_getLast? hlast)
    obtain ⟨hsound, later, hrun⟩ := run_of_mem_history sound_initial he
    have hset' : listenerSet c (found, call) = some (some l) := hset.trans (congrArg some h)
    rw [hrun]
    exact listeners_has_run (hsound.step call)
      (listeners_has_step hsound (has_listener_of_set hset') call) later

/-- A close is not heard of, whoever makes it. -/
theorem attributed_close (h : Sound cl) (c : ConnectionId) :
    Attributed (fun _ => False) cl (cl.close c).1 :=
  (changes_close h c).attributed

theorem notices_close (h : Sound cl) (c : ConnectionId) (l : ListenerId) :
    ((cl.close c).1.listener l).notices = (cl.listener l).notices :=
  ((attributed_close h c).notices l).resolve_right fun ⟨_, hno, _⟩ => hno

theorem shutdowns_close (h : Sound cl) (c : ConnectionId) :
    (cl.close c).1.metrics.shutdowns = cl.metrics.shutdowns :=
  (attributed_close h c).shutdowns.resolve_right fun ⟨_, hno, _⟩ => hno

theorem notices_hear (hl : cl.listeners.has l = true) (n : Notice) (l' : ListenerId) :
    ((cl.onListener l fun x => x.hear n).listener l').notices =
      (cl.listener l').notices ++ if l' = l then [n] else [] := by
  have hv : (cl.onListener l fun x => x.hear n).listener l' =
      if l' = l then (cl.listener l).hear n else cl.listener l' := Table.get_modify_of_has hl _ l'
  rw [hv]
  split
  · next he =>
    rw [he]
    rfl
  · exact (List.append_nil _).symm

theorem sound_heard (h : Sound cl) (l : ListenerId) (n : Notice) :
    Sound (cl.onListener l fun x => x.hear n) := by
  have hshutdown : ∃ call, call = Call.signal ⟨0⟩ "" ∧ call.isShutdown = true := ⟨_, rfl, rfl⟩
  exact h.aside (aside_hear cl l n hshutdown)

/-- A listener that is told of an error hears of it once, and then at most of what came of the close
that it does itself. Nobody else hears anything. -/
theorem notices_notify (h : Sound cl) (hl : cl.listeners.has l = true) (error : MessagingError) :
    ∃ own, (own = [] ∨ ∃ result, own = [Notice.ofClose result]) ∧
      ((cl.listener l).closes = none → own = []) ∧
      ∀ l', ((cl.notify l error).listener l').notices =
        (cl.listener l').notices ++ if l' = l then .raised error :: own else [] := by
  let told : Client := cl.onListener l fun x => x.hear (.raised error)
  have hheard := notices_hear hl (.raised error)
  have hcloses : (told.listener l).closes = (cl.listener l).closes :=
    cl.listeners.proj_modify (f := fun x => x.hear (.raised error)) (p := Listener.closes) l
      (fun _ => rfl) l
  have hnotify : cl.notify l error = told.closeOnNotice l := rfl
  rw [hnotify]
  unfold closeOnNotice
  rw [hcloses]
  cases hc : (cl.listener l).closes with
  | none => exact ⟨[], Or.inl rfl, fun _ => rfl, hheard⟩
  | some c =>
    dsimp only
    split
    · have hsound := sound_heard h l (.raised error)
      have hl' : (told.close c).1.listeners.has l = true :=
        (attributed_close hsound c).listeners_has l ((Table.has_modify _ _ _ _).trans hl)
      refine ⟨[.ofClose (told.close c).2], Or.inr ⟨_, rfl⟩, nofun, fun l' => ?_⟩
      rw [notices_hear hl', notices_close hsound, hheard, List.append_assoc]
      split <;> rfl
    · exact ⟨[], Or.inl rfl, nofun, hheard⟩

/-- A listener that closes nothing hears of an error and leaves it at that. -/
theorem notify_of_idle (hl : (cl.listener l).closes = none) (error : MessagingError) :
    cl.notify l error = cl.onListener l fun x => x.hear (.raised error) := by
  have hcloses := cl.listeners.proj_modify (f := fun x => x.hear (.raised error))
    (p := Listener.closes) l (fun _ => rfl) l
  have hnone : ((cl.onListener l fun x => x.hear (.raised error)).listener l).closes = none :=
    hcloses.trans hl
  rw [notify, closeOnNotice, hnone]

/-- Whatever a listener does about an error, it is no shutdown. -/
theorem shutdowns_notify (h : Sound cl) (l : ListenerId) (error : MessagingError) :
    (cl.notify l error).metrics.shutdowns = cl.metrics.shutdowns := by
  have hsound := sound_heard h l (.raised error)
  unfold notify closeOnNotice
  cases (Client.listener _ l).closes with
  | none => rfl
  | some c =>
    dsimp only
    split
    · exact shutdowns_close hsound c
    · rfl

/-- The client when the broker has shut a transport down and only recorders have heard of it. -/
def shutDownBy (cl : Client) (t : TransportId) (reason : String)
    (recorders : Table RecorderId (List TransportError)) : Client :=
  { cl with
    transports := cl.transports.modify t fun x => x.signalShutdown.1
    recorders
    metrics := cl.metrics.shutDown
    log := cl.log ++ [.loopbackShutDown reason] ++ [.shutdownReceived (.shutdownSignal reason)] }

def heardBy (cl : Client) (error : MessagingError) : Option ListenerId → Client
  | none => cl
  | some l => cl.notify l error

/-- The broker has shut a transport down that tells one connection, and the listener of that, if it
had one, has heard of it. -/
structure HeardOnce (cl : Client) (t : TransportId) (listener : Option ListenerId)
    (reason : String) (after : Client) : Prop where
  /-- The shutdown changes nothing but the transport, recorders, a count and the log. All else that
  happens is up to the listener. -/
  state : ∃ earlier later, after =
    { (cl.shutDownBy t reason earlier).heardBy
        (.transport ⟨.connectionAborted, some ("Shutdown signal received: " ++ reason)⟩) listener with
      recorders := later }
  kept : (∀ l, listener = some l → (cl.listener l).closes = none) →
    after.connections = cl.connections ∧ after.sessions = cl.sessions ∧
      after.consumers = cl.consumers ∧ after.registries = cl.registries
  shutdowns : after.metrics.shutdowns = cl.metrics.shutdowns + 1
  /-- The listener hears of the shutdown once, and of its own close if it makes one. -/
  notices : ∃ own, (own = [] ∨ ∃ result, own = [Notice.ofClose result]) ∧
    (∀ l, listener = some l → (cl.listener l).closes = none → own = []) ∧
    ∀ l, (after.listener l).notices = (cl.listener l).notices ++
      if listener = some l then
        .raised (.transport
          ⟨.connectionAborted, some ("Shutdown signal received: " ++ reason)⟩) :: own
      else []

theorem sound_shutDownBy (h : Sound cl) (t : TransportId) (reason : String)
    (recorders : Table RecorderId (List TransportError)) :
    Sound (cl.shutDownBy t reason recorders) := by
  let shut : Client := cl.onTransport t fun x => x.signalShutdown.1
  have hsignal : Aside (· = Call.signal t reason) cl shut := aside_signalShutdown cl rfl
  have hcount : Aside (· = Call.signal t reason) shut (shut.count Metrics.shutDown) :=
    aside_countShutdown shut ⟨_, rfl, rfl⟩
  exact h.changes ((hsignal.changes.aside hcount).aside (aside_of_kept _ recorders _))

theorem heardOnce (h : Sound cl) {listener : Option ListenerId}
    (hl : ∀ l, listener = some l → cl.listeners.has l = true) (t : TransportId) (reason : String)
    (earlier later : Table RecorderId (List TransportError)) :
    HeardOnce cl t listener reason
      { (cl.shutDownBy t reason earlier).heardBy
          (.transport ⟨.connectionAborted, some ("Shutdown signal received: " ++ reason)⟩)
          listener with
        recorders := later } := by
  have hsound : Sound (cl.shutDownBy t reason earlier) := sound_shutDownBy h t reason earlier
  refine ⟨⟨earlier, later, rfl⟩, fun hidle => ?_, ?_, ?_⟩
  · cases listener with
    | none => exact ⟨rfl, rfl, rfl, rfl⟩
    | some l =>
      have hnotify : ∀ error, (cl.shutDownBy t reason earlier).notify l error = _ :=
        notify_of_idle (hidle l rfl)
      rw [heardBy, hnotify]
      exact ⟨rfl, rfl, rfl, rfl⟩
  · cases listener with
    | none => rfl
    | some l => exact shutdowns_notify hsound l _
  · cases listener with
    | none => exact ⟨[], Or.inl rfl, nofun, fun l => (List.append_nil _).symm⟩
    | some l =>
      obtain ⟨own, hown, hcloses, hheard⟩ := notices_notify hsound (hl l rfl) _
      refine ⟨own, hown, fun l' he => ?_, fun l' => (hheard l').trans ?_⟩
      · cases he
        exact hcloses
      · by_cases he : l' = l
        · rw [if_pos he, if_pos (congrArg some he.symm)]
          rfl
        · rw [if_neg he, if_neg fun hsome => he (Option.some.inj hsome).symm]
          rfl

theorem transportShutDown_of_open (hc : (cl.connection c).closed = false)
    (cause : TransportError) :
    cl.transportShutDown c cause =
      ((cl.count Metrics.shutDown).note (.shutdownReceived cause)).heardBy (shutdownError cause)
        (cl.connection c).listener := by
  have ho : ¬ ((cl.count Metrics.shutDown).connection c).closed = true := Bool.eq_false_iff.mp hc
  refine (if_neg ho).trans ?_
  have hlistener : (((cl.count Metrics.shutDown).note (.shutdownReceived cause)).connection
      c).listener = (cl.connection c).listener := rfl
  rw [hlistener]
  cases (cl.connection c).listener <;> rfl

/-- A shutdown that finds a transport open tells the one connection that the transport tells. The
recorders are told before and after, whatever else is in the client. -/
theorem signal_of_open {hooks : List ShutdownHook}
    (hone : hooks.filterMap ShutdownHook.connection? = [c]) (t : TransportId) (reason : String) :
    ∃ earlier later :
        Table RecorderId (List TransportError) → Table RecorderId (List TransportError),
      ∀ cl : Client, (cl.transport t).closed = false → (cl.transport t).hooks = hooks →
        (cl.connection c).closed = false → (cl.connection c).isReferred = true →
        cl.signal t reason =
          let heard := (cl.shutDownBy t reason (earlier cl.recorders)).heardBy
            (.transport ⟨.connectionAborted, some ("Shutdown signal received: " ++ reason)⟩)
            (cl.connection c).listener
          { heard with recorders := later heard.recorders } := by
  let cause : TransportError := .shutdownSignal reason
  obtain ⟨earlier, later, hrun⟩ := runHooks_connection hone cause
  refine ⟨earlier, later, fun cl ho hhooks hc hr => ?_⟩
  let shut : Client :=
    (cl.onTransport t fun x => x.signalShutdown.1).note (.loopbackShutDown reason)
  have hopen : ¬ (cl.transport t).closed = true := Bool.eq_false_iff.mp ho
  have hsignal : cl.signal t reason = hooks.foldl (runHook cause) shut := by
    have hx : (cl.transport t).signalShutdown.2 = hooks := by
      rw [Transport.signalShutdown, if_neg hopen, hhooks]
    rw [← hx]
    exact if_neg hopen
  let told : Client := { shut with recorders := earlier shut.recorders }
  have hc' : (told.connection c).closed = false := hc
  have htold : runHook cause told (.connection c) = told.transportShutDown c cause := if_pos hr
  rw [transportShutDown_of_open hc'] at htold
  rw [hsignal, hrun, htold]
  rfl

theorem heardOnce_signal (h : Sound cl)
    (hl : ∀ l, (cl.connection c).listener = some l → cl.listeners.has l = true)
    (ho : (cl.transport t).closed = false)
    (hone : (cl.transport t).hooks.filterMap ShutdownHook.connection? = [c])
    (hc : (cl.connection c).closed = false) (reason : String) :
    HeardOnce cl t (cl.connection c).listener reason (cl.signal t reason) := by
  obtain ⟨earlier, later, he⟩ := signal_of_open hone t reason
  rw [he cl ho rfl hc (h.referred c hc)]
  exact heardOnce h hl t reason (earlier cl.recorders) _

theorem signal_of_down (ht : cl.transports.has t = true) (hd : cl.isDown t = true)
    (reason : String) : cl.step (.signal t reason) = (cl, .done) := by
  rw [isDown_eq ht] at hd
  have hsame : cl.signal t reason = cl := if_pos hd
  rw [step_signal ht, hsame]

/-- A shutdown of a transport that is not there, or is down, does nothing. -/
theorem step_of_not_shutsDown {call : Call} (hk : call.isSignalOf t = true)
    (h : shutsDown t (cl, call) = false) : (cl.step call).1 = cl := by
  cases call with
  | signal t' reason =>
    obtain rfl : t' = t := beq_iff_eq.mp hk
    cases ht : cl.transports.has t' with
    | false =>
      have hstep : cl.step (.signal t' reason) = (cl, .refused) := step_refused ht
      rw [hstep]
    | true =>
      have hd : cl.isDown t' = true := by simpa [shutsDown, signalled, hk, ht] using h
      rw [signal_of_down ht hd]
  | _ => cases hk

/-- A connection that alone is over a transport, and is registered with it, hears of one shutdown at
most. The broker's shutdown is heard of exactly if the transport was neither closed nor shut down
before, by the listener that was set last, if there is one: once, as a failure of the transport with
the reason. Such a first shutdown is counted, heard of or not, finds the connection open and changes
nothing else about it by itself. All other shutdowns of the transport do nothing, so do those after
the connection was closed or given up, and no call but a shutdown is heard of or counted as one. -/
theorem shutdown_heard_once (calls : List Call) (c : ConnectionId) (t : TransportId) :
    let cl := (initial.run calls).1
    let past := initial.history calls
    let first := (cl.transport t).closeCalls = 0 ∧ past.any (signalled t) = false
    .connection c ∈ past.filterMap (hooked t) →
    (∀ c', cl.connections.has c' = true → (cl.connection c').transport = t → c' = c) →
    (∀ reason,
      (first → (cl.connection c).closed = false ∧ ∃ after,
        cl.step (.signal t reason) = (after, .done) ∧
          HeardOnce cl t ((past.filterMap (listenerSet c)).getLast?.getD none) reason after) ∧
      (¬ first → cl.step (.signal t reason) = (cl, .done)) ∧
      ((cl.connection c).closed = true ∨ (cl.connection c).isReferred = false →
        cl.step (.signal t reason) = (cl, .done))) ∧
    past.countP (shutsDown t) ≤ 1 ∧
    (∀ e ∈ past, e.2.isSignalOf t = true → shutsDown t e = false → (e.1.step e.2).1 = e.1) ∧
    ∀ call, call.isShutdown = false →
      (∀ l, ((cl.step call).1.listener l).notices = (cl.listener l).notices) ∧
        (cl.step call).1.metrics.shutdowns = cl.metrics.shutdowns := by
  intro cl past first hhook honly
  have hreach : Reachable (fun _ => True) cl := Reachable.initial.run calls fun _ _ => trivial
  have hs : Sound cl := hreach.sound
  obtain ⟨hhas, htransport⟩ : cl.connections.has c = true ∧ (cl.connection c).transport = t :=
    hooked_known hhook
  have ht : cl.transports.has t = true := by
    rw [← htransport]
    exact hs.transport_known c hhas
  have hdown : cl.isDown t =
      (decide (0 < (cl.transport t).closeCalls) || past.any (signalled t)) := isDown_run calls t
  have hfirst : first ↔ cl.isDown t = false := by
    rw [hdown, Bool.or_eq_false_iff, decide_eq_false_iff_not, Nat.not_lt, Nat.le_zero]
  have hclosed : (cl.connection c).closed = true → cl.isDown t = true := by
    intro hcl
    have hd := hreach.transportsClosed c hhas hcl
    rw [htransport] at hd
    rw [isDown_eq ht, hd]
  refine ⟨fun reason => ⟨fun hf => ?_, fun hf => ?_, fun hend => ?_⟩, ?_,
    fun _ _ => step_of_not_shutsDown, fun call hcall => ?_⟩
  · have hd : cl.isDown t = false := hfirst.mp hf
    have ho : (cl.connection c).closed = false := by
      refine Bool.eq_false_iff.mpr fun hcl => ?_
      rw [hclosed hcl] at hd
      cases hd
    have htopen : (cl.transport t).closed = false := by
      rw [← isDown_eq ht]
      exact hd
    refine ⟨ho, _, step_signal ht reason, ?_⟩
    rw [← listener_run]
    exact heardOnce_signal hs (fun l => listener_known) htopen (connections_hooked hhook honly)
      ho reason
  · exact signal_of_down ht (eq_true_of_ne_false fun hd => hf (hfirst.mpr hd)) reason
  · exact signal_of_down ht (hclosed (hs.closed_of_ended hend)) reason
  · have hcount : past.countP (shutsDown t) ≤ if initial.isDown t then 0 else 1 :=
      countP_shutsDown sound_initial calls
    exact hcount
  · have hstep := attributed_step hs call
    exact ⟨fun l => (hstep.notices l).eq hcall, hstep.shutdowns.eq hcall⟩

/-- A connection gets a listener that would close it, and then one that would not. -/
def listeningCalls : List Call :=
  [.makeRegistry ⟨0⟩, .makeSubscriptions ⟨0⟩, .openTransport ⟨0⟩,
    .openConnection ⟨0⟩ ⟨0⟩ ⟨0⟩ ⟨0⟩ false, .makeListener ⟨0⟩ (some ⟨0⟩), .makeListener ⟨1⟩ none,
    .setExceptionListener ⟨0⟩ (some ⟨0⟩), .setExceptionListener ⟨0⟩ (some ⟨1⟩)]

/-- The second listener hears of the shutdown, and nobody does once the connection is closed. -/
theorem shutdown_heard_once_replaced :
    let cl := (initial.run listeningCalls).1
    let closed := (initial.run (listeningCalls ++ [.close ⟨0⟩])).1
    ((cl.step (.signal ⟨0⟩ "maintenance")).1.listener ⟨1⟩).notices =
        [.raised (.transport ⟨.connectionAborted, some "Shutdown signal received: maintenance"⟩)] ∧
      closed.step (.signal ⟨0⟩ "maintenance") = (closed, .done) := by
  intro cl closed
  have hsole : ∀ c' : ConnectionId, c' ∈ [(⟨0⟩ : ConnectionId)] → c' = ⟨0⟩ := by
    intro c' hm
    exact List.mem_singleton.mp hm
  have hheard := shutdown_heard_once listeningCalls ⟨0⟩ ⟨0⟩ (by decide)
    fun c' hc _ => hsole c' (Table.has_iff.mp hc)
  have hclosed := shutdown_heard_once (listeningCalls ++ [Call.close ⟨0⟩]) ⟨0⟩ ⟨0⟩ (by decide)
    fun c' hc _ => hsole c' (Table.has_iff.mp hc)
  obtain ⟨-, after, hstep, honce⟩ := (hheard.1 "maintenance").1 (by decide)
  obtain ⟨own, -, hidle, hnotices⟩ := honce.notices
  have hown : own = [] := hidle ⟨1⟩ (by decide) (by decide)
  have hone := hnotices ⟨1⟩
  rw [hown] at hone
  refine ⟨?_, (hclosed.1 "maintenance").2.2 (Or.inl (by decide))⟩
  rw [hstep]
  exact hone.trans (by decide)

end BrokerClient.Client
