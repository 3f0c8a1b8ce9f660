import BrokerClient.Proofs.Client.WellFormed

/-!
# Changes aside

What happens to transports, listeners, recorders, the log and some counts is no concern of
connections, sessions and consumers. Nor is a new registry or factory before it is used. Transports
are not closed aside, though a shutdown by the broker leaves them closed, and nobody hears of such a
shutdown whom no allowed call registered. What listeners hear and what is counted is traced to the
calls that it comes of.
-/

namespace BrokerClient

namespace Call

def isHookingOf (t : TransportId) (hook : ShutdownHook) : Call → Bool
  | .openConnection c t' .. | .connect _ c t' _ => t' == t && hook == .connection c
  | .addRecorder t' h => t' == t && hook == .recorder h
  | _ => false

/-- The call may register a hook with the transport. -/
def isHookOn (t : TransportId) : Call → Bool
  | .openConnection _ t' .. | .connect _ _ t' _ | .addRecorder t' _ => t' == t
  | _ => false

def isSignalOf (t : TransportId) : Call → Bool
  | .signal t' _ => t' == t
  | _ => false

def isShutdown : Call → Bool
  | .signal .. | .transportShutDown .. => true
  | _ => false

def isReading : Call → Bool
  | .readObject .. => true
  | _ => false

theorem isHookOn_of_isHookingOf {t : TransportId} {hook : ShutdownHook} {call : Call}
    (h : call.isHookingOf t hook = true) : call.isHookOn t = true := by
  cases call with
  | openConnection c t' r d deaf => exact (Bool.and_eq_true_iff.mp h).1
  | connect f c t' d => exact (Bool.and_eq_true_iff.mp h).1
  | addRecorder t' r => exact (Bool.and_eq_true_iff.mp h).1
  | _ => cases h

end Call

namespace Client

variable {cl : Client} {allowed : Call → Prop}

/-- Two values are the same, or an allowed call of some kind accounts for the difference. -/
def Explained {α : Type} (allowed : Call → Prop) (kind : Call → Bool) (x y : α) : Prop :=
  y = x ∨ ∃ call, allowed call ∧ kind call = true

namespace Explained

variable {α : Type} {kind : Call → Bool} {x y z : α}

theorem refl (x : α) : Explained allowed kind x x := Or.inl rfl

theorem trans (h : Explained allowed kind x y) (h' : Explained allowed kind y z) :
    Explained allowed kind x z := by
  rcases h with h | h
  · rcases h' with h' | h'
    · exact Or.inl (h'.trans h)
    · exact Or.inr h'
  · exact Or.inr h

/-- A call of another kind accounts for no difference. -/
theorem eq {call : Call} (h : Explained (· = call) kind x y) (hk : kind call = false) : y = x := by
  rcases h with h | ⟨call', rfl, hk'⟩
  · exact h
  · rw [hk] at hk'
    cases hk'

end Explained

/-- The transport exists and was closed or shut down. -/
def isDown (cl : Client) (t : TransportId) : Bool :=
  cl.transports.has t && (cl.transport t).closed

/-- Nothing that concerns connections, sessions and consumers changes, nor what is claimed or
bound. What the surroundings come to refer to is accounted for by allowed calls. -/
structure Aside (allowed : Call → Prop) (before after : Client) : Prop where
  connections : after.connections = before.connections
  sessions : after.sessions = before.sessions
  consumers : after.consumers = before.consumers
  registry : ∀ r, after.registry r = before.registry r
  durables : ∀ d, after.durables d = before.durables d
  registries_has : ∀ r, before.registries.has r = true → after.registries.has r = true
  subscriptions_has : ∀ d, before.subscriptions.has d = true → after.subscriptions.has d = true
  transports_has : ∀ t, before.transports.has t = true → after.transports.has t = true
  transport_closed : ∀ t, before.transports.has t = true → (before.transport t).closed = true →
    (after.transport t).closed = true
  closeCalls : ∀ t, (after.transport t).closeCalls = (before.transport t).closeCalls
  hooks : ∀ t, ∀ hook ∈ (after.transport t).hooks, hook ∈ (before.transport t).hooks ∨
    ∃ call, allowed call ∧ call.isHookingOf t hook = true
  hooks_kept : ∀ t, Explained allowed (Call.isHookOn t) (before.transport t).hooks
    (after.transport t).hooks
  shut_down : ∀ t, Explained allowed (Call.isSignalOf t) (before.isDown t) (after.isDown t)
  listeners_has : ∀ l, before.listeners.has l = true → after.listeners.has l = true
  notices : ∀ l, Explained allowed Call.isShutdown (before.listener l).notices
    (after.listener l).notices
  closes : ∀ l, (after.listener l).closes = (before.listener l).closes ∨
    allowed (.makeListener l (after.listener l).closes)
  factory : ∀ f, after.factories.has f = true →
    after.registries.has (after.factory f).clientIds = true ∧
        (∃ config connector,
          allowed (.makeFactory f config connector (after.factory f).clientIds)) ∨
      (before.factories.has f = true ∧
        (after.factory f).clientIds = (before.factory f).clientIds)
  openConnections : after.metrics.openConnections = before.metrics.openConnections
  openSessions : after.metrics.openSessions = before.metrics.openSessions
  collisions : after.metrics.collisions = before.metrics.collisions
  shutdowns : Explained allowed Call.isShutdown before.metrics.shutdowns after.metrics.shutdowns
  untrusted : Explained allowed Call.isReading before.metrics.untrusted after.metrics.untrusted

theorem Aside.sameShape {before after : Client} (h : Aside allowed before after) :
    SameShape before after where
  connection c := by rw [connection_congr h.connections]
  session s := by rw [session_congr h.sessions]
  consumer := consumer_congr h.consumers
  connections_has c := by rw [h.connections]
  sessions_has s := by rw [h.sessions]
  consumers_has k := by rw [h.consumers]
  registries_has := h.registries_has
  subscriptions_has := h.subscriptions_has
  transports_has := h.transports_has
  factory f hf := (h.factory f hf).imp_left And.left

theorem Sound.aside {before after : Client} (hs : Sound before) (h : Aside allowed before after) :
    Sound after := by
  refine hs.of_sameShape h.sameShape ?_ ?_
  · intro c hc
    rw [connection_congr h.connections] at hc
    exact hs.closed_bare c hc
  · intro c ho
    rw [connection_congr h.connections] at ho ⊢
    exact hs.referred c ho

theorem Aside.refl (cl : Client) : Aside allowed cl cl where
  connections := rfl
  sessions := rfl
  consumers := rfl
  registry _ := rfl
  durables _ := rfl
  registries_has _ h := h
  subscriptions_has _ h := h
  transports_has _ h := h
  transport_closed _ _ h := h
  closeCalls _ := rfl
  hooks _ _ h := Or.inl h
  hooks_kept _ := .refl _
  shut_down _ := .refl _
  listeners_has _ h := h
  notices _ := .refl _
  closes _ := Or.inl rfl
  factory _ h := Or.inr ⟨h, rfl⟩
  openConnections := rfl
  openSessions := rfl
  collisions := rfl
  shutdowns := .refl _
  untrusted := .refl _

/-- Recorders and the log are aside. -/
theorem aside_of_kept (cl : Client) (recorders : Table RecorderId (List TransportError))
    (log : List Event) : Aside allowed cl { cl with recorders, log } :=
  { Aside.refl cl with }

theorem aside_relog (cl : Client) (log : List Event) : Aside allowed cl { cl with log } :=
  cl.aside_of_kept cl.recorders log

theorem aside_note (cl : Client) (e : Event) : Aside allowed cl (cl.note e) :=
  cl.aside_relog (cl.log ++ [e])

theorem aside_record (cl : Client) (h : RecorderId) (cause : TransportError) :
    Aside allowed cl (cl.record h cause) :=
  cl.aside_of_kept (cl.recorders.modify h fun told => told ++ [cause]) cl.log

theorem aside_makeRecorder (cl : Client) (h : RecorderId) :
    Aside allowed cl { cl with recorders := cl.recorders.insert h [] } :=
  cl.aside_of_kept (cl.recorders.insert h []) cl.log

/-- A listener hears of something only by a shutdown. -/
theorem aside_hear (cl : Client) (l : ListenerId) (n : Notice)
    (ha : ∃ call, allowed call ∧ call.isShutdown = true) :
    Aside allowed cl (cl.onListener l fun x => x.hear n) :=
  { Aside.refl cl with
    notices := fun _ => Or.inr ha
    listeners_has := fun _ h => (Table.has_modify _ _ _ _).trans h
    closes := fun l' => Or.inl (cl.listeners.proj_modify (f := fun x => x.hear n)
      (p := Listener.closes) l (fun _ => rfl) l') }

theorem aside_countShutdown (cl : Client) (ha : ∃ call, allowed call ∧ call.isShutdown = true) :
    Aside allowed cl (cl.count Metrics.shutDown) :=
  { Aside.refl cl with shutdowns := Or.inr ha }

theorem aside_countRefusal (cl : Client) (ha : ∃ call, allowed call ∧ call.isReading = true) :
    Aside allowed cl (cl.count Metrics.refused) :=
  { Aside.refl cl with untrusted := Or.inr ha }

/-- A change of a transport that is no close of it. -/
theorem aside_onTransport (cl : Client) (t : TransportId) {f : Transport → Transport}
    (hclosed : ∀ x, x.closed = true → (f x).closed = true)
    (hcalls : ∀ x, (f x).closeCalls = x.closeCalls)
    (hhooks : ∀ x, ∀ hook ∈ (f x).hooks, hook ∈ x.hooks ∨
      ∃ call, allowed call ∧ call.isHookingOf t hook = true)
    (hkept : ∀ x, Explained allowed (Call.isHookOn t) x.hooks (f x).hooks)
    (hdown : ∀ x, Explained allowed (Call.isSignalOf t) x.closed (f x).closed) :
    Aside allowed cl (cl.onTransport t f) := by
  have hv : ∀ t', (cl.onTransport t f).transport t' = cl.transport t' ∨
      t' = t ∧ (cl.onTransport t f).transport t' = f (cl.transport t') :=
    cl.transports.get_modify_cases t f
  refine { Aside.refl cl with
    transports_has := fun t' h => (Table.has_modify _ _ _ _).trans h
    transport_closed := fun t' _ hc => ?_
    closeCalls := cl.transports.proj_modify t hcalls
    hooks := fun t' hook hm => ?_
    hooks_kept := fun t' => ?_
    shut_down := fun t' => ?_ }
  · rcases hv t' with h | ⟨-, h⟩
    · rw [h]
      exact hc
    · rw [h]
      exact hclosed _ hc
  · rcases hv t' with h | ⟨he, h⟩
    · rw [h] at hm
      exact Or.inl hm
    · rw [h] at hm
      rw [he] at hm ⊢
      exact hhooks _ hook hm
  · rcases hv t' with h | ⟨he, h⟩
    · rw [h]
      exact .refl _
    · rw [h, he]
      exact hkept _
  · have hhas : (cl.onTransport t f).transports.has t' = cl.transports.has t' :=
      Table.has_modify _ _ _ _
    rcases hv t' with h | ⟨he, h⟩
    · rw [isDown, isDown, hhas, h]
      exact .refl _
    · rw [isDown, isDown, hhas, h, he]
      exact (hdown _).imp_left fun hsame => by rw [hsame]

theorem aside_onShutdown (cl : Client) {t : TransportId} {hook : ShutdownHook}
    (ha : ∃ call, allowed call ∧ call.isHookingOf t hook = true) :
    Aside allowed cl (cl.onTransport t fun x => x.onShutdown hook) := by
  obtain ⟨call, hcall, hhook⟩ := ha
  refine aside_onTransport cl t (fun _ h => h) (fun _ => rfl) (fun x hook' hm => ?_)
    (fun _ => Or.inr ⟨call, hcall, Call.isHookOn_of_isHookingOf hhook⟩) fun _ => .refl _
  rcases List.mem_append.mp hm with hm | hm
  · exact Or.inl hm
  · rw [List.mem_singleton.mp hm]
    exact Or.inr ⟨call, hcall, hhook⟩

theorem aside_failNextClose (cl : Client) (t : TransportId) (failure : TransportError) :
    Aside allowed cl (cl.onTransport t fun x => x.failNextClose failure) :=
  aside_onTransport cl t (fun _ h => h) (fun _ => rfl) (fun _ _ h => Or.inl h) (fun _ => .refl _)
    fun _ => .refl _

theorem aside_signalShutdown (cl : Client) {t : TransportId} {reason : String}
    (ha : allowed (.signal t reason)) :
    Aside allowed cl (cl.onTransport t fun x => x.signalShutdown.1) := by
  have hx : ∀ x : Transport, x.signalShutdown.1 = { x with closed := true } := by
    intro x
    unfold Transport.signalShutdown
    split
    · next hc => cases x; simp_all
    · rfl
  refine aside_onTransport cl t (fun x _ => ?_) (fun x => ?_) (fun x hook hm => Or.inl ?_)
    (fun x => ?_) fun _ => Or.inr ⟨_, ha, beq_self_eq_true t⟩
  · rw [hx]
  · rw [hx]
  · rw [hx] at hm
    exact hm
  · rw [hx]
    exact .refl _

/-- A transport that was not there has not been closed by anybody and tells nobody. -/
theorem aside_openTransport (cl : Client) (t : TransportId) :
    Aside allowed cl (cl.openTransport t) := by
  cases hn : cl.transports.has t with
  | true =>
    have hsame : cl.openTransport t = cl := by rw [openTransport, Table.insert_of_has hn]
    rw [hsame]
    exact .refl cl
  | false =>
    have hv : ∀ t', (cl.openTransport t).transport t' = if t' = t then .fresh else cl.transport t' :=
      Table.get_insert hn .fresh
    have hhas : ∀ t', (cl.openTransport t).transports.has t' =
        (decide (t' = t) || cl.transports.has t') := Table.has_insert_eq cl.transports t .fresh
    have habsent : cl.transport t = .absent := Table.get_of_not_has hn
    have hother : ∀ t', t' ≠ t → (cl.openTransport t).transport t' = cl.transport t' := by
      intro t' hne
      rw [hv, if_neg hne]
    have hnew : (cl.openTransport t).transport t = .fresh := by rw [hv, if_pos rfl]
    refine { Aside.refl cl with
      transports_has := fun _ h => Table.has_insert_of_has h t .fresh
      transport_closed := fun t' hk hc => ?_
      closeCalls := fun t' => ?_
      hooks := fun t' hook hm => ?_
      hooks_kept := fun t' => Or.inl ?_
      shut_down := fun t' => Or.inl ?_ }
    · rw [hother t' (Table.ne_of_has hk hn)]
      exact hc
    · by_cases he : t' = t
      · rw [he, hnew, habsent]
        rfl
      · rw [hother t' he]
    · by_cases he : t' = t
      · rw [he, hnew] at hm
        exact absurd hm List.not_mem_nil
      · rw [hother t' he] at hm
        exact Or.inl hm
    · by_cases he : t' = t
      · rw [he, hnew, habsent]
        rfl
      · rw [hother t' he]
    · by_cases he : t' = t
      · rw [isDown, isDown, he, hnew, hn]
        exact Bool.and_false _
      · rw [isDown, isDown, hhas, hother t' he, decide_eq_false he, Bool.false_or]

theorem aside_makeListener {l : ListenerId} {closes : Option ConnectionId}
    (hn : cl.listeners.has l = false) (ha : allowed (.makeListener l closes)) :
    Aside allowed cl { cl with listeners := cl.listeners.insert l ⟨closes, []⟩ } := by
  have hv : ∀ l', listener { cl with listeners := cl.listeners.insert l ⟨closes, []⟩ } l' =
      if l' = l then ⟨closes, []⟩ else cl.listener l' :=
    Table.get_insert hn _
  -- A listener that does not exist has heard nothing.
  have habsent : cl.listener l = .absent := Table.get_of_not_has hn
  refine { Aside.refl cl with
    listeners_has := fun _ h => Table.has_insert_of_has h l _
    notices := fun l' => Or.inl ?_
    closes := fun l' => ?_ }
  · rw [hv]
    split
    · next he =>
      rw [he, habsent]
      rfl
    · rfl
  · rw [hv]
    split
    · next he =>
      rw [he]
      exact Or.inr ha
    · exact Or.inl rfl

theorem aside_makeRegistry (cl : Client) (r : RegistryId) :
    Aside allowed cl { cl with registries := cl.registries.insert r .empty } :=
  { Aside.refl cl with
    registry := Table.get_insert_default cl.registries r
    registries_has := fun _ h => Table.has_insert_of_has h r .empty
    factory := fun _ h => Or.inr ⟨h, rfl⟩ }

theorem aside_makeSubscriptions (cl : Client) (d : SubscriptionsId) :
    Aside allowed cl { cl with subscriptions := cl.subscriptions.insert d .empty } :=
  { Aside.refl cl with
    durables := Table.get_insert_default cl.subscriptions d
    subscriptions_has := fun _ h => Table.has_insert_of_has h d .empty }

theorem aside_makeFactory {f : FactoryId} {x : Factory} (hf : cl.factories.has f = false)
    (hr : cl.registries.has x.clientIds = true)
    (ha : allowed (.makeFactory f x.config x.connector x.clientIds)) :
    Aside allowed cl { cl with factories := cl.factories.insert f x } := by
  refine { Aside.refl cl with factory := fun f' h => ?_ }
  have hv : factory { cl with factories := cl.factories.insert f x } f' =
      if f' = f then x else cl.factory f' :=
    Table.get_insert hf x f'
  rw [hv]
  rcases (Table.has_insert hf x f').mp h with h | h
  · rw [if_neg (Table.ne_of_has h hf)]
    exact Or.inr ⟨h, rfl⟩
  · rw [if_pos h, h]
    exact Or.inl ⟨hr, _, _, ha⟩

theorem aside_onFactory {f : FactoryId} {g : Factory → Factory}
    (hg : ∀ x, (g x).clientIds = x.clientIds) : Aside allowed cl (cl.onFactory f g) := by
  refine { Aside.refl cl with factory := fun f' h => ?_ }
  have hf : cl.factories.has f' = true := (Table.has_modify cl.factories f g f').symm.trans h
  exact Or.inr ⟨hf, cl.factories.proj_modify f hg f'⟩

end Client

end BrokerClient
