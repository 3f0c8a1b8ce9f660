import BrokerClient.Proofs.Client.History

/-!
# What comes of which call

The direction, the listener and the policy of a connection are set by certain calls on it and by no
others. Nobody but those who register hooks changes whom a transport tells, listeners hear of
shutdowns only, and each count has calls of its own.
-/

namespace BrokerClient

namespace Call

def isSwitchOf (c : ConnectionId) : Call → Bool
  | .start c' | .stop c' => c' == c
  | _ => false

def isListenerOf (c : ConnectionId) : Call → Bool
  | .setExceptionListener c' _ => c' == c
  | _ => false

end Call

/-- What certain calls on a connection set, and may set again. -/
def Connection.settings (x : Connection) : Bool × Option ListenerId × TrustedPackages :=
  (x.stopped, x.listener, x.trusted)

/-- What is counted of shutdowns and payloads. -/
def Metrics.incidents (m : Metrics) : Nat × Nat := (m.shutdowns, m.untrusted)

namespace Client

variable {allowed : Call → Prop} {before middle after : Client}

/-- What is set on connections, whom transports tell, what listeners hear and what is counted of it
differs by what allowed calls account for. -/
structure Attributed (allowed : Call → Prop) (before after : Client) : Prop where
  stopped : ∀ c, Explained allowed (Call.isSwitchOf c) (before.connection c).stopped
    (after.connection c).stopped
  listener : ∀ c, Explained allowed (Call.isListenerOf c) (before.connection c).listener
    (after.connection c).listener
  trusted : ∀ c, Explained allowed (Call.isTrustOf c) (before.connection c).trusted
    (after.connection c).trusted
  hooks : ∀ t, Explained allowed (Call.isHookOn t) (before.transport t).hooks
    (after.transport t).hooks
  notices : ∀ l, Explained allowed Call.isShutdown (before.listener l).notices
    (after.listener l).notices
  listeners_has : ∀ l, before.listeners.has l = true → after.listeners.has l = true
  shutdowns : Explained allowed Call.isShutdown before.metrics.shutdowns after.metrics.shutdowns
  untrusted : Explained allowed Call.isReading before.metrics.untrusted after.metrics.untrusted

namespace Attributed

theorem refl (cl : Client) : Attributed allowed cl cl where
  stopped _ := .refl _
  listener _ := .refl _
  trusted _ := .refl _
  hooks _ := .refl _
  notices _ := .refl _
  listeners_has _ h := h
  shutdowns := .refl _
  untrusted := .refl _

theorem trans (h : Attributed allowed before middle) (h' : Attributed allowed middle after) :
    Attributed allowed before after where
  stopped c := (h.stopped c).trans (h'.stopped c)
  listener c := (h.listener c).trans (h'.listener c)
  trusted c := (h.trusted c).trans (h'.trusted c)
  hooks t := (h.hooks t).trans (h'.hooks t)
  notices l := (h.notices l).trans (h'.notices l)
  listeners_has l hl := h'.listeners_has l (h.listeners_has l hl)
  shutdowns := h.shutdowns.trans h'.shutdowns
  untrusted := h.untrusted.trans h'.untrusted

/-- What only touches other things leaves nothing to account for. -/
theorem of_eq (hc : ∀ c, (after.connection c).settings = (before.connection c).settings)
    (ht : ∀ t, (after.transport t).hooks = (before.transport t).hooks)
    (hl : after.listeners = before.listeners)
    (hm : after.metrics.incidents = before.metrics.incidents) :
    Attributed allowed before after where
  stopped c := Or.inl (congrArg Prod.fst (hc c))
  listener c := Or.inl (congrArg (fun x => x.2.1) (hc c) :)
  trusted c := Or.inl (congrArg (fun x => x.2.2) (hc c) :)
  hooks t := Or.inl (ht t)
  notices l := by
    rw [listener_congr hl]
    exact .refl _
  listeners_has l h := by
    rw [hl]
    exact h
  shutdowns := Or.inl (congrArg Prod.fst hm)
  untrusted := Or.inl (congrArg Prod.snd hm)

/-- A change of connections only. -/
theorem of_settings (hc : ∀ c, (after.connection c).settings = (before.connection c).settings)
    (ht : after.transports = before.transports) (hl : after.listeners = before.listeners)
    (hm : after.metrics.incidents = before.metrics.incidents) :
    Attributed allowed before after :=
  .of_eq hc (fun t => by rw [transport, transport, ht]) hl hm

end Attributed

/-- Closing a transport leaves it to those it tells. -/
theorem hooks_closed (cl : Client) (t t' : TransportId) :
    ((cl.onTransport t fun x => x.close.1).transport t').hooks = (cl.transport t').hooks :=
  cl.transports.proj_modify (p := Transport.hooks) t (fun x => by rw [Transport.close_eq]) t'

/-- What accounts for a change of a connection accounts for it among all of them. -/
theorem explained_onConnection {α : Type} {kind : ConnectionId → Call → Bool}
    {p : Connection → α} {cl : Client} {c : ConnectionId} {f : Connection → Connection}
    (hc : cl.connections.has c = true)
    (h : Explained allowed (kind c) (p (cl.connection c)) (p (f (cl.connection c))))
    (c' : ConnectionId) :
    Explained allowed (kind c') (p (cl.connection c'))
      (p ((cl.onConnection c f).connection c')) := by
  rw [connection_onConnection_of_has hc]
  split
  · next he =>
    rw [he]
    exact h
  · exact .refl _

theorem Change.attributed (h : Change allowed before after) : Attributed allowed before after := by
  cases h with
  | aside h =>
    exact {
      stopped := fun c => by rw [connection_congr h.connections]; exact .refl _
      listener := fun c => by rw [connection_congr h.connections]; exact .refl _
      trusted := fun c => by rw [connection_congr h.connections]; exact .refl _
      hooks := h.hooks_kept
      notices := h.notices
      listeners_has := h.listeners_has
      shutdowns := h.shutdowns
      untrusted := h.untrusted }
  | openConnection c t r d hc _ _ _ _ =>
    -- A connection that does not exist reads as one that nothing was set on.
    have hdef : before.connection c = default := Table.get_of_not_has hc
    refine .of_settings (fun c' => ?_) rfl rfl rfl
    rw [connection_withConnection hc]
    split
    · next he => rw [he, hdef]; rfl
    · rfl
  | adjust c f hc hf _ _ hl ht =>
    have hstopped : (f (before.connection c)).stopped = (before.connection c).stopped :=
      (congrArg Connection.stopped hf :)
    have hlistener : Explained allowed (Call.isListenerOf c) (before.connection c).listener
        (f (before.connection c)).listener :=
      hl.imp_right fun hset => ⟨.setExceptionListener c _, hset.2, beq_self_eq_true c⟩
    exact { Attributed.refl before with
      stopped := explained_onConnection hc (Or.inl hstopped)
      listener := explained_onConnection hc hlistener
      trusted := explained_onConnection hc ht }
  | identify c id claimed ho _ _ _ =>
    refine .of_settings (fun c' => ?_) rfl rfl rfl
    rw [connection_identified ho]
    split
    · next he => rw [he]; rfl
    · rfl
  | collide id _ => exact .of_settings (fun _ => rfl) rfl rfl rfl
  | createSession c s transacted mode ho _ _ =>
    refine .of_settings (fun c' => ?_) rfl rfl rfl
    obtain ⟨ss, n, -, he⟩ := connection_withSession_eq (has_connection ho) s
      (before.nextSession c transacted mode) c'
    rw [he]
    rfl
  | switch c stopped ha _ h =>
    have hswitch : (Call.switch c stopped).isSwitchOf c = true := by
      cases stopped <;> exact beq_self_eq_true c
    have hkept : Attributed allowed before { after with connections := before.connections } :=
      .of_settings (fun _ => rfl) h.transports h.listeners (by rw [h.metrics])
    exact { hkept with
      stopped := fun c' => by
        rw [h.connection]
        split
        · next he => rw [he]; exact Or.inr ⟨_, ha, hswitch⟩
        · exact .refl _
      listener := fun c' => by rw [h.connection_eq]; exact .refl _
      trusted := fun c' => by rw [h.connection_eq]; exact .refl _ }
  | tell s paused _ _ => exact .of_settings (fun _ => rfl) rfl rfl rfl
  | shut c ss _ _ h =>
    refine .of_settings (fun c' => ?_) h.transports h.listeners ?_
    · rw [h.connection_eq]
      rfl
    · rw [h.metrics]
      rfl
  | retire c handles _ _ h =>
    refine .of_eq (fun c' => ?_) (fun t => ?_) h.listeners ?_
    · rw [h.connection_eq]
      rfl
    · rw [h.transport]
      split
      · rw [Transport.close_eq]
      · rfl
    · rw [h.metrics]
      rfl
  | addConsumer k x _ _ _ _ _ _ => exact .of_settings (fun _ => rfl) rfl rfl rfl
  | subscribe k x name d _ _ _ _ _ _ _ => exact .of_settings (fun _ => rfl) rfl rfl rfl
  | unsubscribe s name _ _ _ => exact .of_settings (fun _ => rfl) rfl rfl rfl
  | closeConsumer k _ h =>
    refine .of_settings (fun c => ?_) h.transports h.listeners (by rw [h.metrics])
    rw [h.connection]
  | claims r f id _ => exact .of_settings (fun _ => rfl) rfl rfl rfl
  | bindings d f name k _ _ => exact .of_settings (fun _ => rfl) rfl rfl rfl
  | closeTransport t _ => exact .of_eq (fun _ => rfl) (before.hooks_closed t) rfl rfl

theorem Changes.attributed (h : Changes allowed before after) :
    Attributed allowed before after := by
  induction h with
  | refl => exact .refl before
  | tail _ hlast ih => exact ih.trans hlast.attributed

/-- A step sets, tells and counts nothing that its call does not account for. -/
theorem attributed_step {cl : Client} (h : Sound cl) (call : Call) :
    Attributed (· = call) cl (cl.step call).1 :=
  Changes.attributed (changes_step h rfl)

end Client

end BrokerClient
