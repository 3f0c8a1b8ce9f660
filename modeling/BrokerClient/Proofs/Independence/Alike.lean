import BrokerClient.Proofs.Independence.Confined

/-!
# Clients alike to one group

Two clients are alike if the group called `true` finds the same in both. What both groups use need
not be the same: a registry may hold other client IDs of the other group, and a listener that both
groups use may have heard more. Two clients that were alike are in tandem as long as they stay so
and such listeners hear the same in both.
-/

namespace BrokerClient

def Factory.settings (x : Factory) : Factory := { x with opened := 0 }

namespace Split

open Client

/-- The first group finds the same in both clients. -/
structure Alike (g : Split) (x y : Client) : Prop where
  connections : x.connections.Agree g.connection y.connections
  sessions : x.sessions.Agree g.session y.sessions
  consumers : x.consumers.Agree g.consumer y.consumers
  transports : x.transports.Agree g.transport y.transports
  subscriptions : x.subscriptions.Agree g.subscriptions y.subscriptions
  recorders : x.recorders.Agree g.recorder y.recorders
  listeners : x.listeners.Agree (fun l => g.listener l == some true) y.listeners
  shared_has : ∀ l, g.listener l = none → y.listeners.has l = x.listeners.has l
  registries_has : ∀ r, y.registries.has r = x.registries.has r
  claims : ∀ r id, g.clientId r id = true → (y.registry r).holds id = (x.registry r).holds id
  factories_has : ∀ f, y.factories.has f = x.factories.has f
  factories : ∀ f, (y.factory f).settings = (x.factory f).settings

namespace Alike

variable {g : Split} {x y z : Client}

theorem refl (g : Split) (x : Client) : g.Alike x x where
  connections := .refl _ _
  sessions := .refl _ _
  consumers := .refl _ _
  transports := .refl _ _
  subscriptions := .refl _ _
  recorders := .refl _ _
  listeners := .refl _ _
  shared_has _ _ := rfl
  registries_has _ := rfl
  claims _ _ _ := rfl
  factories_has _ := rfl
  factories _ := rfl

theorem symm (h : g.Alike x y) : g.Alike y x where
  connections := h.connections.symm
  sessions := h.sessions.symm
  consumers := h.consumers.symm
  transports := h.transports.symm
  subscriptions := h.subscriptions.symm
  recorders := h.recorders.symm
  listeners := h.listeners.symm
  shared_has l hl := (h.shared_has l hl).symm
  registries_has r := (h.registries_has r).symm
  claims r id hi := (h.claims r id hi).symm
  factories_has f := (h.factories_has f).symm
  factories f := (h.factories f).symm

theorem trans (h : g.Alike x y) (h' : g.Alike y z) : g.Alike x z where
  connections := h.connections.trans h'.connections
  sessions := h.sessions.trans h'.sessions
  consumers := h.consumers.trans h'.consumers
  transports := h.transports.trans h'.transports
  subscriptions := h.subscriptions.trans h'.subscriptions
  recorders := h.recorders.trans h'.recorders
  listeners := h.listeners.trans h'.listeners
  shared_has l hl := (h'.shared_has l hl).trans (h.shared_has l hl)
  registries_has r := (h'.registries_has r).trans (h.registries_has r)
  claims r id hi := (h'.claims r id hi).trans (h.claims r id hi)
  factories_has f := (h'.factories_has f).trans (h.factories_has f)
  factories f := (h'.factories f).trans (h.factories f)

theorem connection (h : g.Alike x y) {c : ConnectionId} (hc : g.connection c = true) :
    y.connection c = x.connection c :=
  h.connections.get hc

theorem session (h : g.Alike x y) {s : SessionId} (hs : g.session s = true) :
    y.session s = x.session s :=
  h.sessions.get hs

theorem consumer (h : g.Alike x y) {k : ConsumerId} (hk : g.consumer k = true) :
    y.consumer k = x.consumer k :=
  h.consumers.get hk

theorem transport (h : g.Alike x y) {t : TransportId} (ht : g.transport t = true) :
    y.transport t = x.transport t :=
  h.transports.get ht

theorem durables (h : g.Alike x y) {d : SubscriptionsId} (hd : g.subscriptions d = true) :
    y.durables d = x.durables d :=
  h.subscriptions.get hd

theorem isOpen (h : g.Alike x y) {k : ConsumerId} (hk : g.consumer k = true) :
    y.isOpen k = x.isOpen k := by
  rw [Client.isOpen, Client.isOpen, h.consumer hk]

/-- Listeners that the group uses are there in both or in neither. -/
theorem listeners_has (h : g.Alike x y) {l : ListenerId} (hl : g.listener l ≠ some false) :
    y.listeners.has l = x.listeners.has l := by
  cases hg : g.listener l with
  | none => exact h.shared_has l hg
  | some b =>
    cases b with
    | true => exact h.listeners.has (by rw [hg]; rfl)
    | false => exact absurd hg hl

/-- A listener of both groups closes nothing, so all listeners of a group close the same. -/
theorem closes (h : g.Alike x y) (hx : g.Confined x) (hy : g.Confined y) {l : ListenerId}
    (hl : g.listener l ≠ some false) : (y.listener l).closes = (x.listener l).closes := by
  have hnone : ∀ {cl : Client}, g.Confined cl → g.listener l = none →
      (cl.listener l).closes = none := by
    intro cl hcl hg
    refine Option.eq_none_iff_forall_ne_some.mpr fun c hc => ?_
    rw [hcl.closes l c hc] at hg
    cases hg
  cases hg : g.listener l with
  | none => rw [hnone hx hg, hnone hy hg]
  | some b =>
    cases b with
    | true => exact congrArg Listener.closes (h.listeners.get (by rw [hg]; rfl))
    | false => exact absurd hg hl

/-- Clients stay alike if what surrounds their sessions does not change and the rest stays alike. -/
theorem of_surroundings {x' y' : Client} (h : g.Alike x y) (hx : x'.surroundings = x.surroundings)
    (hy : y'.surroundings = y.surroundings)
    (hc : x'.connections.Agree g.connection y'.connections)
    (hs : x'.sessions.Agree g.session y'.sessions)
    (hk : x'.consumers.Agree g.consumer y'.consumers) : g.Alike x' y' := by
  rw [eq_of_surroundings hx, eq_of_surroundings hy]
  exact { h with connections := hc, sessions := hs, consumers := hk }

end Alike

/-- The clients are alike, and listeners that the group uses have heard the same since they were the
first two clients. -/
structure Tandem (g : Split) (x₀ y₀ x y : Client) : Prop extends g.Alike x y where
  heard : ∀ l, g.listener l ≠ some false → ∃ news,
    (x.listener l).notices = (x₀.listener l).notices ++ news ∧
      (y.listener l).notices = (y₀.listener l).notices ++ news

/-- Two outcomes of an operation are the same to the group. -/
structure Concur (g : Split) (x₀ y₀ : Client) {α : Type} (p q : Client × α) : Prop where
  tandem : g.Tandem x₀ y₀ p.1 q.1
  answer : q.2 = p.2

variable {g : Split} {x₀ y₀ x y : Client} {α β : Type}

theorem Alike.tandem (h : g.Alike x y) : g.Tandem x y x y :=
  { h with heard := fun _ _ => ⟨[], (List.append_nil _).symm, (List.append_nil _).symm⟩ }

/-- Clients that stay alike while no listener hears anything stay in tandem. -/
theorem Tandem.of_alike {x' y' : Client} (h : g.Tandem x₀ y₀ x y) (ha : g.Alike x' y')
    (hx : x'.listeners = x.listeners) (hy : y'.listeners = y.listeners) :
    g.Tandem x₀ y₀ x' y' where
  toAlike := ha
  heard l hl := by
    rw [listener_congr hx, listener_congr hy]
    exact h.heard l hl

theorem Concur.map {p q : Client × α} (h : g.Concur x₀ y₀ p q) (f : α → β) :
    g.Concur x₀ y₀ (p.map id f) (q.map id f) :=
  ⟨h.tandem, congrArg f h.answer⟩

theorem Concur.exists {p q : Client × α} (h : g.Concur x₀ y₀ p q) :
    ∃ x y a, p = (x, a) ∧ q = (y, a) ∧ g.Tandem x₀ y₀ x y :=
  ⟨p.1, q.1, p.2, rfl, Prod.ext rfl h.answer, h.tandem⟩

theorem Tandem.concur (h : g.Tandem x₀ y₀ x y) (a : α) : g.Concur x₀ y₀ (x, a) (y, a) := ⟨h, rfl⟩

/-- What is done to an open connection of the group is done in both clients or in neither. -/
theorem Tandem.ifOpen (h : g.Tandem x₀ y₀ x y) {c : ConnectionId} (hc : g.connection c = true)
    {goX goY : Unit → Client × Except MessagingError α}
    (hgo : g.Concur x₀ y₀ (goX ()) (goY ())) :
    g.Concur x₀ y₀ (x.ifOpen c goX) (y.ifOpen c goY) := by
  rw [Client.ifOpen, Client.ifOpen, h.connection hc]
  split
  · exact h.concur _
  · exact hgo

/-- Only the listener itself hears something, and only if it exists. -/
theorem notices_hear (cl : Client) (l : ListenerId) (n : Notice) (l' : ListenerId) :
    ((cl.onListener l fun a => a.hear n).listener l').notices =
      (cl.listener l').notices ++ if l' = l ∧ cl.listeners.has l = true then [n] else [] := by
  by_cases he : l' = l
  · subst he
    cases hl : cl.listeners.has l' with
    | true =>
      rw [Client.listener, onListener, Table.get_modify_of_has hl]
      simp [Listener.hear, Client.listener]
    | false =>
      rw [Client.listener, onListener, Table.modify_of_not_has hl]
      simp [Client.listener]
  · rw [Client.listener, onListener, Table.get_modify_of_ne _ he]
    simp [Client.listener, he]

/-- A listener that the group uses hears the same in both clients. -/
theorem Tandem.hear (h : g.Tandem x₀ y₀ x y) {l : ListenerId} (hl : g.listener l ≠ some false)
    (n : Notice) :
    g.Tandem x₀ y₀ (x.onListener l fun a => a.hear n) (y.onListener l fun a => a.hear n) where
  toAlike := { h.toAlike with
    listeners := h.listeners.modify l _
    shared_has := fun l' hl' => by
      refine (Table.has_modify _ _ _ _).trans ((h.shared_has l' hl').trans ?_)
      exact (Table.has_modify _ _ _ _).symm }
  heard l' hl' := by
    obtain ⟨news, hx, hy⟩ := h.heard l' hl'
    refine ⟨news ++ if l' = l ∧ x.listeners.has l = true then [n] else [], ?_, ?_⟩
    · rw [notices_hear, hx, List.append_assoc]
    · rw [notices_hear, hy, h.listeners_has hl, List.append_assoc]

end Split

end BrokerClient
