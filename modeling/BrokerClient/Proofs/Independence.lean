import Mathlib.Data.List.Forall2
import BrokerClient.Proofs.Client.History
import BrokerClient.Proofs.Independence.Steps

/-!
# Groups of connections do not interfere

Two runs, one of which leaves out calls on one of two groups of connections, are the same to the
other group: every call that is not left out and not on the first group finds and leaves the same,
is answered alike, and the same is heard of it.
-/

namespace BrokerClient

namespace Client

def heard (e : Client × Call) (l : ListenerId) : List Notice :=
  ((e.1.step e.2).1.listener l).notices.drop (e.1.listener l).notices.length

end Client

namespace Split

open Client

variable {g : Split} {x y : Client} {call : Call}

/-- The entries of two histories are the same to the group. -/
structure Same (g : Split) (e e' : Client × Call) : Prop where
  call : e'.2 = e.2
  before : g.Alike e.1 e'.1
  after : g.Alike (e.1.step e.2).1 (e'.1.step e'.2).1
  answer : answered e' = answered e
  heard : ∀ l, g.listener l ≠ some false → heard e' l = heard e l

/-- The entries of a history but those of calls on the other group. -/
def entries (g : Split) (cl : Client) (calls : List Call) : List (Client × Call) :=
  (cl.history calls).filter fun e => g.side e.2 != some false

theorem entries_cons_of_other (hs : g.side call = some false) (cl : Client) (calls : List Call) :
    g.entries cl (call :: calls) = g.entries (cl.step call).1 calls := by
  refine List.filter_cons_of_neg ?_
  rw [hs]
  exact Bool.false_ne_true

theorem entries_cons (hs : g.side call ≠ some false) (cl : Client) (calls : List Call) :
    g.entries cl (call :: calls) = (cl, call) :: g.entries (cl.step call).1 calls :=
  List.filter_cons_of_pos (bne_iff_ne.mpr hs)

theorem Alike.same (h : g.Alike x y) (hstep : g.Concur x y (x.step call) (y.step call)) :
    g.Same (x, call) (y, call) where
  call := rfl
  before := h
  after := hstep.tandem.toAlike
  answer := hstep.answer
  heard l hl := by
    obtain ⟨news, hx, hy⟩ := hstep.tandem.heard l hl
    dsimp only [Client.heard]
    rw [hx, hy, List.drop_left, List.drop_left]

/-- Clients that are alike stay so when one of them is spared calls on the other group. -/
theorem Alike.run {keep : Call → Bool} (h : g.Alike x y) (hx : g.Settled x) (hy : g.Settled y)
    {calls : List Call} (hfits : ∀ call ∈ calls, g.fits call = true)
    (hkeep : ∀ call ∈ calls, keep call = false → g.side call = some false) :
    List.Forall₂ g.Same (g.entries x calls) (g.entries y (calls.filter keep)) ∧
      g.Alike (x.run calls).1 (y.run (calls.filter keep)).1 := by
  induction calls generalizing x y with
  | nil => exact ⟨.nil, h⟩
  | cons call calls ih =>
    have hf := hfits call List.mem_cons_self
    have hx' := hx.step hf
    have hrest : ∀ {x' y' : Client}, g.Alike x' y' → g.Settled x' → g.Settled y' → _ :=
      fun h' hx' hy' => ih h' hx' hy' (fun a ha => hfits a (List.mem_cons_of_mem _ ha))
        fun a ha => hkeep a (List.mem_cons_of_mem _ ha)
    by_cases hs : g.side call = some false
    · -- A call on the other group changes neither client for the group, kept or not.
      have halone := (alike_step hx hf hs).symm.trans h
      rw [entries_cons_of_other hs]
      cases hk : keep call with
      | false =>
        rw [List.filter_cons_of_neg (Bool.eq_false_iff.mp hk)]
        exact hrest halone hx' hy
      | true =>
        rw [List.filter_cons_of_pos hk, entries_cons_of_other hs]
        exact hrest (halone.trans (alike_step hy hf hs)) hx' (hy.step hf)
    · have hk : keep call = true :=
        eq_true_of_ne_false fun hn => hs (hkeep call List.mem_cons_self hn)
      have hstep := h.step hx hy hf hs
      rw [List.filter_cons_of_pos hk, entries_cons hs, entries_cons hs]
      obtain ⟨hsame, hfinal⟩ := hrest hstep.tandem.toAlike hx' (hy.step hf)
      exact ⟨.cons (h.same hstep) hsame, hfinal⟩

/-- Take any run whose calls keep to two groups of connections, each with transports, durable
subscriptions, sessions and consumers of its own. Registries of client IDs may be used by both if
each group claims IDs of its own, factories may be, and so may listeners that close nothing. Then
any calls on one of the groups can be left out of the run, all of them for instance, and the other
group cannot tell: each of its calls finds the same connections, sessions, consumers, transports and
durable names of the group, leaves the same, gives the same answer and lets listeners of the group
hear the same, and so the group is the same in the end. -/
theorem groups_do_not_interfere (g : Split) (calls : List Call) (keep : Call → Bool)
    (hfits : ∀ call ∈ calls, g.fits call = true)
    (hkeep : ∀ call ∈ calls, keep call = false → g.side call = some false) :
    List.Forall₂ g.Same (g.entries initial calls) (g.entries initial (calls.filter keep)) ∧
      g.Alike (initial.run calls).1 (initial.run (calls.filter keep)).1 :=
  (Alike.refl g initial).run settled_initial settled_initial hfits hkeep

/-- Whatever has an even index is of one group, and the first listener, the first factory and its
registry are of both. -/
def byParity : Split where
  connection c := c.index % 2 == 0
  transport t := t.index % 2 == 0
  subscriptions d := d.index % 2 == 0
  session s := s.index % 2 == 0
  consumer k := k.index % 2 == 0
  recorder h := h.index % 2 == 0
  listener l := if l.index = 0 then none else some (l.index % 2 == 0)
  clientId _ id := id == "even"
  tag tag := tag == Consumer.tagOf "even"
  registry _ := ⟨0⟩
  factory _ := ⟨0⟩

/-- Two connections of a factory subscribe under one name and are shut down, in turn. -/
def interleavedCalls : List Call :=
  [.makeRegistry ⟨0⟩, .makeFactory ⟨0⟩ {} .loopback ⟨0⟩, .makeListener ⟨0⟩ none,
    .connect ⟨0⟩ ⟨0⟩ ⟨0⟩ ⟨0⟩, .connect ⟨0⟩ ⟨1⟩ ⟨1⟩ ⟨1⟩, .setClientId ⟨1⟩ "odd",
    .setClientId ⟨0⟩ "even", .setExceptionListener ⟨1⟩ (some ⟨0⟩),
    .setExceptionListener ⟨0⟩ (some ⟨0⟩), .createSession .plain ⟨1⟩ ⟨1⟩ false .autoAcknowledge,
    .createSession .plain ⟨0⟩ ⟨0⟩ false .autoAcknowledge,
    .createDurable ⟨1⟩ ⟨1⟩ "odd" (.topic "prices") "feed" none,
    .createDurable ⟨0⟩ ⟨0⟩ "even" (.topic "prices") "feed" none, .signal ⟨1⟩ "over",
    .signal ⟨0⟩ "over", .close ⟨1⟩, .unsubscribe ⟨0⟩ "feed"]

/-- The listener of both connections hears of the other one only where that is left in. -/
theorem groups_do_not_interfere_shared :
    let keep := fun call => byParity.side call != some false
    let alone := interleavedCalls.filter keep
    (∀ call ∈ interleavedCalls, byParity.fits call = true) ∧
      (∀ call ∈ interleavedCalls, keep call = false → byParity.side call = some false) ∧
      alone.length = 10 ∧
      ((initial.run interleavedCalls).1.listener ⟨0⟩).notices.length = 2 ∧
      ((initial.run alone).1.listener ⟨0⟩).notices.length = 1 ∧
      List.Forall₂ byParity.Same (byParity.entries initial interleavedCalls)
        (byParity.entries initial alone) ∧
      byParity.Alike (initial.run interleavedCalls).1 (initial.run alone).1 := by
  intro keep alone
  have hfits : ∀ call ∈ interleavedCalls, byParity.fits call = true := by decide
  have hkeep : ∀ call ∈ interleavedCalls,
      keep call = false → byParity.side call = some false := by
    intro call _ hk
    exact bne_eq_false_iff_eq.mp hk
  refine ⟨hfits, hkeep, by decide, by decide, by decide, ?_⟩
  exact groups_do_not_interfere byParity interleavedCalls keep hfits hkeep

end Split

end BrokerClient
