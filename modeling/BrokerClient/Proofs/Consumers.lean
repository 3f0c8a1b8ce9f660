import BrokerClient.Proofs.Client.Creating

/-!
# Consumers of sessions

A session lists the consumers that it made and that are still open, in the order in which it made
them. Closing goes down: what is open belongs to something open, and nothing that is closed opens
again.
-/

namespace BrokerClient.Client

variable {cl : Client}

/-- A closed session stays closed and gets no consumers, whatever calls follow. -/
theorem session_closed_run (h : Sound cl) {s : SessionId} (hs : cl.sessions.has s = true)
    (hcl : (cl.session s).closed = true) (calls : List Call) :
    ((cl.run calls).1.session s).closed = true ∧ ((cl.run calls).1.session s).consumers = [] := by
  have hlater := ((continues_run h calls).session s hs).closed hcl
  exact ⟨hlater, (h.run calls).bare s hlater⟩

/-- A closed consumer stays closed, whatever calls follow. -/
theorem consumer_closed_run (h : Sound cl) {k : ConsumerId} (hk : cl.consumers.has k = true)
    (hcl : cl.isOpen k = false) (calls : List Call) : (cl.run calls).1.isOpen k = false := by
  rw [isOpen, Bool.not_eq_false'] at hcl ⊢
  exact ((continues_run h calls).consumer k hk).closed hcl

/-- In every reachable state each session lists exactly the consumers that its calls made and that
are not yet closed, in the order of the calls. An open consumer is one that an open session made,
and an open session one that an open connection made. A session that is closed has no consumers and
stays closed, and so does a consumer, whatever calls follow. -/
theorem consumers_exact (calls : List Call) :
    let cl := (initial.run calls).1
    (∀ s,
      let made := (initial.history calls).filterMap (madeConsumer s)
      (cl.session s).consumers = made.filter cl.isOpen ∧
        (cl.session s).consumers.length = made.countP cl.isOpen) ∧
    (∀ k, cl.isOpen k = true →
      let s := (cl.consumer k).session
      k ∈ (initial.history calls).filterMap (madeConsumer s) ∧ (cl.session s).closed = false) ∧
    (∀ s, (cl.session s).closed = false →
      let c := (cl.session s).connection
      s ∈ (initial.history calls).filterMap (madeSession c) ∧
        (cl.connection c).closed = false) ∧
    ∀ later,
      let after := (cl.run later).1
      (∀ s, cl.sessions.has s = true → (cl.session s).closed = true →
        (after.session s).closed = true ∧ (after.session s).consumers = []) ∧
      ∀ k, cl.consumers.has k = true → cl.isOpen k = false → after.isOpen k = false := by
  intro cl
  have hreach : Reachable (fun _ => True) cl := Reachable.initial.run calls fun _ _ => trivial
  have hsound : Sound cl := hreach.sound
  refine ⟨fun s => ?_, fun k ho => ?_, fun s ho => ?_, fun later => ⟨?_, ?_⟩⟩
  · have hlist : (cl.session s).consumers = (cl.consumersOf s).filter cl.isOpen :=
      hreach.inOrder.consumers_eq hsound.toWellFormed s
    rw [consumersOf_run] at hlist
    refine ⟨hlist, ?_⟩
    rw [hlist, List.countP_eq_length_filter]
  · have hopen : (cl.consumer k).closed = false := (Bool.not_eq_true' _).mp ho
    refine ⟨?_, hsound.session_open hopen⟩
    rw [← consumersOf_run]
    exact mem_consumersOf.mpr ⟨has_consumer hopen, rfl⟩
  · refine ⟨?_, hsound.connection_open ho⟩
    rw [← sessionsOf_run]
    exact mem_sessionsOf.mpr ⟨has_session ho, rfl⟩
  · exact fun s hs hcl => session_closed_run hsound hs hcl later
  · exact fun k hk hcl => consumer_closed_run hsound hk hcl later

/-- A session makes three consumers, one of them for a durable subscription. The first one is
closed, and a second subscriber to the same name is refused. -/
def consumingCalls : List Call :=
  [.makeRegistry ⟨0⟩, .makeSubscriptions ⟨0⟩, .openTransport ⟨0⟩,
    .openConnection ⟨0⟩ ⟨0⟩ ⟨0⟩ ⟨0⟩ false,
    .createSession .plain ⟨0⟩ ⟨0⟩ false .autoAcknowledge,
    .createConsumer ⟨0⟩ ⟨0⟩ "a" (.queue "q") none,
    .createDurable ⟨0⟩ ⟨1⟩ "b" (.topic "t") "n" none,
    .createDurable ⟨0⟩ ⟨2⟩ "c" (.topic "t") "n" none,
    .createConsumer ⟨0⟩ ⟨3⟩ "d" (.queue "q") none,
    .closeConsumer ⟨0⟩]

/-- The same, with the connection closed and another consumer asked for. -/
def consumedCalls : List Call :=
  [.close ⟨0⟩, .createConsumer ⟨0⟩ ⟨4⟩ "e" (.queue "q") none]

theorem consumers_exact_refused :
    let cl := (initial.run consumingCalls).1
    (cl.session ⟨0⟩).consumers = [⟨1⟩, ⟨3⟩] ∧ (cl.session ⟨0⟩).closed = false ∧
      (cl.connection ⟨0⟩).closed = false ∧
      let closed := (initial.run (consumingCalls ++ consumedCalls)).1
      ((closed.run consumedCalls).1.session ⟨0⟩).consumers = [] ∧
        (closed.run consumedCalls).1.isOpen ⟨3⟩ = false := by
  have hopen := consumers_exact consumingCalls
  have hclosed := (consumers_exact (consumingCalls ++ consumedCalls)).2.2.2 consumedCalls
  refine ⟨(hopen.1 ⟨0⟩).1.trans (by decide), ?_, ?_, ?_, ?_⟩
  · exact (hopen.2.1 ⟨3⟩ (by decide)).2
  · exact (hopen.2.2.1 ⟨0⟩ (by decide)).2
  · exact (hclosed.1 ⟨0⟩ (by decide) (by decide)).2
  · exact hclosed.2 ⟨3⟩ (by decide) (by decide)

end BrokerClient.Client
