import BrokerClient.Proofs.Client.Creating
import BrokerClient.Proofs.Registration.Gauges
import BrokerClient.Proofs.Registration.Numbers

/-!
# Registered sessions

A connection has registered the sessions that it made and that are still open, in the order in which
it made them, under the numbers that it counts them by. The gauges agree with what is registered.
-/

namespace BrokerClient.Client

variable {cl : Client}

/-- A connection numbers the sessions that it made from 1 on. -/
theorem Numbered.sessionsOf (h : Numbered cl) (c : ConnectionId) :
    (cl.sessionsOf c).map (fun s => (cl.session s).number) =
      List.range' 1 (cl.sessionsOf c).length := by
  have hlength := congrArg List.length (h c).2
  rw [List.length_map, List.length_range'] at hlength
  rw [hlength]
  exact (h c).2

/-- Numbers grow along a list of registered sessions. -/
theorem Numbered.increasing (h : Numbered cl) (ho : InOrder cl) (hw : WellFormed cl)
    (c : ConnectionId) :
    ((cl.connection c).sessions.map fun s => (cl.session s).number).Pairwise (· < ·) := by
  have hsub : ((cl.connection c).sessions.map fun s => (cl.session s).number).Sublist
      (List.range' 1 (cl.sessionsOf c).length) := by
    rw [← h.sessionsOf c, ho.sessions_eq hw c]
    exact List.filter_sublist.map _
  exact List.Pairwise.sublist hsub List.pairwise_lt_range'

/-- In every reachable state each connection has registered exactly the sessions that its calls made
and that are not yet closed, in the order of the calls and of their numbers, and none if it is
closed. The sessions that its calls made are numbered 1, 2, 3, and so on. A session is open exactly
if its connection has it registered. The gauge of sessions shows how many sessions are open, which
is how many all connections have registered, and the gauge of connections how many of the
connections that calls made are open, so neither is negative. -/
theorem registration_exact (calls : List Call) :
    let cl := (initial.run calls).1
    let opened := (initial.history calls).filterMap madeConnection
    (∀ c,
      let made := (initial.history calls).filterMap (madeSession c)
      (cl.connection c).sessions = made.filter (fun s => !(cl.session s).closed) ∧
        ((cl.connection c).sessions.map fun s => (cl.session s).number).Pairwise (· < ·) ∧
        ((cl.connection c).closed = true → (cl.connection c).sessions = []) ∧
        made.map (fun s => (cl.session s).number) = List.range' 1 made.length) ∧
    (∀ s, (cl.session s).closed = false ↔
      s ∈ (cl.connection (cl.session s).connection).sessions) ∧
    cl.metrics.openSessions =
      (cl.sessions.keys.countP fun s => !(cl.session s).closed : Nat) ∧
    cl.metrics.openSessions =
      ((opened.map fun c => (cl.connection c).sessions.length).sum : Nat) ∧
    cl.metrics.openConnections = (opened.countP fun c => !(cl.connection c).closed : Nat) ∧
    0 ≤ cl.metrics.openSessions ∧ 0 ≤ cl.metrics.openConnections := by
  intro cl opened
  have hreach : Reachable (fun _ => True) cl := Reachable.initial.run calls fun _ _ => trivial
  have hsound : Sound cl := hreach.sound
  have hgauges : GaugesAgree cl := hreach.gaugesAgree
  have hopened : cl.connections.keys = opened := connections_run calls
  have hsum := hsound.sum_sessions
  rw [hopened] at hsum
  refine ⟨fun c => ?_, fun s => ?_, hgauges.sessions, ?_, ?_, ?_, ?_⟩
  · have hmade : cl.sessionsOf c = _ := sessionsOf_run calls c
    have hlist := hreach.inOrder.sessions_eq hsound.toWellFormed c
    have hnums := hreach.numbered.sessionsOf c
    rw [hmade] at hlist hnums
    exact ⟨hlist, hreach.numbered.increasing hreach.inOrder hsound.toWellFormed c,
      hsound.closed_bare c, hnums⟩
  · rw [hsound.mem_sessions_iff]
    exact (and_iff_left rfl).symm
  · rw [hsum]
    exact hgauges.sessions
  · rw [← hopened]
    exact hgauges.connections
  · rw [hgauges.sessions]
    exact Int.natCast_nonneg _
  · rw [hgauges.connections]
    exact Int.natCast_nonneg _

/-- Two connections make sessions. One session is closed twice, then one connection is, and asked
for another session, which it does not make. -/
def registeringCalls : List Call :=
  [.makeRegistry ⟨0⟩, .makeSubscriptions ⟨0⟩, .openTransport ⟨0⟩, .openTransport ⟨1⟩,
    .openConnection ⟨0⟩ ⟨0⟩ ⟨0⟩ ⟨0⟩ false, .openConnection ⟨1⟩ ⟨1⟩ ⟨0⟩ ⟨0⟩ false,
    .createSession .plain ⟨0⟩ ⟨0⟩ false .autoAcknowledge,
    .createSession .plain ⟨1⟩ ⟨1⟩ false .autoAcknowledge,
    .createSession .queue ⟨0⟩ ⟨2⟩ true .autoAcknowledge,
    .closeSession ⟨0⟩, .closeSession ⟨0⟩,
    .createSession .topic ⟨0⟩ ⟨3⟩ false .dupsOkAcknowledge,
    .close ⟨1⟩, .createSession .plain ⟨1⟩ ⟨4⟩ false .autoAcknowledge]

theorem registration_exact_closing :
    let cl := (initial.run registeringCalls).1
    (cl.connection ⟨0⟩).sessions = [⟨2⟩, ⟨3⟩] ∧ (cl.connection ⟨1⟩).sessions = [] ∧
      cl.metrics.openSessions = 2 ∧ cl.metrics.openConnections = 1 := by
  have h := registration_exact registeringCalls
  refine ⟨(h.1 ⟨0⟩).1.trans (by decide), ?_, h.2.2.1.trans (by decide), ?_⟩
  · exact (h.1 ⟨1⟩).2.2.1 (by decide)
  · exact h.2.2.2.2.1.trans (by decide)

end BrokerClient.Client
