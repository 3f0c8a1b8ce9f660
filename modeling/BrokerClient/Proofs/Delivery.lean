import BrokerClient.Proofs.Delivery.InStep
import BrokerClient.Proofs.Delivery.Told

/-!
# Delivery

How often a session was told to pause and to resume, and which came last, is a matter of the calls
since it was made and of what they found.
-/

namespace BrokerClient.Client

/-- A session that a connection makes is told to pause once by each stop that finds the connection
open and started and the session open, and once by each direct pause, and to resume alike. It is
paused if that is what it was told last or, if it was told nothing, if it was made while the
connection was stopped. Without direct pauses, every open session is paused exactly if its
connection is stopped. -/
theorem delivery_exact :
    (∀ cl, Reachable (fun _ => True) cl → ∀ kind c s transacted mode made,
      cl.step (.createSession kind c s transacted mode) = (made, .done) → ∀ calls,
      ((made.run calls).1.session s).pauses =
        (made.history calls).countP (turns c s true) + calls.count (.pause s) ∧
      ((made.run calls).1.session s).resumes =
        (made.history calls).countP (turns c s false) + calls.count (.resume s) ∧
      ((made.run calls).1.session s).paused =
        ((made.history calls).filterMap (direction c s)).getLast?.getD
          (cl.connection c).stopped) ∧
    ∀ cl, Reachable (fun call => call.isOnDelivery = false) cl → ∀ s,
      (cl.session s).closed = false →
      (cl.session s).paused = (cl.connection (cl.session s).connection).stopped := by
  refine ⟨?_, fun cl h => h.inStep⟩
  intro cl h kind c s transacted mode made hmade calls
  obtain ⟨hs, hconn, hfresh⟩ := session_created hmade
  have hsound : Sound made := by
    have hc : Changes (fun _ => True) cl (cl.step (.createSession kind c s transacted mode)).1 :=
      changes_step h.sound trivial
    rw [hmade] at hc
    exact h.sound.changes hc
  have htold := fun b => timesTold_run hsound hs calls b
  have hpaused := paused_run hsound hs calls
  rw [hconn] at hpaused
  refine ⟨?_, ?_, ?_⟩
  · have h₀ : (made.session s).pauses = 0 := (congrArg (fun d => d.2.1) hfresh :)
    have ht : ((made.run calls).1.session s).pauses = (made.session s).pauses + _ := htold true
    rw [h₀, hconn, Nat.zero_add] at ht
    exact ht
  · have h₀ : (made.session s).resumes = 0 := (congrArg (fun d => d.2.2) hfresh :)
    have ht : ((made.run calls).1.session s).resumes = (made.session s).resumes + _ := htold false
    rw [h₀, hconn, Nat.zero_add] at ht
    exact ht
  · have h₀ : (made.session s).paused = (cl.connection c).stopped := congrArg Prod.fst hfresh
    rw [← h₀]
    exact hpaused

def openingCalls : List Call :=
  [.makeRegistry ⟨0⟩, .makeSubscriptions ⟨0⟩, .openTransport ⟨0⟩,
    .openConnection ⟨0⟩ ⟨0⟩ ⟨0⟩ ⟨0⟩ false]

def sessionMade : Client :=
  ((initial.run openingCalls).1.step (.createSession .plain ⟨0⟩ ⟨0⟩ false .autoAcknowledge)).1

/-- A connection is started, stopped twice and started again, with a direct pause in between. -/
def switchingCalls : List Call :=
  [.start ⟨0⟩, .stop ⟨0⟩, .stop ⟨0⟩, .pause ⟨0⟩, .start ⟨0⟩]

theorem delivery_exact_switching :
    Reachable (fun _ => True) (initial.run openingCalls).1 ∧
      ((sessionMade.run switchingCalls).1.session ⟨0⟩).pauses = 2 ∧
      Reachable (fun call => call.isOnDelivery = false) sessionMade ∧
      (sessionMade.session ⟨0⟩).paused = true := by
  have h : ∀ allowed, (∀ call ∈ openingCalls, allowed call) →
      Reachable allowed (initial.run openingCalls).1 := fun allowed ha =>
    Reachable.initial.run openingCalls ha
  have hmade : (initial.run openingCalls).1.step
      (.createSession .plain ⟨0⟩ ⟨0⟩ false .autoAcknowledge) = (sessionMade, .done) := by
    rfl
  have hstep : Reachable (fun call => call.isOnDelivery = false) sessionMade :=
    .step (h _ (by decide)) rfl
  have htrue : Reachable (fun _ => True) (initial.run openingCalls).1 := h _ fun _ _ => trivial
  have hp := (delivery_exact.1 _ htrue .plain ⟨0⟩ ⟨0⟩ false .autoAcknowledge sessionMade hmade
    switchingCalls).1
  refine ⟨htrue, hp.trans (by decide), hstep, ?_⟩
  exact (delivery_exact.2 sessionMade hstep ⟨0⟩ (by decide)).trans (by decide)

end BrokerClient.Client
