import BrokerClient.AcknowledgeMode
import BrokerClient.Duration.Basic
import BrokerClient.Event
import BrokerClient.Identity
import BrokerClient.Trust

/-!
# Sessions

A context of a connection in which messages are produced and consumed. The policy on payloads and
the termination timeout are those that the connection had when the session was made.
-/

namespace BrokerClient

structure Session where
  connection : ConnectionId
  /-- The place among the sessions that the connection ever made, from 1. -/
  number : Nat
  transacted : Bool
  mode : AcknowledgeMode
  subscriptions : SubscriptionsId
  trusted : TrustedPackages
  terminationTimeout : Duration
  closed : Bool
  /-- Nothing is delivered to the consumers. -/
  paused : Bool
  pauses : Nat
  resumes : Nat
  /-- The open consumers, in the order in which they were made. -/
  consumers : List ConsumerId
  deriving DecidableEq, Repr

namespace Session

/-- What stands for a session that does not exist. -/
def absent : Session where
  connection := ⟨0⟩
  number := 0
  transacted := false
  mode := .autoAcknowledge
  subscriptions := ⟨0⟩
  trusted := ⟨[]⟩
  terminationTimeout := .zero
  closed := true
  paused := true
  pauses := 0
  resumes := 0
  consumers := []

instance : Inhabited Session := ⟨absent⟩

def delivers (s : Session) : Bool := !s.paused && !s.closed
def pause (s : Session) : Session := { s with paused := true, pauses := s.pauses + 1 }
def resume (s : Session) : Session := { s with paused := false, resumes := s.resumes + 1 }

/-- A session in one line, for a log. -/
def describe (s : Session) : String :=
  "Session \x7b id: " ++ Text.ofNat s.number ++ ", transacted: " ++ Event.truth s.transacted
    ++ ", acknowledge_mode: " ++ s.mode.label ++ ", closed: " ++ Event.truth s.closed
    ++ ", paused: " ++ Event.truth s.paused ++ ", .. \x7d"

end Session

end BrokerClient
