/-!
# Durations

A span of time in whole seconds and nanoseconds, each within its bounds.
-/

namespace BrokerClient

def wordBound : Nat := Nat.pow 2 64
def nanosPerSecond : Nat := 1000000000

structure Duration where
  seconds : Nat
  nanos : Nat
  seconds_lt : seconds < wordBound := by decide
  nanos_lt : nanos < nanosPerSecond := by decide
  deriving DecidableEq, Repr

namespace Duration

def zero : Duration := ⟨0, 0, by decide, by decide⟩

/-- A duration from counts that must be in bounds. -/
def ofParts? (seconds nanos : Nat) : Option Duration :=
  if h : seconds < wordBound ∧ nanos < nanosPerSecond then some ⟨seconds, nanos, h.1, h.2⟩ else none

def isZero (d : Duration) : Bool :=
  d.seconds == 0 && d.nanos == 0

/-- Adds seconds and a 64-bit count of nanoseconds, if the sum stays in bounds. -/
def add? (d : Duration) (seconds nanos : Nat) : Option Duration :=
  let n := d.nanos + nanos
  if n < wordBound then
    ofParts? (d.seconds + seconds + n / nanosPerSecond) (n % nanosPerSecond)
  else none

end Duration

end BrokerClient
