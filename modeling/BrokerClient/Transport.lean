import BrokerClient.Error
import BrokerClient.Identity

/-!
# Transports

A transport with no broker behind it. Its next close can be made to fail, and a shutdown by the
broker can be signalled, which reaches the hooks registered until then. A transport is open until it
is first closed or shut down, and never again.
-/

namespace BrokerClient

/-- Who is told when the broker shuts a transport down. -/
inductive ShutdownHook where
  | connection (id : ConnectionId)
  | recorder (id : RecorderId)
  deriving DecidableEq, Repr

structure Transport where
  closed : Bool
  /-- What the next close fails with. -/
  pendingFailure : Option TransportError
  hooks : List ShutdownHook
  closeCalls : Nat
  deriving DecidableEq, Repr

namespace Transport

def fresh : Transport := ⟨false, none, [], 0⟩

/-- What stands for a transport that does not exist. -/
def absent : Transport := { fresh with closed := true }

instance : Inhabited Transport := ⟨absent⟩

def failNextClose (t : Transport) (failure : TransportError) : Transport :=
  { t with pendingFailure := some failure }

/-- Adds a hook behind those registered before. -/
def onShutdown (t : Transport) (hook : ShutdownHook) : Transport :=
  { t with hooks := t.hooks ++ [hook] }

/-- Closes the transport. A failure that was set for this close is used up, whether or not the
transport was open. -/
def close (t : Transport) : Transport × Except TransportError Unit :=
  let after := { t with closed := true, pendingFailure := none, closeCalls := t.closeCalls + 1 }
  match t.pendingFailure with
  | some failure => (after, .error failure)
  | none => if t.closed then (after, .error .alreadyClosed) else (after, .ok ())

/-- The broker shuts the transport down. The hooks to run come with it: none if it was down. -/
def signalShutdown (t : Transport) : Transport × List ShutdownHook :=
  if t.closed then (t, []) else ({ t with closed := true }, t.hooks)

end Transport

end BrokerClient
