import BrokerClient.Client.Closing

/-!
# Shutdown by the broker

When the broker shuts a transport down, the hooks on it run in the order of their registration, with
the transport already closed. The hook of a connection tells its exception listener, unless the
connection is closed.
-/

namespace BrokerClient.Client

/-- A listener closes the connection that it is meant to close, if somebody refers to that. -/
def closeOnNotice (cl : Client) (l : ListenerId) : Client :=
  match (cl.listener l).closes with
  | none => cl
  | some c =>
    if (cl.connection c).isReferred then
      let (cl, result) := cl.close c
      cl.onListener l fun x => x.hear (.ofClose result)
    else cl

def notify (cl : Client) (l : ListenerId) (error : MessagingError) : Client :=
  (cl.onListener l fun x => x.hear (.raised error)).closeOnNotice l

/-- What an exception listener hears of a shutdown. -/
def shutdownError (cause : TransportError) : MessagingError :=
  .transport ⟨.connectionAborted, some cause.message⟩

/-- A connection learns that its transport was shut down. -/
def transportShutDown (cl : Client) (c : ConnectionId) (cause : TransportError) : Client :=
  let cl := cl.count Metrics.shutDown
  if (cl.connection c).closed then cl.note (.shutdownIgnored cause)
  else
    let cl := cl.note (.shutdownReceived cause)
    match (cl.connection c).listener with
    | none => cl
    | some l => cl.notify l (shutdownError cause)

/-- Runs a hook. That of a connection nobody refers to does nothing. -/
def runHook (cause : TransportError) (cl : Client) : ShutdownHook → Client
  | .connection c => if (cl.connection c).isReferred then cl.transportShutDown c cause else cl
  | .recorder h => cl.record h cause

/-- The broker shuts a transport down. Nothing happens if the transport is closed. -/
def signal (cl : Client) (t : TransportId) (reason : String) : Client :=
  let x := cl.transport t
  if x.closed then cl
  else
    let cl := cl.onTransport t fun x => x.signalShutdown.1
    let cl := cl.note (.loopbackShutDown reason)
    x.signalShutdown.2.foldl (runHook (.shutdownSignal reason)) cl

def addRecorder (cl : Client) (t : TransportId) (h : RecorderId) : Client :=
  { cl with recorders := cl.recorders.insert h [] }.onTransport t fun x =>
    x.onShutdown (.recorder h)

end BrokerClient.Client
