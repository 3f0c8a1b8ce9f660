import BrokerClient.Client.Opening

/-!
# Delivery

Starting and stopping a connection resumes and pauses its registered sessions, once per change.
Consumers receive messages while their session delivers, and wait for it otherwise.
-/

namespace BrokerClient.Client

def pause (cl : Client) (s : SessionId) : Client :=
  (cl.onSession s Session.pause).note (.sessionPaused (cl.session s).number)

def resume (cl : Client) (s : SessionId) : Client :=
  (cl.onSession s Session.resume).note (.sessionResumed (cl.session s).number)

def start (cl : Client) (c : ConnectionId) : Client × Except MessagingError Unit :=
  let cl := cl.foreclose c
  cl.ifOpen c fun () =>
    if (cl.connection c).stopped then
      let cl := cl.onConnection c fun x => { x with stopped := false }
      (((cl.connection c).sessions.foldl resume cl).note .connectionStarted, .ok ())
    else (cl, .ok ())

def stop (cl : Client) (c : ConnectionId) : Client × Except MessagingError Unit :=
  let cl := cl.foreclose c
  cl.ifOpen c fun () =>
    if (cl.connection c).stopped then (cl, .ok ())
    else
      let cl := cl.onConnection c fun x => { x with stopped := true }
      (((cl.connection c).sessions.foldl pause cl).note .connectionStopped, .ok ())

def delivers (cl : Client) (k : ConsumerId) : Bool :=
  cl.isOpen k && (cl.session (cl.consumer k).session).delivers

/-- A wait for delivery, with what came of it once it is over. -/
structure DeliveryWait where
  session : SessionId
  outcome : Option Bool
  deriving DecidableEq, Repr

/-- Looks at the session of a wait, which is over as soon as the session delivers or is closed. -/
def DeliveryWait.observe (w : DeliveryWait) (cl : Client) : DeliveryWait :=
  let x := cl.session w.session
  if w.outcome.isNone && (x.delivers || x.closed) then { w with outcome := some x.delivers } else w

/-- What a wait comes to if it ends now. -/
def DeliveryWait.result (w : DeliveryWait) : Bool := w.outcome.getD false

def awaitSession (cl : Client) (s : SessionId) : DeliveryWait :=
  DeliveryWait.observe ⟨s, none⟩ cl

/-- Begins a wait for the session of a consumer. A closed consumer does not wait. -/
def awaitConsumer (cl : Client) (k : ConsumerId) : DeliveryWait :=
  if cl.isOpen k then cl.awaitSession (cl.consumer k).session
  else ⟨(cl.consumer k).session, some false⟩

end BrokerClient.Client
