import BrokerClient.Client.Closing

/-!
# Referring to connections

A connection lives while a name or a guard refers to it. When the last reference goes, an open
connection is closed, and its errors only reach the log. A guard closes its connection when it goes,
whoever else refers to that, unless it was released.
-/

namespace BrokerClient.Client

def share (cl : Client) (c : ConnectionId) : Client :=
  cl.onConnection c fun x => { x with handles := x.handles + 1 }

/-- Closes a connection that nobody refers to any more. -/
def closeDropped (cl : Client) (c : ConnectionId) : Client :=
  if (cl.connection c).closed then cl
  else
    match (cl.note .connectionDropped).close c with
    | (cl, .ok ()) => cl
    | (cl, .error e) => cl.note (.dropCloseFailed e)

/-- Gives up one reference to a connection. -/
def drop (cl : Client) (c : ConnectionId) : Client :=
  let cl := cl.onConnection c fun x => { x with handles := x.handles - 1 }
  if (cl.connection c).isReferred then cl else cl.closeDropped c

/-- A guard goes, and with it its reference. -/
def dropGuard (cl : Client) (c : ConnectionId) : Client :=
  match cl.close c with
  | (cl, .ok ()) => cl.drop c
  | (cl, .error e) => (cl.note (.guardCloseFailed e)).drop c

/-- A guard hands its reference on. -/
def releaseGuard (cl : Client) : Client := cl.note .guardReleased

end BrokerClient.Client
