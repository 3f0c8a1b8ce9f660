import BrokerClient.Error
import BrokerClient.Identity

/-!
# Exception listeners

A listener of a connection hears of what the broker does outside of any call, and may then close a
connection. It keeps what it heard and what came of that close.
-/

namespace BrokerClient

/-- What a listener keeps. -/
inductive Notice where
  | raised (error : MessagingError)
  /-- The listener closed its connection. -/
  | closed
  deriving DecidableEq, Repr

structure Listener where
  /-- The connection that the listener closes when it hears of an error. -/
  closes : Option ConnectionId
  /-- The oldest notice comes first. -/
  notices : List Notice
  deriving DecidableEq, Repr

namespace Listener

/-- What stands for a listener that does not exist. -/
def absent : Listener := ⟨none, []⟩

instance : Inhabited Listener := ⟨absent⟩

def hear (l : Listener) (n : Notice) : Listener := { l with notices := l.notices ++ [n] }

end Listener

/-- What a listener keeps of a close. -/
def Notice.ofClose : Except MessagingError Unit → Notice
  | .ok () => closed
  | .error e => raised e

end BrokerClient
