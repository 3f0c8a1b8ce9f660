import BrokerClient.Identity
import BrokerClient.Table

/-!
# Durable subscriptions

Which consumer each durable subscription is bound to. A subscription outlives its consumer: the
binding to a closed consumer stays until another consumer takes it over or the subscription is
removed. Whether a consumer is open is not known here and comes as a test.
-/

namespace BrokerClient

/-- Durable subscriptions by name. -/
structure DurableSubscriptions where
  bindings : Table String ConsumerId
  deriving DecidableEq, Repr

/-- What an attempt to bind a consumer comes to. -/
inductive Binding where
  | bound (subscriptions : DurableSubscriptions)
  | rebound (subscriptions : DurableSubscriptions)
  | refused (holder : ConsumerId)
  deriving DecidableEq, Repr

namespace DurableSubscriptions

def empty : DurableSubscriptions := ⟨.empty⟩

instance : Inhabited DurableSubscriptions := ⟨empty⟩

def get? (d : DurableSubscriptions) (name : String) : Option ConsumerId := d.bindings.get? name
def contains (d : DurableSubscriptions) (name : String) : Bool := d.bindings.has name
def names (d : DurableSubscriptions) : List String := d.bindings.keys
def size (d : DurableSubscriptions) : Nat := d.bindings.size

def active? (d : DurableSubscriptions) (isOpen : ConsumerId → Bool) (name : String) :
    Option ConsumerId :=
  (d.get? name).filter isOpen

/-- Binds a consumer to a name, unless an open consumer has it. -/
def bind (d : DurableSubscriptions) (isOpen : ConsumerId → Bool) (name : String)
    (consumer : ConsumerId) : Binding :=
  match d.get? name with
  | none => .bound ⟨d.bindings.insert name consumer⟩
  | some holder =>
    if isOpen holder then .refused holder
    else .rebound ⟨d.bindings.modify name fun _ => consumer⟩

/-- Removes the subscription of a name. -/
def remove (d : DurableSubscriptions) (name : String) : DurableSubscriptions :=
  ⟨d.bindings.erase name⟩

end DurableSubscriptions

end BrokerClient
