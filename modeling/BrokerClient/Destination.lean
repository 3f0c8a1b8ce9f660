import BrokerClient.Json.Decode

/-!
# Destinations

Where messages are sent to and consumed from.
-/

namespace BrokerClient

inductive Destination where
  | queue (name : String)
  | topic (name : String)
  deriving DecidableEq, Repr

namespace Destination

def name : Destination → String
  | queue n => n
  | topic n => n

def isTopic : Destination → Bool
  | queue _ => false
  | topic _ => true

def kind : Destination → String
  | queue _ => "queue"
  | topic _ => "topic"

def display (d : Destination) : String :=
  d.kind ++ "://" ++ d.name

def ofKind? (kind name : String) : Option Destination :=
  if kind = "queue" then some (queue name)
  else if kind = "topic" then some (topic name)
  else none

/-- Reads a destination from JSON. In an array its kind must be a string. -/
def ofJson? (s : Json.Syntax) : Option Destination := do
  let fields ← s.fields? ["kind", "name"]
  match fields with
  | [some kind, some name] => do
    let k ← if s.isArray then kind.text? else kind.choice?
    let n ← name.text?
    ofKind? k n
  | _ => none

def toJson (d : Destination) : Json.Value :=
  .object [("kind", .string d.kind), ("name", .string d.name)]

end Destination

end BrokerClient
