import BrokerClient.Number.Binary64

/-!
# TOML values

What stands to the right of an equals sign, and the tables that a document builds from them.
-/

namespace BrokerClient.Toml

/-- A TOML value. Of a date or time only its presence is kept. -/
inductive Value where
  | string (value : String)
  | integer (value : Int)
  /-- A decimal, or `none` if it is too large for a binary value. -/
  | float (value : Option Number.Binary64)
  /-- An infinity or a value that is no number. -/
  | nonFinite
  | bool (value : Bool)
  | moment
  | array (items : List Value)
  | table (entries : List (String × Value))
  deriving Repr

mutual

/-- The numbers in a value are in range: integers fit 128 bits and decimals are not too large. -/
def Value.inRange : Value → Bool
  | .integer i => -Int.pow 2 127 ≤ i && i < Int.pow 2 128
  | .float x => x.isSome
  | .array items => itemsInRange items
  | .table entries => entriesInRange entries
  | _ => true

def itemsInRange : List Value → Bool
  | [] => true
  | v :: vs => v.inRange && itemsInRange vs

def entriesInRange : List (String × Value) → Bool
  | [] => true
  | (_, v) :: es => v.inRange && entriesInRange es

end

end BrokerClient.Toml
