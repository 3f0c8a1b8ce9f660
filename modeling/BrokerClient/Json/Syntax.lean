/-!
# The syntax of a JSON text

What a reader learns from a JSON text before anybody has said which type it should have. String
literals keep their escapes and numerals their digits, because what is acceptable in them depends on
the type that is read.
-/

namespace BrokerClient.Json

inductive Piece where
  /-- A byte that stands for itself. -/
  | raw (byte : UInt8)
  /-- A byte written as a backslash and one letter. -/
  | short (byte : UInt8)
  /-- A UTF-16 code unit written as `\u` and four digits. -/
  | unit (code : Nat)
  deriving DecidableEq, Repr

abbrev Literal := List Piece

/-- A number as it is written; digits are values below ten. -/
structure Numeral where
  negative : Bool
  whole : List Nat
  fraction : List Nat
  exponent : Option (Bool × List Nat)
  deriving DecidableEq, Repr

/-- A numeral without fraction and exponent. -/
def Numeral.isWhole (n : Numeral) : Bool :=
  n.fraction.isEmpty && n.exponent.isNone

inductive Syntax where
  | null
  | bool (value : Bool)
  | number (numeral : Numeral)
  | string (literal : Literal)
  | array (items : List Syntax)
  | object (members : List (Literal × Syntax))
  deriving Repr

end BrokerClient.Json
