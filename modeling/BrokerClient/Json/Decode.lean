import BrokerClient.Json.Reader
import BrokerClient.Json.Value

/-!
# Reading JSON as a given type

No conversions: an integer is a numeral without fraction and exponent, a text is a string literal.
A record is an object whose members may stand in any order, where unknown ones are skipped and none
may be repeated, or an array of exactly its fields.
-/

namespace BrokerClient.Json

mutual

/-- A value that is skipped: only raw control characters in its strings are refused. -/
def Syntax.isIgnorable : Syntax → Bool
  | .string l => Literal.isIgnorable l
  | .array items => areIgnorable items
  | .object members => membersAreIgnorable members
  | _ => true

def areIgnorable : List Syntax → Bool
  | [] => true
  | s :: r => s.isIgnorable && areIgnorable r

/-- Object members that are skipped, their names included. -/
def membersAreIgnorable : List (Literal × Syntax) → Bool
  | [] => true
  | (l, s) :: r => Literal.isIgnorable l && s.isIgnorable && membersAreIgnorable r

end

namespace Syntax

def text? : Syntax → Option String
  | .string l => (Literal.text? l).map String.ofList
  | _ => none

def bool? : Syntax → Option Bool
  | .bool b => some b
  | _ => none

def null? : Syntax → Option Unit
  | .null => some ()
  | _ => none

def integer? (low high : Int) : Syntax → Option Int
  | .number n =>
    match n.integer? with
    | some i => if low ≤ i ∧ i ≤ high then some i else none
    | none => none
  | _ => none

/-- A natural number below a bound. -/
def natural? (bound : Nat) (s : Syntax) : Option Nat :=
  (s.integer? 0 (bound - 1)).map Int.toNat

/-- An array whose items are read alike. -/
def list? (item : Syntax → Option α) : Syntax → Option (List α)
  | .array items => items.mapM item
  | _ => none

/-- An object whose members are read alike, sorted, the last of each name. -/
def map? (item : Syntax → Option α) : Syntax → Option (List (String × α))
  | .object members => do
    let ms ← members.mapM fun (l, s) => do
      let k ← Literal.text? l
      let v ← item s
      return (String.ofList k, v)
    return sortMembers ms
  | _ => none

/-- Byte values in an array, or the bytes that a string literal stands for. -/
def bytes? : Syntax → Option (List UInt8)
  | .array items => items.mapM fun s => (s.natural? 256).map Nat.toUInt8
  | .string l => some (Literal.bytes l)
  | _ => none

/-- Fills the fields of a record from the members of an object. -/
def fillFields : List (String × Option Syntax) → List (Literal × Syntax) →
    Option (List (String × Option Syntax))
  | fields, [] => some fields
  | fields, (l, s) :: r => do
    let k ← Literal.text? l
    let name := String.ofList k
    match fields.lookup name with
    | none => if s.isIgnorable then fillFields fields r else none
    | some (some _) => none
    | some none =>
      fillFields (fields.map fun (n, v) => if n = name then (n, some s) else (n, v)) r

/-- The fields of a record in the order of `names`; a field that an object leaves out is `none`. -/
def fields? (names : List String) : Syntax → Option (List (Option Syntax))
  | .object members => (fillFields (names.map (·, none)) members).map fun fs => fs.map Prod.snd
  | .array items => if items.length = names.length then some (items.map some) else none
  | _ => none

/-- An array, whatever its items. -/
def isArray : Syntax → Bool
  | .array _ => true
  | _ => false

/-- The name of an alternative without content: a string, or an object with that one name and
null. -/
def choice? : Syntax → Option String
  | .object [(l, .null)] => (Literal.text? l).map String.ofList
  | s => s.text?

end Syntax

/-- Reads a whole text as a type. -/
def decode? {α : Type} (read : Syntax → Option α) (text : String) : Option α :=
  (read? (Text.Utf8.bytes text)).bind read

end BrokerClient.Json
