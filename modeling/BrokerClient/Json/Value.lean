import BrokerClient.Json.Literal
import BrokerClient.Number.Binary64

/-!
# JSON values

A JSON text read without a type in mind. Integers from -2^63 to 2^64 - 1 stay exact and all other
numbers become binary floating point; members are sorted by the bytes of their names, and of several
with one name the last counts.
-/

namespace BrokerClient.Json

open BrokerClient.Number

inductive Value where
  | null
  | bool (value : Bool)
  | integer (value : Int)
  | float (value : Binary64)
  | string (value : String)
  | array (items : List Value)
  | object (members : List (String × Value))
  deriving Repr

namespace Numeral

def digitsValue (ds : List Nat) : Nat :=
  ds.foldl (fun n d => 10 * n + d) 0

/-- The integer from -2^63 to 2^64 - 1 that a numeral denotes. Minus zero is no integer. -/
def integer? (n : Numeral) : Option Int :=
  if n.isWhole then
    let v := digitsValue n.whole
    if n.negative then
      if 0 < v && v ≤ Nat.pow 2 63 then some (-(v : Int)) else none
    else if v < Nat.pow 2 64 then some v
    else none
  else none

/-- Takes digits into a significand while it stays below 2^64; the other digits are returned. -/
def takeSignificand (significand : Nat) : List Nat → Nat × List Nat
  | [] => (significand, [])
  | d :: ds =>
    if significand * 10 + d < Nat.pow 2 64 then takeSignificand (significand * 10 + d) ds
    else (significand, d :: ds)

/-- The power `10 ^ k` as a floating point value, for `k` up to 308. -/
def powerOfTen? (k : Nat) : Option Binary64 :=
  if k ≤ 308 then Binary64.ofRatio? (Nat.pow 10 k) 1 else none

/-- A significand times a power of ten, rounded after each step: the significand, then one product
or quotient by a power of at most 308, after quotients by `10 ^ 308` for exponents below that. -/
def scaled? (x : Binary64) (exponent : Int) : Nat → Option Binary64
  | 0 => some x
  | fuel + 1 =>
    match powerOfTen? exponent.natAbs with
    | some p => if 0 ≤ exponent then x.mul? p else x.div? p
    | none =>
      if x.mantissa = 0 then some x
      else if 0 ≤ exponent then none
      else do
        let p ← powerOfTen? 308
        let y ← x.div? p
        scaled? y (exponent + 308) fuel

/-- The floating point value of a numeral, or `none` if it is out of range. The significand holds
the digits that fit 64 bits, further digits of the whole part count as powers of ten and further
digits of the fraction not at all. -/
def float? (n : Numeral) : Option Binary64 := do
  let (s, droppedWhole) := takeSignificand 0 n.whole
  let (s, droppedFraction) := takeSignificand s n.fraction
  let places : Int :=
    droppedWhole.length - ((n.fraction.length - droppedFraction.length : Nat) : Int)
  let x ← Binary64.ofRatio? s 1
  let magnitude ← match n.exponent with
    | none => scaled? x places 4
    | some (negative, ds) =>
      let e := digitsValue ds
      if e < Nat.pow 2 31 then scaled? x (if negative then places - e else places + e) 4
      else if s ≠ 0 && !negative then none
      else some Binary64.zero
  return magnitude.withSign n.negative

end Numeral

/-- Puts a member in its place among sorted ones, or in the place of the one with its name. -/
def insertMember (name : String) (value : α) : List (String × α) → List (String × α)
  | [] => [(name, value)]
  | (k, v) :: r =>
    if name = k then (name, value) :: r
    else if name < k then (name, value) :: (k, v) :: r
    else (k, v) :: insertMember name value r

/-- Members in the order of their names, the last of each name. -/
def sortMembers (members : List (String × α)) : List (String × α) :=
  members.foldl (fun sorted (k, v) => insertMember k v sorted) []

mutual

/-- The value of a parsed text, `none` if a string is no text, a number out of range or more than
`depth` containers are nested. -/
def Value.ofSyntax? (depth : Nat) : Syntax → Option Value
  | .null => some .null
  | .bool b => some (.bool b)
  | .number n =>
    match n.integer? with
    | some i => some (.integer i)
    | none => n.float?.map .float
  | .string l => l.text?.map fun cs => .string (String.ofList cs)
  | .array items =>
    match depth with
    | 0 => none
    | depth + 1 => (itemsOfSyntax? depth items).map .array
  | .object members =>
    match depth with
    | 0 => none
    | depth + 1 => (membersOfSyntax? depth members).map fun ms => .object (sortMembers ms)

def itemsOfSyntax? (depth : Nat) : List Syntax → Option (List Value)
  | [] => some []
  | s :: r => do
    let v ← Value.ofSyntax? depth s
    let vs ← itemsOfSyntax? depth r
    return v :: vs

/-- The values of object members, in the order of the text. -/
def membersOfSyntax? (depth : Nat) : List (Literal × Syntax) → Option (List (String × Value))
  | [] => some []
  | (l, s) :: r => do
    let k ← l.text?
    let v ← Value.ofSyntax? depth s
    let ms ← membersOfSyntax? depth r
    return (String.ofList k, v) :: ms

end

def maxDepth : Nat := 127

def Value.member? (name : String) : Value → Option Value
  | .object members => members.lookup name
  | _ => none

end BrokerClient.Json
