import BrokerClient.Text.Digits

/-!
# IPv4 addresses

A host that ends in a number is an IPv4 address of one to four numbers, decimal, octal with a
leading `0` or hexadecimal with a leading `0x`. The last number fills all bytes that are left.
-/

namespace BrokerClient.Uri

open BrokerClient.Text

def splitPoints (cs : List Char) : List (List Char) :=
  cs.splitOn '.'

/-- What a part of a host is as a number. -/
inductive HostNumber where
  | notNumber
  | tooLarge
  | number (value : Nat)
  deriving DecidableEq, Repr

/-- A number of 32 bits in a base. -/
def hostNumberIn (base : Nat) (ds : List Char) : HostNumber :=
  if ds.all fun c => match hexValue? c with
    | some d => d < base
    | none => false
  then
    let v := ds.foldl (fun n c => base * n + (hexValue? c).getD 0) 0
    if v < Nat.pow 2 32 then .number v else .tooLarge
  else .notNumber

/-- A part of a host as a number. -/
def hostNumber (cs : List Char) : HostNumber :=
  match cs with
  | [] => .notNumber
  | ['0', 'x'] => .number 0
  | ['0', 'X'] => .number 0
  | '0' :: 'x' :: r => hostNumberIn 16 r
  | '0' :: 'X' :: r => hostNumberIn 16 r
  | '0' :: c :: r => hostNumberIn 8 (c :: r)
  | _ => hostNumberIn 10 cs

/-- Parts without an empty one at the end. -/
def withoutLastEmpty (parts : List (List Char)) : List (List Char) :=
  if parts.getLast? = some [] then parts.dropLast else parts

/-- A host whose last part is a number, so that it must be an IPv4 address. -/
def endsInNumber (host : List Char) : Bool :=
  match (withoutLastEmpty (splitPoints host)).getLast? with
  | none => false
  | some [] => false
  | some part => part.all isDigit || hostNumber part != .notNumber

/-- Numbers that make up an IPv4 address. -/
def isIpv4Address (host : List Char) : Bool :=
  let numbers := (withoutLastEmpty (splitPoints host)).map hostNumber
  let values := numbers.filterMap fun
    | .number v => some v
    | _ => none
  match values.getLast? with
  | none => false
  | some last =>
    numbers.length ≤ 4 && values.length = numbers.length
      && values.dropLast.all (· ≤ 255) && last < Nat.pow 256 (5 - numbers.length)

end BrokerClient.Uri
