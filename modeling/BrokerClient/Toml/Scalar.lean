import BrokerClient.Text.Digits
import BrokerClient.Toml.Moment
import BrokerClient.Toml.Value

/-!
# Scalars without quotes

Truth values, integers in four bases, decimals, infinities, dates and times. Underscores may stand
between two digits; decimal integers have no leading zeros.
-/

namespace BrokerClient.Toml

open BrokerClient.Text

/-- Digits with single underscores between them, without the underscores. -/
def plainDigits? (isDigit : Char → Bool) : List Char → Option (List Char)
  | [] => none
  | [c] => if isDigit c then some [c] else none
  | c :: d :: r =>
    if !isDigit c then none
    else if d = '_' then (plainDigits? isDigit r).map (c :: ·)
    else (plainDigits? isDigit (d :: r)).map (c :: ·)

/-- The number that digits of any base up to 16 denote. -/
def baseValue (base : Nat) (ds : List Char) : Nat :=
  ds.foldl (fun n c => base * n + (hexValue? c).getD 0) 0

/-- A sign, and the characters after it. -/
def splitSign : List Char → Bool × List Char
  | '+' :: r => (false, r)
  | '-' :: r => (true, r)
  | cs => (false, cs)

def wholeDigits? (cs : List Char) : Option (List Char) := do
  let ds ← plainDigits? isDigit cs
  if ds.head? = some '0' && 1 < ds.length then none else some ds

/-- An integer: decimal with an optional sign, or unsigned with the prefix of its base. -/
def integer? (cs : List Char) : Option Int :=
  match cs with
  | '0' :: 'x' :: r => (plainDigits? isHexDigit r).map fun ds => (baseValue 16 ds : Int)
  | '0' :: 'o' :: r =>
    (plainDigits? (fun c => '0' ≤ c && c ≤ '7') r).map fun ds => (baseValue 8 ds : Int)
  | '0' :: 'b' :: r =>
    (plainDigits? (fun c => c = '0' || c = '1') r).map fun ds => (baseValue 2 ds : Int)
  | _ =>
    let (negative, r) := splitSign cs
    (wholeDigits? r).map fun ds =>
      if negative then -(decimalValue ds : Int) else (decimalValue ds : Int)

def exponent? (cs : List Char) : Option Int :=
  let (negative, r) := splitSign cs
  (plainDigits? isDigit r).map fun ds =>
    if negative then -(decimalValue ds : Int) else (decimalValue ds : Int)

def isExponentMark (c : Char) : Bool :=
  c = 'e' || c = 'E'

def decimal? (cs : List Char) : Option Value := do
  let (_, r) := splitSign cs
  let mantissa := r.takeWhile fun c => !isExponentMark c
  let tail := r.dropWhile fun c => !isExponentMark c
  let whole ← wholeDigits? (mantissa.takeWhile (· ≠ '.'))
  let fraction ← match mantissa.dropWhile (· ≠ '.') with
    | [] => some []
    | _ :: ds => plainDigits? isDigit ds
  let exponent ← match tail with
    | [] => some 0
    | _ :: ds => exponent? ds
  if fraction.isEmpty && tail.isEmpty then none
  let ds := whole ++ fraction
  return .float (Number.Binary64.ofDecimal? (decimalValue ds) ds.length
    (exponent - (fraction.length : Int)))

def scalar? (cs : List Char) : Option Value :=
  let (_, unsigned) := splitSign cs
  if cs = ['t', 'r', 'u', 'e'] then some (.bool true)
  else if cs = ['f', 'a', 'l', 's', 'e'] then some (.bool false)
  else if unsigned = ['i', 'n', 'f'] || unsigned = ['n', 'a', 'n'] then some .nonFinite
  else
    match integer? cs with
    | some i => some (.integer i)
    | none =>
      match decimal? cs with
      | some x => some x
      | none => if isMoment cs then some .moment else none

end BrokerClient.Toml
