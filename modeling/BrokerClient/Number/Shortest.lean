import BrokerClient.Number.Binary64

/-!
# Shortest decimals

The fewest decimal digits that read back as a given value, and of those the ones nearest to it. The
search goes over the decimal grids of 1, 2, ... 17 digits and tests the two points beside the value.
-/

namespace BrokerClient.Number

/-- The reals that round to a value: from `low / den` to `high / den`, with the ends if `closed`. -/
structure Interval where
  low : Nat
  value : Nat
  high : Nat
  den : Nat
  closed : Bool
  deriving DecidableEq, Repr

/-- The interval of a value. Below a power of two the grid of values is twice as fine. -/
def Binary64.interval (x : Binary64) : Interval :=
  let below := if x.mantissa = Nat.pow 2 52 && minExponent < x.exponent then 1 else 2
  let (n, d) := match x.exponent with
    | .ofNat k => (Nat.pow 2 k, 4)
    | .negSucc k => (1, 4 * Nat.pow 2 (k + 1))
  ⟨(4 * x.mantissa - below) * n, 4 * x.mantissa * n, (4 * x.mantissa + 2) * n, d,
    x.mantissa % 2 == 0⟩

def Interval.contains (i : Interval) (num den : Nat) : Bool :=
  let n := num * i.den
  if i.closed then i.low * den ≤ n && n ≤ i.high * den
  else i.low * den < n && n < i.high * den

/-- The decimal exponent `e` with `10 ^ e ≤ num / den < 10 ^ (e + 1)`, looked for from `guess`
downwards. -/
def decimalExponent (num den : Nat) (guess : Int) : Nat → Int
  | 0 => guess
  | fuel + 1 =>
    let reached : Bool := match guess with
      | .ofNat k => den * Nat.pow 10 k ≤ num
      | .negSucc k => den ≤ num * Nat.pow 10 (k + 1)
    if reached then guess else decimalExponent num den (guess - 1) fuel

/-- The grid point `n * 10 ^ e` as a quotient. -/
def gridPoint (n : Nat) : Int → Nat × Nat
  | .ofNat k => (n * Nat.pow 10 k, 1)
  | .negSucc k => (n, Nat.pow 10 (k + 1))

/-- The point of the grid of multiples of `10 ^ e` that lies in the interval nearest to its value;
of two equally near ones the even one. -/
def nearestOnGrid? (i : Interval) (e : Int) : Option Nat :=
  let (one, den) := gridPoint 1 e
  let below := i.value * den / (i.den * one)
  let fits (n : Nat) := let (a, b) := gridPoint n e; 0 < n && i.contains a b
  match fits below, fits (below + 1) with
  | true, true =>
    let twice := 2 * i.value * den
    let middle := (2 * below + 1) * one * i.den
    if twice < middle || (twice == middle && below % 2 == 0) then some below else some (below + 1)
  | true, false => some below
  | false, true => some (below + 1)
  | false, false => none

/-- The first grid with a point in the interval, from `digits` digits upwards. -/
def shortestFrom (i : Interval) (exponent : Int) (digits : Nat) : Nat → Nat × Int
  | 0 => (0, 0)
  | fuel + 1 =>
    let e := exponent + 1 - digits
    match nearestOnGrid? i e with
    | some n => (n, e)
    | none => shortestFrom i exponent (digits + 1) fuel

/-- Digits without the zeros at their end, and how many zeros those were. -/
def stripZeros (n : Nat) : Nat → Nat × Nat
  | 0 => (n, 0)
  | fuel + 1 =>
    if n ≠ 0 ∧ n % 10 = 0 then
      let (m, k) := stripZeros (n / 10) fuel
      (m, k + 1)
    else (n, 0)

/-- The shortest decimal `n * 10 ^ e` of the magnitude of a value other than zero. -/
def Binary64.shortest (x : Binary64) : Nat × Int :=
  let i := x.interval
  let bits : Int := (i.value.log2 : Int) - (i.den.log2 : Int)
  let top := decimalExponent i.value i.den (Int.fdiv (bits * 30103) 100000 + 2) 6
  let (n, e) := shortestFrom i top 1 17
  let (m, k) := stripZeros n 18
  (m, e + k)

end BrokerClient.Number
