/-!
# Binary floating point of 64 bits

A finite value is a sign, a mantissa below 2^53 and a power of two. Results are rounded to the
nearest value, a tie to the even mantissa, and all arithmetic is exact on naturals before that one
rounding.
-/

namespace BrokerClient.Number

/-- The value `mantissa * 2 ^ exponent`, negated if `negative`. The exponent is the least one that
holds the value with 53 bits, and never below -1074. -/
structure Binary64 where
  negative : Bool
  mantissa : Nat
  exponent : Int
  deriving DecidableEq, Repr

namespace Binary64

def minExponent : Int := -1074
def maxExponent : Int := 971
def zero : Binary64 := ⟨false, 0, minExponent⟩

def withSign (x : Binary64) (negative : Bool) : Binary64 :=
  { x with negative }

/-- A quotient of naturals rounded to an integer, a tie to the even one. -/
def divideToEven (num den : Nat) : Nat :=
  let q := num / den
  let r := num % den
  if den < 2 * r || (den == 2 * r && q % 2 == 1) then q + 1 else q

/-- The quotient `num / den / 2 ^ exponent` as a pair of naturals. -/
def scale (num den : Nat) (exponent : Int) : Nat × Nat :=
  match exponent with
  | .ofNat k => (num, den * Nat.pow 2 k)
  | .negSucc k => (num * Nat.pow 2 (k + 1), den)

/-- The exponent under which a positive quotient has 53 bits before rounding. -/
def exponentOf (num den : Nat) : Int :=
  let guess : Int := (num.log2 : Int) - (den.log2 : Int) - 52
  let (n, d) := scale num den guess
  max minExponent (if n / d < Nat.pow 2 52 then guess - 1 else guess)

/-- The value nearest to a quotient of naturals, or `none` if it is too large. -/
def ofRatio? (num den : Nat) : Option Binary64 :=
  if num = 0 then some zero
  else
    let e := exponentOf num den
    let (n, d) := scale num den e
    let m := divideToEven n d
    let (m, e) := if m = Nat.pow 2 53 then (Nat.pow 2 52, e + 1) else (m, e)
    if maxExponent < e then none else some ⟨false, m, e⟩

/-- The magnitude as a quotient of naturals. -/
def ratio (x : Binary64) : Nat × Nat :=
  match x.exponent with
  | .ofNat k => (x.mantissa * Nat.pow 2 k, 1)
  | .negSucc k => (x.mantissa, Nat.pow 2 (k + 1))

def mul? (x y : Binary64) : Option Binary64 :=
  let (a, b) := x.ratio
  let (c, d) := y.ratio
  ofRatio? (a * c) (b * d)

def div? (x y : Binary64) : Option Binary64 :=
  let (a, b) := x.ratio
  let (c, d) := y.ratio
  ofRatio? (a * d) (b * c)

/-- The value nearest to `n * 10 ^ e`, where `n` has `digits` digits; `none` if it is too large.
Exponents far out of range are decided by the number of digits alone. -/
def ofDecimal? (n digits : Nat) (e : Int) : Option Binary64 :=
  if n = 0 then some zero
  else if 400 < e + digits then none
  else if e + digits < -400 then some zero
  else
    match e with
    | .ofNat k => ofRatio? (n * Nat.pow 10 k) 1
    | .negSucc k => ofRatio? n (Nat.pow 10 (k + 1))

end Binary64

end BrokerClient.Number
