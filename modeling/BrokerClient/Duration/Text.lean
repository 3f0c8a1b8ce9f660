import BrokerClient.Duration.Basic
import BrokerClient.Text.Blank
import BrokerClient.Text.Digits

/-!
# Durations as text

A duration is written as counts with units, the largest unit first, as in `1h 30m`. More is read
than is written: fractions, long names of units, any order, repeated units, and white space between
and around everything, even between the digits of a number.
-/

namespace BrokerClient.Duration

open BrokerClient.Text

inductive TimeUnit where
  | nanosecond | microsecond | millisecond | second | minute | hour | day | week | month | year
  deriving DecidableEq, Repr

namespace TimeUnit

/-- The unit of a name. The case of letters counts: `m` is a minute and `M` a month. -/
def ofName? (name : String) : Option TimeUnit :=
  match name with
  | "nanos" | "nsec" | "ns" => some .nanosecond
  | "usec" | "us" | "µs" => some .microsecond
  | "millis" | "msec" | "ms" => some .millisecond
  | "seconds" | "second" | "secs" | "sec" | "s" => some .second
  | "minutes" | "minute" | "min" | "mins" | "m" => some .minute
  | "hours" | "hour" | "hr" | "hrs" | "h" => some .hour
  | "days" | "day" | "d" => some .day
  | "weeks" | "week" | "wk" | "wks" | "w" => some .week
  | "months" | "month" | "M" => some .month
  | "years" | "year" | "yr" | "yrs" | "y" => some .year
  | _ => none

/-- The length of a unit, in nanoseconds below a second and in seconds from a second upward. -/
def length : TimeUnit → Nat
  | nanosecond => 1
  | microsecond => 1000
  | millisecond => 1000000
  | second => 1
  | minute => 60
  | hour => 3600
  | day => 86400
  | week => 604800
  | month => 2630016
  | year => 31557600

def isSubsecond : TimeUnit → Bool
  | nanosecond | microsecond | millisecond => true
  | _ => false

/-- The length that a fraction of the unit is taken of: in nanoseconds up to the minute and in
seconds above. There is no fraction of a nanosecond. -/
def fractionBase? : TimeUnit → Option Nat
  | nanosecond => none
  | microsecond => some 1000
  | millisecond => some 1000000
  | second => some 1000000000
  | minute => some 60000000000
  | u => some u.length

/-- Fractions of the unit count nanoseconds. -/
def fractionInNanos : TimeUnit → Bool
  | nanosecond | microsecond | millisecond | second | minute => true
  | _ => false

end TimeUnit

/-- One number with its unit. -/
structure Term where
  whole : List Char
  fraction : Option (List Char)
  unit : TimeUnit
  deriving DecidableEq, Repr

/-- A count below 2^64. -/
def word? (n : Nat) : Option Nat :=
  if n < wordBound then some n else none

/-- Adds a count of a unit to a duration. -/
def addWhole? (d : Duration) (n : Nat) (u : TimeUnit) : Option Duration := do
  let amount ← word? (n * u.length)
  if u.isSubsecond then d.add? 0 amount else d.add? amount 0

/-- Adds the fraction `n / 10 ^ places` of a unit, which must be a whole number of nanoseconds, or
of seconds for the hour and longer units. -/
def addFraction? (d : Duration) (n places : Nat) (u : TimeUnit) : Option Duration := do
  let base ← u.fractionBase?
  let den ← word? (Nat.pow 10 places)
  let product ← word? (n * base)
  if product % den ≠ 0 then none
  if u.fractionInNanos then d.add? 0 (product / den) else d.add? (product / den) 0

def Term.addTo? (t : Term) (d : Duration) : Option Duration := do
  let n ← word? (decimalValue t.whole)
  let d ← addWhole? d n t.unit
  match t.fraction with
  | none => some d
  | some ds => addFraction? d (decimalValue ds) ds.length t.unit

def isUnitLetter (c : Char) : Bool :=
  let n := c.toNat
  (97 ≤ n && n ≤ 122) || (65 ≤ n && n ≤ 90) || n == 0xB5

/-- Digits, or white space among them. -/
def isNumberChar (c : Char) : Bool :=
  isDigit c || isBlank c

/-- The digits of a number, read over white space, and the input after it. -/
def readNumber (cs : List Char) : List Char × List Char :=
  ((cs.takeWhile isNumberChar).filter isDigit, cs.dropWhile isNumberChar)

def readUnit (cs : List Char) : Option (TimeUnit × List Char) :=
  (TimeUnit.ofName? (String.ofList (cs.takeWhile isUnitLetter))).map
    fun u => (u, cs.dropWhile isUnitLetter)

/-- A term that starts with a digit. -/
def readTerm (cs : List Char) : Option (Term × List Char) :=
  let (whole, r) := readNumber cs
  match r with
  | '.' :: r₁ =>
    let (fraction, r₂) := readNumber r₁
    if fraction.isEmpty then none
    else (readUnit r₂).map fun (u, rest) => (⟨whole, some fraction, u⟩, rest)
  | _ => (readUnit r).map fun (u, rest) => (⟨whole, none, u⟩, rest)

/-- Terms up to the end of the input; each takes at least one character. -/
def readTerms : Nat → List Char → Option (List Term)
  | 0, _ => none
  | fuel + 1, cs =>
    match cs.dropWhile isBlank with
    | [] => some []
    | c :: r =>
      if isDigit c then
        match readTerm (c :: r) with
        | none => none
        | some (t, rest) => (readTerms fuel rest).map (t :: ·)
      else none

def sum? (terms : List Term) : Option Duration :=
  terms.foldlM (fun d t => t.addTo? d) zero

/-- Reads a duration: one or more terms, or the digit zero alone. -/
def parse? (s : String) : Option Duration :=
  if s = "0" then some zero
  else do
    let terms ← readTerms (s.toList.length + 1) s.toList
    if terms.isEmpty then none
    sum? terms

/-- A count with the name of its unit, if it is not zero. -/
def writeCount (n : Nat) (name : List Char) : List (List Char) :=
  if n = 0 then [] else [decimal n ++ name]

/-- A count with a name that takes an `s` for more than one. -/
def writePlural (n : Nat) (name : List Char) : List (List Char) :=
  writeCount n (if 1 < n then name ++ ['s'] else name)

/-- The counts of a duration, the largest unit first. -/
def parts (d : Duration) : List (List Char) :=
  let inYear := d.seconds % 31557600
  let inMonth := inYear % 2630016
  let inDay := inMonth % 86400
  writePlural (d.seconds / 31557600) ['y', 'e', 'a', 'r']
    ++ writePlural (inYear / 2630016) ['m', 'o', 'n', 't', 'h']
    ++ writePlural (inMonth / 86400) ['d', 'a', 'y']
    ++ writeCount (inDay / 3600) ['h']
    ++ writeCount (inDay % 3600 / 60) ['m']
    ++ writeCount (inDay % 60) ['s']
    ++ writeCount (d.nanos / 1000000) ['m', 's']
    ++ writeCount (d.nanos / 1000 % 1000) ['u', 's']
    ++ writeCount (d.nanos % 1000) ['n', 's']

/-- Texts with one space between them. -/
def spaced : List (List Char) → List Char
  | [] => []
  | [t] => t
  | t :: ts => t ++ ' ' :: spaced ts

def render (d : Duration) : String :=
  if d.isZero then "0s" else String.ofList (spaced d.parts)

end BrokerClient.Duration
