/-!
# Numerals

Writing a natural number in base ten or sixteen, and the value of a digit or of a run of digits.
Leading zeros are read and never written. Hexadecimal digits of either letter case are read; which
case is written is for the format that writes them.
-/

namespace BrokerClient.Text

def digitChar (d : Nat) : Char :=
  Char.ofNat (48 + d)

def isDigit (c : Char) : Bool :=
  48 ≤ c.toNat && c.toNat ≤ 57

def digitValue (c : Char) : Nat :=
  c.toNat - 48

/-- The shortest decimal numeral of a natural number. -/
def decimal (n : Nat) : List Char :=
  if n < 10 then [digitChar n] else decimal (n / 10) ++ [digitChar (n % 10)]
termination_by n
decreasing_by omega

def decimalValue (cs : List Char) : Nat :=
  cs.foldl (fun n c => 10 * n + digitValue c) 0

/-- A numeral of one or more digits and nothing else. -/
def readDecimal? (cs : List Char) : Option Nat :=
  if !cs.isEmpty && cs.all isDigit then some (decimalValue cs) else none

def ofNat (n : Nat) : String :=
  String.ofList (decimal n)

def ofInt : Int → String
  | .ofNat n => ofNat n
  | .negSucc n => "-" ++ ofNat (n + 1)

/-- The value of a hexadecimal digit of either case. -/
def hexValue? (c : Char) : Option Nat :=
  let n := c.toNat
  if 48 ≤ n && n ≤ 57 then some (n - 48)
  else if 65 ≤ n && n ≤ 70 then some (n - 55)
  else if 97 ≤ n && n ≤ 102 then some (n - 87)
  else none

def isHexDigit (c : Char) : Bool :=
  (hexValue? c).isSome

/-- The digit of a value below 16, with lower-case letters. -/
def lowerHexDigit (d : Nat) : Char :=
  Char.ofNat (if d < 10 then 48 + d else 87 + d)

/-- The digit of a value below 16, with upper-case letters. -/
def upperHexDigit (d : Nat) : Char :=
  Char.ofNat (if d < 10 then 48 + d else 55 + d)

/-- The shortest lower-case hexadecimal numeral of a natural number. -/
def hexadecimal (n : Nat) : List Char :=
  if n < 16 then [lowerHexDigit n] else hexadecimal (n / 16) ++ [lowerHexDigit (n % 16)]
termination_by n
decreasing_by omega

end BrokerClient.Text
