import BrokerClient.Json.Value
import BrokerClient.Number.Shortest
import BrokerClient.Text.Digits

/-!
# Writing JSON

Compact texts: no white space, members in the order of the value. Strings escape the quote, the
backslash and the characters below U+0020 and nothing else.
-/

namespace BrokerClient.Json

open BrokerClient.Text BrokerClient.Number

def writeChar (c : Char) : List Char :=
  if c = '"' then ['\\', '"']
  else if c = '\\' then ['\\', '\\']
  else if c = '\x08' then ['\\', 'b']
  else if c = '\x0C' then ['\\', 'f']
  else if c = '\n' then ['\\', 'n']
  else if c = '\r' then ['\\', 'r']
  else if c = '\t' then ['\\', 't']
  else if c.toNat < 0x20 then
    ['\\', 'u', '0', '0', lowerHexDigit (c.toNat / 16), lowerHexDigit (c.toNat % 16)]
  else [c]

def writeString (cs : List Char) : List Char :=
  '"' :: cs.flatMap writeChar ++ ['"']

def writeInteger : Int → List Char
  | .ofNat n => decimal n
  | .negSucc n => '-' :: decimal (n + 1)

/-- Where a number changes from positional to exponential notation. -/
structure FloatNotation where
  leastPositional : Int
  greatestPositional : Int

/-- Numbers from 1e-5 up to but not 1e16 are written with a point and at least one digit on either
side of it, all others with one digit before the point and a signed exponent. -/
def floatNotation : FloatNotation := ⟨-5, 15⟩

/-- Digits `ds` with the point after the first `places` of them, zeros filled in on both sides. -/
def writePositional (ds : List Char) : Int → List Char
  | .ofNat places =>
    let whole := ds.take places ++ List.replicate (places - ds.length) '0'
    let fraction := ds.drop places
    (if whole.isEmpty then ['0'] else whole) ++ '.' ::
      (if fraction.isEmpty then ['0'] else fraction)
  | .negSucc k => '0' :: '.' :: List.replicate (k + 1) '0' ++ ds

/-- Digits `ds` with the point after the first, and an exponent of ten. -/
def writeExponential (ds : List Char) (exponent : Int) : List Char :=
  let fraction := ds.drop 1
  ds.take 1 ++ (if fraction.isEmpty then [] else '.' :: fraction)
    ++ ['e', if exponent < 0 then '-' else '+'] ++ decimal exponent.natAbs

/-- A floating point number in the fewest digits that read back. -/
def writeFloat (x : Binary64) : List Char :=
  (if x.negative then ['-'] else []) ++
    if x.mantissa = 0 then ['0', '.', '0']
    else
      let (n, e) := x.shortest
      let ds := decimal n
      let top := e + ds.length - 1
      if floatNotation.leastPositional ≤ top && top ≤ floatNotation.greatestPositional then
        writePositional ds (top + 1)
      else writeExponential ds top

/-- Texts with commas between them. -/
def separated : List (List Char) → List Char
  | [] => []
  | [t] => t
  | t :: ts => t ++ ',' :: separated ts

mutual

/-- A value as a compact JSON text. -/
def Value.chars : Value → List Char
  | .null => ['n', 'u', 'l', 'l']
  | .bool true => ['t', 'r', 'u', 'e']
  | .bool false => ['f', 'a', 'l', 's', 'e']
  | .integer i => writeInteger i
  | .float x => writeFloat x
  | .string s => writeString s.toList
  | .array items => '[' :: separated (itemChars items) ++ [']']
  | .object members => '{' :: separated (memberChars members) ++ ['}']

def itemChars : List Value → List (List Char)
  | [] => []
  | v :: vs => v.chars :: itemChars vs

def memberChars : List (String × Value) → List (List Char)
  | [] => []
  | (k, v) :: ms => (writeString k.toList ++ ':' :: v.chars) :: memberChars ms

end

/-- A value as a compact JSON text. -/
def Value.render (v : Value) : String :=
  String.ofList v.chars

def Value.bytes (v : Value) : List UInt8 :=
  Utf8.encode v.chars

end BrokerClient.Json
