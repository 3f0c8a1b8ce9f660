import BrokerClient.Json.Syntax
import BrokerClient.Text.Utf8

/-!
# What a string literal means

A literal read as text must be UTF-8, free of raw control characters and of lone surrogates. Read as
bytes it may be anything; a lone surrogate then takes three bytes. A literal that nobody reads only
has to be free of raw control characters.
-/

namespace BrokerClient.Json.Literal

/-- The leading half of a surrogate pair. -/
def isLeading (u : Nat) : Bool :=
  0xD800 ≤ u && u ≤ 0xDBFF

/-- The trailing half of a surrogate pair. -/
def isTrailing (u : Nat) : Bool :=
  0xDC00 ≤ u && u ≤ 0xDFFF

/-- The code point of a surrogate pair. -/
def pairCode (u v : Nat) : Nat :=
  0x10000 + (u - 0xD800) * 0x400 + (v - 0xDC00)

def bytes : Literal → List UInt8
  | [] => []
  | .raw b :: r => b :: bytes r
  | .short b :: r => b :: bytes r
  | .unit u :: .unit v :: r =>
    if isLeading u && isTrailing v then Text.Utf8.encodeCode (pairCode u v) ++ bytes r
    else Text.Utf8.encodeCode u ++ bytes (.unit v :: r)
  | .unit u :: r => Text.Utf8.encodeCode u ++ bytes r

/-- Every surrogate is half of a pair. -/
def isPaired : Literal → Bool
  | [] => true
  | .raw _ :: r => isPaired r
  | .short _ :: r => isPaired r
  | .unit u :: .unit v :: r =>
    if isLeading u && isTrailing v then isPaired r
    else !isLeading u && !isTrailing u && isPaired (.unit v :: r)
  | .unit u :: r => !isLeading u && !isTrailing u && isPaired r

/-- No control character stands for itself. -/
def isIgnorable (l : Literal) : Bool :=
  l.all fun
    | .raw b => 0x20 ≤ b
    | _ => true

def text? (l : Literal) : Option (List Char) :=
  if isIgnorable l && isPaired l then Text.Utf8.decode? (bytes l) else none

end BrokerClient.Json.Literal
