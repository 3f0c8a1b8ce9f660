import BrokerClient.Text.Digits
import BrokerClient.Text.Utf8

/-!
# Percent-encoding

A byte is written as `%` and two hexadecimal digits. Reading takes every `%` that two digits follow
for a byte and leaves any other `%` as it is; writing spells out the bytes of the characters that a
set names, with upper-case digits.
-/

namespace BrokerClient.Text.Percent

/-- One byte as `%` and two upper-case digits. -/
def encodeByte (b : UInt8) : List Char :=
  ['%', upperHexDigit (b.toNat / 16), upperHexDigit (b.toNat % 16)]

def encodeChar (c : Char) : List Char :=
  (Utf8.encodeChar c).flatMap encodeByte

/-- Spells out the characters that `escaped` names and leaves the others. -/
def encodeWhere (escaped : Char → Bool) (cs : List Char) : List Char :=
  cs.flatMap fun c => if escaped c then encodeChar c else [c]

def encode (cs : List Char) : List Char :=
  cs.flatMap encodeChar

/-- The byte that `%` and two digits stand for. -/
def escapedByte? (mark a b : Char) : Option UInt8 :=
  if mark = '%' then
    match hexValue? a, hexValue? b with
    | some x, some y => some (16 * x + y).toUInt8
    | _, _ => none
  else none

/-- The bytes of a text in which each `%` before two digits stands for one byte. -/
def decodeBytes : List Char → List UInt8
  | [] => []
  | [c] => Utf8.encodeChar c
  | [c, d] => Utf8.encodeChar c ++ Utf8.encodeChar d
  | c :: a :: b :: r =>
    match escapedByte? c a b with
    | some byte => byte :: decodeBytes r
    | none => Utf8.encodeChar c ++ decodeBytes (a :: b :: r)

/-- The text that the decoded bytes spell, or the fault that keeps them from being UTF-8. -/
def decode (cs : List Char) : Except Utf8.Fault (List Char) :=
  Utf8.decode (decodeBytes cs)

end BrokerClient.Text.Percent
