import BrokerClient.Text.Digits

/-!
# Punycode

A text beyond ASCII, spelt in letters and digits. Its ASCII characters stand before the last hyphen;
behind that every other character is a number in a base of 36 with digits of varying weight, which
says how far to go on: first over the places of the text, then to the next code point. All numbers
have 32 bits.
-/

namespace BrokerClient.Uri.Punycode

def firstCode : Nat := 128
def bound : Nat := Nat.pow 2 32

/-- The value of a digit: letters come before the ten digits. -/
def digitValue? (c : Char) : Option Nat :=
  if 'a' ≤ c && c ≤ 'z' then some (c.toNat - 'a'.toNat)
  else if Text.isDigit c then some (c.toNat - '0'.toNat + 26)
  else none

/-- The least digit after which a number goes on, at the place `place` (counted in steps of 36). -/
def threshold (place bias : Nat) : Nat :=
  min 26 (max 1 (place - bias))

/-- Divides by 35 down to 455, and counts the steps by 36. -/
def scaleDown (delta : Nat) : Nat × Nat :=
  if delta ≤ 455 then (delta, 0)
  else
    let (d, k) := scaleDown (delta / 35)
    (d, k + 36)
termination_by delta
decreasing_by omega

/-- The bias for the next number, after `delta` was read for what is now a text of `length`
characters. -/
def adapt (delta length : Nat) (first : Bool) : Nat :=
  let delta := if first then delta / 700 else delta / 2
  let (d, k) := scaleDown (delta + delta / length)
  k + 36 * d / (d + 38)

/-- Reads a number and adds it to `sum`. -/
def readNumber (bias place weight sum : Nat) : List Char → Option (Nat × List Char)
  | [] => none
  | c :: r =>
    match digitValue? c with
    | none => none
    | some d =>
      let sum := sum + d * weight
      let t := threshold place bias
      if bound ≤ sum then none
      else if d < t then some (sum, r)
      else if bound ≤ weight * (36 - t) then none
      else readNumber bias (place + 36) (weight * (36 - t)) sum r

/-- The character of a code point that is no surrogate. -/
def charOfCode? (n : Nat) : Option Char :=
  if n.isValidChar then some (Char.ofNat n) else none

/-- Reads the numbers behind the hyphen into a text. `code` is the code point reached and `place`
the place in the text. There are no more than `count` numbers. -/
def readNumbers (count code bias place : Nat) (text cs : List Char) : Option (List Char) :=
  match count, cs with
  | _, [] => some text
  | 0, _ => none
  | count + 1, cs =>
    match readNumber bias 36 1 place cs with
    | none => none
    | some (sum, r) =>
      let length := text.length + 1
      let code := code + sum / length
      let next := sum % length
      match charOfCode? code with
      | none => none
      | some c =>
        readNumbers count code (adapt (sum - place) length (place = 0)) (next + 1)
          (text.insertIdx next c) r

/-- The text before the last hyphen and the text behind it, which is all of it without a hyphen. -/
def splitLastHyphen (cs : List Char) : List Char × List Char :=
  match cs.reverse.dropWhile (· ≠ '-') with
  | [] => ([], cs)
  | _ :: before => (before.reverse, (cs.reverse.takeWhile (· ≠ '-')).reverse)

/-- The text that small letters, digits and hyphens spell. A hyphen has something before it. -/
def decode (cs : List Char) : Option (List Char) :=
  let (text, behind) := splitLastHyphen cs
  if text.isEmpty && behind.length ≠ cs.length then none
  else readNumbers behind.length firstCode 72 0 text behind

end BrokerClient.Uri.Punycode
