import BrokerClient.Text.Normal
import BrokerClient.Text.Percent
import BrokerClient.Text.Unprintable
import BrokerClient.Uri.Domain.Folding
import BrokerClient.Uri.Domain.Label
import BrokerClient.Uri.Domain.Punycode

/-!
# Domain names

The hosts of the well-known schemes: percent-decoded texts whose characters are folded and composed.
Labels that are spelt in Punycode are read, and must spell what needs no folding.
-/

namespace BrokerClient.Uri

open BrokerClient.Text

/-- ASCII characters that no domain name holds. -/
def isForbiddenInDomain (c : Char) : Bool :=
  c.toNat ≤ 0x20 || c.toNat = 0x7F
    || ['#', '/', ':', '<', '>', '?', '@', '[', '\\', ']', '^', '|', '%'].contains c

def lowerAscii (c : Char) : Char :=
  if 65 ≤ c.toNat && c.toNat ≤ 90 then Char.ofNat (c.toNat + 32) else c

/-- Characters of domain names that are left out: hyphens for line ends, fillers, marks that choose
a variant and other controls of no shape. -/
def ignoredRanges : List (Nat × Nat) := [
  (0xAD, 0xAD), (0x34F, 0x34F), (0x115F, 0x1160), (0x17B4, 0x17B5), (0x180B, 0x180F),
    (0x200B, 0x200B), (0x2060, 0x2064), (0x206A, 0x206F), (0x3164, 0x3164), (0xFE00, 0xFE0F),
    (0xFEFF, 0xFEFF), (0xFFA0, 0xFFA0), (0x1BCA0, 0x1BCA3), (0x1D173, 0x1D17A), (0xE0100, 0xE01EF)]

/-- Characters with a shape that no domain name holds. -/
def refusedRanges : List (Nat × Nat) := [
  (0x2024, 0x2026), (0x2488, 0x249B), (0x2FF0, 0x2FFF), (0x31EF, 0x31EF), (0x33C2, 0x33C2),
    (0x33C7, 0x33C7), (0x33D8, 0x33D8), (0xFE12, 0xFE12), (0xFE19, 0xFE19), (0xFE30, 0xFE30),
    (0xFE52, 0xFE52), (0xFFFC, 0xFFFD), (0x1F100, 0x1F100)]

/-- What a character stands for in a domain name, or `none` if none may hold it. Which characters of
ASCII are forbidden is left to the whole name. -/
def foldChar? (c : Char) : Option (List Char) :=
  if c.toNat < 0x80 then some [lowerAscii c]
  else if inRanges c.toNat ignoredRanges then some []
  else
    match folding? c with
    | some cs => some cs
    | none =>
      if inRanges c.toNat refusedRanges
          || (isUnprintable c && !(isJoiner c || isNonJoiner c)) then none
      else some [c]

/-- The character may stand in a domain name and stands for itself. -/
def isFolded (c : Char) : Bool :=
  foldChar? c == some [c] && !isForbiddenInDomain c

/-- A host with its characters folded and composed. -/
def fold? (cs : List Char) : Option (List Char) := do
  let folded ← cs.mapM foldChar?
  let name := normalForm folded.flatten
  if name.any isForbiddenInDomain then none else some name

/-- The most characters of a label spelt in Punycode, without its mark. -/
def maxCodeLength : Nat := 2000

/-- The label that Punycode spells. It must be folded and composed. -/
def decodeLabel? (code : List Char) : Option (List Char) :=
  if code.isEmpty || code.getLast? = some '-' || maxCodeLength < code.length
      || code.any (0x80 ≤ ·.toNat) then none
  else
    (Punycode.decode code).bind fun label =>
      if label.all isFolded && !label.contains '.' && normalForm label == label then some label
      else none

/-- A label of a folded name, read if it is marked as Punycode. -/
def readLabel? (label : List Char) : Option (List Char) := do
  let label ← match label with
    | 'x' :: 'n' :: '-' :: '-' :: code => decodeLabel? code
    | _ => some label
  if isWellFormedLabel label then some label else none

def joinLabels (labels : List (List Char)) : List Char :=
  ['.'].intercalate labels

/-- The domain name that a host spells, or `none` if it spells none. -/
def domainOf? (host : List Char) : Option (List Char) :=
  match Percent.decode host with
  | .error _ => none
  | .ok cs => do
    let name ← fold? cs
    let labels ← (name.splitOn '.').mapM readLabel?
    if keepDirections labels then some (joinLabels labels) else none

end BrokerClient.Uri
