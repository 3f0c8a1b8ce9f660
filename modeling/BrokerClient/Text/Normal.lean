import BrokerClient.Text.Composition
import BrokerClient.Text.Mark

/-!
# The composed normal form

Texts that look the same have one normal form. Every character is taken apart, marks on the same
letter are put in the order of their combining classes, and the parts are composed again: each mark
with the letter before it, unless a mark of the same class stands between them.
-/

namespace BrokerClient.Text

/-- A character taken apart, `depth` times at most. -/
def decomposeChar : Nat → Char → List Char
  | 0, c => [c]
  | depth + 1, c =>
    match parts? c with
    | some (a, b) => decomposeChar depth a ++ [b]
    | none => [c]

def maxDepth : Nat := 4

/-- A text of characters that cannot be taken apart. -/
def decompose (cs : List Char) : List Char :=
  cs.flatMap (decomposeChar maxDepth)

/-- Puts a character before marks in the order of their classes. -/
def insertInOrder (c : Char) : List Char → List Char
  | [] => [c]
  | d :: r =>
    if combiningClass d ≠ 0 && combiningClass d < combiningClass c then d :: insertInOrder c r
    else c :: d :: r

/-- The text with its marks in the order of their classes. -/
def orderMarks (cs : List Char) : List Char :=
  cs.foldr insertInOrder []

/-- Composes a letter with what stands behind it. The marks it did not take are kept in reverse, and
`lastClass` is the class of the last of them. -/
def composeWith (letter : Char) (kept : List Char) (lastClass : Nat) : List Char → List Char
  | [] => letter :: kept.reverse
  | c :: r =>
    let k := combiningClass c
    match if kept.isEmpty || lastClass < k then composite? letter c else none with
    | some composed => composeWith composed kept lastClass r
    | none =>
      if k = 0 then letter :: kept.reverse ++ composeWith c [] 0 r
      else composeWith letter (c :: kept) k r

/-- Composes a text in which marks are in order. Marks without a letter stay as they are. -/
def compose : List Char → List Char
  | [] => []
  | c :: r => if combiningClass c = 0 then composeWith c [] 0 r else c :: compose r

def normalForm (cs : List Char) : List Char :=
  compose (orderMarks (decompose cs))

end BrokerClient.Text
