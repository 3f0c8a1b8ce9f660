import BrokerClient.Text.Direction
import BrokerClient.Text.Joining

/-!
# Labels of domain names

What the parts of a domain name between its points must keep to: they do not start with a mark, the
two invisible joiners stand only where scripts need them, and a name with letters that run from
right to left has no label that mixes directions.
-/

namespace BrokerClient.Uri

open BrokerClient.Text

def maxLabelLength : Nat := 1000

/-- The joiner that asks for joined forms. -/
def isJoiner (c : Char) : Bool :=
  c.toNat = 0x200D

/-- The joiner that asks for separate forms. -/
def isNonJoiner (c : Char) : Bool :=
  c.toNat = 0x200C

/-- The first letter of a text joins on a side. Marks before it do not count. -/
def startsJoined (side : Joining) : List Char → Bool
  | [] => false
  | c :: r =>
    match joining c with
    | .transparent => startsJoined side r
    | j => j = side || j = .both

/-- The joiners behind `before`, which is in reverse, stand in their places. Either may follow a
virama, and the one that separates may stand between two letters that would join. -/
def joinersFit (before : List Char) : List Char → Bool
  | [] => true
  | c :: r =>
    let fits :=
      if isJoiner c || isNonJoiner c then
        match before with
        | [] => false
        | p :: _ =>
          isVirama p || (isNonJoiner c && startsJoined .next before && startsJoined .previous r)
      else true
    fits && joinersFit (c :: before) r

def isWellFormedLabel (label : List Char) : Bool :=
  !(label.head?.any isMark) && joinersFit [] label
    && (label.all (·.toNat < 0x80) || label.length ≤ maxLabelLength)

/-- Directions in a label whose first letter runs from left to right. -/
def mayFollowLeftToRight (d : Direction) : Bool :=
  d = .leftToRight || d = .europeanNumber || d = .nonspacing || d = .neutral

/-- Directions in a label whose first letter runs from right to left. -/
def mayFollowRightToLeft (d : Direction) : Bool :=
  d ≠ .leftToRight

/-- A label keeps to one direction: it starts with a letter, and ends, but for marks, with a letter
of the same direction or a digit. From right to left it has only one kind of digits. -/
def keepsDirection (label : List Char) : Bool :=
  match label.map direction with
  | [] => true
  | first :: r =>
    let r := (r.reverse.dropWhile (· = .nonspacing)).reverse
    match first with
    | .leftToRight =>
      r.all mayFollowLeftToRight
        && r.getLast?.all fun d => d = .leftToRight || d = .europeanNumber
    | .rightToLeft =>
      r.all mayFollowRightToLeft && r.getLast?.all (· ≠ .neutral)
        && !(r.contains .europeanNumber && r.contains .arabicNumber)
    | _ => false

/-- The label makes its name one that is written from right to left. -/
def hasRightToLeft (label : List Char) : Bool :=
  label.any fun c => direction c = .rightToLeft || direction c = .arabicNumber

/-- All labels keep to a direction, if any of them has letters that run from right to left. -/
def keepDirections (labels : List (List Char)) : Bool :=
  !labels.any hasRightToLeft || labels.all keepsDirection

end BrokerClient.Uri
