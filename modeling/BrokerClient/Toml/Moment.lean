import BrokerClient.Text.Digits

/-!
# Dates and times

The dates, times and offsets of RFC 3339 as TOML admits them: any part may stand alone, seconds may
be left out, and a date must exist in the Gregorian calendar.
-/

namespace BrokerClient.Toml

open BrokerClient.Text

/-- The number of exactly `count` digits at the start of the input. -/
def readFixed (count : Nat) (cs : List Char) : Option (Nat × List Char) :=
  let ds := cs.take count
  if ds.length = count && ds.all isDigit then some (decimalValue ds, cs.drop count) else none

/-- The input after a character that must come next. -/
def readMark (mark : Char) : List Char → Option (List Char)
  | c :: r => if c = mark then some r else none
  | [] => none

def daysInMonth (year month : Nat) : Nat :=
  if month = 2 then
    if year % 4 = 0 && (year % 100 ≠ 0 || year % 400 = 0) then 29 else 28
  else if month = 4 || month = 6 || month = 9 || month = 11 then 30
  else 31

/-- A date such as `1979-05-27`. -/
def readDate (cs : List Char) : Option (List Char) := do
  let (year, r) ← readFixed 4 cs
  let r ← readMark '-' r
  let (month, r) ← readFixed 2 r
  let r ← readMark '-' r
  let (day, r) ← readFixed 2 r
  if 1 ≤ month && month ≤ 12 && 1 ≤ day && day ≤ daysInMonth year month then some r else none

/-- A fraction of a second: a point and at least one digit. -/
def readSecondFraction (cs : List Char) : Option (List Char) :=
  match cs with
  | '.' :: r => if (r.takeWhile isDigit).isEmpty then none else some (r.dropWhile isDigit)
  | _ => some cs

/-- A time of day such as `07:32` or `07:32:00.5`. A minute may have 61 seconds. -/
def readTime (cs : List Char) : Option (List Char) := do
  let (hour, r) ← readFixed 2 cs
  let r ← readMark ':' r
  let (minute, r) ← readFixed 2 r
  if 23 < hour || 59 < minute then none
  match readMark ':' r with
  | none => some r
  | some r =>
    let (second, r) ← readFixed 2 r
    if 60 < second then none
    readSecondFraction r

/-- An offset from universal time, or nothing. -/
def readOffset (cs : List Char) : Option (List Char) :=
  match cs with
  | 'Z' :: r => some r
  | 'z' :: r => some r
  | c :: r =>
    if c = '+' || c = '-' then do
      let (hour, r) ← readFixed 2 r
      let r ← readMark ':' r
      let (minute, r) ← readFixed 2 r
      if 23 < hour || 59 < minute then none else some r
    else some cs
  | [] => some []

/-- A date, a time, or a date and a time with or without an offset, and nothing after it. -/
def isMoment (cs : List Char) : Bool :=
  match readDate cs with
  | some [] => true
  | some (c :: r) =>
    (c = 'T' || c = 't' || c = ' ') && ((readTime r).bind readOffset == some [])
  | none => readTime cs == some []

end BrokerClient.Toml
