import BrokerClient.Text.Percent

/-!
# Paths

A path is a sequence of segments, each written after a slash. The segment `.` stands for nothing
and the segment `..` takes back the segment before it; either of them at the end of a path leaves an
empty segment there. Segments that name a drive are never taken back. A path, like every part of a
URI, keeps the characters it can hold and percent-encodes the others; a `%` is always kept.
-/

namespace BrokerClient.Uri

/-- Control characters and everything beyond ASCII. -/
def isControl (c : Char) : Bool :=
  c.toNat < 0x20 || 0x7E < c.toNat

def isEscapedInPath (c : Char) : Bool :=
  isControl c || [' ', '"', '#', '<', '>', '?', '`', '\x7b', '\x7d'].contains c

/-- A part of a path with its characters spelt out where needed. -/
def escapePath (cs : List Char) : List Char :=
  Text.Percent.encodeWhere isEscapedInPath cs

/-- A host or an opaque path with its control characters spelt out. -/
def escapeControls (cs : List Char) : List Char :=
  Text.Percent.encodeWhere isControl cs

def splitSegments (cs : List Char) : List (List Char) :=
  cs.splitOn '/'

/-- A point, or its percent-encoded form, at the start of a segment. -/
def afterPoint? : List Char → Option (List Char)
  | '.' :: r => some r
  | '%' :: '2' :: 'e' :: r => some r
  | '%' :: '2' :: 'E' :: r => some r
  | _ => none

/-- The segment that stands for nothing. -/
def isSingleDot (segment : List Char) : Bool :=
  afterPoint? segment == some []

/-- The segment that takes back the one before it. -/
def isDoubleDot (segment : List Char) : Bool :=
  (afterPoint? segment).bind afterPoint? == some []

/-- The text behind a drive: behind a letter and a colon or a vertical bar. -/
def afterDrive? : List Char → Option (List Char)
  | letter :: mark :: r =>
    let n := letter.toNat
    if ((65 ≤ n && n ≤ 90) || (97 ≤ n && n ≤ 122)) && (mark = ':' || mark = '|') then some r
    else none
  | _ => none

def isDrive (cs : List Char) : Bool :=
  afterDrive? cs == some []

/-- A segment that is a drive, or that goes on with a backslash behind one. -/
def namesDrive (segment : List Char) : Bool :=
  match afterDrive? segment with
  | some r => r.isEmpty || r.head? = some '\\'
  | none => false

/-- Takes back the last segment, unless it names a drive. -/
def takeBack (segments : List (List Char)) : List (List Char) :=
  match segments.getLast? with
  | some last => if namesDrive last then segments else segments.dropLast
  | none => []

/-- Adds the segments of a text to resolved segments. -/
def resolveFrom (resolved : List (List Char)) : List (List Char) → List (List Char)
  | [] => resolved
  | s :: r =>
    let atEnd := r.isEmpty
    if isDoubleDot s then
      resolveFrom (takeBack resolved ++ if atEnd then [[]] else []) r
    else if isSingleDot s then resolveFrom (resolved ++ if atEnd then [[]] else []) r
    else resolveFrom (resolved ++ [s]) r

def joinSegments (segments : List (List Char)) : List Char :=
  segments.flatMap fun s => '/' :: s

/-- The path of a text that stood after a slash. -/
def resolvePath (cs : List Char) : List Char :=
  joinSegments (resolveFrom [] ((splitSegments cs).map escapePath))

end BrokerClient.Uri
