import BrokerClient.Toml.Document
import BrokerClient.Toml.Quoted
import BrokerClient.Toml.Scalar

/-!
# Reading TOML

The grammar of TOML 1.1: keys, values, headers and comments. Arrays and tables within braces may
nest 80 levels deep, and a key may have 80 parts. One byte order mark may stand at the start.
-/

namespace BrokerClient.Toml

open BrokerClient.Text

/-- The deepest nesting of arrays and tables within braces. -/
def maxNesting : Nat := 80

/-- The most parts of a key. -/
def maxKeyParts : Nat := 80

def isBareKeyChar (c : Char) : Bool :=
  let n := c.toNat
  (48 ≤ n && n ≤ 57) || (65 ≤ n && n ≤ 90) || (97 ≤ n && n ≤ 122) || c = '_' || c = '-'

/-- Characters of a scalar without quotes. -/
def isScalarChar (c : Char) : Bool :=
  isBareKeyChar c || c = '+' || c = '.' || c = ':'

/-- The input after spaces and tabs. -/
def skipGaps (cs : List Char) : List Char :=
  cs.dropWhile isGap

def skipComment (cs : List Char) : Option (List Char) :=
  match cs with
  | '#' :: r =>
    let rest := r.dropWhile isPlain
    match rest with
    | [] => some []
    | _ => (readNewline? rest).map fun _ => rest
  | _ => some cs

def readKeyPart (cs : List Char) : Option (String × List Char) :=
  match readQuotedKey cs with
  | some part => some part
  | none =>
    let name := cs.takeWhile isBareKeyChar
    if name.isEmpty then none else some (String.ofList name, cs.dropWhile isBareKeyChar)

/-- At most `count` parts of a key with dots between them, and the input after the gaps behind. -/
def readKeyParts : Nat → List Char → Option (List String × List Char)
  | 0, _ => none
  | count + 1, cs => do
    let (part, r) ← readKeyPart cs
    match skipGaps r with
    | '.' :: r => do
      let (parts, rest) ← readKeyParts count (skipGaps r)
      return (part :: parts, rest)
    | r => return ([part], r)

def readKey (cs : List Char) : Option (List String × List Char) :=
  readKeyParts maxKeyParts cs

/-- The input after gaps, comments and newlines. -/
def skipLines : Nat → List Char → Option (List Char)
  | 0, _ => none
  | fuel + 1, cs =>
    let r := skipGaps cs
    match readNewline? r with
    | some r => skipLines fuel r
    | none =>
      match r with
      | '#' :: _ => (skipComment r).bind (skipLines fuel)
      | _ => some r

/-- A scalar without quotes. A date and the time after it may have one space between them. -/
def readScalar (cs : List Char) : Option (Value × List Char) :=
  let token := cs.takeWhile isScalarChar
  let rest := cs.dropWhile isScalarChar
  match readDate token, rest with
  | some [], ' ' :: d :: r =>
    if isDigit d then
      let time := (d :: r).takeWhile isScalarChar
      (scalar? (token ++ ' ' :: time)).map (·, (d :: r).dropWhile isScalarChar)
    else (scalar? token).map (·, rest)
  | _, _ => (scalar? token).map (·, rest)

mutual

def readValue (fuel depth : Nat) (cs : List Char) : Option (Value × List Char) :=
  match fuel with
  | 0 => none
  | fuel + 1 =>
    match cs with
    | '[' :: r =>
      match depth with
      | 0 => none
      | depth + 1 => (readItems fuel depth r).map fun (vs, rest) => (.array vs, rest)
    | '{' :: r =>
      match depth with
      | 0 => none
      | depth + 1 =>
        match readAssignments fuel depth r with
        | some (assignments, rest) =>
          (inlineEntries? assignments).map fun es => (.table es, rest)
        | none => none
    | '"' :: _ => (readString cs).map fun (s, rest) => (.string s, rest)
    | '\'' :: _ => (readString cs).map fun (s, rest) => (.string s, rest)
    | _ => readScalar cs

def readItems (fuel depth : Nat) (cs : List Char) : Option (List Value × List Char) :=
  match fuel with
  | 0 => none
  | fuel + 1 =>
    match skipLines (cs.length + 1) cs with
    | none => none
    | some (']' :: r) => some ([], r)
    | some r =>
      match readValue fuel depth r with
      | none => none
      | some (v, r) =>
        match skipLines (r.length + 1) r with
        | some (',' :: r) => (readItems fuel depth r).map fun (vs, rest) => (v :: vs, rest)
        | some (']' :: r) => some ([v], r)
        | _ => none

/-- The assignments of a table within braces up to the closing one. -/
def readAssignments (fuel depth : Nat) (cs : List Char) :
    Option (List (List String × Value) × List Char) :=
  match fuel with
  | 0 => none
  | fuel + 1 =>
    match skipLines (cs.length + 1) cs with
    | none => none
    | some ('\x7d' :: r) => some ([], r)
    | some r =>
      match readBracedAssignment fuel depth r with
      | none => none
      | some (assignment, r) =>
        match skipLines (r.length + 1) r with
        | some (',' :: r) =>
          (readAssignments fuel depth r).map fun (as, rest) => (assignment :: as, rest)
        | some ('\x7d' :: r) => some ([assignment], r)
        | _ => none

/-- An assignment of a table within braces. Newlines and comments may stand on either side of its
equals sign. -/
def readBracedAssignment (fuel depth : Nat) (cs : List Char) :
    Option ((List String × Value) × List Char) :=
  match fuel with
  | 0 => none
  | fuel + 1 =>
    match readKey cs with
    | none => none
    | some (key, r) =>
      match skipLines (r.length + 1) r with
      | some ('=' :: r) =>
        match skipLines (r.length + 1) r with
        | none => none
        | some r => (readValue fuel depth r).map fun (v, rest) => ((key, v), rest)
      | _ => none

end

/-- The input after the end of an expression: gaps, a comment, and a newline or the end. -/
def endOfLine (cs : List Char) : Option (List Char) := do
  let r ← skipComment (skipGaps cs)
  match r with
  | [] => some []
  | _ => readNewline? r

def readHeader (cs : List Char) : Option (Expression × List Char) :=
  match cs with
  | '[' :: '[' :: r =>
    match readKey (skipGaps r) with
    | some (path, ']' :: ']' :: r) => some (.element path, r)
    | _ => none
  | '[' :: r =>
    match readKey (skipGaps r) with
    | some (path, ']' :: r) => some (.table path, r)
    | _ => none
  | _ => none

def readAssignment (cs : List Char) : Option (Expression × List Char) :=
  match readKey cs with
  | some (key, '=' :: r) =>
    (readValue (2 * cs.length + 2) maxNesting (skipGaps r)).map fun (v, rest) =>
      (.assignment key v, rest)
  | _ => none

/-- The expressions of a document, one on a line. -/
def readExpressions : Nat → List Char → Option (List Expression)
  | 0, _ => none
  | fuel + 1, cs =>
    match skipLines (cs.length + 1) cs with
    | none => none
    | some [] => some []
    | some (c :: r) =>
      let read := if c = '[' then readHeader (c :: r) else readAssignment (c :: r)
      match read with
      | none => none
      | some (e, r) =>
        match endOfLine r with
        | none => none
        | some r => (readExpressions fuel r).map (e :: ·)

/-- The text without a byte order mark at its start. -/
def withoutMark (cs : List Char) : List Char :=
  match cs with
  | c :: r => if c.toNat = 0xFEFF then r else cs
  | [] => []

def parse? (s : String) : Option (List (String × Value)) :=
  let cs := withoutMark s.toList
  (readExpressions (cs.length + 1) cs).bind assemble?

end BrokerClient.Toml
