import BrokerClient.Text.Digits

/-!
# Quoted strings

Strings in double quotes have escapes, strings in single quotes have none. Either kind may be
written over several lines between three quotes, where up to two quotes may stand next to the
closing ones.
-/

namespace BrokerClient.Toml

open BrokerClient.Text

/-- Characters that may stand for themselves in a comment or a string: no control characters other
than the tab. -/
def isPlain (c : Char) : Bool :=
  c = '\t' || (0x20 ≤ c.toNat && c.toNat ≠ 0x7F)

/-- The character of a code point that is no surrogate. -/
def scalarOfCode? (n : Nat) : Option Char :=
  if n < 0xD800 || (0xE000 ≤ n && n < 0x110000) then some (Char.ofNat n) else none

/-- The character written as `count` hexadecimal digits. -/
def readCode (count : Nat) (cs : List Char) : Option (Char × List Char) :=
  let ds := cs.take count
  if ds.length = count && ds.all isHexDigit then
    (scalarOfCode? (ds.foldl (fun n c => 16 * n + (hexValue? c).getD 0) 0)).map (·, cs.drop count)
  else none

/-- The character of an escape, after its backslash. -/
def readEscape : List Char → Option (Char × List Char)
  | [] => none
  | c :: r =>
    match c with
    | 'b' => some ('\x08', r)
    | 't' => some ('\t', r)
    | 'n' => some ('\n', r)
    | 'f' => some ('\x0C', r)
    | 'r' => some ('\r', r)
    | 'e' => some ('\x1B', r)
    | '"' => some ('"', r)
    | '\\' => some ('\\', r)
    | 'x' => readCode 2 r
    | 'u' => readCode 4 r
    | 'U' => readCode 8 r
    | _ => none

/-- A newline at the start of the input. -/
def readNewline? : List Char → Option (List Char)
  | '\n' :: r => some r
  | '\r' :: '\n' :: r => some r
  | _ => none

def isGap (c : Char) : Bool :=
  c = ' ' || c = '\t'

/-- The input after the spaces, tabs and newlines that an escaped line end swallows. -/
def skipBlankLines : List Char → List Char
  | [] => []
  | '\r' :: '\n' :: r => skipBlankLines r
  | c :: r => if isGap c || c = '\n' then skipBlankLines r else c :: r

/-- The rest of a string in double quotes. -/
def readBasic : Nat → List Char → Option (List Char × List Char)
  | 0, _ => none
  | fuel + 1, cs =>
    match cs with
    | [] => none
    | '"' :: r => some ([], r)
    | '\\' :: r => do
      let (c, r) ← readEscape r
      let (s, rest) ← readBasic fuel r
      return (c :: s, rest)
    | c :: r =>
      if isPlain c then do
        let (s, rest) ← readBasic fuel r
        return (c :: s, rest)
      else none

/-- The rest of a string in single quotes. -/
def readLiteral : List Char → Option (List Char × List Char)
  | [] => none
  | '\'' :: r => some ([], r)
  | c :: r =>
    if isPlain c then do
      let (s, rest) ← readLiteral r
      return (c :: s, rest)
    else none

/-- Quotes at the end of a string over several lines: three close it, and up to two before them
belong to it. -/
def closingQuotes (quote : Char) (cs : List Char) : Option (List Char × List Char) :=
  let count := (cs.takeWhile (· = quote)).length
  if 3 ≤ count then
    let inner := min (count - 3) 2
    some (List.replicate inner quote, cs.drop (inner + 3))
  else none

/-- The rest of a string in three double quotes. A backslash at the end of a line swallows the line
end and all white space up to the next character; other line ends stay as they are. -/
def readBasicLines : Nat → List Char → Option (List Char × List Char)
  | 0, _ => none
  | fuel + 1, cs =>
    match closingQuotes '"' cs with
    | some closed => some closed
    | none =>
      match cs with
      | [] => none
      | '\\' :: r =>
        match readNewline? (r.dropWhile isGap) with
        | some r => readBasicLines fuel (skipBlankLines r)
        | none => do
          let (c, r) ← readEscape r
          let (s, rest) ← readBasicLines fuel r
          return (c :: s, rest)
      | '\r' :: '\n' :: r => do
        let (s, rest) ← readBasicLines fuel r
        return ('\r' :: '\n' :: s, rest)
      | c :: r =>
        if isPlain c || c = '\n' then do
          let (s, rest) ← readBasicLines fuel r
          return (c :: s, rest)
        else none

/-- The rest of a string in three single quotes. -/
def readLiteralLines : Nat → List Char → Option (List Char × List Char)
  | 0, _ => none
  | fuel + 1, cs =>
    match closingQuotes '\'' cs with
    | some closed => some closed
    | none =>
      match cs with
      | [] => none
      | '\r' :: '\n' :: r => do
        let (s, rest) ← readLiteralLines fuel r
        return ('\r' :: '\n' :: s, rest)
      | c :: r =>
        if isPlain c || c = '\n' then do
          let (s, rest) ← readLiteralLines fuel r
          return (c :: s, rest)
        else none

/-- The text after an opening triple quote, without a newline right behind it. -/
def afterOpening (cs : List Char) : List Char :=
  (readNewline? cs).getD cs

def readString (cs : List Char) : Option (String × List Char) :=
  let fuel := cs.length + 1
  let read := match cs with
    | '"' :: '"' :: '"' :: r => readBasicLines fuel (afterOpening r)
    | '\'' :: '\'' :: '\'' :: r => readLiteralLines fuel (afterOpening r)
    | '"' :: r => readBasic fuel r
    | '\'' :: r => readLiteral r
    | _ => none
  read.map fun (s, rest) => (String.ofList s, rest)

/-- A string on one line, as it may stand in a key. -/
def readQuotedKey (cs : List Char) : Option (String × List Char) :=
  let read := match cs with
    | '"' :: r => readBasic (cs.length + 1) r
    | '\'' :: r => readLiteral r
    | _ => none
  read.map fun (s, rest) => (String.ofList s, rest)

end BrokerClient.Toml
