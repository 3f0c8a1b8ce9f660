import BrokerClient.Json.Syntax

/-!
# Reading JSON

The grammar of RFC 8259 over bytes: white space is space, tab, line feed and carriage return; no
comments, no trailing commas, no leading zeros. Bytes inside string literals are not looked at here.
-/

namespace BrokerClient.Json

/-- The byte of an ASCII character. -/
def ascii (c : Char) : UInt8 :=
  c.toNat.toUInt8

/-- White space between tokens. -/
def isBlankByte (b : UInt8) : Bool :=
  b == 0x20 || b == 0x09 || b == 0x0A || b == 0x0D

/-- The input after white space. -/
def skipBlanks (bs : List UInt8) : List UInt8 :=
  bs.dropWhile isBlankByte

def isDigitByte (b : UInt8) : Bool :=
  0x30 ≤ b && b ≤ 0x39

def digitOfByte (b : UInt8) : Nat :=
  b.toNat - 48

/-- The value of a hexadecimal digit of either case. -/
def hexOfByte? (b : UInt8) : Option Nat :=
  let n := b.toNat
  if 48 ≤ n && n ≤ 57 then some (n - 48)
  else if 65 ≤ n && n ≤ 70 then some (n - 55)
  else if 97 ≤ n && n ≤ 102 then some (n - 87)
  else none

/-- The code unit of four hexadecimal digits. -/
def codeUnit? (a b c d : UInt8) : Option Nat := do
  let w ← hexOfByte? a
  let x ← hexOfByte? b
  let y ← hexOfByte? c
  let z ← hexOfByte? d
  return 4096 * w + 256 * x + 16 * y + z

/-- The byte that a one-letter escape stands for. -/
def shortEscape? (letter : UInt8) : Option UInt8 :=
  if letter = ascii '"' then some 0x22
  else if letter = ascii '\\' then some 0x5C
  else if letter = ascii '/' then some 0x2F
  else if letter = ascii 'b' then some 0x08
  else if letter = ascii 'f' then some 0x0C
  else if letter = ascii 'n' then some 0x0A
  else if letter = ascii 'r' then some 0x0D
  else if letter = ascii 't' then some 0x09
  else none

/-- The content of a string literal up to its closing quote, and the input after that. -/
def readPieces : List UInt8 → Option (Literal × List UInt8)
  | [] => none
  | b :: r =>
    if b = ascii '"' then some ([], r)
    else if b = ascii '\\' then
      match r with
      | [] => none
      | e :: r₁ =>
        if e = ascii 'u' then
          match r₁ with
          | w :: x :: y :: z :: r₂ => do
            let u ← codeUnit? w x y z
            let (ps, rest) ← readPieces r₂
            return (.unit u :: ps, rest)
          | _ => none
        else do
          let s ← shortEscape? e
          let (ps, rest) ← readPieces r₁
          return (.short s :: ps, rest)
    else do
      let (ps, rest) ← readPieces r
      return (.raw b :: ps, rest)

/-- A run of digits, as values, and the input after it. -/
def readDigits (bs : List UInt8) : List Nat × List UInt8 :=
  ((bs.takeWhile isDigitByte).map digitOfByte, bs.dropWhile isDigitByte)

/-- The fraction of a numeral, empty if there is none. -/
def readFraction (bs : List UInt8) : Option (List Nat × List UInt8) :=
  match bs with
  | [] => some ([], [])
  | b :: r =>
    if b = ascii '.' then
      let (ds, rest) := readDigits r
      if ds.isEmpty then none else some (ds, rest)
    else some ([], b :: r)

/-- The exponent of a numeral: whether it is negative, and its digits. -/
def readExponent (bs : List UInt8) : Option (Option (Bool × List Nat) × List UInt8) :=
  match bs with
  | [] => some (none, [])
  | b :: r =>
    if b = ascii 'e' || b = ascii 'E' then
      let (negative, r₁) := match r with
        | s :: r' =>
          if s = ascii '-' then (true, r') else if s = ascii '+' then (false, r') else (false, r)
        | [] => (false, r)
      let (ds, rest) := readDigits r₁
      if ds.isEmpty then none else some (some (negative, ds), rest)
    else some (none, b :: r)

/-- A number: an optional minus sign, digits without a leading zero, fraction, exponent. -/
def readNumeral (bs : List UInt8) : Option (Numeral × List UInt8) := do
  let (negative, r) := match bs with
    | b :: r => if b = ascii '-' then (true, r) else (false, bs)
    | [] => (false, bs)
  let (whole, r₁) := readDigits r
  if whole.isEmpty || (whole.head? == some 0 && 1 < whole.length) then none
  let (fraction, r₂) ← readFraction r₁
  let (exponent, r₃) ← readExponent r₂
  return (⟨negative, whole, fraction, exponent⟩, r₃)

def readKeyword (bs : List UInt8) : Option (Syntax × List UInt8) :=
  match List.isPrefixOf? ("null".toList.map ascii) bs with
  | some r => some (.null, r)
  | none =>
    match List.isPrefixOf? ("true".toList.map ascii) bs with
    | some r => some (.bool true, r)
    | none => (List.isPrefixOf? ("false".toList.map ascii) bs).map (.bool false, ·)

mutual

def readValue (fuel : Nat) (bs : List UInt8) : Option (Syntax × List UInt8) :=
  match fuel with
  | 0 => none
  | fuel + 1 =>
    match skipBlanks bs with
    | [] => none
    | b :: r =>
      if b = ascii '"' then (readPieces r).map fun (ps, rest) => (.string ps, rest)
      else if b = ascii '[' then
        match skipBlanks r with
        | [] => none
        | c :: r₁ =>
          if c = ascii ']' then some (.array [], r₁)
          else (readItems fuel (c :: r₁)).map fun (items, rest) => (.array items, rest)
      else if b = ascii '{' then
        match skipBlanks r with
        | [] => none
        | c :: r₁ =>
          if c = ascii '}' then some (.object [], r₁)
          else (readMembers fuel (c :: r₁)).map fun (members, rest) => (.object members, rest)
      else if b = ascii '-' || isDigitByte b then
        (readNumeral (b :: r)).map fun (n, rest) => (.number n, rest)
      else readKeyword (b :: r)

/-- The items of an array that has at least one, with the closing bracket. -/
def readItems (fuel : Nat) (bs : List UInt8) : Option (List Syntax × List UInt8) :=
  match fuel with
  | 0 => none
  | fuel + 1 =>
    match readValue fuel bs with
    | none => none
    | some (v, r) =>
      match skipBlanks r with
      | [] => none
      | c :: r₁ =>
        if c = ascii ']' then some ([v], r₁)
        else if c = ascii ',' then
          (readItems fuel r₁).map fun (vs, rest) => (v :: vs, rest)
        else none

/-- The members of an object that has at least one, with the closing brace. -/
def readMembers (fuel : Nat) (bs : List UInt8) : Option (List (Literal × Syntax) × List UInt8) :=
  match fuel with
  | 0 => none
  | fuel + 1 =>
    match skipBlanks bs with
    | [] => none
    | q :: r =>
      if q = ascii '"' then
        match readPieces r with
        | none => none
        | some (key, r₁) =>
          match skipBlanks r₁ with
          | [] => none
          | c :: r₂ =>
            if c = ascii ':' then
              match readValue fuel r₂ with
              | none => none
              | some (v, r₃) =>
                match skipBlanks r₃ with
                | [] => none
                | d :: r₄ =>
                  if d = ascii '}' then some ([(key, v)], r₄)
                  else if d = ascii ',' then
                    (readMembers fuel r₄).map fun (ms, rest) => ((key, v) :: ms, rest)
                  else none
            else none
      else none

end

/-- A whole JSON text: one value with white space around it. Every call consumes a byte before it
calls itself twice, so twice the length is fuel enough. -/
def read? (bs : List UInt8) : Option Syntax :=
  match readValue (2 * bs.length + 2) bs with
  | some (v, rest) => if (skipBlanks rest).isEmpty then some v else none
  | none => none

end BrokerClient.Json
