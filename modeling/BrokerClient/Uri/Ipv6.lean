import BrokerClient.Text.Digits

/-!
# IPv6 addresses

Eight pieces of 16 bits, read from the forms of RFC 4291 and written in the form of RFC 5952: lower
case, no leading zeros, the first longest run of two or more zero pieces as `::`.
-/

namespace BrokerClient.Uri

open BrokerClient.Text

/-- The pieces read so far, and where `::` stood among them. The piece that `::` stands for is among
the pieces as one zero, and the gap is the place behind it. -/
structure PartialIpv6 where
  pieces : List Nat
  gap : Option Nat
  deriving DecidableEq, Repr

/-- A decimal number up to 255 without a leading zero, at the start of the input. -/
def readOctet (cs : List Char) : Option (Nat × List Char) :=
  let ds := cs.takeWhile isDigit
  if ds.isEmpty || 3 < ds.length || (ds.head? = some '0' && 1 < ds.length) then none
  else
    let v := decimalValue ds
    if v ≤ 255 then some (v, cs.dropWhile isDigit) else none

/-- The two pieces of an IPv4 address that ends the input. -/
def readIpv4Tail (cs : List Char) : Option (List Nat) :=
  match readOctet cs with
  | some (a, '.' :: r) =>
    match readOctet r with
    | some (b, '.' :: r) =>
      match readOctet r with
      | some (c, '.' :: r) =>
        match readOctet r with
        | some (d, []) => some [256 * a + b, 256 * c + d]
        | _ => none
      | _ => none
    | _ => none
  | _ => none

/-- The pieces up to the end of the input; each round takes at least one character. -/
def readIpv6Pieces : Nat → PartialIpv6 → List Char → Option PartialIpv6
  | 0, _, _ => none
  | fuel + 1, p, cs =>
    match cs with
    | [] => some p
    | c :: r =>
      if p.pieces.length = 8 then none
      else if c = ':' then
        if p.gap.isSome then none
        else readIpv6Pieces fuel ⟨p.pieces ++ [0], some (p.pieces.length + 1)⟩ r
      else
        let ds := (cs.take 4).takeWhile isHexDigit
        let value := ds.foldl (fun n c => 16 * n + (hexValue? c).getD 0) 0
        match cs.drop ds.length with
        | [] => some { p with pieces := p.pieces ++ [value] }
        | '.' :: _ =>
          if ds.isEmpty || 6 < p.pieces.length then none
          else (readIpv4Tail cs).map fun ps => { p with pieces := p.pieces ++ ps }
        | ':' :: rest =>
          if rest.isEmpty then none
          else readIpv6Pieces fuel { p with pieces := p.pieces ++ [value] } rest
        | _ => none

/-- The eight pieces, with zeros put into the gap. -/
def PartialIpv6.complete? (p : PartialIpv6) : Option (List Nat) :=
  match p.gap with
  | none => if p.pieces.length = 8 then some p.pieces else none
  | some g =>
    some (p.pieces.take g ++ List.replicate (8 - p.pieces.length) 0 ++ p.pieces.drop g)

/-- The pieces of an IPv6 address. -/
def parseIpv6? (cs : List Char) : Option (List Nat) :=
  let start : Option (PartialIpv6 × List Char) := match cs with
    | ':' :: ':' :: r => some (⟨[0], some 1⟩, r)
    | [] => none
    | [_] => none
    | ':' :: _ => none
    | _ => some (⟨[], none⟩, cs)
  match start with
  | none => none
  | some (p, r) => (readIpv6Pieces (r.length + 1) p r).bind PartialIpv6.complete?

/-- The length of the run of zeros at the start of a list. -/
def zeroRun (ps : List Nat) : Nat :=
  (ps.takeWhile (· = 0)).length

/-- The place and length of the first longest run of zeros, in pieces that start at `place`. -/
def longestZeroRun (place : Nat) : List Nat → Nat × Nat
  | [] => (place, 0)
  | p :: ps =>
    let here := zeroRun (p :: ps)
    let later := longestZeroRun (place + 1) ps
    if later.2 ≤ here then (place, here) else later

def joinPieces : List Nat → List Char
  | [] => []
  | [p] => hexadecimal p
  | p :: ps => hexadecimal p ++ ':' :: joinPieces ps

/-- An IPv6 address in its shortest form. -/
def writeIpv6 (pieces : List Nat) : List Char :=
  let (place, count) := longestZeroRun 0 pieces
  if count < 2 then joinPieces pieces
  else joinPieces (pieces.take place) ++ ':' :: ':' :: joinPieces (pieces.drop (place + count))

end BrokerClient.Uri
