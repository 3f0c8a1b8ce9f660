import BrokerClient.Text.Digits

/-!
# UTF-8

Characters as byte sequences. Decoding refuses overlong forms, surrogates and values above
U+10FFFF, and says where the valid part ends and whether the bytes merely stop too early.
-/

namespace BrokerClient.Text.Utf8

/-- The bytes of one code point. Surrogates take three bytes, though no text holds them. -/
def encodeCode (n : Nat) : List UInt8 :=
  if n < 0x80 then [n.toUInt8]
  else if n < 0x800 then [(0xC0 + n / 64).toUInt8, (0x80 + n % 64).toUInt8]
  else if n < 0x10000 then
    [(0xE0 + n / 4096).toUInt8, (0x80 + n / 64 % 64).toUInt8, (0x80 + n % 64).toUInt8]
  else
    [(0xF0 + n / 262144).toUInt8, (0x80 + n / 4096 % 64).toUInt8, (0x80 + n / 64 % 64).toUInt8,
      (0x80 + n % 64).toUInt8]

def encodeChar (c : Char) : List UInt8 :=
  encodeCode c.toNat

def encode (cs : List Char) : List UInt8 :=
  cs.flatMap encodeChar

def bytes (s : String) : List UInt8 :=
  encode s.toList

/-- Why a byte sequence is not UTF-8: `validUpTo` bytes are well formed, and then either
`badLength` bytes can start no character or, without one, the input ends inside a character. -/
structure Fault where
  validUpTo : Nat
  badLength : Option Nat
  deriving DecidableEq, Repr

def Fault.message (f : Fault) : String :=
  match f.badLength with
  | some n => "invalid utf-8 sequence of " ++ ofNat n ++ " bytes from index " ++ ofNat f.validUpTo
  | none => "incomplete utf-8 byte sequence from index " ++ ofNat f.validUpTo

def isTail (b : UInt8) : Bool :=
  0x80 ≤ b && b ≤ 0xBF

/-- The second bytes that may follow a first byte of a sequence of three. -/
def isSecondOfThree (a b : UInt8) : Bool :=
  if a = 0xE0 then 0xA0 ≤ b && b ≤ 0xBF
  else if a = 0xED then 0x80 ≤ b && b ≤ 0x9F
  else isTail b

/-- The second bytes that may follow a first byte of a sequence of four. -/
def isSecondOfFour (a b : UInt8) : Bool :=
  if a = 0xF0 then 0x90 ≤ b && b ≤ 0xBF
  else if a = 0xF4 then 0x80 ≤ b && b ≤ 0x8F
  else isTail b

/-- The low six bits that a continuation byte carries. -/
def tailBits (b : UInt8) : Nat :=
  b.toNat - 0x80

/-- Decodes a byte sequence that starts `pos` bytes into the input. -/
def decodeFrom (pos : Nat) : List UInt8 → Except Fault (List Char)
  | [] => .ok []
  | a :: r =>
    if a < 0x80 then
      (decodeFrom (pos + 1) r).map (Char.ofNat a.toNat :: ·)
    else if 0xC2 ≤ a && a ≤ 0xDF then
      match r with
      | [] => .error ⟨pos, none⟩
      | b :: r₁ =>
        if isTail b then
          (decodeFrom (pos + 2) r₁).map
            (Char.ofNat ((a.toNat - 0xC0) * 64 + tailBits b) :: ·)
        else .error ⟨pos, some 1⟩
    else if 0xE0 ≤ a && a ≤ 0xEF then
      match r with
      | [] => .error ⟨pos, none⟩
      | b :: r₁ =>
        if isSecondOfThree a b then
          match r₁ with
          | [] => .error ⟨pos, none⟩
          | c :: r₂ =>
            if isTail c then
              (decodeFrom (pos + 3) r₂).map
                (Char.ofNat ((a.toNat - 0xE0) * 4096 + tailBits b * 64 + tailBits c) :: ·)
            else .error ⟨pos, some 2⟩
        else .error ⟨pos, some 1⟩
    else if 0xF0 ≤ a && a ≤ 0xF4 then
      match r with
      | [] => .error ⟨pos, none⟩
      | b :: r₁ =>
        if isSecondOfFour a b then
          match r₁ with
          | [] => .error ⟨pos, none⟩
          | c :: r₂ =>
            if isTail c then
              match r₂ with
              | [] => .error ⟨pos, none⟩
              | d :: r₃ =>
                if isTail d then
                  (decodeFrom (pos + 4) r₃).map
                    (Char.ofNat ((a.toNat - 0xF0) * 262144 + tailBits b * 4096 + tailBits c * 64
                      + tailBits d) :: ·)
                else .error ⟨pos, some 3⟩
            else .error ⟨pos, some 2⟩
        else .error ⟨pos, some 1⟩
    else .error ⟨pos, some 1⟩

def decode (bs : List UInt8) : Except Fault (List Char) :=
  decodeFrom 0 bs

/-- The text of a byte sequence, if it is well formed. -/
def decode? (bs : List UInt8) : Option (List Char) :=
  (decode bs).toOption

end BrokerClient.Text.Utf8
