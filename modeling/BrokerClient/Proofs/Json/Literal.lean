import BrokerClient.Json.Reader
import BrokerClient.Json.Writer
import BrokerClient.Proofs.Text.Utf8

/-!
# String literals read back

A written string literal is read up to its closing quote and no further, and stands for the text
that was written, whatever characters that holds.
-/

namespace BrokerClient.Json

open BrokerClient.Text

def Literal.ofChar (c : Char) : Literal :=
  if c ∈ ['"', '\\', '\x08', '\x0C', '\n', '\r', '\t'] then [.short (ascii c)]
  else if c.toNat < 0x20 then [.unit c.toNat]
  else (Utf8.encodeChar c).map .raw

def Literal.ofString (s : String) : Literal := s.toList.flatMap Literal.ofChar

/-- The three ways of writing a character, with what it is read as. -/
inductive Spelt (c : Char) : List Char → Literal → Prop where
  | short (letter : Char) : Utf8.encodeChar letter = [ascii letter] → ascii letter ≠ ascii 'u' →
    shortEscape? (ascii letter) = some (ascii c) → Utf8.encodeChar c = [ascii c] →
      Spelt c ['\\', letter] [.short (ascii c)]
  | unit : c.toNat < 0x20 →
    Spelt c ['\\', 'u', '0', '0', lowerHexDigit (c.toNat / 16), lowerHexDigit (c.toNat % 16)]
      [.unit c.toNat]
  | raw : c ≠ '"' → c ≠ '\\' → 0x20 ≤ c.toNat →
    Spelt c [c] ((Utf8.encodeChar c).map .raw)

theorem spelt (c : Char) : Spelt c (writeChar c) (Literal.ofChar c) := by
  by_cases hs : c ∈ ['"', '\\', '\x08', '\x0C', '\n', '\r', '\t']
  · rw [Literal.ofChar, if_pos hs]
    simp only [List.mem_cons, List.not_mem_nil, or_false] at hs
    rcases hs with rfl | rfl | rfl | rfl | rfl | rfl | rfl
    · exact .short '"' (by decide) (by decide) (by decide) (by decide)
    · exact .short '\\' (by decide) (by decide) (by decide) (by decide)
    · exact .short 'b' (by decide) (by decide) (by decide) (by decide)
    · exact .short 'f' (by decide) (by decide) (by decide) (by decide)
    · exact .short 'n' (by decide) (by decide) (by decide) (by decide)
    · exact .short 'r' (by decide) (by decide) (by decide) (by decide)
    · exact .short 't' (by decide) (by decide) (by decide) (by decide)
  · rw [Literal.ofChar, if_neg hs]
    simp only [List.mem_cons, List.not_mem_nil, or_false, not_or] at hs
    obtain ⟨hq, hb, h1, h2, h3, h4, h5⟩ := hs
    simp only [writeChar, hq, hb, h1, h2, h3, h4, h5, if_false]
    split
    · next h => exact .unit h
    · next h => exact .raw hq hb (by omega)

theorem readPieces_quote (r : List UInt8) : readPieces (ascii '"' :: r) = some ([], r) := by
  rw [readPieces.eq_def]
  exact if_pos rfl

theorem readPieces_plain {b : UInt8} (hq : b ≠ ascii '"') (hb : b ≠ ascii '\\') (r : List UInt8) :
    readPieces (b :: r) = (readPieces r).map fun p => (.raw b :: p.1, p.2) := by
  rw [readPieces.eq_def]
  simp only [hq, hb, if_false]
  cases readPieces r <;> rfl

theorem readPieces_short {e b : UInt8} (hu : e ≠ ascii 'u') (hs : shortEscape? e = some b)
    (r : List UInt8) :
    readPieces (ascii '\\' :: e :: r) = (readPieces r).map fun p => (.short b :: p.1, p.2) := by
  have hq : ascii '\\' ≠ ascii '"' := by decide
  rw [readPieces.eq_def]
  simp only [hq, hu, hs, if_true, if_false]
  cases readPieces r <;> rfl

theorem readPieces_unit {w x y z : UInt8} {u : Nat} (hu : codeUnit? w x y z = some u)
    (r : List UInt8) :
    readPieces (ascii '\\' :: ascii 'u' :: w :: x :: y :: z :: r) =
      (readPieces r).map fun p => (.unit u :: p.1, p.2) := by
  have hq : ascii '\\' ≠ ascii '"' := by decide
  rw [readPieces.eq_def]
  simp only [hq, hu, if_true, if_false]
  cases readPieces r <;> rfl

/-- Bytes that are neither a quote nor a backslash stand for themselves. -/
theorem readPieces_raw {bs : List UInt8} (h : ∀ b ∈ bs, b ≠ ascii '"' ∧ b ≠ ascii '\\')
    (r : List UInt8) :
    readPieces (bs ++ r) = (readPieces r).map fun p => (bs.map .raw ++ p.1, p.2) := by
  induction bs with
  | nil => exact Option.map_id'.symm
  | cons b bs ih =>
    obtain ⟨hq, hb⟩ := h b List.mem_cons_self
    rw [List.cons_append, readPieces_plain hq hb, ih fun x hx => h x (List.mem_cons_of_mem _ hx),
      Option.map_map]
    rfl

theorem ne_of_mem_encodeChar {c x : Char} {b : UInt8} (hx : x.toNat < 0x80) (hne : c ≠ x)
    (hb : b ∈ Utf8.encodeChar c) : b ≠ ascii x := by
  rintro rfl
  have hx' : (ascii x).toNat = x.toNat := Utf8.toNat_toUInt8 (by omega)
  rcases Utf8.mem_encodeChar hb with h | ⟨-, h⟩
  · omega
  · rw [hx'] at h
    rw [← Char.ofNat_toNat c, ← h, Char.ofNat_toNat] at hne
    exact hne rfl

/-- The digits of a control character. -/
theorem codeUnit?_control {n : Nat} (h : n < 0x20) :
    codeUnit? (ascii '0') (ascii '0') (ascii (lowerHexDigit (n / 16)))
        (ascii (lowerHexDigit (n % 16))) = some n ∧
      Utf8.encodeChar (lowerHexDigit (n / 16)) = [ascii (lowerHexDigit (n / 16))] ∧
      Utf8.encodeChar (lowerHexDigit (n % 16)) = [ascii (lowerHexDigit (n % 16))] := by
  have hall : ∀ n < 0x20, codeUnit? (ascii '0') (ascii '0') (ascii (lowerHexDigit (n / 16)))
        (ascii (lowerHexDigit (n % 16))) = some n ∧
      Utf8.encodeChar (lowerHexDigit (n / 16)) = [ascii (lowerHexDigit (n / 16))] ∧
      Utf8.encodeChar (lowerHexDigit (n % 16)) = [ascii (lowerHexDigit (n % 16))] := by decide
  exact hall n h

theorem readPieces_writeChar (c : Char) (r : List UInt8) :
    readPieces (Utf8.encode (writeChar c) ++ r) =
      (readPieces r).map fun p => (Literal.ofChar c ++ p.1, p.2) := by
  have hspelt := spelt c
  generalize writeChar c = text, Literal.ofChar c = literal at hspelt ⊢
  cases hspelt with
  | short letter hl hu hs _ =>
    have hbytes : Utf8.encode ['\\', letter] = [ascii '\\', ascii letter] := by
      rw [Utf8.encode, List.flatMap_cons, List.flatMap_cons, hl]
      rfl
    rw [hbytes]
    exact readPieces_short hu hs r
  | unit hlt =>
    obtain ⟨hcode, hhigh, hlow⟩ := codeUnit?_control hlt
    have hbytes : Utf8.encode ['\\', 'u', '0', '0', lowerHexDigit (c.toNat / 16),
        lowerHexDigit (c.toNat % 16)] = [ascii '\\', ascii 'u', ascii '0', ascii '0',
          ascii (lowerHexDigit (c.toNat / 16)), ascii (lowerHexDigit (c.toNat % 16))] := by
      simp only [Utf8.encode, List.flatMap_cons, List.flatMap_nil, hhigh, hlow]
      rfl
    rw [hbytes]
    exact readPieces_unit hcode r
  | raw hq hb _ =>
    have hbytes : Utf8.encode [c] = Utf8.encodeChar c := List.append_nil _
    rw [hbytes]
    exact readPieces_raw (fun b hm => ⟨ne_of_mem_encodeChar (by decide) hq hm,
      ne_of_mem_encodeChar (by decide) hb hm⟩) r

/-- The content of a written literal is read up to the closing quote. -/
theorem readPieces_writeString (s : String) (r : List UInt8) :
    readPieces (Utf8.encode (s.toList.flatMap writeChar) ++ ascii '"' :: r) =
      some (Literal.ofString s, r) := by
  unfold Literal.ofString
  induction s.toList with
  | nil => exact readPieces_quote r
  | cons c cs ih =>
    rw [List.flatMap_cons, Utf8.encode_append, List.append_assoc, readPieces_writeChar, ih]
    rfl

namespace Literal

theorem not_surrogate {u : Nat} (h : u < 0x20) : isLeading u = false ∧ isTrailing u = false := by
  constructor <;> refine Bool.and_eq_false_imp.mpr fun hle => ?_ <;>
    exact absurd (of_decide_eq_true hle) (by omega)

theorem bytes_unit {u : Nat} (h : u < 0x20) (l : Literal) :
    bytes (.unit u :: l) = Utf8.encodeCode u ++ bytes l := by
  obtain ⟨hl, -⟩ := not_surrogate h
  cases l with
  | nil => rfl
  | cons p l => cases p <;> simp [bytes, hl]

theorem isPaired_unit {u : Nat} (h : u < 0x20) (l : Literal) :
    isPaired (.unit u :: l) = isPaired l := by
  obtain ⟨hl, ht⟩ := not_surrogate h
  cases l with
  | nil => simp [isPaired, hl, ht]
  | cons p l => cases p <;> simp [isPaired, hl, ht]

theorem bytes_raw (bs : List UInt8) (l : Literal) : bytes (bs.map .raw ++ l) = bs ++ bytes l := by
  induction bs with
  | nil => rfl
  | cons b bs ih => rw [List.map_cons, List.cons_append, bytes, ih, List.cons_append]

theorem isPaired_raw (bs : List UInt8) (l : Literal) :
    isPaired (bs.map .raw ++ l) = isPaired l := by
  induction bs with
  | nil => rfl
  | cons b bs ih => rw [List.map_cons, List.cons_append, isPaired, ih]

theorem bytes_ofChar (c : Char) (l : Literal) :
    bytes (ofChar c ++ l) = Utf8.encodeChar c ++ bytes l := by
  have hspelt := spelt c
  generalize writeChar c = text, ofChar c = literal at hspelt ⊢
  cases hspelt with
  | short letter _ _ _ hc => rw [hc]; rfl
  | unit hlt => exact bytes_unit hlt l
  | raw _ _ _ => exact bytes_raw _ l

theorem isPaired_ofChar (c : Char) (l : Literal) : isPaired (ofChar c ++ l) = isPaired l := by
  have hspelt := spelt c
  generalize writeChar c = text, ofChar c = literal at hspelt ⊢
  cases hspelt with
  | short letter _ _ _ _ => rfl
  | unit hlt => exact isPaired_unit hlt l
  | raw _ _ _ => exact isPaired_raw _ l

/-- No control character is written as itself. -/
theorem isIgnorable_ofChar (c : Char) : isIgnorable (ofChar c) = true := by
  have hspelt := spelt c
  generalize writeChar c = text, ofChar c = literal at hspelt ⊢
  cases hspelt with
  | short letter _ _ _ _ => rfl
  | unit _ => rfl
  | raw _ _ hle =>
    refine List.all_eq_true.mpr fun p hp => ?_
    obtain ⟨b, hb, rfl⟩ := List.mem_map.mp hp
    refine decide_eq_true (show 0x20 ≤ b.toNat from ?_)
    rcases Utf8.mem_encodeChar hb with h | ⟨-, h⟩ <;> omega

theorem bytes_ofString (s : String) : bytes (ofString s) = Utf8.bytes s := by
  unfold ofString Utf8.bytes
  induction s.toList with
  | nil => rfl
  | cons c cs ih =>
    rw [List.flatMap_cons, bytes_ofChar, ih]
    rfl

theorem isPaired_ofString (s : String) : isPaired (ofString s) = true := by
  unfold ofString
  induction s.toList with
  | nil => rfl
  | cons c cs ih => rw [List.flatMap_cons, isPaired_ofChar, ih]

theorem isIgnorable_ofString (s : String) : isIgnorable (ofString s) = true := by
  unfold ofString
  induction s.toList with
  | nil => rfl
  | cons c cs ih =>
    rw [List.flatMap_cons, isIgnorable, List.all_append, Bool.and_eq_true]
    exact ⟨isIgnorable_ofChar c, ih⟩

/-- A written literal stands for the text that was written. -/
theorem text?_ofString (s : String) : text? (ofString s) = some s.toList := by
  rw [text?, isIgnorable_ofString, isPaired_ofString, bytes_ofString]
  exact Utf8.decode?_encode s.toList

end Literal

end BrokerClient.Json
