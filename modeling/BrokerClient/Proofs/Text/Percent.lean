import BrokerClient.Proofs.Text.Utf8
import BrokerClient.Text.Percent

/-!
# Percent-encoding reads back

A text with every byte spelt out consists of `%` and upper-case hexadecimal digits, and decoding it
once gives the text back.
-/

namespace BrokerClient.Text

theorem hexValue?_upperHexDigit {d : Nat} (h : d < 16) : hexValue? (upperHexDigit d) = some d := by
  have hall : ∀ d < 16, hexValue? (upperHexDigit d) = some d := by decide
  exact hall d h

namespace Percent

/-- The characters of a text with every byte spelt out. -/
def marks : List Char :=
  ['%', '0', '1', '2', '3', '4', '5', '6', '7', '8', '9', 'A', 'B', 'C', 'D', 'E', 'F']

theorem upperHexDigit_mem_marks {d : Nat} (h : d < 16) : upperHexDigit d ∈ marks := by
  have hall : ∀ d < 16, upperHexDigit d ∈ marks := by decide
  exact hall d h

theorem mem_marks_of_mem_encodeByte {b : UInt8} {c : Char} (h : c ∈ encodeByte b) : c ∈ marks := by
  have hb : b.toNat < 256 := b.toNat_lt
  simp only [encodeByte, List.mem_cons, List.not_mem_nil, or_false] at h
  rcases h with rfl | rfl | rfl
  · decide
  · exact upperHexDigit_mem_marks (by omega)
  · exact upperHexDigit_mem_marks (by omega)

theorem mem_marks_of_mem_encode {cs : List Char} {c : Char} (h : c ∈ encode cs) : c ∈ marks := by
  obtain ⟨x, -, hx⟩ := List.mem_flatMap.mp h
  obtain ⟨b, -, hb⟩ := List.mem_flatMap.mp hx
  exact mem_marks_of_mem_encodeByte hb

/-- What no mark is, nothing in a text with every byte spelt out is. -/
theorem eq_false_of_mem_encode {p : Char → Bool} (h : marks.any p = false) (cs : List Char) :
    ∀ c ∈ encode cs, p c = false :=
  fun c hc => Bool.eq_false_iff.mpr (List.any_eq_false.mp h c (mem_marks_of_mem_encode hc))

theorem encodeChar_ne_nil (c : Char) : Utf8.encodeChar c ≠ [] := by
  unfold Utf8.encodeChar Utf8.encodeCode
  split
  · exact List.cons_ne_nil _ _
  split
  · exact List.cons_ne_nil _ _
  split <;> exact List.cons_ne_nil _ _

/-- The text of a character starts with that of its first byte. -/
theorem exists_encode_cons (c : Char) (cs : List Char) :
    ∃ b r, b ∈ Utf8.encodeChar c ∧ encode (c :: cs) = encodeByte b ++ r := by
  obtain ⟨b, bs, hbs⟩ := List.exists_cons_of_ne_nil (encodeChar_ne_nil c)
  refine ⟨b, bs.flatMap encodeByte ++ encode cs, hbs ▸ List.mem_cons_self, ?_⟩
  have hcons : encode (c :: cs) = (Utf8.encodeChar c).flatMap encodeByte ++ encode cs := rfl
  rw [hcons, hbs, List.flatMap_cons, List.append_assoc]

theorem encode_eq_nil_iff {cs : List Char} : encode cs = [] ↔ cs = [] := by
  constructor
  · intro h
    cases cs with
    | nil => rfl
    | cons c cs =>
      obtain ⟨b, r, -, he⟩ := exists_encode_cons c cs
      cases he.symm.trans h
  · rintro rfl
    rfl

/-- Encoding by a set leaves a text alone that has nothing of the set. -/
theorem encodeWhere_eq_self {escaped : Char → Bool} {cs : List Char}
    (h : ∀ c ∈ cs, escaped c = false) : encodeWhere escaped cs = cs := by
  induction cs with
  | nil => rfl
  | cons c cs ih =>
    have hrest := ih fun c' hc => h c' (List.mem_cons_of_mem c hc)
    have hcons : encodeWhere escaped (c :: cs) =
        (if escaped c then encodeChar c else [c]) ++ encodeWhere escaped cs := rfl
    rw [hcons, h c List.mem_cons_self, hrest]
    rfl

theorem decodeBytes_encodeByte (b : UInt8) (r : List Char) :
    decodeBytes (encodeByte b ++ r) = b :: decodeBytes r := by
  have hb : b.toNat < 256 := b.toNat_lt
  have hhigh := hexValue?_upperHexDigit (d := b.toNat / 16) (by omega)
  have hlow := hexValue?_upperHexDigit (d := b.toNat % 16) (by omega)
  have hvalue : 16 * (b.toNat / 16) + b.toNat % 16 = b.toNat := Nat.div_add_mod b.toNat 16
  have hbyte : escapedByte? '%' (upperHexDigit (b.toNat / 16)) (upperHexDigit (b.toNat % 16)) =
      some b := by
    simp only [escapedByte?, hhigh, hlow, hvalue, if_true]
    exact congrArg some b.ofNat_toNat
  simp only [encodeByte, List.cons_append, List.nil_append, decodeBytes, hbyte]

theorem decodeBytes_flatMap (bs : List UInt8) : decodeBytes (bs.flatMap encodeByte) = bs := by
  induction bs with
  | nil => rfl
  | cons b bs ih => rw [List.flatMap_cons, decodeBytes_encodeByte, ih]

/-- Only the empty text decodes to no bytes. -/
theorem decodeBytes_eq_nil_iff {raw : List Char} : decodeBytes raw = [] ↔ raw = [] := by
  constructor
  · intro h
    fun_cases decodeBytes raw with
    | case1 => rfl
    | case2 c => exact absurd h (encodeChar_ne_nil c)
    | case3 c d => exact absurd (List.append_eq_nil_iff.mp h).1 (encodeChar_ne_nil c)
    | case4 c a b r byte hbyte =>
      rw [decodeBytes, hbyte] at h
      cases h
    | case5 c a b r hnone =>
      rw [decodeBytes, hnone] at h
      exact absurd (List.append_eq_nil_iff.mp h).1 (encodeChar_ne_nil c)
  · rintro rfl
    rfl

/-- Decoding gives back what was spelt out, whatever text it was. -/
theorem decode_encode (cs : List Char) : decode (encode cs) = .ok cs := by
  have hbytes : encode cs = (Utf8.encode cs).flatMap encodeByte := List.flatMap_assoc.symm
  rw [decode, hbytes, decodeBytes_flatMap]
  exact Utf8.decodeFrom_encode 0 cs

end Percent

end BrokerClient.Text
