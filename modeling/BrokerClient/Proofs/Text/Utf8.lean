import BrokerClient.Text.Utf8

/-!
# UTF-8 reads back

Every text is what its bytes decode to. Bytes below 0x80 stand for themselves, and all bytes of
other characters are above, so nothing in ASCII occurs inside a character.
-/

namespace BrokerClient.Text.Utf8

variable {a b c d : UInt8} {r : List UInt8}

theorem toNat_toUInt8 {n : Nat} (h : n < 256) : n.toUInt8.toNat = n :=
  (UInt8.toNat_ofNat' ..).trans (Nat.mod_eq_of_lt h)

theorem isTail_of_toNat (h : 0x80 ≤ b.toNat) (h' : b.toNat ≤ 0xBF) : isTail b = true := by
  have hlow : 0x80 ≤ b := h
  have hhigh : b ≤ 0xBF := h'
  simp only [isTail, hlow, hhigh, decide_true, Bool.and_self]

theorem decodeFrom_one (pos : Nat) (h : a.toNat < 0x80) :
    decodeFrom pos (a :: r) = (decodeFrom (pos + 1) r).map (Char.ofNat a.toNat :: ·) := by
  have hlt : a < 0x80 := h
  rw [decodeFrom.eq_def]
  simp only [hlt, if_true]

theorem decodeFrom_two (pos : Nat) (h : 0xC2 ≤ a.toNat) (h' : a.toNat ≤ 0xDF)
    (hb : isTail b = true) :
    decodeFrom pos (a :: b :: r) = (decodeFrom (pos + 2) r).map
      (Char.ofNat ((a.toNat - 0xC0) * 64 + tailBits b) :: ·) := by
  have hone : ¬ a < 0x80 := fun hlt : a.toNat < 0x80 => by omega
  have hlow : 0xC2 ≤ a := h
  have hhigh : a ≤ 0xDF := h'
  rw [decodeFrom.eq_def]
  simp only [hone, hlow, hhigh, hb, if_true, if_false, decide_true, Bool.and_self]

theorem decodeFrom_three (pos : Nat) (h : 0xE0 ≤ a.toNat) (h' : a.toNat ≤ 0xEF)
    (hb : isSecondOfThree a b = true) (hc : isTail c = true) :
    decodeFrom pos (a :: b :: c :: r) = (decodeFrom (pos + 3) r).map
      (Char.ofNat ((a.toNat - 0xE0) * 4096 + tailBits b * 64 + tailBits c) :: ·) := by
  have hone : ¬ a < 0x80 := fun hlt : a.toNat < 0x80 => by omega
  have htwo : ¬ a ≤ 0xDF := fun hle : a.toNat ≤ 0xDF => by omega
  have hlow : 0xE0 ≤ a := h
  have hhigh : a ≤ 0xEF := h'
  rw [decodeFrom.eq_def]
  simp only [hone, htwo, hlow, hhigh, hb, hc, if_true, if_false, decide_true, decide_false,
    Bool.and_false, Bool.false_eq_true, Bool.and_self]

theorem decodeFrom_four (pos : Nat) (h : 0xF0 ≤ a.toNat) (h' : a.toNat ≤ 0xF4)
    (hb : isSecondOfFour a b = true) (hc : isTail c = true) (hd : isTail d = true) :
    decodeFrom pos (a :: b :: c :: d :: r) = (decodeFrom (pos + 4) r).map
      (Char.ofNat ((a.toNat - 0xF0) * 262144 + tailBits b * 4096 + tailBits c * 64
        + tailBits d) :: ·) := by
  have hone : ¬ a < 0x80 := fun hlt : a.toNat < 0x80 => by omega
  have htwo : ¬ a ≤ 0xDF := fun hle : a.toNat ≤ 0xDF => by omega
  have hthree : ¬ a ≤ 0xEF := fun hle : a.toNat ≤ 0xEF => by omega
  have hlow : 0xF0 ≤ a := h
  have hhigh : a ≤ 0xF4 := h'
  rw [decodeFrom.eq_def]
  simp only [hone, htwo, hthree, hlow, hhigh, hb, hc, hd, if_true, if_false, decide_true,
    decide_false, Bool.and_false, Bool.false_eq_true, Bool.and_self]

/-- A second byte is no tail that would make the form overlong or a surrogate. -/
theorem isSecondOfThree_of_toNat (h : 0x80 ≤ b.toNat) (h' : b.toNat ≤ 0xBF)
    (hlow : a.toNat = 0xE0 → 0xA0 ≤ b.toNat) (hhigh : a.toNat = 0xED → b.toNat ≤ 0x9F) :
    isSecondOfThree a b = true := by
  unfold isSecondOfThree
  split
  · next he =>
    have hle : 0xA0 ≤ b := hlow (congrArg UInt8.toNat he)
    have hge : b ≤ 0xBF := h'
    simp only [hle, hge, decide_true, Bool.and_self]
  · split
    · next he =>
      have hle : 0x80 ≤ b := h
      have hge : b ≤ 0x9F := hhigh (congrArg UInt8.toNat he)
      simp only [hle, hge, decide_true, Bool.and_self]
    · exact isTail_of_toNat h h'

/-- Nor one that would lead beyond the last character. -/
theorem isSecondOfFour_of_toNat (h : 0x80 ≤ b.toNat) (h' : b.toNat ≤ 0xBF)
    (hlow : a.toNat = 0xF0 → 0x90 ≤ b.toNat) (hhigh : a.toNat = 0xF4 → b.toNat ≤ 0x8F) :
    isSecondOfFour a b = true := by
  unfold isSecondOfFour
  split
  · next he =>
    have hle : 0x90 ≤ b := hlow (congrArg UInt8.toNat he)
    have hge : b ≤ 0xBF := h'
    simp only [hle, hge, decide_true, Bool.and_self]
  · split
    · next he =>
      have hle : 0x80 ≤ b := h
      have hge : b ≤ 0x8F := hhigh (congrArg UInt8.toNat he)
      simp only [hle, hge, decide_true, Bool.and_self]
    · exact isTail_of_toNat h h'

section Code

variable {n : Nat}

/-- Six bits make a tail byte. -/
theorem toNat_tail {m : Nat} (h : m < 64) : (0x80 + m).toUInt8.toNat = 0x80 + m :=
  toNat_toUInt8 (by omega)

theorem decodeFrom_ascii (pos : Nat) (h : n < 0x80) (r : List UInt8) :
    decodeFrom pos (n.toUInt8 :: r) = (decodeFrom (pos + 1) r).map (Char.ofNat n :: ·) := by
  have ha : n.toUInt8.toNat = n := toNat_toUInt8 (by omega)
  rw [decodeFrom_one pos (by omega), ha]

theorem decodeFrom_twoBytes (pos : Nat) (h : 0x80 ≤ n) (h' : n < 0x800) (r : List UInt8) :
    decodeFrom pos ((0xC0 + n / 64).toUInt8 :: (0x80 + n % 64).toUInt8 :: r) =
      (decodeFrom (pos + 2) r).map (Char.ofNat n :: ·) := by
  have ha : (0xC0 + n / 64).toUInt8.toNat = 0xC0 + n / 64 := toNat_toUInt8 (by omega)
  have hb := toNat_tail (m := n % 64) (by omega)
  generalize (0xC0 + n / 64).toUInt8 = a at ha ⊢
  generalize (0x80 + n % 64).toUInt8 = b at hb ⊢
  have hcode : (a.toNat - 0xC0) * 64 + tailBits b = n := by
    unfold tailBits
    omega
  have hb' : isTail b = true := isTail_of_toNat (by omega) (by omega)
  rw [decodeFrom_two pos (by omega) (by omega) hb', hcode]

theorem decodeFrom_threeBytes (pos : Nat) (h : 0x800 ≤ n) (h' : n < 0x10000)
    (hvalid : n < 0xD800 ∨ 0xDFFF < n) (r : List UInt8) :
    decodeFrom pos ((0xE0 + n / 4096).toUInt8 :: (0x80 + n / 64 % 64).toUInt8 ::
        (0x80 + n % 64).toUInt8 :: r) =
      (decodeFrom (pos + 3) r).map (Char.ofNat n :: ·) := by
  have ha : (0xE0 + n / 4096).toUInt8.toNat = 0xE0 + n / 4096 := toNat_toUInt8 (by omega)
  have hb := toNat_tail (m := n / 64 % 64) (by omega)
  have hc := toNat_tail (m := n % 64) (by omega)
  generalize (0xE0 + n / 4096).toUInt8 = a at ha ⊢
  generalize (0x80 + n / 64 % 64).toUInt8 = b at hb ⊢
  generalize (0x80 + n % 64).toUInt8 = c at hc ⊢
  have hcode : (a.toNat - 0xE0) * 4096 + tailBits b * 64 + tailBits c = n := by
    unfold tailBits
    omega
  have hb' : isSecondOfThree a b = true :=
    isSecondOfThree_of_toNat (by omega) (by omega) (by omega) (by omega)
  have hc' : isTail c = true := isTail_of_toNat (by omega) (by omega)
  rw [decodeFrom_three pos (by omega) (by omega) hb' hc', hcode]

theorem decodeFrom_fourBytes (pos : Nat) (h : 0x10000 ≤ n) (h' : n < 0x110000) (r : List UInt8) :
    decodeFrom pos ((0xF0 + n / 262144).toUInt8 :: (0x80 + n / 4096 % 64).toUInt8 ::
        (0x80 + n / 64 % 64).toUInt8 :: (0x80 + n % 64).toUInt8 :: r) =
      (decodeFrom (pos + 4) r).map (Char.ofNat n :: ·) := by
  have ha : (0xF0 + n / 262144).toUInt8.toNat = 0xF0 + n / 262144 := toNat_toUInt8 (by omega)
  have hb := toNat_tail (m := n / 4096 % 64) (by omega)
  have hc := toNat_tail (m := n / 64 % 64) (by omega)
  have hd := toNat_tail (m := n % 64) (by omega)
  generalize (0xF0 + n / 262144).toUInt8 = a at ha ⊢
  generalize (0x80 + n / 4096 % 64).toUInt8 = b at hb ⊢
  generalize (0x80 + n / 64 % 64).toUInt8 = c at hc ⊢
  generalize (0x80 + n % 64).toUInt8 = d at hd ⊢
  have hcode : (a.toNat - 0xF0) * 262144 + tailBits b * 4096 + tailBits c * 64 + tailBits d =
      n := by
    unfold tailBits
    omega
  have hb' : isSecondOfFour a b = true :=
    isSecondOfFour_of_toNat (by omega) (by omega) (by omega) (by omega)
  have hc' : isTail c = true := isTail_of_toNat (by omega) (by omega)
  have hd' : isTail d = true := isTail_of_toNat (by omega) (by omega)
  rw [decodeFrom_four pos (by omega) (by omega) hb' hc' hd', hcode]

end Code

/-- The bytes of a character decode to it, whatever follows them. -/
theorem decodeFrom_encodeChar (pos : Nat) (x : Char) (r : List UInt8) :
    decodeFrom pos (encodeChar x ++ r) =
      (decodeFrom (pos + (encodeChar x).length) r).map (x :: ·) := by
  have hvalid : x.toNat < 0xD800 ∨ 0xDFFF < x.toNat ∧ x.toNat < 0x110000 := x.valid
  have hx : Char.ofNat x.toNat = x := Char.ofNat_toNat x
  unfold encodeChar encodeCode
  split
  · next h1 =>
    have hread := decodeFrom_ascii pos h1 r
    rw [hx] at hread
    exact hread
  split
  · next h1 h2 =>
    have hread := decodeFrom_twoBytes pos (by omega) h2 r
    rw [hx] at hread
    exact hread
  split
  · next h1 h2 h3 =>
    have hread := decodeFrom_threeBytes pos (by omega) h3 (by omega) r
    rw [hx] at hread
    exact hread
  · next h1 h2 h3 =>
    have hread := decodeFrom_fourBytes pos (n := x.toNat) (by omega) (by omega) r
    rw [hx] at hread
    exact hread

theorem decodeFrom_encode (pos : Nat) (cs : List Char) : decodeFrom pos (encode cs) = .ok cs := by
  induction cs generalizing pos with
  | nil => rfl
  | cons x cs ih =>
    have hcons : encode (x :: cs) = encodeChar x ++ encode cs := rfl
    rw [hcons, decodeFrom_encodeChar, ih]
    rfl

theorem decode?_encode (cs : List Char) : decode? (encode cs) = some cs := by
  rw [decode?, decode, decodeFrom_encode]
  rfl

theorem encode_append (cs cs' : List Char) : encode (cs ++ cs') = encode cs ++ encode cs' :=
  List.flatMap_append

/-- A character of ASCII is one byte, and all bytes of other characters are beyond ASCII. -/
theorem mem_encodeChar {x : Char} (h : b ∈ encodeChar x) :
    0x80 ≤ b.toNat ∨ x.toNat < 0x80 ∧ b.toNat = x.toNat := by
  have hvalid : x.toNat < 0xD800 ∨ 0xDFFF < x.toNat ∧ x.toNat < 0x110000 := x.valid
  unfold encodeChar encodeCode at h
  generalize x.toNat = n at hvalid h ⊢
  split at h
  · next h1 =>
    rw [List.mem_singleton.mp h, toNat_toUInt8 (by omega)]
    exact Or.inr ⟨h1, rfl⟩
  · refine Or.inl ?_
    split at h
    · simp only [List.mem_cons, List.not_mem_nil, or_false] at h
      rcases h with rfl | rfl <;> rw [toNat_toUInt8 (by omega)] <;> omega
    split at h <;>
    · simp only [List.mem_cons, List.not_mem_nil, or_false] at h
      rcases h with rfl | rfl | rfl | rfl <;> rw [toNat_toUInt8 (by omega)] <;> omega

end BrokerClient.Text.Utf8
