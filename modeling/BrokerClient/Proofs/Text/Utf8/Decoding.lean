import BrokerClient.Proofs.Text.Utf8

/-!
# What decodes is UTF-8

A byte sequence is decoded if and only if it is the UTF-8 form of a text, and then to that text. One
direction is that texts read back. For the other, the bytes of one character are taken apart: no
form that decodes is overlong, a surrogate or beyond the last character, so writing the character
gives the bytes again.
-/

namespace BrokerClient.Text.Utf8

variable {a b c d : UInt8} {n : Nat}

theorem range_of_between {low high : UInt8} (h : (decide (low ≤ a) && decide (a ≤ high)) = true) :
    low.toNat ≤ a.toNat ∧ a.toNat ≤ high.toNat := by
  rw [Bool.and_eq_true, decide_eq_true_iff, decide_eq_true_iff] at h
  exact h

theorem range_of_isTail (h : isTail b = true) : 0x80 ≤ b.toNat ∧ b.toNat ≤ 0xBF :=
  range_of_between h

theorem range_of_isSecondOfThree (h : isSecondOfThree a b = true) :
    0x80 ≤ b.toNat ∧ b.toNat ≤ 0xBF ∧ (a.toNat = 0xE0 → 0xA0 ≤ b.toNat) ∧
      (a.toNat = 0xED → b.toNat ≤ 0x9F) := by
  unfold isSecondOfThree at h
  split at h
  · next ha =>
    obtain ⟨hlow, hhigh⟩ : 0xA0 ≤ b.toNat ∧ b.toNat ≤ 0xBF := range_of_between h
    rw [ha]
    exact ⟨by omega, hhigh, fun _ => hlow, nofun⟩
  split at h
  · next ha =>
    obtain ⟨hlow, hhigh⟩ : 0x80 ≤ b.toNat ∧ b.toNat ≤ 0x9F := range_of_between h
    rw [ha]
    exact ⟨hlow, by omega, nofun, fun _ => hhigh⟩
  · next hfirst hlast =>
    obtain ⟨hlow, hhigh⟩ := range_of_isTail h
    exact ⟨hlow, hhigh, fun he => absurd (UInt8.toNat.inj he) hfirst,
      fun he => absurd (UInt8.toNat.inj he) hlast⟩

theorem range_of_isSecondOfFour (h : isSecondOfFour a b = true) :
    0x80 ≤ b.toNat ∧ b.toNat ≤ 0xBF ∧ (a.toNat = 0xF0 → 0x90 ≤ b.toNat) ∧
      (a.toNat = 0xF4 → b.toNat ≤ 0x8F) := by
  unfold isSecondOfFour at h
  split at h
  · next ha =>
    obtain ⟨hlow, hhigh⟩ : 0x90 ≤ b.toNat ∧ b.toNat ≤ 0xBF := range_of_between h
    rw [ha]
    exact ⟨by omega, hhigh, fun _ => hlow, nofun⟩
  split at h
  · next ha =>
    obtain ⟨hlow, hhigh⟩ : 0x80 ≤ b.toNat ∧ b.toNat ≤ 0x8F := range_of_between h
    rw [ha]
    exact ⟨hlow, by omega, nofun, fun _ => hhigh⟩
  · next hfirst hlast =>
    obtain ⟨hlow, hhigh⟩ := range_of_isTail h
    exact ⟨hlow, hhigh, fun he => absurd (UInt8.toNat.inj he) hfirst,
      fun he => absurd (UInt8.toNat.inj he) hlast⟩

theorem toNat_ofNat (h : n < 0xD800 ∨ 0xDFFF < n ∧ n < 0x110000) : (Char.ofNat n).toNat = n := by
  have hvalid : n.isValidChar := h
  rw [Char.ofNat, dif_pos hvalid]
  rfl

theorem toUInt8_eq (h : n = a.toNat) : n.toUInt8 = a := by
  rw [h]
  exact a.ofNat_toNat

theorem encodeChar_one (h : a.toNat < 0x80) : encodeChar (Char.ofNat a.toNat) = [a] := by
  rw [encodeChar, toNat_ofNat (by omega), encodeCode, if_pos h, toUInt8_eq rfl]

theorem encodeChar_two (h : 0xC2 ≤ a.toNat) (h' : a.toNat ≤ 0xDF) (hb : isTail b = true) :
    encodeChar (Char.ofNat ((a.toNat - 0xC0) * 64 + tailBits b)) = [a, b] := by
  have hrange := range_of_isTail hb
  unfold tailBits
  rw [encodeChar, toNat_ofNat (by omega), encodeCode, if_neg (by omega), if_pos (by omega),
    toUInt8_eq (a := a) (by omega), toUInt8_eq (a := b) (by omega)]

theorem encodeChar_three (h : 0xE0 ≤ a.toNat) (h' : a.toNat ≤ 0xEF)
    (hb : isSecondOfThree a b = true) (hc : isTail c = true) :
    encodeChar (Char.ofNat ((a.toNat - 0xE0) * 4096 + tailBits b * 64 + tailBits c)) =
      [a, b, c] := by
  obtain ⟨hblow, hbhigh, hoverlong, hsurrogate⟩ := range_of_isSecondOfThree hb
  have hrange := range_of_isTail hc
  unfold tailBits
  rw [encodeChar, toNat_ofNat (by omega), encodeCode, if_neg (by omega), if_neg (by omega),
    if_pos (by omega), toUInt8_eq (a := a) (by omega), toUInt8_eq (a := b) (by omega),
    toUInt8_eq (a := c) (by omega)]

theorem encodeChar_four (h : 0xF0 ≤ a.toNat) (h' : a.toNat ≤ 0xF4)
    (hb : isSecondOfFour a b = true) (hc : isTail c = true) (hd : isTail d = true) :
    encodeChar (Char.ofNat ((a.toNat - 0xF0) * 262144 + tailBits b * 4096 + tailBits c * 64
      + tailBits d)) = [a, b, c, d] := by
  obtain ⟨hblow, hbhigh, hoverlong, hlast⟩ := range_of_isSecondOfFour hb
  have hcrange := range_of_isTail hc
  have hdrange := range_of_isTail hd
  unfold tailBits
  rw [encodeChar, toNat_ofNat (by omega), encodeCode, if_neg (by omega), if_neg (by omega),
    if_neg (by omega), toUInt8_eq (a := a) (by omega), toUInt8_eq (a := b) (by omega),
    toUInt8_eq (a := c) (by omega), toUInt8_eq (a := d) (by omega)]

/-- A character in front of a text that the rest of the bytes decode to. -/
theorem encode_of_map {xs r : List UInt8} {x : Char} {rest : Except Fault (List Char)}
    {cs : List Char} (hx : encodeChar x = xs) (hrest : ∀ {ds}, rest = .ok ds → encode ds = r)
    (h : rest.map (x :: ·) = .ok cs) : encode cs = xs ++ r := by
  cases hr : rest with
  | error fault =>
    rw [hr] at h
    cases h
  | ok ds =>
    rw [hr] at h
    obtain rfl : x :: ds = cs := Except.ok.inj h
    have hcons : encode (x :: ds) = encodeChar x ++ encode ds := rfl
    rw [hcons, hx, hrest hr]

theorem encode_of_decodeFrom {pos : Nat} {bs : List UInt8} {cs : List Char}
    (h : decodeFrom pos bs = .ok cs) : encode cs = bs := by
  fun_induction decodeFrom pos bs generalizing cs with
  | case1 =>
    cases h
    rfl
  | case2 pos a r hone ih => exact encode_of_map (encodeChar_one hone) ih h
  | case4 pos a hone htwo b r hb ih =>
    obtain ⟨hlow, hhigh⟩ := range_of_between htwo
    exact encode_of_map (encodeChar_two hlow hhigh hb) ih h
  | case8 pos a hone htwo hthree b hb c r hc ih =>
    obtain ⟨hlow, hhigh⟩ := range_of_between hthree
    exact encode_of_map (encodeChar_three hlow hhigh hb hc) ih h
  | case14 pos a hone htwo hthree hfour b hb c hc d r hd ih =>
    obtain ⟨hlow, hhigh⟩ := range_of_between hfour
    exact encode_of_map (encodeChar_four hlow hhigh hb hc hd) ih h
  | _ => cases h

theorem decode_eq_ok_iff {bs : List UInt8} {cs : List Char} :
    decode bs = .ok cs ↔ encode cs = bs := by
  constructor
  · exact encode_of_decodeFrom
  · rintro rfl
    exact decodeFrom_encode 0 cs

end BrokerClient.Text.Utf8
