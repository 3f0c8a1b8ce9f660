import BrokerClient.Json.Reader
import BrokerClient.Json.Writer
import BrokerClient.Proofs.Text.Decimal
import BrokerClient.Proofs.Text.Utf8

/-!
# Integers read back

A written integer is read as a numeral without fraction and exponent, if nothing follows that could
belong to it, and the numeral denotes the integer if that is in bounds.
-/

namespace BrokerClient.Json

open BrokerClient.Text

def Numeral.ofInt (i : Int) : Numeral :=
  ⟨decide (i < 0), (decimal i.natAbs).map digitValue, [], none⟩

/-- Nothing at the start of the input could belong to a number before it. -/
def EndsNumeral (r : List UInt8) : Prop :=
  ∀ b ∈ r.head?, isDigitByte b = false ∧ b ≠ ascii '.' ∧ b ≠ ascii 'e' ∧ b ≠ ascii 'E'

theorem endsNumeral_nil : EndsNumeral [] := nofun

theorem endsNumeral_cons {b : UInt8}
    (h : isDigitByte b = false ∧ b ≠ ascii '.' ∧ b ≠ ascii 'e' ∧ b ≠ ascii 'E') (r : List UInt8) :
    EndsNumeral (b :: r) := by
  intro x hx
  obtain rfl := Option.some.inj hx
  exact h

/-- The byte of a digit. -/
theorem digit_byte {d : Nat} (h : d < 10) :
    Utf8.encodeChar (digitChar d) = [ascii (digitChar d)] ∧
      isDigitByte (ascii (digitChar d)) = true ∧
      digitOfByte (ascii (digitChar d)) = digitValue (digitChar d) ∧
      isBlankByte (ascii (digitChar d)) = false := by
  have hall : ∀ d < 10, Utf8.encodeChar (digitChar d) = [ascii (digitChar d)] ∧
      isDigitByte (ascii (digitChar d)) = true ∧
      digitOfByte (ascii (digitChar d)) = digitValue (digitChar d) ∧
      isBlankByte (ascii (digitChar d)) = false := by decide
  exact hall d h

theorem encode_digits {cs : List Char} (h : ∀ c ∈ cs, ∃ d, d < 10 ∧ c = digitChar d) :
    Utf8.encode cs = cs.map ascii := by
  induction cs with
  | nil => rfl
  | cons c cs ih =>
    obtain ⟨d, hd, rfl⟩ := h c List.mem_cons_self
    rw [Utf8.encode, List.flatMap_cons, (digit_byte hd).1, List.map_cons,
      ← ih fun x hx => h x (List.mem_cons_of_mem _ hx)]
    rfl

theorem encode_decimal (n : Nat) : Utf8.encode (decimal n) = (decimal n).map ascii :=
  encode_digits fun _ hc => exists_digit_of_mem_decimal hc

/-- The digits of a numeral are read up to its end. -/
theorem readDigits_decimal (n : Nat) {r : List UInt8} (hr : EndsNumeral r) :
    readDigits (Utf8.encode (decimal n) ++ r) = ((decimal n).map digitValue, r) := by
  have hdigit : ∀ b ∈ (decimal n).map ascii, isDigitByte b = true := by
    intro b hb
    obtain ⟨c, hc, rfl⟩ := List.mem_map.mp hb
    obtain ⟨d, hd, rfl⟩ := exists_digit_of_mem_decimal hc
    exact (digit_byte hd).2.1
  have hvalues : ((decimal n).map ascii).map digitOfByte = (decimal n).map digitValue := by
    rw [List.map_map]
    refine List.map_congr_left fun c hc => ?_
    obtain ⟨d, hd, rfl⟩ := exists_digit_of_mem_decimal hc
    exact (digit_byte hd).2.2.1
  have hstop : r.takeWhile isDigitByte = [] ∧ r.dropWhile isDigitByte = r := by
    cases r with
    | nil => exact ⟨rfl, rfl⟩
    | cons b r =>
      have hb := (hr b rfl).1
      exact ⟨List.takeWhile_cons_of_neg (Bool.eq_false_iff.mp hb),
        List.dropWhile_cons_of_neg (Bool.eq_false_iff.mp hb)⟩
  rw [readDigits, encode_decimal, List.takeWhile_append_of_pos hdigit,
    List.dropWhile_append_of_pos hdigit, hstop.1, hstop.2, List.append_nil, hvalues]

theorem digitsValue_map (cs : List Char) :
    Numeral.digitsValue (cs.map digitValue) = decimalValue cs := by
  rw [Numeral.digitsValue, decimalValue, List.foldl_map]

theorem digitsValue_decimal (n : Nat) :
    Numeral.digitsValue ((decimal n).map digitValue) = n := by
  rw [digitsValue_map, decimalValue_decimal]

theorem readFraction_of_ends {r : List UInt8} (hr : EndsNumeral r) :
    readFraction r = some ([], r) := by
  cases r with
  | nil => rfl
  | cons b r => exact if_neg (hr b rfl).2.1

theorem readExponent_of_ends {r : List UInt8} (hr : EndsNumeral r) :
    readExponent r = some (none, r) := by
  cases r with
  | nil => rfl
  | cons b r =>
    obtain ⟨-, -, he, hE⟩ := hr b rfl
    simp only [readExponent, he, hE, decide_false, Bool.or_self, Bool.false_eq_true, if_false]

/-- A numeral is not empty and does not start with a zero that is not all of it. -/
theorem decimal_admitted (n : Nat) :
    (((decimal n).map digitValue).isEmpty ||
      (((decimal n).map digitValue).head? == some 0 &&
        decide (1 < ((decimal n).map digitValue).length))) = false := by
  rw [Bool.or_eq_false_iff]
  refine ⟨?_, ?_⟩
  · rw [List.isEmpty_eq_false_iff, Ne, List.map_eq_nil_iff]
    exact decimal_ne_nil n
  · rw [Bool.and_eq_false_iff]
    by_cases hn : n < 10
    · refine Or.inr (decide_eq_false ?_)
      rw [List.length_map, decimal_of_lt hn]
      exact Nat.lt_irrefl 1
    · refine Or.inl (beq_eq_false_iff_ne.mpr fun hzero => head_decimal hn ?_)
      rw [List.head?_map] at hzero
      obtain ⟨c, hc, hv⟩ := Option.map_eq_some_iff.mp hzero
      obtain ⟨d, hd, rfl⟩ := exists_digit_of_mem_decimal (List.mem_of_head? hc)
      rw [digitValue_digitChar hd] at hv
      rw [hc, hv]

/-- What a numeral starts with after its sign. -/
theorem exists_encode_decimal (n : Nat) :
    ∃ b r, Utf8.encode (decimal n) = b :: r ∧ isDigitByte b = true ∧ isBlankByte b = false := by
  obtain ⟨c, cs, hc⟩ := List.exists_cons_of_ne_nil (decimal_ne_nil n)
  obtain ⟨d, hd, rfl⟩ :=
    exists_digit_of_mem_decimal (n := n) (c := c) (hc ▸ List.mem_cons_self)
  obtain ⟨-, hdigit, -, hblank⟩ := digit_byte hd
  refine ⟨ascii (digitChar d), cs.map ascii, ?_, hdigit, hblank⟩
  rw [encode_decimal, hc, List.map_cons]

theorem ne_minus_of_isDigitByte {b : UInt8} (h : isDigitByte b = true) : b ≠ ascii '-' := by
  rintro rfl
  exact absurd h (by decide)

theorem readNumeral_ofInt (i : Int) {r : List UInt8} (hr : EndsNumeral r) :
    readNumeral (Utf8.encode (writeInteger i) ++ r) = some (Numeral.ofInt i, r) := by
  cases i with
  | ofNat n =>
    obtain ⟨b, bs, hb, hdigit, -⟩ := exists_encode_decimal n
    have hadmitted := decimal_admitted n
    have hdigits := readDigits_decimal n hr
    rw [hb, List.cons_append] at hdigits
    rw [writeInteger, hb, List.cons_append]
    simp only [readNumeral, ne_minus_of_isDigitByte hdigit, hdigits, hadmitted,
      readFraction_of_ends hr, readExponent_of_ends hr, Option.bind_eq_bind, Option.bind_some,
      Bool.false_eq_true, if_false]
    rfl
  | negSucc n =>
    have hminus : Utf8.encode (writeInteger (.negSucc n)) ++ r =
        ascii '-' :: (Utf8.encode (decimal (n + 1)) ++ r) := rfl
    have hofInt : Numeral.ofInt (.negSucc n) =
        ⟨true, (decimal (n + 1)).map digitValue, [], none⟩ := by
      rw [Numeral.ofInt, decide_eq_true (Int.negSucc_lt_zero n)]
      rfl
    have hadmitted := decimal_admitted (n + 1)
    rw [hminus, hofInt]
    simp only [readNumeral, if_true, readDigits_decimal (n + 1) hr, hadmitted,
      readFraction_of_ends hr, readExponent_of_ends hr, Option.bind_eq_bind, Option.bind_some,
      Bool.false_eq_true, if_false]
    rfl

/-- An integer of 64 bits, signed or unsigned, is what its numeral denotes. -/
theorem integer?_ofInt {i : Int} (hlow : -Int.pow 2 63 ≤ i) (hhigh : i < Int.pow 2 64) :
    (Numeral.ofInt i).integer? = some i := by
  have hwhole : (Numeral.ofInt i).isWhole = true := rfl
  have hvalue : Numeral.digitsValue (Numeral.ofInt i).whole = i.natAbs :=
    digitsValue_decimal i.natAbs
  have hlow' : -9223372036854775808 ≤ i := hlow
  have hhigh' : i < 18446744073709551616 := hhigh
  have h63 : Nat.pow 2 63 = 9223372036854775808 := rfl
  have h64 : Nat.pow 2 64 = 18446744073709551616 := rfl
  unfold Numeral.integer?
  rw [if_pos hwhole, hvalue, h63, h64]
  by_cases hneg : i < 0
  · have hn : (Numeral.ofInt i).negative = true := decide_eq_true hneg
    have hbounds : (decide (0 < i.natAbs) && decide (i.natAbs ≤ 9223372036854775808)) = true := by
      rw [Bool.and_eq_true, decide_eq_true_iff, decide_eq_true_iff]
      omega
    simp only [hn, if_true, hbounds, Option.some.injEq]
    omega
  · have hn : (Numeral.ofInt i).negative = false := decide_eq_false hneg
    have hbound : i.natAbs < 18446744073709551616 := by omega
    simp only [hn, Bool.false_eq_true, if_false, hbound, if_true, Option.some.injEq]
    omega

end BrokerClient.Json
