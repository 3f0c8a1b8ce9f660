import BrokerClient.Text.Digits
import Mathlib.Data.List.Basic
import Mathlib.Data.List.Induction
import Mathlib.Data.Nat.Digits.Defs

/-!
# Decimal numerals read back

A written numeral consists of digits, has none before the first that counts, and denotes the number
that was written. What is read as a numeral is any run of digits, and its value is that of the
digits in base ten, the last of them counting single.
-/

namespace BrokerClient.Text

theorem toNat_digitChar {d : Nat} (h : d < 10) : (digitChar d).toNat = 48 + d := by
  have hall : ∀ d < 10, (digitChar d).toNat = 48 + d := by decide
  exact hall d h

theorem isDigit_digitChar {d : Nat} (h : d < 10) : isDigit (digitChar d) = true := by
  rw [isDigit, toNat_digitChar h, Bool.and_eq_true, decide_eq_true_iff, decide_eq_true_iff]
  omega

theorem digitValue_digitChar {d : Nat} (h : d < 10) : digitValue (digitChar d) = d := by
  rw [digitValue, toNat_digitChar h]
  omega

theorem decimal_of_lt {n : Nat} (h : n < 10) : decimal n = [digitChar n] := by
  rw [decimal, if_pos h]

theorem decimal_of_not_lt {n : Nat} (h : ¬ n < 10) :
    decimal n = decimal (n / 10) ++ [digitChar (n % 10)] := by
  rw [decimal, if_neg h]

theorem decimal_ne_nil (n : Nat) : decimal n ≠ [] := by
  by_cases h : n < 10
  · rw [decimal_of_lt h]
    exact List.cons_ne_nil _ _
  · rw [decimal_of_not_lt h]
    exact List.append_ne_nil_of_right_ne_nil _ (List.cons_ne_nil _ _)

/-- Every character of a numeral is that of a digit. -/
theorem exists_digit_of_mem_decimal {n : Nat} {c : Char} (h : c ∈ decimal n) :
    ∃ d, d < 10 ∧ c = digitChar d := by
  induction n using decimal.induct with
  | case1 n hn =>
    rw [decimal_of_lt hn, List.mem_singleton] at h
    exact ⟨n, hn, h⟩
  | case2 n hn ih =>
    rw [decimal_of_not_lt hn, List.mem_append, List.mem_singleton] at h
    rcases h with h | h
    · exact ih h
    · exact ⟨n % 10, Nat.mod_lt n (by decide), h⟩

theorem isDigit_of_mem_decimal {n : Nat} {c : Char} (h : c ∈ decimal n) : isDigit c = true := by
  obtain ⟨d, hd, rfl⟩ := exists_digit_of_mem_decimal h
  exact isDigit_digitChar hd

theorem decimalValue_concat (cs : List Char) (c : Char) :
    decimalValue (cs ++ [c]) = 10 * decimalValue cs + digitValue c := by
  rw [decimalValue, decimalValue, List.foldl_append]
  rfl

theorem decimalValue_decimal (n : Nat) : decimalValue (decimal n) = n := by
  induction n using decimal.induct with
  | case1 n hn =>
    rw [decimal_of_lt hn, ← List.nil_append [digitChar n], decimalValue_concat,
      digitValue_digitChar hn]
    exact Nat.zero_add n
  | case2 n hn ih =>
    rw [decimal_of_not_lt hn, decimalValue_concat, ih,
      digitValue_digitChar (Nat.mod_lt n (by decide))]
    omega

/-- A numeral of more than one digit does not start with zero. -/
theorem head_decimal {n : Nat} (h : ¬ n < 10) : (decimal n).head? ≠ some (digitChar 0) := by
  induction n using decimal.induct with
  | case1 n hn => exact absurd hn h
  | case2 n hn ih =>
    rw [decimal_of_not_lt hn, List.head?_append_of_ne_nil _ (decimal_ne_nil _)]
    -- The leading digit is that of a shorter numeral, and no zero if that is its only one.
    by_cases hq : n / 10 < 10
    · rw [decimal_of_lt hq, List.head?_cons, Ne, Option.some.injEq]
      intro he
      have hzero := congrArg digitValue he
      rw [digitValue_digitChar hq, digitValue_digitChar (by decide)] at hzero
      omega
    · exact ih hq

theorem decimalValue_eq_ofDigits (cs : List Char) :
    decimalValue cs = Nat.ofDigits 10 (cs.reverse.map digitValue) := by
  induction cs using List.reverseRecOn with
  | nil => rfl
  | append_singleton cs c ih =>
    rw [decimalValue_concat, List.reverse_append, List.reverse_singleton, List.singleton_append,
      List.map_cons, Nat.ofDigits_cons, ih]
    exact Nat.add_comm _ _

theorem readDecimal?_eq_some_iff {cs : List Char} {n : Nat} :
    readDecimal? cs = some n ↔
      cs ≠ [] ∧ (∀ c ∈ cs, isDigit c = true) ∧ Nat.ofDigits 10 (cs.reverse.map digitValue) = n := by
  rw [readDecimal?, ← decimalValue_eq_ofDigits, Option.ite_none_right_eq_some, Option.some.injEq,
    Bool.and_eq_true, Bool.not_eq_true', List.isEmpty_eq_false_iff, List.all_eq_true, and_assoc]

theorem readDecimal?_decimal (n : Nat) : readDecimal? (decimal n) = some n := by
  refine readDecimal?_eq_some_iff.mpr ⟨decimal_ne_nil n, fun c => isDigit_of_mem_decimal, ?_⟩
  rw [← decimalValue_eq_ofDigits, decimalValue_decimal]

end BrokerClient.Text
