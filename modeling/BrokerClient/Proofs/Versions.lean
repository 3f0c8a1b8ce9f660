import BrokerClient.Proofs.Text.Decimal
import BrokerClient.Provider

/-!
# The numbers of a version

A version is cut at its points. The first two parts are the major and the minor number if they
denote numbers of 32 bits, and a part that does not, or is not there, counts as zero.
-/

namespace BrokerClient.ProviderMetadata

open Text

variable {part : List Char} {n : Nat}

/-- The parts of a text between its points. -/
structure Parted (text : List Char) (parts : List (List Char)) : Prop where
  ne_nil : parts ≠ []
  joined : ['.'].intercalate parts = text
  undivided : ∀ part ∈ parts, '.' ∉ part

theorem not_mem_of_mem_splitOn {text : List Char} (h : part ∈ text.splitOn '.') : '.' ∉ part := by
  induction text generalizing part with
  | nil =>
    rw [List.splitOn_nil, List.mem_singleton] at h
    rw [h]
    exact List.not_mem_nil
  | cons c text ih =>
    obtain ⟨first, others, hsplit⟩ := List.exists_cons_of_ne_nil (List.splitOn_ne_nil '.' text)
    rw [List.splitOn_cons_eq_if_modifyHead, hsplit] at h
    rw [hsplit] at ih
    by_cases hc : c = '.'
    · rw [if_pos (beq_iff_eq.mpr hc), List.mem_cons] at h
      rcases h with rfl | h
      · exact List.not_mem_nil
      · exact ih h
    · rw [if_neg (fun h => hc (beq_iff_eq.mp h)), List.modifyHead_cons, List.mem_cons] at h
      rcases h with rfl | h
      · rw [List.mem_cons, not_or]
        exact ⟨Ne.symm hc, ih List.mem_cons_self⟩
      · exact ih (List.mem_cons_of_mem _ h)

theorem parted_splitOn (text : List Char) : Parted text (text.splitOn '.') where
  ne_nil := List.splitOn_ne_nil '.' text
  joined := List.intercalate_splitOn '.'
  undivided _ := not_mem_of_mem_splitOn

/-- A text has no other parts than those it is cut into. -/
theorem Parted.splitOn_eq {text : List Char} {parts : List (List Char)} (h : Parted text parts) :
    text.splitOn '.' = parts := by
  rw [← h.joined]
  exact List.splitOn_intercalate '.' h.undivided h.ne_nil

/-- A part denotes a number: one or more digits, perhaps with one plus sign before them. -/
def Denotes (part : List Char) (n : Nat) : Prop :=
  ∃ ds : List Char, (part = ds ∨ part = '+' :: ds) ∧ ds ≠ [] ∧ (∀ c ∈ ds, isDigit c = true) ∧
    Nat.ofDigits 10 (ds.reverse.map digitValue) = n

theorem denotes_of_readDecimal? (h : readDecimal? part = some n) : Denotes part n :=
  ⟨part, Or.inl rfl, readDecimal?_eq_some_iff.mp h⟩

theorem denotes_plus_iff : Denotes ('+' :: part) n ↔ readDecimal? part = some n := by
  constructor
  · rintro ⟨ds, rfl | hplus, hne, hd, hn⟩
    · -- A plus sign is no digit itself.
      cases hd '+' List.mem_cons_self
    · obtain rfl : part = ds := List.tail_eq_of_cons_eq hplus
      exact readDecimal?_eq_some_iff.mpr ⟨hne, hd, hn⟩
  · intro h
    exact ⟨part, Or.inr rfl, readDecimal?_eq_some_iff.mp h⟩

theorem denotes_iff (hplus : ∀ ds, part ≠ '+' :: ds) :
    Denotes part n ↔ readDecimal? part = some n := by
  constructor
  · rintro ⟨ds, rfl | he, hread⟩
    · exact readDecimal?_eq_some_iff.mpr hread
    · exact absurd he (hplus ds)
  · exact denotes_of_readDecimal?

theorem Denotes.unique {k : Nat} (h : Denotes part n) (h' : Denotes part k) : n = k := by
  by_cases hplus : ∃ ds, part = '+' :: ds
  · obtain ⟨ds, rfl⟩ := hplus
    rw [denotes_plus_iff] at h h'
    exact Option.some.inj (h.symm.trans h')
  · rw [denotes_iff (not_exists.mp hplus)] at h h'
    exact Option.some.inj (h.symm.trans h')

theorem versionNumber?_eq_some_iff :
    versionNumber? part = some n ↔ Denotes part n ∧ n < 2 ^ 32 := by
  have hbound : versionBound = 2 ^ 32 := rfl
  unfold versionNumber?
  extract_lets digits
  have hdigits : Denotes part n ↔ readDecimal? digits = some n := by
    simp only [digits]
    split
    · exact denotes_plus_iff
    · next hplus => exact denotes_iff hplus
  rw [hdigits]
  cases readDecimal? digits with
  | none => simp
  | some k =>
    rw [hbound, Option.ite_none_right_eq_some, Option.some.injEq, and_comm]
    exact and_congr_right fun he => by rw [he]

/-- The number of the part at a place, or zero if there is no part that denotes a number of 32 bits.
-/
def NumberAt (parts : List (List Char)) (place : Nat) (n : Nat) : Prop :=
  (∃ part, parts[place]? = some part ∧ Denotes part n ∧ n < 2 ^ 32) ∨
    n = 0 ∧ ∀ part k, parts[place]? = some part → Denotes part k → 2 ^ 32 ≤ k

section NumberAt

variable {parts : List (List Char)} {place : Nat}

theorem NumberAt.eq_of_denotes {k : Nat} (h : NumberAt parts place n)
    (hpart : parts[place]? = some part) (hk : Denotes part k) (hbound : k < 2 ^ 32) : n = k := by
  rcases h with ⟨part', hpart', hn, -⟩ | ⟨-, hnone⟩
  · obtain rfl : part' = part := Option.some.inj (hpart'.symm.trans hpart)
    exact hn.unique hk
  · exact absurd (hnone part k hpart hk) (Nat.not_le.mpr hbound)

theorem NumberAt.eq_zero (h : NumberAt parts place n)
    (hnone : ∀ part k, parts[place]? = some part → Denotes part k → 2 ^ 32 ≤ k) : n = 0 := by
  rcases h with ⟨part, hpart, hn, hbound⟩ | ⟨hzero, -⟩
  · exact absurd (hnone part n hpart hn) (Nat.not_le.mpr hbound)
  · exact hzero

end NumberAt

theorem numberAt_versionPart (m : ProviderMetadata) (place : Nat) {parts : List (List Char)}
    (h : Parted m.providerVersion.toList parts) : NumberAt parts place (m.versionPart place) := by
  rw [versionPart, h.splitOn_eq]
  cases hpart : parts[place]? with
  | none => exact Or.inr ⟨rfl, fun part k hk => absurd (hpart.symm.trans hk) nofun⟩
  | some part =>
    cases hnumber : versionNumber? part with
    | some k =>
      refine Or.inl ⟨part, hpart, ?_⟩
      simp only [hnumber, Option.getD_some]
      exact versionNumber?_eq_some_iff.mp hnumber
    | none =>
      refine Or.inr ⟨by simp only [hnumber, Option.getD_none], fun part' k hk hdenotes => ?_⟩
      obtain rfl : part = part' := Option.some.inj (hpart.symm.trans hk)
      refine Nat.le_of_not_lt fun hlt => ?_
      rw [versionNumber?_eq_some_iff.mpr ⟨hdenotes, hlt⟩] at hnumber
      cases hnumber

theorem point_not_mem_decimal (n : Nat) : '.' ∉ decimal n := fun h => by
  cases isDigit_of_mem_decimal h

theorem splitOn_decimal (a b : Nat) {rest : List Char} (h : rest = [] ∨ ∃ r, rest = '.' :: r) :
    ∃ others, (decimal a ++ '.' :: (decimal b ++ rest)).splitOn '.' =
      decimal a :: decimal b :: others := by
  rw [List.splitOn_append_cons_self_of_not_mem (point_not_mem_decimal a)]
  rcases h with rfl | ⟨r, rfl⟩
  · rw [List.append_nil, List.splitOn_eq_singleton (point_not_mem_decimal b)]
    exact ⟨[], rfl⟩
  · rw [List.splitOn_append_cons_self_of_not_mem (point_not_mem_decimal b)]
    exact ⟨_, rfl⟩

theorem versionNumber?_decimal (a : UInt32) : versionNumber? (decimal a.toNat) = some a.toNat :=
  versionNumber?_eq_some_iff.mpr ⟨denotes_of_readDecimal? (readDecimal?_decimal _), a.toNat_lt⟩

def ofVersion (m : ProviderMetadata) (version : String) : ProviderMetadata :=
  { m with providerVersion := version }

/-- Every version is cut into parts in one way, and its numbers are those of the first two parts:
the digits that a part consists of but for one plus sign, if they stay below 2^32, and zero in all
other cases. Two numbers of 32 bits with a point between them, and a further point before whatever
follows, are read back. -/
theorem version_numbers_exact (m : ProviderMetadata) :
    (∃! parts, Parted m.providerVersion.toList parts) ∧
    (∀ parts, Parted m.providerVersion.toList parts →
      NumberAt parts 0 m.providerMajor ∧ NumberAt parts 1 m.providerMinor) ∧
    ∀ (a b : UInt32) (suffix : String), (suffix = "" ∨ ∃ r, suffix = "." ++ r) →
      m.providerVersion = ofNat a.toNat ++ "." ++ ofNat b.toNat ++ suffix →
      m.providerMajor = a.toNat ∧ m.providerMinor = b.toNat := by
  refine ⟨⟨_, parted_splitOn _, fun parts h => h.splitOn_eq.symm⟩, fun parts h => ?_,
    fun a b suffix hsuffix hversion => ?_⟩
  · exact ⟨numberAt_versionPart m 0 h, numberAt_versionPart m 1 h⟩
  · have htext : m.providerVersion.toList =
        decimal a.toNat ++ '.' :: (decimal b.toNat ++ suffix.toList) := by
      rw [hversion]
      simp [ofNat]
    have hrest : suffix.toList = [] ∨ ∃ r, suffix.toList = '.' :: r := by
      refine hsuffix.imp (fun he => by rw [he]; rfl) ?_
      rintro ⟨r, rfl⟩
      exact ⟨r.toList, String.toList_append ..⟩
    obtain ⟨others, hsplit⟩ := splitOn_decimal a.toNat b.toNat hrest
    rw [← htext] at hsplit
    constructor
    · simp [providerMajor, versionPart, hsplit, versionNumber?_decimal]
    · simp [providerMinor, versionPart, hsplit, versionNumber?_decimal]

/-- The greatest number is read, also behind a plus sign and a zero, and the one after it is not. -/
theorem version_numbers_exact_greatest :
    (connectionMetadata.ofVersion "4294967295.7.1").providerMajor = 4294967295 ∧
    (connectionMetadata.ofVersion "+04294967295.4294967296").providerMajor = 4294967295 ∧
    (connectionMetadata.ofVersion "+04294967295.4294967296").providerMinor = 0 := by
  obtain ⟨-, -, hread⟩ := version_numbers_exact (connectionMetadata.ofVersion "4294967295.7.1")
  obtain ⟨-, hnumbers, -⟩ :=
    version_numbers_exact (connectionMetadata.ofVersion "+04294967295.4294967296")
  obtain ⟨hmajor, hminor⟩ := hnumbers ["+04294967295".toList, "4294967296".toList]
    ⟨nofun, by decide, by decide⟩
  have hgreatest : Denotes "+04294967295".toList 4294967295 := denotes_plus_iff.mpr (by decide)
  have hnext : Denotes "4294967296".toList 4294967296 := denotes_of_readDecimal? (by decide)
  refine ⟨(hread 4294967295 7 ".1" (Or.inr ⟨"1", by decide⟩) (by decide +kernel)).1, ?_, ?_⟩
  · exact hmajor.eq_of_denotes rfl hgreatest (by decide)
  · refine hminor.eq_zero fun part k hk hdenotes => ?_
    obtain rfl := Option.some.inj hk
    exact (hdenotes.unique hnext).ge

end BrokerClient.ProviderMetadata
