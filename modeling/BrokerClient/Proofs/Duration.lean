import BrokerClient.Duration.Text
import BrokerClient.Proofs.Text.Decimal
import Mathlib.Data.List.Forall2

/-!
# Durations read back

What is written of a duration is read term by term, and the terms add up to the duration: the sum
only grows, so nothing overflows on the way.
-/

namespace BrokerClient.Duration

open BrokerClient.Text

/-- The text is the numeral of the term and a name of its unit. -/
def Spells (text : List Char) (term : Term) : Prop :=
  ∃ n name, text = decimal n ++ name ∧ (∀ c ∈ name, isUnitLetter c = true) ∧
    TimeUnit.ofName? (String.ofList name) = some term.unit ∧ term = ⟨decimal n, none, term.unit⟩

/-- Letters end a number. -/
theorem isNumberChar_of_isUnitLetter {c : Char} (h : isUnitLetter c = true) :
    isNumberChar c = false := by
  simp only [isUnitLetter, Bool.or_eq_true, Bool.and_eq_true, decide_eq_true_eq, beq_iff_eq] at h
  simp only [isNumberChar, isDigit, isBlank, Bool.or_eq_false_iff, Bool.and_eq_false_iff,
    decide_eq_false_iff_not, beq_eq_false_iff_ne]
  omega

theorem ne_point_of_isUnitLetter {c : Char} (h : isUnitLetter c = true) : c ≠ '.' := by
  rintro rfl
  exact absurd h (by decide)

theorem isBlank_eq_false_of_isDigit {c : Char} (h : isDigit c = true) : isBlank c = false := by
  simp only [isDigit, Bool.and_eq_true, decide_eq_true_eq] at h
  simp only [isBlank, Bool.or_eq_false_iff, Bool.and_eq_false_iff, decide_eq_false_iff_not,
    beq_eq_false_iff_ne]
  omega

variable {t : List Char} {term : Term} {r : List Char}

theorem Spells.ne_nil (h : Spells t term) : t ≠ [] := by
  obtain ⟨n, name, rfl, -⟩ := h
  exact List.append_ne_nil_of_left_ne_nil (decimal_ne_nil n) _

/-- The input starts with no letter. -/
def EndsUnit (r : List Char) : Prop := ∀ c ∈ r.head?, isUnitLetter c = false

theorem readNumber_decimal (n : Nat) {c : Char} (hc : isNumberChar c = false) (r : List Char) :
    readNumber (decimal n ++ c :: r) = (decimal n, c :: r) := by
  have hnumber : ∀ c ∈ decimal n, isNumberChar c = true := fun c hc => by
    rw [isNumberChar, isDigit_of_mem_decimal hc, Bool.true_or]
  rw [readNumber, List.takeWhile_append_of_pos hnumber, List.dropWhile_append_of_pos hnumber,
    List.takeWhile_cons_of_neg (Bool.eq_false_iff.mp hc),
    List.dropWhile_cons_of_neg (Bool.eq_false_iff.mp hc), List.append_nil,
    List.filter_eq_self.mpr fun _ h => isDigit_of_mem_decimal h]

theorem readUnit_name {name : List Char} {u : TimeUnit}
    (hletters : ∀ c ∈ name, isUnitLetter c = true)
    (hname : TimeUnit.ofName? (String.ofList name) = some u) (hr : EndsUnit r) :
    readUnit (name ++ r) = some (u, r) := by
  have hstop : r.takeWhile isUnitLetter = [] ∧ r.dropWhile isUnitLetter = r := by
    cases r with
    | nil => exact ⟨rfl, rfl⟩
    | cons c r =>
      have hc := hr c rfl
      exact ⟨List.takeWhile_cons_of_neg (Bool.eq_false_iff.mp hc),
        List.dropWhile_cons_of_neg (Bool.eq_false_iff.mp hc)⟩
  rw [readUnit, List.takeWhile_append_of_pos hletters, List.dropWhile_append_of_pos hletters,
    hstop.1, hstop.2, List.append_nil, hname, Option.map_some]

/-- A term is read up to what is no letter. -/
theorem Spells.readTerm (h : Spells t term) (hr : EndsUnit r) :
    readTerm (t ++ r) = some (term, r) := by
  obtain ⟨n, name, rfl, hletters, hname, hterm⟩ := h
  have hread := readUnit_name hletters hname hr
  cases name with
  | nil => cases hname
  | cons c name =>
    have hc := hletters c List.mem_cons_self
    rw [List.append_assoc, List.cons_append] at *
    rw [Duration.readTerm, readNumber_decimal n (isNumberChar_of_isUnitLetter hc)]
    dsimp only
    split
    · exact absurd (List.cons.inj ‹_›).1 (ne_point_of_isUnitLetter hc)
    · rw [hread, Option.map_some, ← hterm]

theorem readTerms_append (h : Spells t term) (hr : EndsUnit r) (fuel : Nat) :
    readTerms (fuel + 1) (t ++ r) = (readTerms fuel r).map (term :: ·) := by
  have hread := h.readTerm hr
  obtain ⟨n, name, ht, -⟩ := h
  obtain ⟨c, cs, hc⟩ := List.exists_cons_of_ne_nil (decimal_ne_nil n)
  have hdigit : isDigit c = true := isDigit_of_mem_decimal (n := n) (hc ▸ List.mem_cons_self)
  rw [ht, hc, List.cons_append, List.cons_append] at hread ⊢
  rw [readTerms, List.dropWhile_cons_of_neg
    (Bool.eq_false_iff.mp (isBlank_eq_false_of_isDigit hdigit))]
  simp only [hdigit, if_true, hread]

theorem readTerms_space (fuel : Nat) (cs : List Char) :
    readTerms fuel (' ' :: cs) = readTerms fuel cs := by
  have hblank : isBlank ' ' = true := by decide
  cases fuel with
  | zero => rfl
  | succ fuel => rw [readTerms, readTerms, List.dropWhile_cons_of_pos hblank]

/-- The terms of a text with spaces between them. -/
theorem readTerms_spaced {ts : List (List Char)} {terms : List Term}
    (h : List.Forall₂ Spells ts terms) {fuel : Nat} (hf : ts.length < fuel) :
    readTerms fuel (spaced ts) = some terms := by
  induction h generalizing fuel with
  | nil =>
    obtain ⟨n, rfl⟩ : ∃ n, fuel = n + 1 := ⟨fuel - 1, by rw [List.length_nil] at hf; omega⟩
    rfl
  | @cons t term ts terms ht hts ih =>
    rw [List.length_cons] at hf
    obtain ⟨n, rfl⟩ : ∃ n, fuel = n + 1 := ⟨fuel - 1, by omega⟩
    have hrest : readTerms n (spaced ts) = some terms := ih (by omega)
    cases ts with
    | nil =>
      cases hts
      have hread := readTerms_append (r := []) ht nofun n
      rw [List.append_nil] at hread
      rw [spaced, hread]
      exact congrArg (Option.map _) hrest
    | cons t' ts =>
      have hspace : EndsUnit (' ' :: spaced (t' :: ts)) := by
        intro c hc
        obtain rfl := Option.some.inj hc
        decide
      rw [spaced, readTerms_append ht hspace, readTerms_space, hrest, Option.map_some]
      exact List.cons_ne_nil _ _

/-- A text with spaces is no shorter than the number of its terms. -/
theorem length_le_spaced {ts : List (List Char)} {terms : List Term}
    (h : List.Forall₂ Spells ts terms) : ts.length ≤ (spaced ts).length := by
  induction h with
  | nil => exact Nat.le_refl 0
  | @cons t term ts terms ht hts ih =>
    have hpos : 0 < t.length := List.length_pos_of_ne_nil ht.ne_nil
    cases ts with
    | nil => exact hpos
    | cons t' ts =>
      rw [spaced, List.length_append, List.length_cons, List.length_cons (a := ' ')]
      · omega
      · exact List.cons_ne_nil _ _

def termsOf (n : Nat) (u : TimeUnit) : List Term :=
  if n = 0 then [] else [⟨decimal n, none, u⟩]

/-- The terms that a duration is written in. -/
def terms (d : Duration) : List Term :=
  let inYear := d.seconds % 31557600
  let inMonth := inYear % 2630016
  let inDay := inMonth % 86400
  termsOf (d.seconds / 31557600) .year
    ++ termsOf (inYear / 2630016) .month
    ++ termsOf (inMonth / 86400) .day
    ++ termsOf (inDay / 3600) .hour
    ++ termsOf (inDay % 3600 / 60) .minute
    ++ termsOf (inDay % 60) .second
    ++ termsOf (d.nanos / 1000000) .millisecond
    ++ termsOf (d.nanos / 1000 % 1000) .microsecond
    ++ termsOf (d.nanos % 1000) .nanosecond

theorem spells_writeCount {name : List Char} {u : TimeUnit}
    (hletters : name.all isUnitLetter = true)
    (hname : TimeUnit.ofName? (String.ofList name) = some u) (n : Nat) :
    List.Forall₂ Spells (writeCount n name) (termsOf n u) := by
  by_cases hn : n = 0
  · rw [writeCount, termsOf, if_pos hn, if_pos hn]
    exact List.Forall₂.nil
  · rw [writeCount, termsOf, if_neg hn, if_neg hn]
    exact List.Forall₂.cons ⟨n, name, rfl, List.all_eq_true.mp hletters, hname, rfl⟩
      List.Forall₂.nil

theorem spells_writePlural {name : List Char} {u : TimeUnit}
    (hletters : (name ++ ['s']).all isUnitLetter = true)
    (hname : TimeUnit.ofName? (String.ofList name) = some u)
    (hplural : TimeUnit.ofName? (String.ofList (name ++ ['s'])) = some u) (n : Nat) :
    List.Forall₂ Spells (writePlural n name) (termsOf n u) := by
  rw [writePlural]
  split
  · exact spells_writeCount hletters hplural n
  · rw [List.all_append, Bool.and_eq_true] at hletters
    exact spells_writeCount hletters.1 hname n

/-- A duration is written in its terms. -/
theorem spells_parts (d : Duration) : List.Forall₂ Spells d.parts d.terms := by
  refine List.rel_append (List.rel_append (List.rel_append (List.rel_append (List.rel_append
    (List.rel_append (List.rel_append (List.rel_append ?year ?month) ?day) ?hour) ?minute) ?second)
    ?millisecond) ?microsecond) ?nanosecond
  case year => exact spells_writePlural (by decide) rfl rfl _
  case month => exact spells_writePlural (by decide) rfl rfl _
  case day => exact spells_writePlural (by decide) rfl rfl _
  all_goals exact spells_writeCount (by decide) rfl _

/-- The terms add up to so many seconds and nanoseconds. -/
def SumTo (ts : List Term) (seconds nanos : Nat) : Prop :=
  ∃ d, sum? ts = some d ∧ d.seconds = seconds ∧ d.nanos = nanos

theorem sumTo_nil : SumTo [] 0 0 := ⟨zero, rfl, rfl, rfl⟩

theorem sum?_concat (ts : List Term) (t : Term) : sum? (ts ++ [t]) = (sum? ts).bind t.addTo? := by
  rw [sum?, sum?, List.foldlM_append]
  simp only [List.foldlM_cons, List.foldlM_nil, bind_pure]
  rfl

/-- Adding a count of a unit is adding its length so often. -/
theorem addTo?_termOf {d : Duration} {n : Nat} {u : TimeUnit}
    (hbound : n * u.length < wordBound) :
    (Term.mk (decimal n) none u).addTo? d =
      if u.isSubsecond then d.add? 0 (n * u.length) else d.add? (n * u.length) 0 := by
  have hpos : 0 < u.length := by cases u <;> decide
  have hn : n < wordBound := Nat.lt_of_le_of_lt (Nat.le_mul_of_pos_right n hpos) hbound
  simp only [Term.addTo?, decimalValue_decimal, word?, hn, addWhole?, hbound, if_true,
    Option.bind_eq_bind, Option.bind_some]
  exact Option.bind_fun_some _

theorem add?_seconds {d : Duration} {s : Nat} (h : d.seconds + s < wordBound) :
    d.add? s 0 = some ⟨d.seconds + s, d.nanos, h, d.nanos_lt⟩ := by
  have hn : d.nanos + 0 < wordBound := Nat.lt_trans d.nanos_lt (by decide)
  have hdiv : (d.nanos + 0) / nanosPerSecond = 0 := Nat.div_eq_of_lt d.nanos_lt
  have hmod : (d.nanos + 0) % nanosPerSecond = d.nanos := Nat.mod_eq_of_lt d.nanos_lt
  simp only [add?, hn, if_true, hdiv, hmod, ofParts?]
  exact dif_pos ⟨h, d.nanos_lt⟩

theorem add?_nanos {d : Duration} {n : Nat} (h : d.nanos + n < nanosPerSecond) :
    d.add? 0 n = some ⟨d.seconds, d.nanos + n, d.seconds_lt, h⟩ := by
  have hn : d.nanos + n < wordBound := Nat.lt_trans h (by decide)
  have hdiv : (d.nanos + n) / nanosPerSecond = 0 := Nat.div_eq_of_lt h
  have hmod : (d.nanos + n) % nanosPerSecond = d.nanos + n := Nat.mod_eq_of_lt h
  simp only [add?, hn, if_true, hdiv, hmod, ofParts?]
  exact dif_pos ⟨d.seconds_lt, h⟩

/-- One more count of a unit from a second upward. -/
theorem SumTo.seconds {ts : List Term} {s ns : Nat} (h : SumTo ts s ns) {n : Nat} {u : TimeUnit}
    (hu : u.isSubsecond = false) (hbound : s + n * u.length < wordBound) :
    SumTo (ts ++ termsOf n u) (s + n * u.length) ns := by
  obtain ⟨d, hsum, rfl, rfl⟩ := h
  by_cases hn : n = 0
  · rw [termsOf, if_pos hn, List.append_nil, hn, Nat.zero_mul]
    exact ⟨d, hsum, rfl, rfl⟩
  · refine ⟨⟨d.seconds + n * u.length, d.nanos, hbound, d.nanos_lt⟩, ?_, rfl, rfl⟩
    rw [termsOf, if_neg hn, sum?_concat, hsum, Option.bind_some,
      addTo?_termOf (Nat.lt_of_le_of_lt (Nat.le_add_left _ _) hbound), hu, add?_seconds hbound]
    rfl

/-- One more count of a unit below a second. -/
theorem SumTo.nanos {ts : List Term} {s ns : Nat} (h : SumTo ts s ns) {n : Nat} {u : TimeUnit}
    (hu : u.isSubsecond = true) (hbound : ns + n * u.length < nanosPerSecond) :
    SumTo (ts ++ termsOf n u) s (ns + n * u.length) := by
  obtain ⟨d, hsum, rfl, rfl⟩ := h
  by_cases hn : n = 0
  · rw [termsOf, if_pos hn, List.append_nil, hn, Nat.zero_mul]
    exact ⟨d, hsum, rfl, rfl⟩
  · refine ⟨⟨d.seconds, d.nanos + n * u.length, d.seconds_lt, hbound⟩, ?_, rfl, rfl⟩
    have hword : n * u.length < wordBound :=
      Nat.lt_trans (Nat.lt_of_le_of_lt (Nat.le_add_left _ _) hbound) (by decide)
    rw [termsOf, if_neg hn, sum?_concat, hsum, Option.bind_some, addTo?_termOf hword, hu,
      add?_nanos hbound]
    rfl

theorem eq_of_parts {d d' : Duration} (hs : d.seconds = d'.seconds) (hn : d.nanos = d'.nanos) :
    d = d' := by
  cases d
  cases d'
  cases hs
  cases hn
  rfl

/-- The terms of a duration add up to it. -/
theorem sum?_terms (d : Duration) : sum? d.terms = some d := by
  have hs := d.seconds_lt
  have hn : d.nanos < 1000000000 := d.nanos_lt
  have hsum : SumTo d.terms _ _ :=
    ((((((((sumTo_nil.seconds rfl ?year).seconds rfl ?month).seconds rfl ?day).seconds rfl
      ?hour).seconds rfl ?minute).seconds rfl ?second).nanos rfl ?millisecond).nanos rfl
      ?microsecond).nanos rfl ?nanosecond
  obtain ⟨d', hd', hseconds, hnanos⟩ := hsum
  · rw [hd', Option.some.injEq]
    simp only [TimeUnit.length] at hseconds hnanos
    exact eq_of_parts (by omega) (by omega)
  all_goals
    simp only [TimeUnit.length, nanosPerSecond]
    omega

theorem eq_zero_of_isZero {d : Duration} (h : d.isZero = true) : d = zero := by
  rw [isZero, Bool.and_eq_true, beq_iff_eq, beq_iff_eq] at h
  exact eq_of_parts h.1 h.2

/-- What is written of a duration is read as the duration. -/
theorem parse?_render (d : Duration) : parse? d.render = some d := by
  by_cases hz : d.isZero = true
  · obtain rfl := eq_zero_of_isZero hz
    decide
  have hspells := spells_parts d
  have hne : d.terms ≠ [] := by
    intro hnil
    have hsum := sum?_terms d
    rw [hnil] at hsum
    obtain rfl := Option.some.inj hsum
    exact hz rfl
  have hread {fuel : Nat} (hf : (spaced d.parts).length < fuel) :
      readTerms fuel (spaced d.parts) = some d.terms :=
    readTerms_spaced hspells (Nat.lt_of_le_of_lt (length_le_spaced hspells) hf)
  have hrender : d.render = String.ofList (spaced d.parts) := if_neg hz
  -- The digit zero alone has no term.
  have hdigit : d.render ≠ "0" := by
    intro h
    have hchars : spaced d.parts = ['0'] := by
      rw [← String.toList_ofList (l := spaced d.parts), ← hrender, h]
      rfl
    have hterms := hread (Nat.lt_succ_self _)
    rw [hchars] at hterms
    cases hterms
  rw [parse?, if_neg hdigit, hrender, String.toList_ofList, hread (Nat.lt_succ_self _)]
  simp only [Option.bind_eq_bind, Option.bind_some, List.isEmpty_iff, hne, if_false]
  exact sum?_terms d

end BrokerClient.Duration
