import BrokerClient.Text.Blank
import Mathlib.Data.List.DropRight
import Mathlib.Data.List.TakeWhile

/-!
# Trimmed texts

Trimming takes off blanks at both ends and nothing else, so blanks around a text make no difference
to what is left of it, and what is trimmed stays as it is.
-/

namespace BrokerClient.Text

theorem trimEnd_append_blank {bs : List Char} (cs : List Char) (hb : ∀ c ∈ bs, isBlank c = true) :
    trimEnd (cs ++ bs) = trimEnd cs := by
  have hr : ∀ c ∈ bs.reverse, isBlank c = true := fun c hc => hb c (List.mem_reverse.mp hc)
  rw [trimEnd, trimEnd, List.reverse_append, List.dropWhile_append_of_pos hr]

theorem trimChars_blank_append {as bs : List Char} (cs : List Char)
    (ha : ∀ c ∈ as, isBlank c = true) (hb : ∀ c ∈ bs, isBlank c = true) :
    trimChars (as ++ cs ++ bs) = trimChars cs := by
  rw [trimChars, trimChars, List.append_assoc, List.dropWhile_append_of_pos ha,
    List.dropWhile_append]
  split
  · next he =>
    rw [List.dropWhile_eq_nil_iff.mpr hb, List.isEmpty_iff.mp he]
  · exact trimEnd_append_blank _ hb

/-- Blanks around a text make no difference once it is trimmed. -/
theorem trim_blank_append {a b : String} (s : String) (ha : isBlankText a = true)
    (hb : isBlankText b = true) : trim (a ++ s ++ b) = trim s := by
  rw [isBlankText, List.all_eq_true] at ha hb
  rw [trim, trim, String.toList_append, String.toList_append, trimChars_blank_append _ ha hb]

theorem trim_blank {a : String} (ha : isBlankText a = true) : trim a = "" := by
  have hnone : isBlankText "" = true := rfl
  have h := trim_blank_append "" ha hnone
  rw [String.append_empty, String.append_empty] at h
  exact h

/-- What has no blank at its end keeps all in front of what follows. -/
theorem trimEnd_append {as : List Char} (h : trimEnd as = as) (cs : List Char) :
    trimEnd (as ++ cs) = as ++ trimEnd cs := by
  rw [trimEnd, List.reverse_append, List.dropWhile_append]
  split
  · next he =>
    have hcs : trimEnd cs = [] := by rw [trimEnd, List.isEmpty_iff.mp he, List.reverse_nil]
    rw [hcs, List.append_nil]
    exact h
  · rw [List.reverse_append, List.reverse_reverse]
    rfl

/-- What is trimmed has blanks at neither end. -/
theorem dropWhile_of_trimmed {cs : List Char} (h : trimChars cs = cs) :
    cs.dropWhile isBlank = cs ∧ trimEnd cs = cs := by
  have hlength : cs.length ≤ (cs.dropWhile isBlank).length := by
    calc cs.length = (trimChars cs).length := by rw [h]
      _ ≤ (cs.dropWhile isBlank).length := (List.rdropWhile_prefix isBlank _).length_le
  have hstart : cs.dropWhile isBlank = cs :=
    (List.dropWhile_suffix isBlank).eq_of_length_le hlength
  rw [trimChars, hstart] at h
  exact ⟨hstart, h⟩

theorem trimChars_append {as : List Char} (h : trimChars as = as) (hne : as ≠ [])
    (cs : List Char) : trimChars (as ++ cs) = as ++ trimEnd cs := by
  obtain ⟨hstart, hend⟩ := dropWhile_of_trimmed h
  have hsome : ¬ as.isEmpty = true := fun he => hne (List.isEmpty_iff.mp he)
  rw [trimChars, List.dropWhile_append, hstart, if_neg hsome, trimEnd_append hend]

theorem trimChars_trimChars (cs : List Char) : trimChars (trimChars cs) = trimChars cs := by
  have hinitial : trimChars cs <+: cs.dropWhile isBlank := List.rdropWhile_prefix isBlank _
  have hstart : (trimChars cs).dropWhile isBlank = trimChars cs := by
    refine List.dropWhile_eq_self_iff.mpr fun hpos => ?_
    have hsolid := List.dropWhile_eq_self_iff.mp (List.dropWhile_idempotent (p := isBlank) cs)
    rw [hinitial.getElem hpos]
    exact hsolid (hpos.trans_le hinitial.length_le)
  rw [trimChars, hstart]
  exact List.rdropWhile_idempotent isBlank _

theorem trim_trim (s : String) : trim (trim s) = trim s := by
  rw [trim, trim, String.toList_ofList, trimChars_trimChars]

end BrokerClient.Text
