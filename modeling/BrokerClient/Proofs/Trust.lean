import BrokerClient.Proofs.Text.Blank
import BrokerClient.Trust
import Mathlib.Data.List.Infix

/-!
# Trust as an order on names

A package covers its own name and the names below it, so covering is a partial order with `*` above
everything. What an allow-list trusts is closed under going down, and it depends on nothing but
which entries the list has once they are trimmed.
-/

namespace BrokerClient

theorem startsLevel_iff (cs : List Char) :
    startsLevel cs = true ↔ ".".toList <+: cs ∨ "::".toList <+: cs := by
  fun_cases startsLevel cs with
  | case1 r => simp
  | case2 r => simp
  | case3 _ hdot hcolon =>
    constructor
    · nofun
    · rintro (⟨r, rfl⟩ | ⟨r, rfl⟩)
      · exact absurd rfl (hdot r)
      · exact absurd rfl (hcolon r)

theorem startsLevel_append {cs : List Char} (h : startsLevel cs = true) (ds : List Char) :
    startsLevel (cs ++ ds) = true := by
  rw [startsLevel_iff] at h ⊢
  exact h.imp (fun hd => hd.trans (List.prefix_append _ _))
    fun hc => hc.trans (List.prefix_append _ _)

theorem packageCovers_iff (p t : String) :
    packageCovers p t = true ↔
      p = trustAllEntry ∨ p = t ∨ ∃ rest, startsLevel rest = true ∧ t.toList = p.toList ++ rest := by
  rw [packageCovers, Bool.or_eq_true, Bool.or_eq_true, beq_iff_eq, beq_iff_eq, or_assoc]
  refine or_congr_right (or_congr_right ?_)
  cases hp : List.isPrefixOf? p.toList t.toList with
  | none =>
    constructor
    · nofun
    · rintro ⟨rest, -, hrest⟩
      have hsome := List.isPrefixOf?_eq_some_iff_append_eq.mpr hrest.symm
      rw [hp] at hsome
      cases hsome
  | some rest =>
    have hrest : p.toList ++ rest = t.toList := List.isPrefixOf?_eq_some_iff_append_eq.mp hp
    constructor
    · exact fun h => ⟨rest, h, hrest.symm⟩
    · rintro ⟨rest', h, hrest'⟩
      rwa [List.append_cancel_left (hrest.trans hrest')]

theorem packageCovers_refl (p : String) : packageCovers p p = true :=
  (packageCovers_iff p p).mpr (Or.inr (Or.inl rfl))

theorem packageCovers_all (t : String) : packageCovers trustAllEntry t = true :=
  (packageCovers_iff _ t).mpr (Or.inl rfl)

/-- A name that starts a level right behind another is covered by it. -/
theorem packageCovers_append (p : String) {x : String} (hx : startsLevel x.toList = true) :
    packageCovers p (p ++ x) = true :=
  (packageCovers_iff p _).mpr (Or.inr (Or.inr ⟨x.toList, hx, String.toList_append⟩))

/-- Below a name there is something else than below its beginnings. -/
theorem packageCovers_append_eq_false {p x : String} (hp : p ≠ trustAllEntry) (hx : x ≠ "")
    (hl : startsLevel x.toList = false) : packageCovers p (p ++ x) = false := by
  refine Bool.eq_false_iff.mpr fun h => ?_
  rcases (packageCovers_iff p _).mp h with hall | hself | ⟨rest, hrest, he⟩
  · exact hp hall
  · have hnil := congrArg String.toList hself
    rw [String.toList_append, List.self_eq_append_right, String.toList_eq_nil_iff] at hnil
    exact hx hnil
  · rw [String.toList_append] at he
    rw [List.append_cancel_left he, hrest] at hl
    cases hl

/-- Nothing but `*` is above `*`. -/
theorem eq_trustAllEntry_of_covers {p : String} (h : packageCovers p trustAllEntry = true) :
    p = trustAllEntry := by
  rcases (packageCovers_iff p _).mp h with hall | hself | ⟨rest, hrest, he⟩
  · exact hall
  · exact hself
  · -- The one character of `*` would have to start a level.
    have hstar : ['*'] = p.toList ++ rest := he
    rcases List.cons_eq_append_iff.mp hstar with ⟨-, rfl⟩ | ⟨_, -, hnil⟩
    · cases hrest
    · rw [(List.append_eq_nil_iff.mp hnil.symm).2] at hrest
      cases hrest

theorem packageCovers_trans {p q t : String} (hpq : packageCovers p q = true)
    (hqt : packageCovers q t = true) : packageCovers p t = true := by
  rcases (packageCovers_iff q t).mp hqt with hall | rfl | ⟨below, hbelow, ht⟩
  · rw [hall] at hpq
    rw [eq_trustAllEntry_of_covers hpq]
    exact packageCovers_all t
  · exact hpq
  · rcases (packageCovers_iff p q).mp hpq with hall | rfl | ⟨between, hbetween, hq⟩
    · rw [hall]
      exact packageCovers_all t
    · exact hqt
    · refine (packageCovers_iff p t).mpr (Or.inr (Or.inr ⟨between ++ below, ?_, ?_⟩))
      · exact startsLevel_append hbetween below
      · rw [ht, hq, List.append_assoc]

theorem startsLevel_trimEnd {cs : List Char} (h : startsLevel cs = true) :
    startsLevel (Text.trimEnd cs) = true := by
  rcases (startsLevel_iff cs).mp h with ⟨r, rfl⟩ | ⟨r, rfl⟩
  · rw [Text.trimEnd_append (by decide)]
    exact (startsLevel_iff _).mpr (Or.inl (List.prefix_append _ _))
  · rw [Text.trimEnd_append (by decide)]
    exact (startsLevel_iff _).mpr (Or.inr (List.prefix_append _ _))

/-- A name that has no blanks around it covers what it covers also with the blanks cut off. -/
theorem packageCovers_trim {p t : String} (hp : Text.trim p = p) (hne : p ≠ "")
    (h : packageCovers p t = true) : packageCovers p (Text.trim t) = true := by
  rcases (packageCovers_iff p t).mp h with hall | rfl | ⟨rest, hrest, ht⟩
  · rw [hall]
    exact packageCovers_all _
  · rw [hp]
    exact packageCovers_refl p
  · have hchars : Text.trimChars p.toList = p.toList := by
      rw [← String.toList_ofList (l := Text.trimChars p.toList)]
      exact congrArg String.toList hp
    refine (packageCovers_iff p _).mpr (Or.inr (Or.inr ⟨_, startsLevel_trimEnd hrest, ?_⟩))
    rw [Text.trim, String.toList_ofList, ht,
      Text.trimChars_append hchars fun hnil => hne (String.toList_eq_nil_iff.mp hnil)]

theorem packageCovers_antisymm {p t : String} (hpt : packageCovers p t = true)
    (htp : packageCovers t p = true) : p = t := by
  rcases (packageCovers_iff p t).mp hpt with hall | hself | ⟨below, hbelow, ht⟩
  · rw [hall] at htp ⊢
    exact (eq_trustAllEntry_of_covers htp).symm
  · exact hself
  · rcases (packageCovers_iff t p).mp htp with hall | hself | ⟨above, -, hp⟩
    · rw [hall] at hpt ⊢
      exact eq_trustAllEntry_of_covers hpt
    · exact hself.symm
    · -- Two names that each go on behind the other are equally long.
      rw [hp, List.append_assoc, List.self_eq_append_right] at ht
      rw [(List.append_eq_nil_iff.mp ht).2] at hbelow
      cases hbelow

namespace TrustedPackages

theorem isTrusted_iff (P : TrustedPackages) (t : String) :
    P.isTrusted t = true ↔ ∃ p ∈ P.packages, packageCovers p t = true :=
  List.any_eq_true

/-- What is below a trusted name is trusted. -/
theorem isTrusted_of_covers {P : TrustedPackages} {t t' : String} (h : P.isTrusted t = true)
    (hc : packageCovers t t' = true) : P.isTrusted t' = true := by
  obtain ⟨p, hp, hpt⟩ := (P.isTrusted_iff t).mp h
  exact (P.isTrusted_iff t').mpr ⟨p, hp, packageCovers_trans hpt hc⟩

/-- Lists of the same entries trust the same types. -/
theorem isTrusted_congr {P Q : TrustedPackages} (h : ∀ e, e ∈ P.packages ↔ e ∈ Q.packages)
    (t : String) : P.isTrusted t = Q.isTrusted t := by
  rw [Bool.eq_iff_iff, isTrusted_iff, isTrusted_iff]
  exact exists_congr fun e => and_congr_left' (h e)

/-- An entry that is trusted anyway trusts nothing new, wherever it stands. -/
theorem isTrusted_add {before after : List String} {e : String}
    (h : isTrusted ⟨before ++ after⟩ e = true) (t : String) :
    isTrusted ⟨before ++ e :: after⟩ t = isTrusted ⟨before ++ after⟩ t := by
  cases ht : isTrusted ⟨before ++ after⟩ t with
  | true =>
    obtain ⟨p, hp, hpt⟩ := (isTrusted_iff _ t).mp ht
    refine (isTrusted_iff _ t).mpr ⟨p, ?_, hpt⟩
    exact List.mem_append.mpr ((List.mem_append.mp hp).imp_right (List.mem_cons_of_mem e))
  | false =>
    refine Bool.eq_false_iff.mpr fun hadded => Bool.eq_false_iff.mp ht ?_
    obtain ⟨p, hp, hpt⟩ := (isTrusted_iff _ t).mp hadded
    rcases List.mem_append.mp hp with hp | hp
    · exact (isTrusted_iff _ t).mpr ⟨p, List.mem_append_left _ hp, hpt⟩
    · rcases List.mem_cons.mp hp with rfl | hp
      · exact isTrusted_of_covers h hpt
      · exact (isTrusted_iff _ t).mpr ⟨p, List.mem_append_right _ hp, hpt⟩

theorem mem_ofList {entries : List String} {e : String} :
    e ∈ (ofList entries).packages ↔ e ≠ "" ∧ ∃ a ∈ entries, Text.trim a = e := by
  rw [ofList, List.mem_filter, List.mem_map, decide_eq_true_iff, and_comm]

theorem ofList_append (entries entries' : List String) :
    (ofList (entries ++ entries')).packages =
      (ofList entries).packages ++ (ofList entries').packages := by
  rw [ofList, List.map_append, List.filter_append]
  rfl

theorem ofList_congr {before after entries entries' : List String}
    (h : (ofList entries).packages = (ofList entries').packages) :
    ofList (before ++ entries ++ after) = ofList (before ++ entries' ++ after) := by
  have hpackages : (ofList (before ++ entries ++ after)).packages =
      (ofList (before ++ entries' ++ after)).packages := by
    simp only [ofList_append, h]
  exact congrArg TrustedPackages.mk hpackages

/-- An entry that is blank is no entry. -/
theorem ofList_blank {e : String} (h : Text.isBlankText e = true) :
    (ofList [e]).packages = [] := by
  rw [ofList, List.map_singleton, Text.trim_blank h]
  rfl

theorem ofList_trim_congr {e e' : String} (h : Text.trim e = Text.trim e') :
    (ofList [e]).packages = (ofList [e']).packages := by
  rw [ofList, ofList, List.map_singleton, List.map_singleton, h]

/-- The same holds of an entry that an allow-list is made from. -/
theorem isTrusted_ofList_add {before after : List String} {e : String}
    (h : (ofList (before ++ after)).isTrusted e = true) (t : String) :
    (ofList (before ++ e :: after)).isTrusted t = (ofList (before ++ after)).isTrusted t := by
  by_cases hblank : Text.trim e = ""
  · have hnone : (ofList [e]).packages = (ofList []).packages := by
      rw [ofList, List.map_singleton, hblank]
      rfl
    have hsame : ofList (before ++ [e] ++ after) = ofList (before ++ [] ++ after) :=
      ofList_congr hnone
    rw [List.append_assoc, List.singleton_append, List.append_nil] at hsame
    rw [hsame]
  · -- The trimmed entry is trusted because the entries that could cover it are trimmed.
    obtain ⟨p, hp, hpe⟩ := (isTrusted_iff _ e).mp h
    obtain ⟨hne, a, -, rfl⟩ := mem_ofList.mp hp
    have htrim : (ofList (before ++ after)).isTrusted (Text.trim e) = true :=
      (isTrusted_iff _ _).mpr ⟨_, hp, packageCovers_trim (Text.trim_trim a) hne hpe⟩
    have hone : (ofList [e]).packages = [Text.trim e] := by
      rw [ofList, List.map_singleton]
      refine List.filter_eq_self.mpr fun a ha => ?_
      rw [List.mem_singleton.mp ha]
      exact decide_eq_true hblank
    have hadded : (ofList (before ++ e :: after)).packages =
        (ofList before).packages ++ Text.trim e :: (ofList after).packages := by
      rw [← List.singleton_append, ofList_append, ofList_append, hone, List.singleton_append]
    have hwithout := ofList_append before after
    rw [isTrusted, hwithout] at htrim
    rw [isTrusted, isTrusted, hadded, hwithout]
    exact isTrusted_add htrim t

/-- Covering is a partial order on names with `*` above everything, and only `*` covers a name that
goes on behind it without starting a level. So what is below a trusted type is trusted, and an entry
that is trusted anyway adds nothing. Of the entries that an allow-list is made from those count that
are left when they are trimmed, whatever their order and number and whatever blanks are around or
between them. Two lists together trust what either of them trusts. -/
theorem trust_is_partial_order :
    (∀ p, packageCovers p p = true) ∧
    (∀ p q t, packageCovers p q = true → packageCovers q t = true → packageCovers p t = true) ∧
    (∀ p t, packageCovers p t = true → packageCovers t p = true → p = t) ∧
    (∀ t, packageCovers "*" t = true) ∧
    (∀ p x : String, p ≠ "*" → x ≠ "" → ¬ ".".toList <+: x.toList → ¬ "::".toList <+: x.toList →
      packageCovers p (p ++ x) = false) ∧
    (∀ (P : TrustedPackages) (t x : String), P.isTrusted t = true →
      P.isTrusted (t ++ "." ++ x) = true ∧ P.isTrusted (t ++ "::" ++ x) = true) ∧
    (∀ (before after : List String) (e t : String),
      (isTrusted ⟨before ++ after⟩ e = true →
        isTrusted ⟨before ++ e :: after⟩ t = isTrusted ⟨before ++ after⟩ t) ∧
      ((ofList (before ++ after)).isTrusted e = true →
        (ofList (before ++ e :: after)).isTrusted t = (ofList (before ++ after)).isTrusted t)) ∧
    (∀ entries entries' : List String,
      (∀ e, e ≠ "" →
        ((∃ a ∈ entries, Text.trim a = e) ↔ ∃ a ∈ entries', Text.trim a = e)) →
      ∀ t, (ofList entries).isTrusted t = (ofList entries').isTrusted t) ∧
    (∀ (before after : List String) (a e b : String),
      Text.isBlankText a = true → Text.isBlankText b = true →
        ofList (before ++ [a ++ e ++ b] ++ after) = ofList (before ++ [e] ++ after) ∧
        ofList (before ++ [a] ++ after) = ofList (before ++ after)) ∧
    ∀ (entries entries' : List String) (t : String),
      (ofList (entries ++ entries')).isTrusted t =
        ((ofList entries).isTrusted t || (ofList entries').isTrusted t) := by
  refine ⟨packageCovers_refl, fun _ _ _ => packageCovers_trans, fun _ _ => packageCovers_antisymm,
    packageCovers_all, ?_, ?_, fun _ _ _ t => ⟨fun h => isTrusted_add h t, fun h =>
      isTrusted_ofList_add h t⟩, ?_, ?_, ?_⟩
  · intro p x hp hx hdot hcolon
    refine packageCovers_append_eq_false hp hx (Bool.eq_false_iff.mpr fun hl => ?_)
    exact ((startsLevel_iff _).mp hl).elim hdot hcolon
  · intro P t x h
    have hbelow : ∀ sep : String, startsLevel sep.toList = true →
        P.isTrusted (t ++ sep ++ x) = true := by
      intro sep hsep
      refine isTrusted_of_covers h ?_
      rw [String.append_assoc]
      refine packageCovers_append t ?_
      rw [String.toList_append]
      exact startsLevel_append hsep _
    exact ⟨hbelow "." rfl, hbelow "::" rfl⟩
  · intro entries entries' h t
    refine isTrusted_congr (fun e => ?_) t
    rw [mem_ofList, mem_ofList]
    exact and_congr_right fun hne => h e hne
  · intro before after a e b ha hb
    refine ⟨ofList_congr (ofList_trim_congr (Text.trim_blank_append e ha hb)), ?_⟩
    have hblank : ofList (before ++ [a] ++ after) = ofList (before ++ [] ++ after) :=
      ofList_congr (ofList_blank ha)
    rwa [List.append_nil] at hblank
  · intro entries entries' t
    rw [isTrusted, ofList_append, List.any_append]
    rfl

/-- A list that trusts `java.lang` trusts what is below it, but not a name that goes on from it, and
a type below it adds nothing as an entry. Neither do repeated and blank entries. -/
theorem trust_is_partial_order_below :
    packageCovers "java" "java.lang.String" = true ∧
    packageCovers "java.lang" "java.language" = false ∧
    (∀ x, (ofList ["java.lang"]).isTrusted ("java.lang.String" ++ "::" ++ x) = true) ∧
    (∀ t, (ofList ["java.lang", " java.lang.String"]).isTrusted t =
      (ofList ["java.lang"]).isTrusted t) ∧
    ∀ t, (ofList ["a", "b"]).isTrusted t = (ofList [" b", "", "a", "b\t"]).isTrusted t := by
  obtain ⟨-, htrans, -, -, hlook, hbelow, hadd, hset, hblank, -⟩ := trust_is_partial_order
  refine ⟨htrans "java" "java.lang" "java.lang.String" (by decide) (by decide), ?_, fun x => ?_,
    fun t => ?_, hset _ _ fun e hne => ?_⟩
  · exact hlook "java.lang" "uage" (by decide) (by decide) (by decide) (by decide)
  · exact (hbelow (ofList ["java.lang"]) "java.lang.String" x (by decide)).2
  · have hspaced := (hblank ["java.lang"] [] " " "java.lang.String" "" (by decide) (by decide)).1
    have hadded := (hadd ["java.lang"] [] "java.lang.String" t).2 (by decide)
    exact (congrArg (isTrusted · t) hspaced).trans hadded
  · have htrim : ["a", "b", " b", "", "b\t"].map Text.trim = ["a", "b", "b", "", "b"] := by decide
    simp only [List.map_cons, List.map_nil, List.cons.injEq] at htrim
    simp only [List.mem_cons, List.not_mem_nil, or_false, exists_eq_or_imp, exists_eq_left, htrim]
    tauto

end TrustedPackages

end BrokerClient
