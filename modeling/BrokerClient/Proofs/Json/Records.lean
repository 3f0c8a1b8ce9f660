import BrokerClient.Proofs.Json.RoundTrip
import Mathlib.Data.String.Basic

/-!
# Types read back

What is read, as a type, of the syntax that is expected of a written value: strings, integers,
lists, records whose members have distinct names, and string maps.
-/

namespace BrokerClient.Json

theorem text?_ofString (s : String) : (Syntax.string (Literal.ofString s)).text? = some s := by
  rw [Syntax.text?, Literal.text?_ofString, Option.map_some, String.ofList_toList]

/-- An integer is read within bounds that it keeps, if those are within 64 bits. -/
theorem integer?_number {low high i : Int} (hlow : -Int.pow 2 63 ≤ low)
    (hhigh : high < Int.pow 2 64) (hi : low ≤ i ∧ i ≤ high) :
    (Syntax.number (Numeral.ofInt i)).integer? low high = some i := by
  have hvalue : (Numeral.ofInt i).integer? = some i :=
    integer?_ofInt (Int.le_trans hlow hi.1) (Int.lt_of_le_of_lt hi.2 hhigh)
  rw [Syntax.integer?, hvalue]
  exact if_pos hi

theorem natural?_number {bound n : Nat} (hbound : bound ≤ Nat.pow 2 64) (hn : n < bound) :
    (Syntax.number (Numeral.ofInt n)).natural? bound = some n := by
  have h64 : Nat.pow 2 64 = 18446744073709551616 := rfl
  have hpow : Int.pow 2 64 = 18446744073709551616 := rfl
  have hread : (Syntax.number (Numeral.ofInt n)).integer? 0 (bound - 1) = some n :=
    integer?_number (by decide) (by omega) (by omega)
  rw [Syntax.natural?, hread]
  rfl

theorem itemsOfValues?_map {α : Type} {f : α → Value} {g : α → Syntax}
    (h : ∀ x, Syntax.ofValue? (f x) = some (g x)) (xs : List α) :
    itemsOfValues? (xs.map f) = some (xs.map g) := by
  induction xs with
  | nil => rfl
  | cons x xs ih =>
    simp only [List.map_cons, itemsOfValues?, h, ih, Option.bind_eq_bind, Option.bind_some]
    rfl

theorem mapM_map {α β γ : Type} {f : γ → Option β} {g : α → γ} {k : α → β} {l : List α}
    (h : ∀ x ∈ l, f (g x) = some (k x)) : (l.map g).mapM f = some (l.map k) := by
  induction l with
  | nil => rfl
  | cons x l ih =>
    rw [List.map_cons, List.mapM_cons, h x List.mem_cons_self,
      ih fun y hy => h y (List.mem_cons_of_mem _ hy)]
    rfl

variable {fields : List (String × Option Syntax)}

/-- Filling one field leaves the others as they are. -/
theorem lookup_filled {name : String} {s : Syntax} {k : String} (h : k ≠ name) :
    (fields.map fun f => if f.1 = name then (f.1, some s) else f).lookup k = fields.lookup k := by
  induction fields with
  | nil => rfl
  | cons f fields ih =>
    obtain ⟨n, v⟩ := f
    have hkey : (if n = name then (n, some s) else (n, v)) =
        (n, if n = name then some s else v) := by split <;> rfl
    rw [List.map_cons, hkey, List.lookup_cons, List.lookup_cons, ih]
    by_cases hk : k = n
    · rw [if_neg (hk ▸ h)]
    · rw [beq_eq_false_iff_ne.mpr hk]

theorem fillFields_cons {name : String} {s : Syntax} {r : List (Literal × Syntax)}
    (h : fields.lookup name = some none) :
    Syntax.fillFields fields ((Literal.ofString name, s) :: r) =
      Syntax.fillFields (fields.map fun f => if f.1 = name then (f.1, some s) else f) r := by
  rw [Syntax.fillFields, Literal.text?_ofString]
  simp only [Option.bind_eq_bind, Option.bind_some, String.ofList_toList, h]

/-- Members of distinct names fill the fields that they name. -/
theorem fillFields_members {ms : List (String × Syntax)} (hnodup : (ms.map Prod.fst).Nodup)
    (hempty : ∀ k ∈ ms.map Prod.fst, fields.lookup k = some none) :
    Syntax.fillFields fields (ms.map fun m => (Literal.ofString m.1, m.2)) =
      some (fields.map fun f => (f.1, (ms.lookup f.1).or f.2)) := by
  induction ms generalizing fields with
  | nil => exact congrArg some (List.map_id fields).symm
  | cons m ms ih =>
    obtain ⟨name, s⟩ := m
    rw [List.map_cons, List.nodup_cons] at hnodup
    have hfilled := fillFields_cons (s := s) (r := ms.map fun m => (Literal.ofString m.1, m.2))
      (hempty name List.mem_cons_self)
    have hothers : ∀ k ∈ ms.map Prod.fst,
        (fields.map fun f => if f.1 = name then (f.1, some s) else f).lookup k = some none := by
      intro k hk
      have hne : k ≠ name := fun h => hnodup.1 (h ▸ hk :)
      rw [lookup_filled hne]
      exact hempty k (List.mem_cons_of_mem _ hk)
    rw [List.map_cons, hfilled, ih hnodup.2 hothers, Option.some.injEq, List.map_map]
    refine List.map_congr_left fun f _ => ?_
    rw [Function.comp_apply, List.lookup_cons]
    by_cases hf : f.1 = name
    · have hlookup : ms.lookup f.1 = none := by
        refine List.lookup_eq_none_iff.mpr fun m hm => ?_
        rw [bne_iff_ne, hf]
        exact fun h => hnodup.1 (List.mem_map.mpr ⟨m, hm, h.symm⟩)
      rw [if_pos hf, hlookup, beq_iff_eq.mpr hf]
      rfl
    · rw [if_neg hf, beq_eq_false_iff_ne.mpr hf]

theorem lookup_unfilled {names : List String} {k : String} (h : k ∈ names) :
    (names.map fun n => (n, (none : Option Syntax))).lookup k = some none := by
  induction names with
  | nil => cases h
  | cons n names ih =>
    rw [List.map_cons, List.lookup_cons]
    by_cases hk : k = n
    · rw [beq_iff_eq.mpr hk]
    · rw [beq_eq_false_iff_ne.mpr hk]
      exact ih (List.mem_of_ne_of_mem hk h)

def Syntax.ofMembers (ms : List (String × Syntax)) : Syntax :=
  .object (ms.map fun m => (Literal.ofString m.1, m.2))

/-- The fields of a record are the members of an object that have their names, if the members have
distinct names and no other ones. -/
theorem fields?_ofMembers {names : List String} {ms : List (String × Syntax)}
    {found : List (Option Syntax)} (hnodup : (ms.map Prod.fst).Nodup)
    (hnames : ∀ k ∈ ms.map Prod.fst, k ∈ names)
    (hfound : names.map (fun n => ms.lookup n) = found) :
    (Syntax.ofMembers ms).fields? names = some found := by
  have hempty : ∀ k ∈ ms.map Prod.fst,
      (names.map fun n => (n, (none : Option Syntax))).lookup k = some none :=
    fun k hk => lookup_unfilled (hnames k hk)
  rw [Syntax.ofMembers, Syntax.fields?, fillFields_members hnodup hempty, Option.map_some,
    List.map_map, List.map_map, ← hfound, Option.some.injEq]
  exact List.map_congr_left fun n _ => Option.or_none

theorem membersOfValues?_map {α : Type} {f : α → Value} {g : α → Syntax}
    (h : ∀ x, Syntax.ofValue? (f x) = some (g x)) (ms : List (String × α)) :
    membersOfValues? (ms.map fun m => (m.1, f m.2)) =
      some (ms.map fun m => (Literal.ofString m.1, g m.2)) := by
  induction ms with
  | nil => rfl
  | cons m ms ih =>
    simp only [List.map_cons, membersOfValues?, h, ih, Option.bind_eq_bind, Option.bind_some]
    rfl

section Maps

variable {α : Type} {ms : List (String × α)} {k : String}

/-- The members stand in the order of distinct names. -/
def InOrder (ms : List (String × α)) : Prop := ms.Pairwise fun m m' => m.1 < m'.1

/-- A member with a new name is added. -/
theorem insertMember_perm (hk : k ∉ ms.map Prod.fst) (v : α) :
    (insertMember k v ms).Perm ((k, v) :: ms) := by
  induction ms with
  | nil => exact List.Perm.refl _
  | cons m ms ih =>
    obtain ⟨n, w⟩ := m
    rw [List.map_cons, List.mem_cons, not_or] at hk
    rw [insertMember, if_neg hk.1]
    split
    · exact List.Perm.refl _
    · exact ((ih hk.2).cons (n, w)).trans (List.Perm.swap _ _ _)

theorem insertMember_inOrder (hk : k ∉ ms.map Prod.fst) (v : α) (h : InOrder ms) :
    InOrder (insertMember k v ms) := by
  induction ms with
  | nil => exact List.pairwise_singleton _ _
  | cons m ms ih =>
    obtain ⟨n, w⟩ := m
    rw [List.map_cons, List.mem_cons, not_or] at hk
    obtain ⟨hfirst, hrest⟩ := List.pairwise_cons.mp h
    rw [insertMember, if_neg hk.1]
    split
    next hlt =>
      refine List.pairwise_cons.mpr ⟨fun m hm => ?_, h⟩
      rcases List.mem_cons.mp hm with rfl | hm
      · exact hlt
      · exact String.lt_trans hlt (hfirst m hm)
    next hlt =>
      refine List.pairwise_cons.mpr ⟨fun m hm => ?_, ih hk.2 hrest⟩
      rcases List.mem_cons.mp ((insertMember_perm hk.2 v).mem_iff.mp hm) with rfl | hm
      · exact lt_of_le_of_ne (not_lt.mp hlt) (Ne.symm hk.1)
      · exact hfirst m hm

/-- Members with distinct names are put in their order. -/
theorem foldl_insertMember (sorted : List (String × α)) (hs : InOrder sorted)
    (hnodup : ((ms ++ sorted).map Prod.fst).Nodup) :
    (ms.foldl (fun sorted m => insertMember m.1 m.2 sorted) sorted).Perm (ms ++ sorted) ∧
      InOrder (ms.foldl (fun sorted m => insertMember m.1 m.2 sorted) sorted) := by
  induction ms generalizing sorted with
  | nil => exact ⟨List.Perm.refl _, hs⟩
  | cons m ms ih =>
    obtain ⟨k, v⟩ := m
    rw [List.cons_append, List.map_cons, List.nodup_cons, List.map_append, List.mem_append,
      not_or] at hnodup
    have hinserted := insertMember_perm hnodup.1.2 v
    have hmiddle : (ms ++ insertMember k v sorted).Perm ((k, v) :: (ms ++ sorted)) :=
      (hinserted.append_left ms).trans List.perm_middle
    have hkeys : ((ms ++ insertMember k v sorted).map Prod.fst).Nodup := by
      rw [(hmiddle.map Prod.fst).nodup_iff, List.map_cons, List.nodup_cons, List.map_append,
        List.mem_append, not_or]
      exact ⟨hnodup.1, List.map_append ▸ hnodup.2⟩
    obtain ⟨hperm, horder⟩ := ih _ (insertMember_inOrder hnodup.1.2 v hs) hkeys
    exact ⟨hperm.trans hmiddle, horder⟩

theorem InOrder.nodup (h : InOrder ms) : (ms.map Prod.fst).Nodup :=
  List.pairwise_map.mpr (h.imp String.ne_of_lt)

/-- In whatever order the members of a map stand, sorting them gives the map. -/
theorem sortMembers_eq {ms' : List (String × α)} (h : InOrder ms') (hperm : ms.Perm ms') :
    sortMembers ms = ms' := by
  have hnodup : ((ms ++ []).map Prod.fst).Nodup := by
    rw [List.append_nil, (hperm.map Prod.fst).nodup_iff]
    exact h.nodup
  obtain ⟨hsorted, horder⟩ := foldl_insertMember [] List.Pairwise.nil hnodup
  rw [List.append_nil] at hsorted
  exact List.Perm.eq_of_pairwise
    (fun m m' _ _ hlt hgt => absurd hgt (String.lt_asymm hlt)) horder h (hsorted.trans hperm)

end Maps

/-- A map of strings is read with its members in order. -/
theorem map?_text (ms : List (String × String)) :
    (Syntax.object (ms.map fun m => (Literal.ofString m.1, .string (Literal.ofString m.2)))).map?
      Syntax.text? = some (sortMembers ms) := by
  have hmembers := mapM_map
    (f := fun (m : Literal × Syntax) => do
      let k ← Literal.text? m.1
      let v ← m.2.text?
      return (String.ofList k, v))
    (g := fun m => (Literal.ofString m.1, .string (Literal.ofString m.2))) (k := id) (l := ms)
    fun m _ => by
      simp only [Literal.text?_ofString, text?_ofString, Option.bind_eq_bind, Option.bind_some,
        String.ofList_toList]
      rfl
  rw [List.map_id] at hmembers
  rw [Syntax.map?, hmembers]
  rfl

end BrokerClient.Json
