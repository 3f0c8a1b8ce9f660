import BrokerClient.Table

/-!
# Look-ups in changed tables

What a table reads as once a row was added or changed. A row that is not there reads as the
default, so a change that keeps the default can be described without asking whether the row exists.
-/

namespace BrokerClient.Table

variable {κ α : Type} [DecidableEq κ]

theorem has_iff {t : Table κ α} {k : κ} : t.has k = true ↔ k ∈ t.keys := decide_eq_true_iff

theorem has_eq_false_iff {t : Table κ α} {k : κ} : t.has k = false ↔ k ∉ t.keys :=
  decide_eq_false_iff_not

theorem has_eq_isSome (t : Table κ α) (k : κ) : t.has k = (t.get? k).isSome := by
  rw [Bool.eq_iff_iff, has_iff, Option.isSome_iff_ne_none, Ne, get?_eq_none_iff, Classical.not_not]

theorem has_congr {t t' : Table κ α} (h : t.keys = t'.keys) (k : κ) : t.has k = t'.has k := by
  rw [has, has, h]

/-- A key in use is not an unused one. -/
theorem ne_of_has {t : Table κ α} {k k' : κ} (h : t.has k = true) (h' : t.has k' = false) :
    k ≠ k' := by
  intro he
  rw [he, h'] at h
  cases h

theorem keys_insert {t : Table κ α} {k : κ} (h : t.has k = false) (a : α) :
    (t.insert k a).keys = t.keys ++ [k] := by
  have hk : k ∉ t.keys := has_eq_false_iff.mp h
  unfold insert
  rw [dif_neg hk]
  simp [keys]

theorem has_insert {t : Table κ α} {k : κ} (h : t.has k = false) (a : α) (k' : κ) :
    (t.insert k a).has k' = true ↔ t.has k' = true ∨ k' = k := by
  rw [has_iff, has_iff, keys_insert h, List.mem_append, List.mem_singleton]

/-- What tells the rows of a table apart and the new row from them tells all of them apart. -/
theorem inj_insert {β : Type} {t : Table κ α} {k : κ} {f : κ → β}
    (hold : ∀ k₁ k₂, t.has k₁ = true → t.has k₂ = true → f k₁ = f k₂ → k₁ = k₂)
    (hnew : ∀ k', t.has k' = true → f k' ≠ f k) {k₁ k₂ : κ} (h₁ : t.has k₁ = true ∨ k₁ = k)
    (h₂ : t.has k₂ = true ∨ k₂ = k) (he : f k₁ = f k₂) : k₁ = k₂ := by
  rcases h₁ with h₁ | rfl <;> rcases h₂ with h₂ | rfl
  · exact hold k₁ k₂ h₁ h₂ he
  · exact absurd he (hnew k₁ h₁)
  · exact absurd he.symm (hnew k₂ h₂)
  · rfl

/-- There is only one row of a key. -/
theorem insert_of_has {t : Table κ α} {k : κ} (h : t.has k = true) (a : α) : t.insert k a = t := by
  unfold insert
  exact dif_pos (has_iff.mp h)

/-- Adding a row takes none away, not even when its key is taken. -/
theorem has_insert_of_has {t : Table κ α} {k' : κ} (h : t.has k' = true) (k : κ) (a : α) :
    (t.insert k a).has k' = true := by
  cases hk : t.has k with
  | false => exact (has_insert hk a k').mpr (Or.inl h)
  | true =>
    rw [insert_of_has hk]
    exact h

theorem get?_insert_eq (t : Table κ α) (k : κ) (a : α) (k' : κ) :
    (t.insert k a).get? k' = if k' = k then some ((t.get? k').getD a) else t.get? k' := by
  by_cases hm : k ∈ t.keys
  · rw [insert_of_has (has_iff.mpr hm)]
    split
    · next he =>
      obtain ⟨b, hb⟩ := Option.ne_none_iff_exists'.mp fun hn => (get?_eq_none_iff t k).mp hn hm
      rw [he, hb]
      rfl
    · rfl
  · rw [get?_insert t k k' a hm]
    split
    · next he => rw [he, (get?_eq_none_iff t k).mpr hm, Option.getD_none]
    · rfl

/-- A row is there after an insertion if it was there before or was added. -/
theorem has_insert_eq (t : Table κ α) (k : κ) (a : α) (k' : κ) :
    (t.insert k a).has k' = (decide (k' = k) || t.has k') := by
  rw [has_eq_isSome, has_eq_isSome, get?_insert_eq]
  by_cases he : k' = k
  · rw [if_pos he, decide_eq_true he, Bool.true_or, Option.isSome_some]
  · rw [if_neg he, decide_eq_false he, Bool.false_or]

@[simp] theorem has_modify (t : Table κ α) (k : κ) (f : α → α) (k' : κ) :
    (t.modify k f).has k' = t.has k' := by
  simp only [has, keys_modify]

theorem erase_of_not_has {t : Table κ α} {k : κ} (h : t.has k = false) : t.erase k = t := by
  have hk : k ∉ t.keys := has_eq_false_iff.mp h
  have hrows : (t.erase k).rows = t.rows := by
    refine List.filter_eq_self.mpr fun r hr => decide_eq_true fun he => hk ?_
    rw [← he]
    exact List.mem_map_of_mem hr
  cases t
  exact (mk.injEq _ _ _ _).mpr hrows

theorem modify_of_not_has {t : Table κ α} {k : κ} (h : t.has k = false) (f : α → α) :
    t.modify k f = t := by
  have hk : k ∉ t.keys := has_eq_false_iff.mp h
  have hrows : (t.modify k f).rows = t.rows := by
    refine (List.map_congr_left fun r hr => ?_).trans (List.map_id t.rows)
    have hne : r.1 ≠ k := fun he => hk (he ▸ List.mem_map_of_mem hr)
    exact if_neg hne
  cases t
  exact (mk.injEq _ _ _ _).mpr hrows

/-- Keys are distinct, so a look-up finds every row. -/
theorem get?_of_mem {t : Table κ α} {r : κ × α} (h : r ∈ t.rows) : t.get? r.1 = some r.2 := by
  obtain ⟨rows, nodup⟩ := t
  simp only [get?] at h ⊢
  induction rows with
  | nil => cases h
  | cons r₀ rs ih =>
    obtain ⟨hn, hrs⟩ := List.nodup_cons.mp nodup
    rw [List.lookup_cons]
    rcases List.mem_cons.mp h with rfl | hm
    · rw [beq_self_eq_true]
    · have hne : r.1 ≠ r₀.1 := fun he => hn (he ▸ List.mem_map_of_mem hm)
      rw [beq_false_of_ne hne]
      exact ih hrs hm

theorem modify_modify (t : Table κ α) (k : κ) (f g : α → α) :
    (t.modify k f).modify k g = t.modify k fun a => g (f a) := by
  have h : ∀ r : κ × α, (if (if r.1 = k then (r.1, f r.2) else r).1 = k then
      ((if r.1 = k then (r.1, f r.2) else r).1, g (if r.1 = k then (r.1, f r.2) else r).2)
      else if r.1 = k then (r.1, f r.2) else r) = if r.1 = k then (r.1, g (f r.2)) else r := by
    intro r
    by_cases hr : r.1 = k <;> simp [hr]
  simp only [modify, List.map_map, Function.comp_def, h]

section Values

variable [Inhabited α]

theorem get_of_not_has {t : Table κ α} {k : κ} (h : t.has k = false) : t.get k = default := by
  rw [get, (get?_eq_none_iff t k).mpr (has_eq_false_iff.mp h), Option.getD_none]

/-- What differs from the default is there. -/
theorem has_of_get_ne {t : Table κ α} {k : κ} (h : t.get k ≠ default) : t.has k = true := by
  cases hk : t.has k with
  | true => rfl
  | false => exact absurd (get_of_not_has hk) h

theorem get_insert {t : Table κ α} {k : κ} (h : t.has k = false) (a : α) (k' : κ) :
    (t.insert k a).get k' = if k' = k then a else t.get k' := by
  rw [get, get?_insert t k k' a (has_eq_false_iff.mp h)]
  by_cases hk : k' = k
  · rw [if_pos hk, if_pos hk, Option.getD_some]
  · rw [if_neg hk, if_neg hk, get]

/-- Adding the default changes no look-up. -/
theorem get_insert_default (t : Table κ α) (k k' : κ) :
    (t.insert k default).get k' = t.get k' := by
  cases h : t.has k with
  | false =>
    rw [get_insert h]
    split
    · next hk => rw [hk, get_of_not_has h]
    · rfl
  | true =>
    have hm : k ∈ t.keys := has_iff.mp h
    simp [insert, hm]

theorem get_modify {t : Table κ α} {k : κ} {f : α → α} (h : t.has k = false → f default = default)
    (k' : κ) : (t.modify k f).get k' = if k' = k then f (t.get k) else t.get k' := by
  rw [get, get?_modify]
  by_cases hk : k' = k
  · rw [if_pos hk, if_pos hk, hk, get]
    cases hg : t.get? k with
    | some a => rfl
    | none => exact (h (has_eq_false_iff.mpr ((get?_eq_none_iff t k).mp hg))).symm
  · rw [if_neg hk, if_neg hk, get]

theorem get_modify_of_has {t : Table κ α} {k : κ} (h : t.has k = true) (f : α → α) (k' : κ) :
    (t.modify k f).get k' = if k' = k then f (t.get k) else t.get k' :=
  get_modify (fun hn => absurd (hn.symm.trans h) Bool.false_ne_true) k'

/-- Only what a change makes of the one row matters. -/
theorem modify_congr {t : Table κ α} {k : κ} {f g : α → α} (h : f (t.get k) = g (t.get k)) :
    t.modify k f = t.modify k g := by
  have hr : ∀ r ∈ t.rows,
      (if r.1 = k then (r.1, f r.2) else r) = if r.1 = k then (r.1, g r.2) else r := by
    intro r hm
    by_cases hk : r.1 = k
    · have hg : t.get k = r.2 := by
        rw [get, ← hk, get?_of_mem hm, Option.getD_some]
      rw [if_pos hk, if_pos hk, ← hg, h]
    · rw [if_neg hk, if_neg hk]
  simp only [modify, mk.injEq]
  exact List.map_congr_left hr

/-- A change that has no effect on the row leaves the whole table. -/
theorem modify_eq_self {t : Table κ α} {k : κ} {f : α → α} (h : f (t.get k) = t.get k) :
    t.modify k f = t := by
  have hid : t.modify k id = t := by
    obtain ⟨rows, nodup⟩ := t
    simp [modify]
  exact (modify_congr h).trans hid

/-- A table is its keys and what it reads as. -/
theorem rows_eq (t : Table κ α) : t.rows = t.keys.map fun k => (k, t.get k) := by
  have hrow : ∀ r ∈ t.rows, (r.1, t.get r.1) = r := by
    intro r hr
    rw [get, get?_of_mem hr, Option.getD_some]
  rw [keys, List.map_map]
  exact (List.map_id t.rows).symm.trans (List.map_congr_left fun r hr => (hrow r hr).symm)

theorem ext_get {t t' : Table κ α} (hk : t.keys = t'.keys) (hg : ∀ k, t.get k = t'.get k) :
    t = t' := by
  have hrows : t.rows = t'.rows := by
    rw [t.rows_eq, t'.rows_eq, hk]
    simp only [hg]
  cases t
  cases t'
  exact (mk.injEq _ _ _ _).mpr hrows

theorem get_modify_of_ne (t : Table κ α) {k k' : κ} (h : k' ≠ k) (f : α → α) :
    (t.modify k f).get k' = t.get k' := by
  rw [get, get?_modify, if_neg h, get]

/-- A changed row is the change of what it was, if it was there. -/
theorem get_modify_cases (t : Table κ α) (k : κ) (f : α → α) (k' : κ) :
    (t.modify k f).get k' = t.get k' ∨ k' = k ∧ (t.modify k f).get k' = f (t.get k') := by
  by_cases hk : k' = k
  · cases h : t.has k with
    | true => exact Or.inr ⟨hk, by rw [get_modify_of_has h, if_pos hk, hk]⟩
    | false =>
      have hn : (t.modify k f).has k' = false := by rw [has_modify, hk, h]
      exact Or.inl ((get_of_not_has hn).trans (get_of_not_has (hk ▸ h)).symm)
  · exact Or.inl (get_modify_of_ne t hk f)

/-- A change that keeps some of every row keeps it in the table. -/
theorem proj_modify {β : Type} (t : Table κ α) (k : κ) {f : α → α} {p : α → β}
    (hf : ∀ a, p (f a) = p a) (k' : κ) : p ((t.modify k f).get k') = p (t.get k') := by
  rcases t.get_modify_cases k f k' with h | ⟨-, h⟩
  · rw [h]
  · rw [h, hf]

end Values

/-- The tables have the same rows under some of the keys, in whatever order. -/
def Agree (p : κ → Bool) (t t' : Table κ α) : Prop := ∀ k, p k = true → t'.get? k = t.get? k

theorem get?_eq [Inhabited α] (t : Table κ α) (k : κ) :
    t.get? k = if t.has k then some (t.get k) else none := by
  rw [has_eq_isSome, get]
  cases t.get? k <;> rfl

namespace Agree

variable {p : κ → Bool} {t t' t'' : Table κ α}

theorem refl (p : κ → Bool) (t : Table κ α) : Agree p t t := fun _ _ => rfl

theorem symm (h : Agree p t t') : Agree p t' t := fun k hk => (h k hk).symm

theorem trans (h : Agree p t t') (h' : Agree p t' t'') : Agree p t t'' := fun k hk =>
  (h' k hk).trans (h k hk)

theorem has (h : Agree p t t') {k : κ} (hk : p k = true) : t'.has k = t.has k := by
  rw [has_eq_isSome, has_eq_isSome, h k hk]

theorem get [Inhabited α] (h : Agree p t t') {k : κ} (hk : p k = true) : t'.get k = t.get k := by
  rw [Table.get, Table.get, h k hk]

theorem of_get [Inhabited α] (hh : ∀ k, p k = true → t'.has k = t.has k)
    (hg : ∀ k, p k = true → t'.get k = t.get k) : Agree p t t' := by
  intro k hk
  rw [get?_eq, get?_eq, hh k hk, hg k hk]

/-- Tables agree if they have the keys of tables that do and their look-ups agree. -/
theorem of_keys [Inhabited α] {u u' : Table κ α} (h : Agree p t t') (hk : u.keys = t.keys)
    (hk' : u'.keys = t'.keys) (hg : ∀ k, p k = true → u'.get k = u.get k) : Agree p u u' := by
  refine of_get (fun k hp => ?_) hg
  rw [has_congr hk', has_congr hk, h.has hp]

/-- Tables that agree do so after the same change of both. -/
theorem modify (h : Agree p t t') (k : κ) (f : α → α) :
    Agree p (t.modify k f) (t'.modify k f) := by
  intro k' hk'
  rw [get?_modify, get?_modify]
  split
  · rw [h k' hk']
  · exact h k' hk'

theorem insert (h : Agree p t t') (k : κ) (a : α) : Agree p (t.insert k a) (t'.insert k a) := by
  intro k' hk'
  rw [get?_insert_eq, get?_insert_eq, h k' hk']

/-- A change of a row elsewhere makes no difference. -/
theorem of_modify {k : κ} (hk : p k = false) (t : Table κ α) (f : α → α) :
    Agree p t (t.modify k f) := by
  intro k' hk'
  rw [get?_modify, if_neg]
  rintro rfl
  exact Bool.false_ne_true (hk.symm.trans hk')

theorem of_insert {k : κ} (hk : p k = false) (t : Table κ α) (a : α) :
    Agree p t (t.insert k a) := by
  intro k' hk'
  rw [get?_insert_eq, if_neg]
  rintro rfl
  exact Bool.false_ne_true (hk.symm.trans hk')

end Agree

end BrokerClient.Table
