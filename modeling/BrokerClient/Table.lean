/-!
# Tables

Rows under distinct keys, in the order in which they were added. A row that is not there reads as
the default of its type, and changing it changes nothing.
-/

namespace BrokerClient

/-- A finite map that remembers the order of its rows. -/
structure Table (κ α : Type) where
  rows : List (κ × α)
  nodup : (rows.map Prod.fst).Nodup
  deriving DecidableEq, Repr

namespace Table

variable {κ α : Type}

def empty : Table κ α := ⟨[], .nil⟩
def keys (t : Table κ α) : List κ := t.rows.map Prod.fst
def values (t : Table κ α) : List α := t.rows.map Prod.snd
def size (t : Table κ α) : Nat := t.rows.length

variable [DecidableEq κ]

def get? (t : Table κ α) (k : κ) : Option α := t.rows.lookup k
def get [Inhabited α] (t : Table κ α) (k : κ) : α := (t.get? k).getD default
def has (t : Table κ α) (k : κ) : Bool := decide (k ∈ t.keys)

/-- Adds a row at the end, unless the key is taken. -/
def insert (t : Table κ α) (k : κ) (a : α) : Table κ α :=
  if h : k ∈ t.keys then t
  else
    ⟨t.rows ++ [(k, a)], by
      rw [List.map_append, List.nodup_append]
      refine ⟨t.nodup, by simp, ?_⟩
      intro x hx y hy hxy
      simp only [List.map_cons, List.map_nil, List.mem_singleton] at hy
      exact h (by rw [← hy, ← hxy]; exact hx)⟩

/-- Changes the value under a key, if there is one. -/
def modify (t : Table κ α) (k : κ) (f : α → α) : Table κ α :=
  ⟨t.rows.map fun r => if r.1 = k then (r.1, f r.2) else r, by
    have h : (Prod.fst ∘ fun r : κ × α => if r.1 = k then (r.1, f r.2) else r) = Prod.fst := by
      funext r
      by_cases hr : r.1 = k <;> simp [hr]
    rw [List.map_map, h]
    exact t.nodup⟩

/-- Takes out the row under a key. -/
def erase (t : Table κ α) (k : κ) : Table κ α :=
  ⟨t.rows.filter fun r => r.1 ≠ k, t.nodup.sublist (List.filter_sublist.map _)⟩

@[simp] theorem get?_empty (k : κ) : (empty : Table κ α).get? k = none := rfl

theorem keys_modify (t : Table κ α) (k : κ) (f : α → α) : (t.modify k f).keys = t.keys := by
  unfold keys modify
  rw [List.map_map]
  congr 1
  funext r
  by_cases hr : r.1 = k <;> simp [hr]

theorem get?_modify (t : Table κ α) (k k' : κ) (f : α → α) :
    (t.modify k f).get? k' = if k' = k then (t.get? k').map f else t.get? k' := by
  obtain ⟨rows, nodup⟩ := t
  simp only [get?, modify]
  clear nodup
  induction rows with
  | nil => simp
  | cons r rs ih =>
    obtain ⟨k₀, a⟩ := r
    rw [List.map_cons]
    by_cases h : k' = k₀
    · subst h
      by_cases h₀ : k' = k <;> simp [h₀]
    · have hb : (k' == k₀) = false := beq_false_of_ne h
      have hf : (if k₀ = k then (k₀, f a) else (k₀, a)).1 = k₀ := by split <;> rfl
      rw [List.lookup_cons, hf, hb, List.lookup_cons, hb]
      exact ih

theorem get?_eq_none_iff (t : Table κ α) (k : κ) : t.get? k = none ↔ k ∉ t.keys := by
  obtain ⟨rows, nodup⟩ := t
  simp only [get?, keys]
  clear nodup
  induction rows with
  | nil => simp
  | cons r rs ih =>
    by_cases h : k = r.1
    · simp [h]
    · rw [List.lookup_cons, beq_false_of_ne h, List.map_cons, List.mem_cons]
      simp only [h, false_or]
      exact ih

theorem get?_insert (t : Table κ α) (k k' : κ) (a : α) (h : k ∉ t.keys) :
    (t.insert k a).get? k' = if k' = k then some a else t.get? k' := by
  simp only [insert, h, dite_false, get?, List.lookup_append, List.lookup_cons, List.lookup_nil]
  by_cases hk : k' = k
  · subst hk
    have hn : t.rows.lookup k' = none := (t.get?_eq_none_iff k').2 h
    simp [hn]
  · simp [hk, beq_false_of_ne hk]

theorem get?_erase (t : Table κ α) (k k' : κ) :
    (t.erase k).get? k' = if k' = k then none else t.get? k' := by
  obtain ⟨rows, nodup⟩ := t
  simp only [get?, erase]
  clear nodup
  induction rows with
  | nil => simp
  | cons r rs ih =>
    by_cases h₀ : r.1 = k
    · rw [List.filter_cons_of_neg (by simp [h₀]), ih]
      by_cases h : k' = k
      · simp [h]
      · have hb : (k' == r.1) = false := beq_false_of_ne (by rw [h₀]; exact h)
        rw [if_neg h, if_neg h, List.lookup_cons, hb]
    · rw [List.filter_cons_of_pos (by simp [h₀]), List.lookup_cons, ih, List.lookup_cons]
      by_cases h : k' = k
      · have hb : (k' == r.1) = false := beq_false_of_ne (by rw [h]; exact Ne.symm h₀)
        simp [h, h ▸ hb]
      · simp only [h, if_false]

end Table

end BrokerClient
