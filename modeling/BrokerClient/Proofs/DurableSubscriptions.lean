import BrokerClient.DurableSubscriptions
import BrokerClient.Proofs.Table

/-!
# Bindings

What binding and removing names does to look-ups in durable subscriptions.
-/

namespace BrokerClient

namespace DurableSubscriptions

variable {d d' : DurableSubscriptions} {isOpen : ConsumerId → Bool} {name : String}
  {k holder : ConsumerId}

theorem active?_eq_some : d.active? isOpen name = some k ↔
    d.get? name = some k ∧ isOpen k = true := by
  rw [active?, Option.filter_eq_some_iff]

/-- An open consumer keeps its name. -/
theorem bind_of_active (h : d.active? isOpen name = some holder) :
    d.bind isOpen name k = .refused holder := by
  obtain ⟨hg, ho⟩ := active?_eq_some.mp h
  simp only [bind, hg]
  rw [if_pos ho]

/-- A name that no open consumer has can be bound. -/
theorem bind_of_inactive (h : d.active? isOpen name = none) :
    ∃ d', d.bind isOpen name k = .bound d' ∨ d.bind isOpen name k = .rebound d' := by
  cases hg : d.get? name with
  | none => exact ⟨⟨d.bindings.insert name k⟩, Or.inl (by simp only [bind, hg])⟩
  | some holder =>
    have ho : isOpen holder = false := by
      cases ho : isOpen holder with
      | false => rfl
      | true =>
        rw [active?_eq_some.mpr ⟨hg, ho⟩] at h
        cases h
    refine ⟨⟨d.bindings.modify name fun _ => k⟩, Or.inr ?_⟩
    simp only [bind, hg]
    rw [if_neg (Bool.eq_false_iff.mp ho)]

/-- Binding gives a name to a consumer and takes it from a closed one at most. -/
theorem get?_bind (h : d.bind isOpen name k = .bound d' ∨ d.bind isOpen name k = .rebound d') :
    (∀ n, d'.get? n = if n = name then some k else d.get? n) ∧
      ∀ holder, d.get? name = some holder → isOpen holder = false := by
  unfold bind at h
  cases hg : d.get? name with
  | none =>
    rw [hg] at h
    rcases h with h | h
    · cases h
      refine ⟨fun n => ?_, fun holder hh => absurd hh nofun⟩
      exact Table.get?_insert _ _ _ _ ((Table.get?_eq_none_iff _ _).mp hg)
    · cases h
  | some holder =>
    rw [hg] at h
    dsimp only at h
    split at h
    · rcases h with h | h <;> cases h
    · next hn =>
      rcases h with h | h
      · cases h
      · cases h
        refine ⟨fun n => ?_, fun holder' hh => ?_⟩
        · refine (Table.get?_modify _ _ _ _).trans ?_
          split
          · next he =>
            rw [he]
            exact congrArg (Option.map fun _ => k) hg
          · rfl
        · cases hh
          exact Bool.eq_false_iff.mpr hn

/-- Only the holder of the name is asked whether it is open. -/
theorem active?_congr {isOpen' : ConsumerId → Bool}
    (h : ∀ holder, d.get? name = some holder → isOpen' holder = isOpen holder) :
    d.active? isOpen' name = d.active? isOpen name := by
  unfold active?
  cases hg : d.get? name with
  | none => rfl
  | some holder => rw [Option.filter_some, Option.filter_some, h holder hg]

theorem bind_congr {isOpen' : ConsumerId → Bool}
    (h : ∀ holder, d.get? name = some holder → isOpen' holder = isOpen holder) :
    d.bind isOpen' name k = d.bind isOpen name k := by
  unfold bind
  cases hg : d.get? name with
  | none => rfl
  | some holder => simp only [h holder hg]

theorem get?_remove (d : DurableSubscriptions) (name n : String) :
    (d.remove name).get? n = if n = name then none else d.get? n :=
  Table.get?_erase d.bindings name n

theorem contains_eq_isSome (d : DurableSubscriptions) (name : String) :
    d.contains name = (d.get? name).isSome :=
  d.bindings.has_eq_isSome name

theorem contains_bind (h : d.bind isOpen name k = .bound d' ∨ d.bind isOpen name k = .rebound d')
    (n : String) : d'.contains n = (n == name || d.contains n) := by
  rw [contains_eq_isSome, contains_eq_isSome, (get?_bind h).1]
  by_cases hn : n = name
  · simp [hn]
  · simp [hn]

theorem contains_remove (d : DurableSubscriptions) (name n : String) :
    (d.remove name).contains n = (n != name && d.contains n) := by
  rw [contains_eq_isSome, contains_eq_isSome, get?_remove]
  by_cases hn : n = name
  · simp [hn]
  · simp [hn]

end DurableSubscriptions

end BrokerClient
