import BrokerClient.Proofs.Uri.Parts
import BrokerClient.Text.Blank

/-!
# What a URI is read as

Whatever the text, a port that was read fits into 16 bits, and the host of a scheme that is not well
known is either empty or holds a character that is no blank: blanks are forbidden in it or are spelt
out.
-/

namespace BrokerClient

/-- A sequence of two computations succeeds through a result of the first. -/
theorem bind_eq_ok_iff {ε α β : Type} {x : Except ε α} {f : α → Except ε β} {b : β} :
    x >>= f = .ok b ↔ ∃ a, x = .ok a ∧ f a = .ok b := by
  constructor
  · intro h
    cases x with
    | error e => cases h
    | ok a => exact ⟨a, rfl, h⟩
  · rintro ⟨a, rfl, h⟩
    exact h

/-- A computation behind a check succeeds only through the check. -/
theorem of_check {ε β : Type} {bad : Bool} {e : ε} {f : PUnit → Except ε β} {b : β}
    (h : (if bad then throw e >>= f else f ()) = .ok b) : f () = .ok b := by
  cases bad with
  | false => exact h
  | true => cases h

namespace Uri

open BrokerClient.Text

variable {cs rest host : List Char} {port : Option Nat} {a : Authority}

theorem readPort_le (h : readPort cs = .ok (port, rest)) : ∀ n ∈ port, n ≤ maxPort := by
  simp only [readPort] at h
  split at h
  · cases h
  · next hle =>
    split at h
    · cases h
    · intro n hn
      obtain ⟨rfl, -⟩ := Prod.mk.inj (Except.ok.inj h)
      split at hn
      · cases hn
      · cases hn
        exact Nat.le_of_not_lt hle

theorem readOptionalPort_le (h : readOptionalPort cs = .ok (port, rest)) :
    ∀ n ∈ port, n ≤ maxPort := by
  unfold readOptionalPort at h
  split at h
  · exact readPort_le h
  · obtain ⟨rfl, -⟩ := Prod.mk.inj (Except.ok.inj h)
    exact nofun

/-- A host that is not made up of blanks: it is empty or holds another character. -/
def IsSeen (host : List Char) : Prop :=
  host = [] ∨ ∃ c ∈ host, isBlank c = false

/-- What a host keeps as it is, is no blank, and what is spelt out is not either. -/
theorem isBlank_of_mem_escapeControls (hcs : cs.any isForbiddenInHost = false) {c : Char}
    (hc : c ∈ escapeControls cs) : isBlank c = false := by
  obtain ⟨x, hx, hc⟩ := List.mem_flatMap.mp hc
  split at hc
  · obtain ⟨b, -, hb⟩ := List.mem_flatMap.mp hc
    have hmarks : Percent.marks.any isBlank = false := by decide
    exact Bool.eq_false_iff.mpr
      (List.any_eq_false.mp hmarks c (Percent.mem_marks_of_mem_encodeByte hb))
  · next hcontrol =>
    obtain rfl := List.mem_singleton.mp hc
    have hspace : c.toNat ≠ 0x20 := by
      intro he
      obtain rfl : c = ' ' := Char.ext (UInt32.toNat.inj he)
      exact absurd rfl (List.any_eq_false.mp hcs ' ' hx)
    simp only [isControl, Bool.or_eq_true, decide_eq_true_eq, not_or, Nat.not_lt] at hcontrol
    simp [isBlank]
    omega

theorem readOpaqueHost_isSeen (h : readOpaqueHost cs = .ok host) : IsSeen host := by
  unfold readOpaqueHost at h
  split at h
  · -- An address in brackets starts with a bracket.
    unfold readBracketed at h
    split at h
    · split at h
      · split at h
        · cases h
          exact Or.inr ⟨'[', List.mem_cons_self, by decide⟩
        · cases h
      · cases h
    · cases h
  split at h
  · cases h
  · next hforbidden =>
    obtain rfl := Except.ok.inj h
    cases hhost : escapeControls cs with
    | nil => exact Or.inl rfl
    | cons c r =>
      have hc : c ∈ escapeControls cs := hhost ▸ List.mem_cons_self
      have hblank := isBlank_of_mem_escapeControls (Bool.eq_false_iff.mpr hforbidden) hc
      exact Or.inr ⟨c, List.mem_cons_self, hblank⟩

/-- Host and port of an authority come from the readers of hosts and of ports. -/
theorem readAuthority_cases {atEnd : Bool} (h : readAuthority false atEnd cs = .ok (a, rest)) :
    ∃ hostText after, readOpaqueHost hostText = .ok a.host ∧
      readOptionalPort after = .ok (a.port, rest) := by
  unfold readAuthority at h
  extract_lets behindUser at h
  -- Whichever user was read, the rest of the authority is read behind it.
  obtain ⟨start, h⟩ : ∃ start, behindUser start = .ok (a, rest) := by
    split at h
    · exact ⟨(User.none, cs), h⟩
    · next r _ => exact ⟨(User.none, r), of_check h⟩
    · next u r _ _ => exact ⟨(readUser u, r), h⟩
  obtain ⟨host, hhost, h⟩ := bind_eq_ok_iff.mp (of_check h)
  obtain ⟨⟨port, after⟩, hport, h⟩ := bind_eq_ok_iff.mp (of_check h)
  obtain ⟨rfl, rfl⟩ := Prod.mk.inj (Except.ok.inj (of_check h))
  exact ⟨_, _, hhost, hport⟩

theorem readWithAuthority_cases {scheme : String} {kind : SchemeKind} {uri : Uri}
    (h : readWithAuthority scheme kind cs = .ok uri) :
    uri.scheme = scheme ∧
      (kind = .other → IsSeen uri.host ∧ ∀ n ∈ uri.port, n ≤ maxPort) := by
  obtain ⟨⟨a, extra⟩, hread, h⟩ := bind_eq_ok_iff.mp h
  obtain rfl := Except.ok.inj h
  refine ⟨rfl, ?_⟩
  rintro rfl
  obtain ⟨_, _, hhost, hport⟩ := readAuthority_cases hread
  exact ⟨readOpaqueHost_isSeen hhost, readOptionalPort_le hport⟩

theorem scheme_of_readFile {scheme : String} {uri : Uri} (h : readFile scheme cs = .ok uri) :
    uri.scheme = scheme := by
  unfold readFile at h
  extract_lets behindHost at h
  obtain ⟨start, h⟩ : ∃ start, behindHost start = .ok uri := by
    split at h
    · exact ⟨([], cs), h⟩
    · extract_lets host at h
      split at h
      · next r _ _ => exact ⟨([], r), h⟩
      · obtain ⟨name, -, h⟩ := bind_eq_ok_iff.mp h
        exact ⟨(name, _), h⟩
  obtain rfl := Except.ok.inj h
  rfl

/-- The URI of a scheme that is not well known has a host that is not blank and a port of 16 bits.
-/
theorem parse_other_cases {uri : Uri} (hparse : parse cs = .ok uri)
    (hkind : schemeKind uri.scheme = .other) :
    IsSeen uri.host ∧ ∀ n ∈ uri.port, n ≤ maxPort := by
  unfold parse at hparse
  split at hparse
  · cases hparse
  split at hparse
  · next hwell =>
    rw [(readWithAuthority_cases hparse).1, hwell] at hkind
    cases hkind
  · next hfile =>
    rw [scheme_of_readFile hparse, hfile] at hkind
    cases hkind
  split at hparse
  · exact (readWithAuthority_cases hparse).2 rfl
  · obtain rfl := Except.ok.inj hparse
    exact ⟨Or.inl rfl, nofun⟩

end Uri

end BrokerClient
