import Mathlib.Data.List.TakeWhile
import Mathlib.Tactic.FinCases
import BrokerClient.Proofs.Text.Decimal
import BrokerClient.Proofs.Text.Percent
import BrokerClient.Uri.Basic

/-!
# Reading the parts of a URI

A part with every byte spelt out holds none of the characters that end parts, so each part is read
up to its end and kept as it is.
-/

namespace BrokerClient.Uri

open BrokerClient.Text

variable {cs : List Char}

/-- A point that is spelt out is still read as a point, and nothing else is. -/
theorem afterPoint?_encode_cons (c : Char) (cs : List Char) :
    afterPoint? (Percent.encode (c :: cs)) = if c = '.' then some (Percent.encode cs) else none := by
  by_cases hc : c = '.'
  · subst hc
    rfl
  · obtain ⟨b, r, hb, he⟩ := Percent.exists_encode_cons c cs
    -- The first byte of any other character is not that of a point.
    have hne : b.toNat ≠ 0x2E := by
      rcases Utf8.mem_encodeChar hb with hlarge | ⟨-, hsame⟩
      · omega
      · rw [hsame]
        exact fun hn => hc (Char.ext (UInt32.toNat.inj hn))
    -- Its digits are not those of a point, because they give the byte back.
    have hdigits : ∀ d < 16, ∀ e < 16, 16 * d + e ≠ 0x2E →
        ¬ (upperHexDigit d = '2' ∧ (upperHexDigit e = 'e' ∨ upperHexDigit e = 'E')) := by decide
    have hb := b.toNat_lt
    have hne' := hdigits (b.toNat / 16) (by omega) (b.toNat % 16) (by omega) (by omega)
    rw [he, if_neg hc]
    simp only [Percent.encodeByte, List.cons_append, List.nil_append]
    generalize upperHexDigit (b.toNat / 16) = x at hne' ⊢
    generalize upperHexDigit (b.toNat % 16) = y at hne' ⊢
    unfold afterPoint?
    split
    · next h => cases h
    · next h =>
      simp only [List.cons.injEq, true_and] at h
      exact absurd ⟨h.1, Or.inl h.2.1⟩ hne'
    · next h =>
      simp only [List.cons.injEq, true_and] at h
      exact absurd ⟨h.1, Or.inr h.2.1⟩ hne'
    · rfl

theorem isSingleDot_encode (cs : List Char) :
    isSingleDot (Percent.encode cs) = decide (cs = ['.']) := by
  cases cs with
  | nil => rfl
  | cons c cs =>
    rw [isSingleDot, afterPoint?_encode_cons]
    by_cases hc : c = '.'
    · cases cs <;> simp [hc, Percent.encode_eq_nil_iff]
    · simp [hc]

theorem isDoubleDot_encode (cs : List Char) :
    isDoubleDot (Percent.encode cs) = decide (cs = ['.', '.']) := by
  cases cs with
  | nil => rfl
  | cons c cs =>
    rw [isDoubleDot, afterPoint?_encode_cons]
    by_cases hc : c = '.'
    · have hrest : ((some (Percent.encode cs)).bind afterPoint? == some []) =
          isSingleDot (Percent.encode cs) := rfl
      rw [if_pos hc, hrest, isSingleDot_encode]
      simp [hc]
    · simp [hc]

/-- A path of one segment with every byte spelt out is kept, unless the segment is a dot segment. -/
theorem resolvePath_encode (hs : cs ≠ ['.']) (hd : cs ≠ ['.', '.']) :
    resolvePath (Percent.encode cs) = '/' :: Percent.encode cs := by
  have hslash : '/' ∉ Percent.encode cs := fun hm =>
    absurd (Percent.mem_marks_of_mem_encode hm) (by decide)
  have hkept : escapePath (Percent.encode cs) = Percent.encode cs :=
    Percent.encodeWhere_eq_self (Percent.eq_false_of_mem_encode rfl cs)
  have hsingle : isSingleDot (Percent.encode cs) = false := by
    rw [isSingleDot_encode, decide_eq_false hs]
  have hdouble : isDoubleDot (Percent.encode cs) = false := by
    rw [isDoubleDot_encode, decide_eq_false hd]
  have hsegments : splitSegments (Percent.encode cs) = [Percent.encode cs] :=
    List.splitOn_eq_singleton hslash
  have hresolved : resolveFrom [] [Percent.encode cs] = [Percent.encode cs] := by
    simp [resolveFrom, hsingle, hdouble]
  rw [resolvePath, hsegments, List.map_singleton, hkept, hresolved]
  exact List.append_nil _

theorem pathAfterAuthority_encode (hs : cs ≠ ['.']) (hd : cs ≠ ['.', '.']) :
    pathAfterAuthority ('/' :: Percent.encode cs) = '/' :: Percent.encode cs := by
  have hall : ∀ c ∈ '/' :: Percent.encode cs, (!endsPath c) = true := by
    refine List.forall_mem_cons.mpr ⟨rfl, fun c hc => ?_⟩
    rw [Percent.eq_false_of_mem_encode (p := endsPath) rfl cs c hc]
    rfl
  rw [pathAfterAuthority, List.takeWhile_eq_self_iff.mpr hall]
  exact resolvePath_encode hs hd

theorem splitLastAt_of_not_mem (h : '@' ∉ cs) : splitLastAt cs = none := by
  induction cs with
  | nil => rfl
  | cons c cs ih =>
    rw [List.mem_cons, not_or] at h
    obtain ⟨hc, hcs⟩ := h
    rw [splitLastAt, ih hcs]
    exact if_neg (Ne.symm hc)

/-- The last `@` is the one that none follows. -/
theorem splitLastAt_append (before : List Char) (h : '@' ∉ cs) :
    splitLastAt (before ++ '@' :: cs) = some (before, cs) := by
  induction before with
  | nil => rw [List.nil_append, splitLastAt, splitLastAt_of_not_mem h]; rfl
  | cons c before ih => rw [List.cons_append, splitLastAt, ih]

theorem escapeUser_encode (cs : List Char) :
    escapeUser (Percent.encode cs) = Percent.encode cs :=
  Percent.encodeWhere_eq_self (Percent.eq_false_of_mem_encode rfl cs)

theorem ne_colon_of_mem_encode (cs : List Char) :
    ∀ c ∈ Percent.encode cs, decide (c ≠ ':') = true := by
  intro c hc
  have hcolon := Percent.eq_false_of_mem_encode (p := (· == ':')) rfl cs c hc
  simpa using hcolon

theorem readUser_encode (name : List Char) :
    readUser (Percent.encode name) = ⟨Percent.encode name, none⟩ := by
  have hname := ne_colon_of_mem_encode name
  rw [readUser, List.takeWhile_eq_self_iff.mpr hname, List.dropWhile_eq_nil_iff.mpr hname,
    escapeUser_encode]

theorem readUser_encode_password (name : List Char) {password : List Char} (h : password ≠ []) :
    readUser (Percent.encode name ++ ':' :: Percent.encode password) =
      ⟨Percent.encode name, some (Percent.encode password)⟩ := by
  have hname := ne_colon_of_mem_encode name
  have hsome : (Percent.encode password).isEmpty = false := by
    rw [List.isEmpty_eq_false_iff, Ne, Percent.encode_eq_nil_iff]
    exact h
  rw [readUser, List.takeWhile_append_of_pos hname, List.dropWhile_append_of_pos hname]
  simp [escapeUser_encode, hsome]

/-- Characters of the host names that brokers have: small letters, digits, hyphens and points. -/
def isHostChar (c : Char) : Bool :=
  (97 ≤ c.toNat && c.toNat ≤ 122) || isDigit c || c = '-' || c = '.'

theorem isForbiddenInHost_of_isHostChar {c : Char} (h : isHostChar c = true) :
    isForbiddenInHost c = false := by
  refine Bool.eq_false_iff.mpr fun hf => ?_
  have hm := List.contains_iff_mem.mp hf
  fin_cases hm <;> cases h

theorem range_of_isHostChar {c : Char} (h : isHostChar c = true) :
    0x20 < c.toNat ∧ c.toNat ≤ 0x7E := by
  simp only [isHostChar, isDigit, Bool.or_eq_true, Bool.and_eq_true, decide_eq_true_eq] at h
  rcases h with ((h | h) | rfl) | rfl
  · omega
  · omega
  · decide
  · decide

def writePort : Option Nat → List Char
  | none => []
  | some n => ':' :: decimal n

/-- A host name ends where the text ends or a port stands. -/
theorem splitHost_append {host : List Char} (hh : ∀ c ∈ host, isHostChar c = true)
    (port : Option Nat) : splitHost false (host ++ writePort port) = (host, writePort port) := by
  induction host with
  | nil => cases port <;> rfl
  | cons c host ih =>
    have hf := isForbiddenInHost_of_isHostChar (hh c List.mem_cons_self)
    have hc : c ≠ ':' ∧ c ≠ '[' ∧ c ≠ ']' := by
      refine ⟨?_, ?_, ?_⟩ <;> (rintro rfl; cases hf)
    have hrest := ih fun c' hc' => hh c' (List.mem_cons_of_mem c hc')
    simp [splitHost, hc, hrest]

theorem readOpaqueHost_eq {host : List Char} (hh : ∀ c ∈ host, isHostChar c = true) :
    readOpaqueHost host = .ok host := by
  have hhead : host.head? ≠ some '[' := fun hf => by
    cases hh '[' (List.mem_of_mem_head? hf)
  have hforbidden : host.any isForbiddenInHost = false :=
    List.any_eq_false.mpr fun c hc => by
      rw [isForbiddenInHost_of_isHostChar (hh c hc)]
      exact Bool.false_ne_true
  have hkept : escapeControls host = host := by
    refine Percent.encodeWhere_eq_self fun c hc => ?_
    have hrange := range_of_isHostChar (hh c hc)
    simp [isControl]
    omega
  rw [readOpaqueHost, if_neg hhead, hforbidden, hkept]
  rfl

theorem readPort_decimal {n : Nat} (h : n ≤ maxPort) : readPort (decimal n) = .ok (some n, []) := by
  have hall : ∀ c ∈ decimal n, isDigit c = true := fun c => isDigit_of_mem_decimal
  have hsome : (decimal n).isEmpty = false := List.isEmpty_eq_false_iff.mpr (decimal_ne_nil n)
  rw [readPort, List.takeWhile_eq_self_iff.mpr hall, List.dropWhile_eq_nil_iff.mpr hall,
    decimalValue_decimal]
  simp [hsome, Nat.not_lt.mpr h]

theorem readOptionalPort_writePort {port : Option Nat} (h : ∀ n, port = some n → n ≤ maxPort) :
    readOptionalPort (writePort port) = .ok (port, []) := by
  cases port with
  | none => rfl
  | some n => exact readPort_decimal (h n rfl)

section Authority

variable {host : List Char} {port : Option Nat}

theorem at_not_mem_hostAndPort (hh : ∀ c ∈ host, isHostChar c = true) (port : Option Nat) :
    '@' ∉ host ++ writePort port := by
  rw [List.mem_append, not_or]
  constructor
  · intro hm
    cases hh '@' hm
  · intro hm
    cases port with
    | none => cases hm
    | some n =>
      rcases List.mem_cons.mp hm with he | hd
      · cases he
      · cases isDigit_of_mem_decimal hd

/-- A host and a port without a user. -/
theorem readAuthority_host (hne : host ≠ []) (hh : ∀ c ∈ host, isHostChar c = true)
    (hport : ∀ n, port = some n → n ≤ maxPort) (atEnd : Bool) :
    readAuthority false atEnd (host ++ writePort port) = .ok (⟨User.none, host, port⟩, []) := by
  have hsplit := splitLastAt_of_not_mem (at_not_mem_hostAndPort hh port)
  have hsome : host.isEmpty = false := List.isEmpty_eq_false_iff.mpr hne
  unfold readAuthority
  rw [hsplit]
  simp [splitHost_append hh, readOpaqueHost_eq hh, hsome, readOptionalPort_writePort hport,
    pure, Except.pure, bind, Except.bind]

/-- A host and a port behind a user. -/
theorem readAuthority_user {user : List Char} (hu : user ≠ []) (hne : host ≠ [])
    (hh : ∀ c ∈ host, isHostChar c = true) (hport : ∀ n, port = some n → n ≤ maxPort)
    (atEnd : Bool) :
    readAuthority false atEnd (user ++ '@' :: (host ++ writePort port)) =
      .ok (⟨readUser user, host, port⟩, []) := by
  have hsplit := splitLastAt_append user (at_not_mem_hostAndPort hh port)
  have hsome : host.isEmpty = false := List.isEmpty_eq_false_iff.mpr hne
  obtain ⟨c, u, rfl⟩ := List.exists_cons_of_ne_nil hu
  unfold readAuthority
  rw [hsplit]
  simp [splitHost_append hh, readOpaqueHost_eq hh, hsome, readOptionalPort_writePort hport,
    pure, Except.pure, bind, Except.bind]

end Authority

/-- A text of visible characters has nothing to be cleaned of. -/
theorem clean_eq_self (h : ∀ c ∈ cs, 0x20 < c.toNat) : clean cs = cs := by
  have hedge : ∀ ds : List Char, (∀ c ∈ ds, 0x20 < c.toNat) →
      ds.dropWhile (fun c => decide (c.toNat ≤ 0x20)) = ds := by
    intro ds hds
    cases ds with
    | nil => rfl
    | cons d ds =>
      have hd := hds d List.mem_cons_self
      exact List.dropWhile_cons_of_neg (by simpa using hd)
  have hkept : cs.filter (fun c => !(c = '\t' || c = '\n' || c = '\r')) = cs := by
    refine List.filter_eq_self.mpr fun c hc => ?_
    have hne : c ≠ '\t' ∧ c ≠ '\n' ∧ c ≠ '\r' := by
      refine ⟨?_, ?_, ?_⟩ <;> (rintro rfl; exact absurd (h _ hc) (by decide))
    simp [hne]
  have hreverse : ∀ c ∈ cs.reverse, 0x20 < c.toNat := fun c hc => h c (List.mem_reverse.mp hc)
  simp only [clean]
  rw [hedge cs h, hedge cs.reverse hreverse, List.reverse_reverse, hkept]

/-- The text of a URI with an authority, of a scheme that is not well known. -/
theorem parse_other {scheme : String} {authority path : List Char} {a : Authority}
    (hclean : ∀ c ∈ cs, 0x20 < c.toNat)
    (hscheme : splitScheme? cs = some (scheme, '/' :: '/' :: (authority ++ path)))
    (hkind : schemeKind scheme = .other)
    (hauthority : ∀ c ∈ authority, endsAuthority .other c = false)
    (hpath : path = [] ∨ ∃ r, path = '/' :: r)
    (hread : ∀ atEnd, readAuthority false atEnd authority = .ok (a, [])) :
    parse cs = .ok ⟨scheme, a.user, a.host, a.port, pathAfterAuthority path⟩ := by
  have hends : ∀ c ∈ authority, (!endsAuthority .other c) = true := fun c hc => by
    rw [hauthority c hc]
    rfl
  have hstop : path.takeWhile (fun c => !endsAuthority .other c) = [] ∧
      path.dropWhile (fun c => !endsAuthority .other c) = path := by
    rcases hpath with rfl | ⟨r, rfl⟩
    · exact ⟨rfl, rfl⟩
    · exact ⟨rfl, rfl⟩
  simp only [parse, clean_eq_self hclean, hscheme, hkind, readWithAuthority]
  rw [List.takeWhile_append_of_pos hends, List.dropWhile_append_of_pos hends, hstop.1, hstop.2,
    List.append_nil]
  simp [hread, bind, Except.bind, pure, Except.pure]

end BrokerClient.Uri
