import BrokerClient.Error

/-!
# Errors as they are observed

Two errors are the same exactly if nobody can tell them apart by variant, by text and, for transport
errors, by the kind of the I/O error. That the whole texts agree is as much as that the words in
them do, because the rest of a text is fixed by the variant.
-/

namespace BrokerClient.MessagingError

/-- What sort of call an error comes from. -/
inductive Variant where
  | illegalState | invalidClientId | unsupported | transport | invalidDestination | untrustedPayload
  | serialization | config
  deriving DecidableEq, Repr

def variant : MessagingError → Variant
  | .illegalState _ => .illegalState
  | .invalidClientId _ => .invalidClientId
  | .unsupported _ => .unsupported
  | .transport _ => .transport
  | .invalidDestination _ => .invalidDestination
  | .untrustedPayload _ => .untrustedPayload
  | .serialization _ => .serialization
  | .config _ => .config

def ioKind? : MessagingError → Option IoKind
  | .transport e => some e.kind
  | _ => none

/-- What an error says of its own, without what all errors of its variant say. -/
def words : MessagingError → String
  | .illegalState s => s
  | .invalidClientId s => s
  | .unsupported s => s
  | .transport e => e.message
  | .invalidDestination s => s
  | .untrustedPayload s => s
  | .serialization s => s
  | .config s => s

namespace Variant

/-- What stands in front of the words of an error. -/
def before : Variant → String
  | .illegalState => "Illegal state: "
  | .invalidClientId => "Invalid client ID: "
  | .unsupported => "Unsupported operation: "
  | .transport => "Transport failure: "
  | .invalidDestination => "Invalid destination: "
  | .untrustedPayload => "Untrusted payload type '"
  | .serialization => "Serialization error: "
  | .config => "Configuration error: "

/-- What stands behind the words of an error. -/
def after : Variant → String
  | .untrustedPayload => "'"
  | _ => ""

end Variant

theorem message_eq (a : MessagingError) :
    a.message = a.variant.before ++ a.words ++ a.variant.after := by
  cases a with
  | untrustedPayload s => rfl
  | illegalState s | invalidClientId s | unsupported s | transport e | invalidDestination s
  | serialization s | config s => exact String.append_empty.symm

/-- Of one variant, the texts agree if and only if the words do. -/
theorem message_eq_iff {a b : MessagingError} (hv : a.variant = b.variant) :
    a.message = b.message ↔ a.words = b.words := by
  rw [message_eq a, message_eq b, hv, String.append_left_inj, String.append_right_inj]

theorem variant_eq_of_same {a b : MessagingError} : same a b = true → a.variant = b.variant := by
  fun_cases same a b with
  | case9 => exact fun h => absurd h Bool.false_ne_true
  | _ => exact fun _ => rfl

theorem same_iff_words {a b : MessagingError} (hv : a.variant = b.variant) :
    same a b = true ↔ a.words = b.words ∧ a.ioKind? = b.ioKind? := by
  cases a <;> cases b <;> cases hv
  case transport.transport.refl e f =>
    simp only [same, words, ioKind?, Bool.and_eq_true, beq_iff_eq, Option.some.injEq, and_comm]
  all_goals simp only [same, words, ioKind?, beq_iff_eq, and_true]

theorem same_iff (a b : MessagingError) :
    same a b = true ↔
      a.variant = b.variant ∧ a.message = b.message ∧ a.ioKind? = b.ioKind? := by
  constructor
  · intro h
    have hv := variant_eq_of_same h
    obtain ⟨hw, hk⟩ := (same_iff_words hv).mp h
    exact ⟨hv, (message_eq_iff hv).mpr hw, hk⟩
  · rintro ⟨hv, hm, hk⟩
    exact (same_iff_words hv).mpr ⟨(message_eq_iff hv).mp hm, hk⟩

theorem same_equivalence : Equivalence fun a b : MessagingError => same a b = true where
  refl a := (same_iff a a).mpr ⟨rfl, rfl, rfl⟩
  symm {a b} h := by
    obtain ⟨hv, hm, hk⟩ := (same_iff a b).mp h
    exact (same_iff b a).mpr ⟨hv.symm, hm.symm, hk.symm⟩
  trans {a b c} h h' := by
    obtain ⟨hv, hm, hk⟩ := (same_iff a b).mp h
    obtain ⟨hv', hm', hk'⟩ := (same_iff b c).mp h'
    exact (same_iff a c).mpr ⟨hv.trans hv', hm.trans hm', hk.trans hk'⟩

theorem clone_eq (a : MessagingError) : a.clone = a := by
  cases a <;> rfl

/-- A transport error other than an I/O error comes as one with its own text. -/
theorem ofTransport_eq {t : TransportError} (h : ∀ e, t ≠ .io e) :
    ofTransport t = transport ⟨.notConnected, some t.message⟩ := by
  cases t with
  | alreadyClosed | shutdownSignal reason => rfl
  | io e => exact absurd rfl (h e)

/-- Errors are the same if and only if they agree in variant and text and, for transport errors, in
the kind of the I/O error, whether that is bare or has a text of its own. Being the same is an
equivalence, a copy is the same as what it was made of, an I/O error comes to the same whether a
transport reported it or not, and all else that transports report is told apart by its text. -/
theorem same_is_observational :
    (∀ a b : MessagingError, same a b = true ↔
      a.variant = b.variant ∧ a.message = b.message ∧ a.ioKind? = b.ioKind?) ∧
    (Equivalence fun a b : MessagingError => same a b = true) ∧
    (∀ a : MessagingError, same a.clone a = true ∧ a.clone.message = a.message) ∧
    (∀ e : IoError, same (ofTransport (.io e)) (ofIo e) = true) ∧
    ∀ t u : TransportError, (∀ e, t ≠ .io e) → (∀ e, u ≠ .io e) →
      (same (ofTransport t) (ofTransport u) = true ↔ t.message = u.message) := by
  refine ⟨same_iff, same_equivalence, fun a => ?_, fun e => ?_, fun t u ht hu => ?_⟩
  · rw [clone_eq]
    exact ⟨same_equivalence.refl a, rfl⟩
  · exact same_equivalence.refl (transport e)
  · rw [ofTransport_eq ht, ofTransport_eq hu]
    simp only [same, IoError.message, Option.getD_some, beq_self_eq_true, Bool.true_and,
      beq_iff_eq]

/-- A broken pipe with the text that it has anyway is the same as a bare one, and a shutdown for no
reason is no closed transport. -/
theorem same_is_observational_told :
    same (ofIo ⟨.brokenPipe, some "broken pipe"⟩) (ofTransport (.io ⟨.brokenPipe, none⟩)) = true ∧
    same (ofIo ⟨.other, some "broken pipe"⟩) (ofIo ⟨.brokenPipe, none⟩) = false ∧
    same (ofTransport .alreadyClosed) (ofTransport (.shutdownSignal "")) = false ∧
    same (ofTransport (.shutdownSignal "maintenance")).clone
      (ofTransport (.shutdownSignal "maintenance")) = true := by
  obtain ⟨hsame, -, hclone, -, htold⟩ := same_is_observational
  refine ⟨(hsame _ _).mpr (by decide), ?_, ?_, (hclone _).1⟩
  · exact Bool.eq_false_iff.mpr fun h => absurd ((hsame _ _).mp h).2.2 (by decide)
  · have hiff := htold .alreadyClosed (.shutdownSignal "") nofun nofun
    exact Bool.eq_false_iff.mpr fun h => absurd (hiff.mp h) (by decide)

end BrokerClient.MessagingError
