import BrokerClient.Config.Load
import BrokerClient.Proofs.Text.Utf8.Decoding
import BrokerClient.Proofs.Uri.Results

/-!
# Which broker URIs are accepted

A URI is refused for its scheme, for a part whose bytes are no text, or for port 0, and for nothing
else. Settings are validated after the URI was read, but what is left to find then is the port
alone: a host of the broker schemes is empty or not blank, an empty host or path gives way to its
default, and a path that is not empty does not decode to nothing.
-/

namespace BrokerClient

open Text

namespace ConnectionConfig

variable {uri : Uri} {raw : List Char} {text default s : String} {c : ConnectionConfig}

/-- A computation that fails, if it fails, for a setting. -/
def FailsForSetting {α : Type} (x : Except MessagingError α) : Prop :=
  ∀ e, x = .error e → ∃ why, e = .config why

theorem failsForSetting_ok {α : Type} (a : α) : FailsForSetting (.ok a) := nofun

theorem failsForSetting_config {α : Type} (why : String) :
    FailsForSetting (.error (.config why) : Except MessagingError α) := by
  intro e he
  exact ⟨why, (Except.error.inj he).symm⟩

theorem FailsForSetting.bind {α β : Type} {x : Except MessagingError α}
    {f : α → Except MessagingError β} (hx : FailsForSetting x) (hf : ∀ a, FailsForSetting (f a)) :
    FailsForSetting (x >>= f) := by
  cases x with
  | error e =>
    intro e' he
    obtain rfl : e = e' := Except.error.inj he
    exact hx e rfl
  | ok a => exact hf a

/-- A part of a URI whose bytes are the UTF-8 form of a text. -/
def Spells (raw : List Char) : Prop :=
  ∃ cs, Utf8.encode cs = Percent.decodeBytes raw

theorem decodePart_eq_ok_iff :
    decodePart raw = .ok s ↔ Utf8.encode s.toList = Percent.decodeBytes raw := by
  have hdecode : Percent.decode raw = .ok s.toList ↔ _ := Utf8.decode_eq_ok_iff
  rw [← hdecode, decodePart]
  cases Percent.decode raw with
  | error fault => simp
  | ok cs => simp [← String.toList_inj]

theorem exists_decodePart_iff : (∃ s, decodePart raw = .ok s) ↔ Spells raw := by
  constructor
  · rintro ⟨s, hs⟩
    exact ⟨s.toList, decodePart_eq_ok_iff.mp hs⟩
  · rintro ⟨cs, hcs⟩
    refine ⟨String.ofList cs, decodePart_eq_ok_iff.mpr ?_⟩
    rw [String.toList_ofList, hcs]

theorem failsForSetting_decodePart : FailsForSetting (decodePart raw) := by
  unfold decodePart
  split
  · exact failsForSetting_ok _
  · exact failsForSetting_config _

theorem spells_nil : Spells [] :=
  ⟨[], rfl⟩

theorem exists_decodePartOr_iff : (∃ s, decodePartOr default raw = .ok s) ↔ Spells raw := by
  cases raw with
  | nil => exact iff_of_true ⟨default, rfl⟩ spells_nil
  | cons c r => exact exists_decodePart_iff

theorem failsForSetting_decodePartOr : FailsForSetting (decodePartOr default raw) := by
  unfold decodePartOr
  split
  · exact failsForSetting_ok _
  · exact failsForSetting_decodePart

/-- A part with a default is never empty: a text that is not empty decodes to something. -/
theorem ne_empty_of_decodePartOr (hdefault : default ≠ "") (h : decodePartOr default raw = .ok s) :
    s ≠ "" := by
  cases raw with
  | nil => exact Except.ok.inj h ▸ hdefault
  | cons c r =>
    rintro rfl
    have hbytes : Utf8.encode [] = Percent.decodeBytes (c :: r) := decodePart_eq_ok_iff.mp h
    cases Percent.decodeBytes_eq_nil_iff.mp hbytes.symm

/-- A password, or the default if there is none. -/
def decodePassword : Option (List Char) → Except MessagingError String
  | none => .ok "guest"
  | some p => decodePart p

theorem exists_decodePassword_iff {password : Option (List Char)} :
    (∃ s, decodePassword password = .ok s) ↔ ∀ p ∈ password, Spells p := by
  cases password with
  | none => exact iff_of_true ⟨"guest", rfl⟩ nofun
  | some p => simpa [decodePassword] using exists_decodePart_iff

theorem failsForSetting_decodePassword {password : Option (List Char)} :
    FailsForSetting (decodePassword password) := by
  cases password with
  | none => exact failsForSetting_ok _
  | some p => exact failsForSetting_decodePart

theorem tlsOfScheme_eq_ok_iff {scheme : String} {tls : Bool} :
    tlsOfScheme scheme = .ok tls ↔ scheme = if tls then "amqps" else "amqp" := by
  unfold tlsOfScheme
  split
  · next hplain => cases tls <;> simp [hplain]
  split
  · next hencrypted => cases tls <;> simp [hencrypted]
  · next hplain hencrypted => cases tls <;> simp [hplain, hencrypted]

theorem exists_tlsOfScheme_iff {scheme : String} :
    (∃ tls, tlsOfScheme scheme = .ok tls) ↔ scheme = "amqp" ∨ scheme = "amqps" := by
  simp [tlsOfScheme_eq_ok_iff]

theorem failsForSetting_tlsOfScheme {scheme : String} : FailsForSetting (tlsOfScheme scheme) := by
  unfold tlsOfScheme
  split
  · exact failsForSetting_ok _
  split
  · exact failsForSetting_ok _
  · exact failsForSetting_config _

/-- The settings that a URI stands for, part by part. -/
structure GivenBy (uri : Uri) (c : ConnectionConfig) : Prop where
  tls : tlsOfScheme uri.scheme = .ok c.tls
  username : decodePartOr "guest" uri.user.name = .ok c.username
  password : decodePassword uri.user.password = .ok c.password
  virtualHost : decodePartOr "/" (withoutSlash uri.path) = .ok c.virtualHost
  host : c.host = if uri.host.isEmpty then "localhost" else String.ofList uri.host
  port : c.port = (uri.port.map Nat.toUInt16).getD (defaultPort c.tls)
  terminationTimeout : c.terminationTimeout = defaultTerminationTimeout
  trustedPackages : c.trustedPackages = TrustedPackages.default
  logLevel : c.logLevel = "info"

theorem ofParsedUri_eq (uri : Uri) : ofParsedUri uri =
    tlsOfScheme uri.scheme >>= fun tls =>
    decodePartOr "guest" uri.user.name >>= fun username =>
    decodePassword uri.user.password >>= fun password =>
    decodePartOr "/" (withoutSlash uri.path) >>= fun virtualHost =>
    .ok {
      host := if uri.host.isEmpty then "localhost" else String.ofList uri.host
      port := (uri.port.map Nat.toUInt16).getD (defaultPort tls)
      virtualHost, username, password, tls } := by
  unfold ofParsedUri
  cases uri.user.password <;> rfl

theorem ofParsedUri_eq_ok_iff : ofParsedUri uri = .ok c ↔ GivenBy uri c := by
  simp only [ofParsedUri_eq, bind_eq_ok_iff]
  constructor
  · rintro ⟨tls, htls, username, hname, password, hpassword, virtualHost, hpath, h⟩
    obtain rfl := Except.ok.inj h
    exact ⟨htls, hname, hpassword, hpath, rfl, rfl, rfl, rfl, rfl⟩
  · intro h
    refine ⟨_, h.tls, _, h.username, _, h.password, _, h.virtualHost, ?_⟩
    rw [← h.host, ← h.port, ← h.terminationTimeout, ← h.trustedPackages, ← h.logLevel]

theorem failsForSetting_ofParsedUri : FailsForSetting (ofParsedUri uri) := by
  rw [ofParsedUri_eq]
  refine failsForSetting_tlsOfScheme.bind fun tls => ?_
  refine failsForSetting_decodePartOr.bind fun username => ?_
  refine failsForSetting_decodePassword.bind fun password => ?_
  refine failsForSetting_decodePartOr.bind fun virtualHost => ?_
  exact failsForSetting_ok _

/-- What a URI must be like for settings to be read from it: a broker scheme, and bytes of a text in
every part that is decoded. -/
structure Readable (uri : Uri) : Prop where
  scheme : uri.scheme = "amqp" ∨ uri.scheme = "amqps"
  user : Spells uri.user.name
  password : ∀ p ∈ uri.user.password, Spells p
  path : Spells (withoutSlash uri.path)

theorem exists_givenBy_iff : (∃ c, GivenBy uri c) ↔ Readable uri := by
  constructor
  · rintro ⟨c, h⟩
    exact ⟨exists_tlsOfScheme_iff.mp ⟨_, h.tls⟩, exists_decodePartOr_iff.mp ⟨_, h.username⟩,
      exists_decodePassword_iff.mp ⟨_, h.password⟩, exists_decodePartOr_iff.mp ⟨_, h.virtualHost⟩⟩
  · intro h
    obtain ⟨tls, htls⟩ := exists_tlsOfScheme_iff.mpr h.scheme
    obtain ⟨username, hname⟩ := exists_decodePartOr_iff.mpr h.user
    obtain ⟨password, hpassword⟩ := exists_decodePassword_iff.mpr h.password
    obtain ⟨virtualHost, hpath⟩ := exists_decodePartOr_iff.mpr h.path
    let settings : ConnectionConfig := {
      host := if uri.host.isEmpty then "localhost" else String.ofList uri.host
      port := (uri.port.map Nat.toUInt16).getD (defaultPort tls)
      virtualHost, username, password, tls }
    exact ⟨settings, htls, hname, hpassword, hpath, rfl, rfl, rfl, rfl, rfl⟩

namespace GivenBy

variable {cs : List Char}

theorem schemeKind_eq (h : GivenBy uri c) : Uri.schemeKind uri.scheme = .other := by
  rcases exists_tlsOfScheme_iff.mp ⟨_, h.tls⟩ with hs | hs
  · rw [hs]
    decide
  · rw [hs]
    decide

theorem virtualHost_ne (h : GivenBy uri c) : c.virtualHost ≠ "" :=
  ne_empty_of_decodePartOr (by decide) h.virtualHost

theorem host_not_blank (h : GivenBy uri c) (hparse : Uri.parse cs = .ok uri) :
    isBlankText c.host = false := by
  rw [h.host]
  rcases (Uri.parse_other_cases hparse h.schemeKind_eq).1 with hempty | ⟨x, hx, hseen⟩
  · rw [hempty]
    decide
  · have hne : uri.host.isEmpty = false := List.isEmpty_eq_false_iff.mpr (List.ne_nil_of_mem hx)
    rw [hne, if_neg Bool.false_ne_true, isBlankText, String.toList_ofList]
    exact List.all_eq_false.mpr ⟨x, hx, Bool.eq_false_iff.mp hseen⟩

theorem port_eq_zero_iff (h : GivenBy uri c) (hparse : Uri.parse cs = .ok uri) :
    c.port = 0 ↔ uri.port = some 0 := by
  rw [h.port]
  have hle := (Uri.parse_other_cases hparse h.schemeKind_eq).2
  cases hp : uri.port with
  | none => cases c.tls <;> decide
  | some n =>
    have hn : n ≤ 65535 := hle n hp
    have hwide : n.toUInt16.toNat = n := Nat.mod_eq_of_lt (Nat.lt_succ_of_le hn)
    have hzero : n.toUInt16 = 0 ↔ n = 0 := by
      rw [← UInt16.toNat_inj, hwide]
      rfl
    simpa using hzero

/-- Of what a URI gives, only the port can be refused. -/
theorem validate_eq (h : GivenBy uri c) (hparse : Uri.parse cs = .ok uri) :
    c.validate = if uri.port = some 0 then .error .zeroPort else .ok () := by
  rw [validate, h.host_not_blank hparse, if_neg Bool.false_ne_true, if_neg h.virtualHost_ne]
  simp only [h.port_eq_zero_iff hparse]

end GivenBy

/-- The URI that a text is read as, or why it is none. -/
def readUri (text : String) : Except MessagingError Uri :=
  match Uri.parse text.toList with
  | .ok uri => .ok uri
  | .error fault => .error (.config ("invalid broker URI: " ++ fault.message))

/-- Checks the settings of a URI and tells where they lead. -/
def settle (c : ConnectionConfig) : Except MessagingError (ConnectionConfig × List Event) :=
  match c.check with
  | .error e => .error (.config e.message)
  | .ok (c, events) => .ok (c, events ++ [.uriResolved c.host c.port.toNat c.virtualHost])

theorem ofUri_eq (text : String) :
    ofUri text = readUri text >>= fun uri => ofParsedUri uri >>= settle := by
  unfold ofUri readUri
  cases Uri.parse text.toList <;> rfl

theorem readUri_eq_ok_iff : readUri text = .ok uri ↔ Uri.parse text.toList = .ok uri := by
  unfold readUri
  cases Uri.parse text.toList <;> simp

theorem settle_eq_ok_iff {d : ConnectionConfig} {events : List Event} :
    c.settle = .ok (d, events) ↔ c.validate = .ok () ∧ d = c ∧
      events = c.warnings ++ [.uriResolved c.host c.port.toNat c.virtualHost] := by
  unfold settle check
  cases c.validate with
  | error fault => simp [Except.map]
  | ok u => simp [Except.map, eq_comm]

theorem failsForSetting_ofUri : FailsForSetting (ofUri text) := by
  rw [ofUri_eq]
  refine FailsForSetting.bind ?_ fun uri => failsForSetting_ofParsedUri.bind fun c => ?_
  · unfold readUri
    split
    · exact failsForSetting_ok _
    · exact failsForSetting_config _
  · unfold settle
    split
    · exact failsForSetting_config _
    · exact failsForSetting_ok _

theorem ofUri_eq_ok_iff {events : List Event} :
    ofUri text = .ok (c, events) ↔
      ∃ uri, Uri.parse text.toList = .ok uri ∧ GivenBy uri c ∧ c.validate = .ok () ∧
        events = c.warnings ++ [.uriResolved c.host c.port.toNat c.virtualHost] := by
  simp only [ofUri_eq, bind_eq_ok_iff, readUri_eq_ok_iff, ofParsedUri_eq_ok_iff, settle_eq_ok_iff]
  constructor
  · rintro ⟨uri, hparse, d, hgiven, hvalid, rfl, hevents⟩
    exact ⟨uri, hparse, hgiven, hvalid, hevents⟩
  · rintro ⟨uri, hparse, hgiven, hvalid, hevents⟩
    exact ⟨uri, hparse, c, hgiven, hvalid, rfl, hevents⟩

/-- Loading succeeds exactly for what reads as a URI of a broker scheme, in which every part that is
decoded is a text and no port 0 is given. It fails for a setting only, and validation can find fault
with nothing but the port. What is loaded is valid, names a host, a port and a virtual host, is
encrypted exactly for `amqps`, and leaves the settings that no URI names at their defaults. -/
theorem ofUri_exact (text : String) :
    ((∃ loaded, ofUri text = .ok loaded) ↔
      ∃ uri, Uri.parse text.toList = .ok uri ∧ Readable uri ∧ uri.port ≠ some 0) ∧
    (∀ e, ofUri text = .error e → ∃ why, e = .config why) ∧
    (∀ uri c fault, Uri.parse text.toList = .ok uri → ofParsedUri uri = .ok c →
      c.validate = .error fault → fault = .zeroPort) ∧
    (∀ c events, ofUri text = .ok (c, events) →
      ∃ uri, Uri.parse text.toList = .ok uri ∧ c.validate = .ok () ∧
        isBlankText c.host = false ∧ 1 ≤ c.port.toNat ∧ c.port.toNat ≤ 65535 ∧
        c.virtualHost ≠ "" ∧ (c.tls = true ↔ uri.scheme = "amqps") ∧
        c.terminationTimeout = defaultTerminationTimeout ∧
        c.trustedPackages = TrustedPackages.default ∧ c.logLevel = "info") := by
  refine ⟨⟨?accepted, ?accepts⟩, failsForSetting_ofUri, ?validation, ?settings⟩
  case accepted =>
    rintro ⟨⟨c, events⟩, h⟩
    obtain ⟨uri, hparse, hgiven, hvalid, -⟩ := ofUri_eq_ok_iff.mp h
    refine ⟨uri, hparse, exists_givenBy_iff.mp ⟨c, hgiven⟩, fun hport => ?_⟩
    rw [hgiven.validate_eq hparse, if_pos hport] at hvalid
    cases hvalid
  case accepts =>
    rintro ⟨uri, hparse, hreadable, hport⟩
    obtain ⟨c, hgiven⟩ := exists_givenBy_iff.mpr hreadable
    have hvalid : c.validate = .ok () := by rw [hgiven.validate_eq hparse, if_neg hport]
    exact ⟨_, ofUri_eq_ok_iff.mpr ⟨uri, hparse, hgiven, hvalid, rfl⟩⟩
  case validation =>
    intro uri c fault hparse hread hfault
    rw [(ofParsedUri_eq_ok_iff.mp hread).validate_eq hparse] at hfault
    split at hfault
    · exact (Except.error.inj hfault).symm
    · cases hfault
  case settings =>
    intro c events h
    obtain ⟨uri, hparse, hgiven, hvalid, -⟩ := ofUri_eq_ok_iff.mp h
    have hscheme := tlsOfScheme_eq_ok_iff.mp hgiven.tls
    have hencrypted : c.tls = true ↔ uri.scheme = "amqps" := by
      rw [hscheme]
      cases c.tls <;> decide
    have hport : 0 < c.port.toNat := by
      refine Nat.pos_of_ne_zero fun hzero => ?_
      have hgivenZero := (hgiven.port_eq_zero_iff hparse).mp (UInt16.toNat.inj hzero)
      rw [hgiven.validate_eq hparse, if_pos hgivenZero] at hvalid
      cases hvalid
    exact ⟨uri, hparse, hvalid, hgiven.host_not_blank hparse, hport,
      Nat.le_of_lt_succ c.port.toNat_lt, hgiven.virtualHost_ne, hencrypted,
      hgiven.terminationTimeout, hgiven.trustedPackages, hgiven.logLevel⟩

/-- A scheme alone is a URI with every default, and a host is no help against port 0. -/
theorem ofUri_exact_sparse :
    (∃ c events, ofUri "AMQPS:" = .ok (c, events) ∧ c.validate = .ok () ∧ c.tls = true) ∧
      ¬ ∃ loaded, ofUri "amqp://h:0" = .ok loaded := by
  constructor
  · have hparse : Uri.parse "AMQPS:".toList = .ok ⟨"amqps", Uri.User.none, [], none, []⟩ := by
      decide
    have hreadable : Readable ⟨"amqps", Uri.User.none, [], none, []⟩ :=
      ⟨Or.inr rfl, spells_nil, nofun, spells_nil⟩
    obtain ⟨⟨c, events⟩, hload⟩ := (ofUri_exact "AMQPS:").1.mpr ⟨_, hparse, hreadable, nofun⟩
    obtain ⟨uri, hsame, hvalid, -, -, -, -, htls, -⟩ := (ofUri_exact "AMQPS:").2.2.2 c events hload
    obtain rfl := Except.ok.inj (hparse.symm.trans hsame)
    exact ⟨c, events, hload, hvalid, htls.mpr rfl⟩
  · intro hload
    have hparse : Uri.parse "amqp://h:0".toList =
        .ok ⟨"amqp", Uri.User.none, ['h'], some 0, []⟩ := by decide
    obtain ⟨uri, hsame, -, hport⟩ := (ofUri_exact "amqp://h:0").1.mp hload
    obtain rfl := Except.ok.inj (hparse.symm.trans hsame)
    exact hport rfl

end ConnectionConfig

end BrokerClient
