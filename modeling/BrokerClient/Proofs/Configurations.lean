import BrokerClient.Config.Json
import BrokerClient.Proofs.Duration
import BrokerClient.Proofs.Json.Records

/-!
# Configurations read back

A configuration that was written as JSON is read as the same configuration with the default
password: the password leaves no trace in the text.
-/

namespace BrokerClient

open Json

namespace TrustedPackages

def expected (t : TrustedPackages) : Syntax :=
  .array (t.packages.map fun p => .string (Literal.ofString p))

theorem ofValue?_toJson (t : TrustedPackages) : Syntax.ofValue? t.toJson = some t.expected := by
  have hitems := itemsOfValues?_map (f := Value.string)
    (g := fun p => .string (Literal.ofString p)) (fun _ => rfl) t.packages
  rw [toJson, Syntax.ofValue?, hitems]
  rfl

theorem ofJson?_expected (t : TrustedPackages) : ofJson? t.expected = some t := by
  have hread := mapM_map (f := Syntax.text?) (g := fun p => .string (Literal.ofString p))
    (k := id) (l := t.packages) fun p _ => text?_ofString p
  rw [ofJson?, expected, Syntax.list?, hread, List.map_id]
  rfl

end TrustedPackages

namespace ConnectionConfig

/-- The members that the text of a configuration is read as. -/
def expectedMembers (c : ConnectionConfig) : List (String × Syntax) := [
  ("host", .string (Literal.ofString c.host)),
  ("port", .number (Numeral.ofInt c.port.toNat)),
  ("virtual_host", .string (Literal.ofString c.virtualHost)),
  ("username", .string (Literal.ofString c.username)),
  ("tls", .bool c.tls),
  ("termination_timeout", .string (Literal.ofString c.terminationTimeout.render)),
  ("trusted_packages", c.trustedPackages.expected),
  ("log_level", .string (Literal.ofString c.logLevel))]

theorem ofValue?_toJson (c : ConnectionConfig) :
    Syntax.ofValue? c.toJson = some (.ofMembers c.expectedMembers) := by
  simp only [toJson, Syntax.ofValue?, membersOfValues?, TrustedPackages.ofValue?_toJson,
    Option.bind_eq_bind, Option.bind_some]
  rfl

/-- Every field but the password is found. -/
theorem fields?_expected (c : ConnectionConfig) :
    (Syntax.ofMembers c.expectedMembers).fields? jsonNames = some [
      some (.string (Literal.ofString c.host)),
      some (.number (Numeral.ofInt c.port.toNat)),
      some (.string (Literal.ofString c.virtualHost)),
      some (.string (Literal.ofString c.username)),
      none,
      some (.bool c.tls),
      some (.string (Literal.ofString c.terminationTimeout.render)),
      some c.trustedPackages.expected,
      some (.string (Literal.ofString c.logLevel))] :=
  fields?_ofMembers (show (jsonNames.erase "password").Nodup by decide)
    (show ∀ k ∈ jsonNames.erase "password", k ∈ jsonNames by decide) rfl

/-- What was written of a configuration is read as the configuration with the default password, and
whatever the password is, the same is written. -/
theorem json_reads_back_without_password (c : ConnectionConfig) :
    decode? ofJson? c.toJson.render = some { c with password := "guest" } ∧
      ∀ password, (toJson { c with password }).render = c.toJson.render := by
  refine ⟨?_, fun _ => rfl⟩
  have hport : (Syntax.number (Numeral.ofInt c.port.toNat)).natural? UInt16.size =
      some c.port.toNat := natural?_number (by decide) c.port.toNat_lt
  have hback : c.port.toNat.toUInt16 = c.port := UInt16.ofNat_toNat
  rw [decode?_render (ofValue?_toJson c)]
  simp only [ofJson?, fields?_expected, Option.bind_eq_bind, Option.bind_some, text?_ofString,
    hport, hback, Duration.parse?_render, TrustedPackages.ofJson?_expected, Syntax.bool?]
  rfl

end ConnectionConfig

end BrokerClient
