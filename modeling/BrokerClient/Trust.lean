import BrokerClient.Json.Decode
import BrokerClient.Text.Blank

/-!
# Trusted packages

The allow-list that decides whether an object payload of a given type may be decoded. An entry
covers its own name and every name below it, where a level ends at `.` or `::`; the entry `*` covers
everything.
-/

namespace BrokerClient

/-- The entry that covers every type. -/
def trustAllEntry : String := "*"

/-- The packages trusted unless others are given. -/
def defaultTrustedPackages : List String :=
  ["java.lang", "java.util", "java.math", "com.rabbitmq.jms"]

structure TrustedPackages where
  packages : List String
  deriving DecidableEq, Repr

/-- The text left of a name below a package starts a new level. -/
def startsLevel : List Char → Bool
  | '.' :: _ => true
  | ':' :: ':' :: _ => true
  | _ => false

def packageCovers (package typeName : String) : Bool :=
  package == trustAllEntry || package == typeName
    || match List.isPrefixOf? package.toList typeName.toList with
      | some rest => startsLevel rest
      | none => false

namespace TrustedPackages

/-- An allow-list from entries, trimmed, without the blank ones. -/
def ofList (entries : List String) : TrustedPackages :=
  ⟨(entries.map Text.trim).filter fun e => e ≠ ""⟩

def all : TrustedPackages := ofList [trustAllEntry]

/-- The allow-list used unless another is given. -/
def default : TrustedPackages := ofList defaultTrustedPackages

def isTrusted (t : TrustedPackages) (typeName : String) : Bool :=
  t.packages.any fun package => packageCovers package typeName

/-- Reads an allow-list from JSON. The entries are taken as they are. -/
def ofJson? (s : Json.Syntax) : Option TrustedPackages :=
  (s.list? Json.Syntax.text?).map TrustedPackages.mk

def toJson (t : TrustedPackages) : Json.Value :=
  .array (t.packages.map .string)

end TrustedPackages

end BrokerClient
