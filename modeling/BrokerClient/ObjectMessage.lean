import BrokerClient.Error
import BrokerClient.Json.Writer
import BrokerClient.Trust

/-!
# Object messages

A payload of a named type, carried as the bytes of a JSON text. A payload is decoded as a type that
the caller names, and only if a policy trusts the type that the message names. What is said of a
body that does not decode is up to the reader of JSON that the caller brings.
-/

namespace BrokerClient

structure ObjectMessage where
  typeName : String
  body : List UInt8
  deriving DecidableEq, Repr

inductive PayloadType where
  | int64 | int32 | natural8 | natural64 | bool | string | unit
  | optionalInt64
  | int64List
  /-- From strings to strings. -/
  | stringMap
  /-- A record of a 32-bit integer `num` and a string `s`. -/
  | record
  /-- Any JSON value. -/
  | any
  deriving DecidableEq, Repr

namespace PayloadType

def readInt64 (s : Json.Syntax) : Option Int :=
  s.integer? (-Int.pow 2 63) (Int.pow 2 63 - 1)

def readInt32 (s : Json.Syntax) : Option Int :=
  s.integer? (-Int.pow 2 31) (Int.pow 2 31 - 1)

def readRecord (s : Json.Syntax) : Option Json.Value := do
  let fields ← s.fields? ["num", "s"]
  match fields with
  | [some num, some text] => do
    let n ← readInt32 num
    let t ← text.text?
    return .object [("num", .integer n), ("s", .string t)]
  | _ => none

/-- Reads a value of a type and gives it back as JSON. -/
def read? (t : PayloadType) (s : Json.Syntax) : Option Json.Value :=
  match t with
  | int64 => (readInt64 s).map .integer
  | int32 => (readInt32 s).map .integer
  | natural8 => (s.integer? 0 255).map .integer
  | natural64 => (s.integer? 0 (Int.pow 2 64 - 1)).map .integer
  | bool => s.bool?.map .bool
  | string => s.text?.map .string
  | unit => s.null?.map fun _ => .null
  | optionalInt64 =>
    match s with
    | .null => some .null
    | s => (readInt64 s).map .integer
  | int64List => (s.list? readInt64).map fun is => .array (is.map .integer)
  | stringMap =>
    (s.map? Json.Syntax.text?).map fun ms => .object (ms.map fun (k, v) => (k, .string v))
  | record => readRecord s
  | any => Json.Value.ofSyntax? Json.maxDepth s

end PayloadType

/-- What a reader of JSON says of a body that it cannot decode as a type. The reader comes with the
caller, and its words are its own. -/
abbrev Complaint := List UInt8 → PayloadType → String

namespace ObjectMessage

def ofValue (typeName : String) (value : Json.Value) : ObjectMessage :=
  ⟨typeName, value.bytes⟩

/-- What the payload is decoded to, trusted or not. -/
def decoded (m : ObjectMessage) (t : PayloadType) (complaint : Complaint) :
    Except MessagingError Json.Value :=
  match (Json.read? m.body).bind t.read? with
  | some v => .ok v
  | none => .error (.serialization (complaint m.body t))

/-- Decodes the payload if the policy trusts its type. -/
def getObject (m : ObjectMessage) (trusted : TrustedPackages) (t : PayloadType)
    (complaint : Complaint) : Except MessagingError Json.Value :=
  if trusted.isTrusted m.typeName then m.decoded t complaint
  else .error (.untrustedPayload m.typeName)

def ofJson? (s : Json.Syntax) : Option ObjectMessage := do
  let fields ← s.fields? ["type_name", "body"]
  match fields with
  | [some typeName, some body] => do
    let t ← typeName.text?
    let b ← body.bytes?
    return ⟨t, b⟩
  | _ => none

def toJson (m : ObjectMessage) : Json.Value :=
  .object [("type_name", .string m.typeName),
    ("body", .array (m.body.map fun b => .integer b.toNat))]

end ObjectMessage

end BrokerClient
