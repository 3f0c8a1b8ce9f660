import BrokerClient.Destination
import BrokerClient.ObjectMessage
import BrokerClient.Proofs.Json.Records

/-!
# Messages survive the wire

A message and a destination that were written as JSON are read as the same. A value that a message
carries is written twice, as the bytes of a body and with the message around it, and comes out of
both unchanged under a policy that trusts its type.
-/

namespace BrokerClient

open Json

namespace ObjectMessage

def expectedMembers (m : ObjectMessage) : List (String × Syntax) := [
  ("type_name", .string (Literal.ofString m.typeName)),
  ("body", .array (m.body.map fun b => .number (Numeral.ofInt b.toNat)))]

theorem ofValue?_toJson (m : ObjectMessage) :
    Syntax.ofValue? m.toJson = some (.ofMembers m.expectedMembers) := by
  have hbody := itemsOfValues?_map (f := fun b : UInt8 => .integer b.toNat)
    (g := fun b => .number (Numeral.ofInt b.toNat)) (fun _ => rfl) m.body
  simp only [toJson, Syntax.ofValue?, membersOfValues?, hbody, Option.map_some,
    Option.bind_eq_bind, Option.bind_some]
  rfl

theorem fields?_expected (m : ObjectMessage) :
    (Syntax.ofMembers m.expectedMembers).fields? ["type_name", "body"] = some [
      some (.string (Literal.ofString m.typeName)),
      some (.array (m.body.map fun b => .number (Numeral.ofInt b.toNat)))] :=
  fields?_ofMembers (show ["type_name", "body"].Nodup by decide) (fun _ h => h) rfl

theorem bytes?_expected (bs : List UInt8) :
    (Syntax.array (bs.map fun b => .number (Numeral.ofInt b.toNat))).bytes? = some bs := by
  have hread := mapM_map (f := fun s : Syntax => (s.natural? 256).map Nat.toUInt8)
    (g := fun b : UInt8 => .number (Numeral.ofInt b.toNat)) (k := id) (l := bs) fun b _ => by
      have hb : b.toNat.toUInt8 = b := UInt8.ofNat_toNat
      rw [natural?_number (by decide) b.toNat_lt, Option.map_some, hb]
      rfl
  rw [Syntax.bytes?, hread, List.map_id]

/-- A message is read back, whatever its body. -/
theorem decode?_toJson (m : ObjectMessage) : decode? ofJson? m.toJson.render = some m := by
  rw [decode?_render (ofValue?_toJson m)]
  simp only [ofJson?, fields?_expected, Option.bind_eq_bind, Option.bind_some, text?_ofString,
    bytes?_expected]
  rfl

end ObjectMessage

namespace Destination

def expectedMembers (d : Destination) : List (String × Syntax) := [
  ("kind", .string (Literal.ofString d.kind)), ("name", .string (Literal.ofString d.name))]

theorem fields?_expected (d : Destination) :
    (Syntax.ofMembers d.expectedMembers).fields? ["kind", "name"] = some [
      some (.string (Literal.ofString d.kind)), some (.string (Literal.ofString d.name))] :=
  fields?_ofMembers (show ["kind", "name"].Nodup by decide) (fun _ h => h) rfl

theorem ofKind?_kind (d : Destination) : ofKind? d.kind d.name = some d := by
  cases d <;> rfl

/-- A destination is read back. -/
theorem decode?_toJson (d : Destination) : decode? ofJson? d.toJson.render = some d := by
  have hv : Syntax.ofValue? d.toJson = some (.ofMembers d.expectedMembers) := rfl
  have hobject : (Syntax.ofMembers d.expectedMembers).isArray = false := rfl
  rw [decode?_render hv]
  simp only [ofJson?, fields?_expected, hobject, Bool.false_eq_true, if_false,
    Syntax.choice?, Option.bind_eq_bind, Option.bind_some, text?_ofString, ofKind?_kind]

end Destination

structure StringMap where
  entries : List (String × String)
  inOrder : InOrder entries

/-- A value of one of the types that messages carry. -/
inductive Payload where
  | int64 (i : Int64)
  | string (s : String)
  | int64List (is : List Int64)
  | stringMap (m : StringMap)
  | record (num : Int32) (s : String)

namespace Payload

def type : Payload → PayloadType
  | int64 _ => .int64
  | string _ => .string
  | int64List _ => .int64List
  | stringMap _ => .stringMap
  | record _ _ => .record

def members (entries : List (String × String)) : Value :=
  .object (entries.map fun e => (e.1, .string e.2))

/-- A payload as JSON, a map in the order of its keys. -/
def toJson : Payload → Value
  | int64 i => .integer i.toInt
  | string s => .string s
  | int64List is => .array (is.map fun i => .integer i.toInt)
  | stringMap m => members m.entries
  | record num s => .object [("num", .integer num.toInt), ("s", .string s)]

/-- The payload is written so: a map in any order of its entries. -/
def IsWritten (p : Payload) (v : Value) : Prop :=
  match p with
  | stringMap m => ∃ entries : List (String × String), entries.Perm m.entries ∧ v = members entries
  | _ => v = p.toJson

theorem readInt64_number (i : Int64) :
    PayloadType.readInt64 (.number (Numeral.ofInt i.toInt)) = some i.toInt := by
  have hlow : -Int.pow 2 63 ≤ i.toInt := i.le_toInt
  have hhigh : i.toInt < Int.pow 2 63 := i.toInt_lt
  exact integer?_number (by decide) (by decide) ⟨hlow, Int.le_sub_one_of_lt hhigh⟩

theorem readInt32_number (i : Int32) :
    PayloadType.readInt32 (.number (Numeral.ofInt i.toInt)) = some i.toInt := by
  have hlow : -Int.pow 2 31 ≤ i.toInt := i.le_toInt
  have hhigh : i.toInt < Int.pow 2 31 := i.toInt_lt
  exact integer?_number (by decide) (by decide) ⟨hlow, Int.le_sub_one_of_lt hhigh⟩

theorem members_injective : Function.Injective members := by
  intro es es' h
  refine List.map_injective_iff.mpr ?_ (Value.object.inj h)
  intro e e' he
  obtain ⟨hkey, hvalue⟩ := Prod.mk.inj he
  exact Prod.ext hkey (Value.string.inj hvalue)

theorem integers_injective : Function.Injective fun is : List Int64 =>
    Value.array (is.map fun i => .integer i.toInt) := by
  intro is is' h
  refine List.map_injective_iff.mpr ?_ (Value.array.inj h)
  exact fun i j he => Int64.toInt_inj.mp (Value.integer.inj he)

/-- Values of one type are told apart by what is written of them. -/
theorem eq_of_toJson_eq {p q : Payload} (htype : p.type = q.type) (h : p.toJson = q.toJson) :
    p = q := by
  cases p <;> cases q <;> try cases htype
  case int64 i j => rw [Int64.toInt_inj.mp (Value.integer.inj h)]
  case string s t => rw [Value.string.inj h]
  case int64List is js => rw [integers_injective h]
  case stringMap m n =>
    obtain ⟨es, hes⟩ := m
    obtain ⟨fs, hfs⟩ := n
    obtain rfl : es = fs := members_injective h
    rfl
  case record i s j t =>
    simp only [toJson, Value.object.injEq, List.cons.injEq, Prod.mk.injEq, Value.integer.injEq,
      Value.string.injEq, true_and, and_true] at h
    obtain ⟨hnum, rfl⟩ := h
    rw [Int32.toInt_inj.mp hnum]

theorem readRecord_expected (num : Int32) (s : String) :
    PayloadType.readRecord (.ofMembers [("num", .number (Numeral.ofInt num.toInt)),
      ("s", .string (Literal.ofString s))]) = some (record num s).toJson := by
  have hfields : (Syntax.ofMembers [("num", .number (Numeral.ofInt num.toInt)),
      ("s", .string (Literal.ofString s))]).fields? ["num", "s"] = some
        [some (.number (Numeral.ofInt num.toInt)), some (.string (Literal.ofString s))] :=
    fields?_ofMembers (show ["num", "s"].Nodup by decide) (fun _ h => h) rfl
  simp only [PayloadType.readRecord, hfields, Option.bind_eq_bind, Option.bind_some,
    readInt32_number, text?_ofString]
  rfl

/-- What was written of a payload is read, as its type, as the payload. -/
theorem read?_written {p : Payload} {v : Value} (h : p.IsWritten v) :
    (read? v.bytes).bind p.type.read? = some p.toJson := by
  cases p with
  | int64 i =>
    obtain rfl : v = .integer i.toInt := h
    rw [read?_bytes rfl, Option.bind_some]
    exact congrArg (Option.map _) (readInt64_number i)
  | string s =>
    obtain rfl : v = .string s := h
    rw [read?_bytes rfl, Option.bind_some]
    exact congrArg (Option.map _) (text?_ofString s)
  | int64List is =>
    obtain rfl : v = .array (is.map fun i => .integer i.toInt) := h
    have hv : Syntax.ofValue? (.array (is.map fun i => .integer i.toInt)) =
        some (.array (is.map fun i => .number (Numeral.ofInt i.toInt))) := by
      rw [Syntax.ofValue?, itemsOfValues?_map (fun _ => rfl) is, Option.map_some]
    have hread := mapM_map (f := PayloadType.readInt64)
      (g := fun i : Int64 => .number (Numeral.ofInt i.toInt)) (k := Int64.toInt) (l := is)
      fun i _ => readInt64_number i
    rw [read?_bytes hv, Option.bind_some]
    simp only [type, PayloadType.read?, Syntax.list?, hread, Option.map_some, List.map_map]
    rfl
  | stringMap m =>
    obtain ⟨entries, hperm, rfl⟩ := h
    have hv : Syntax.ofValue? (members entries) = some (.object (entries.map fun e =>
        (Literal.ofString e.1, .string (Literal.ofString e.2)))) := by
      rw [members, Syntax.ofValue?, membersOfValues?_map (fun _ => rfl) entries, Option.map_some]
    rw [read?_bytes hv, Option.bind_some]
    simp only [type, PayloadType.read?, map?_text, Option.map_some, sortMembers_eq m.inOrder hperm]
    rfl
  | record num s =>
    obtain rfl : v = .object [("num", .integer num.toInt), ("s", .string s)] := h
    rw [read?_bytes rfl, Option.bind_some]
    exact readRecord_expected num s

end Payload

/-- A decoded message gives the payload that was put into it if its type is trusted, and is refused
otherwise. -/
theorem ObjectMessage.getObject_ofValue (typeName : String) {p : Payload} {v : Value}
    (h : p.IsWritten v) (trusted : TrustedPackages) (complaint : Complaint) :
    (ofValue typeName v).getObject trusted p.type complaint =
      if trusted.isTrusted typeName then .ok p.toJson else .error (.untrustedPayload typeName) := by
  simp only [getObject, decoded, ofValue, Payload.read?_written h]

/-- Messages and destinations are read back as they were written, whatever they hold. A message that
was made of a payload gives, after it was written and read, what tells exactly this payload from all
others of its type, to those who trust the type; it gives nothing to others. -/
theorem messages_survive_the_wire :
    (∀ m : ObjectMessage, decode? ObjectMessage.ofJson? m.toJson.render = some m) ∧
      (∀ d : Destination, decode? Destination.ofJson? d.toJson.render = some d) ∧
      (∀ p q : Payload, p.type = q.type → p.toJson = q.toJson → p = q) ∧
      ∀ (typeName : String) (p : Payload) (v : Value), p.IsWritten v →
        ∃ m,
          decode? ObjectMessage.ofJson? (ObjectMessage.ofValue typeName v).toJson.render = some m ∧
          ∀ (trusted : TrustedPackages) (complaint : Complaint),
            m.getObject trusted p.type complaint =
              if trusted.isTrusted typeName then .ok p.toJson
              else .error (.untrustedPayload typeName) := by
  refine ⟨ObjectMessage.decode?_toJson, Destination.decode?_toJson,
    fun _ _ => Payload.eq_of_toJson_eq, fun typeName p v h => ?_⟩
  exact ⟨_, ObjectMessage.decode?_toJson _, ObjectMessage.getObject_ofValue typeName h⟩

/-- A map that was written in another order than that of its keys. -/
theorem shuffled_map_survives_the_wire :
    ∃ m, decode? ObjectMessage.ofJson? (ObjectMessage.ofValue "java.util.HashMap"
          (Payload.members [("b", "2"), ("a", "1")])).toJson.render = some m ∧
      m.getObject .default .stringMap (fun _ _ => "expected a map") =
        .ok (Payload.members [("a", "1"), ("b", "2")]) ∧
      m.getObject ⟨["java.lang"]⟩ .stringMap (fun _ _ => "expected a map") =
        .error (.untrustedPayload "java.util.HashMap") := by
  have hordered : InOrder [("a", "1"), ("b", "2")] := by
    unfold InOrder
    decide
  obtain ⟨m, hm, hget⟩ := messages_survive_the_wire.2.2.2 "java.util.HashMap"
    (.stringMap ⟨[("a", "1"), ("b", "2")], hordered⟩) (Payload.members [("b", "2"), ("a", "1")])
    ⟨_, List.Perm.swap _ _ _, rfl⟩
  have htrusted : TrustedPackages.default.isTrusted "java.util.HashMap" = true := by decide
  have hother : (TrustedPackages.mk ["java.lang"]).isTrusted "java.util.HashMap" = false := by
    decide
  refine ⟨m, hm, ?_, ?_⟩
  · exact (hget _ _).trans (if_pos htrusted)
  · exact (hget _ _).trans (if_neg (Bool.eq_false_iff.mp hother))

end BrokerClient
