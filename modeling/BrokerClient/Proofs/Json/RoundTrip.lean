import BrokerClient.Json.Decode
import BrokerClient.Proofs.Json.Literal
import BrokerClient.Proofs.Json.Numeral

/-!
# JSON values read back

The compact text of a value without floating point numbers is read as a whole, as a syntax that can
be told from the value. What is read of it as a type is up to that syntax alone.
-/

namespace BrokerClient.Json

open BrokerClient.Text

mutual

/-- What the text of a value is read as, if no floating point number occurs in it. -/
def Syntax.ofValue? : Value → Option Syntax
  | .null => some .null
  | .bool b => some (.bool b)
  | .integer i => some (.number (Numeral.ofInt i))
  | .float _ => none
  | .string s => some (.string (Literal.ofString s))
  | .array items => (itemsOfValues? items).map .array
  | .object members => (membersOfValues? members).map .object

def itemsOfValues? : List Value → Option (List Syntax)
  | [] => some []
  | v :: vs => do
    let s ← Syntax.ofValue? v
    let ss ← itemsOfValues? vs
    return s :: ss

def membersOfValues? : List (String × Value) → Option (List (Literal × Syntax))
  | [] => some []
  | (k, v) :: ms => do
    let s ← Syntax.ofValue? v
    let ss ← membersOfValues? ms
    return (Literal.ofString k, s) :: ss

end

variable {fuel : Nat} {b : UInt8} {bs r : List UInt8} {l : Literal} {n : Numeral} {s : Syntax}
  {items : List Syntax} {members : List (Literal × Syntax)}

theorem skipBlanks_cons (h : isBlankByte b = false) (bs : List UInt8) :
    skipBlanks (b :: bs) = b :: bs :=
  List.dropWhile_cons_of_neg (Bool.eq_false_iff.mp h)

theorem readValue_string (h : readPieces bs = some (l, r)) :
    readValue (fuel + 1) (ascii '"' :: bs) = some (.string l, r) := by
  have hb : isBlankByte (ascii '"') = false := by decide
  simp only [readValue, skipBlanks_cons hb, if_true, h, Option.map_some]

theorem readValue_emptyArray (r : List UInt8) :
    readValue (fuel + 1) (ascii '[' :: ascii ']' :: r) = some (.array [], r) := by
  have hopen : isBlankByte (ascii '[') = false := by decide
  have hclose : isBlankByte (ascii ']') = false := by decide
  have hq : ascii '[' ≠ ascii '"' := by decide
  simp only [readValue, skipBlanks_cons hopen, skipBlanks_cons hclose, hq, if_true, if_false]

theorem readValue_array (hb : isBlankByte b = false) (hne : b ≠ ascii ']')
    (h : readItems fuel (b :: bs) = some (items, r)) :
    readValue (fuel + 1) (ascii '[' :: b :: bs) = some (.array items, r) := by
  have hopen : isBlankByte (ascii '[') = false := by decide
  have hq : ascii '[' ≠ ascii '"' := by decide
  simp only [readValue, skipBlanks_cons hopen, skipBlanks_cons hb, hq, hne, if_true, if_false, h,
    Option.map_some]

theorem readValue_emptyObject (r : List UInt8) :
    readValue (fuel + 1) (ascii '\x7b' :: ascii '\x7d' :: r) = some (.object [], r) := by
  have hopen : isBlankByte (ascii '\x7b') = false := by decide
  have hclose : isBlankByte (ascii '\x7d') = false := by decide
  have hq : ascii '\x7b' ≠ ascii '"' := by decide
  have ha : ascii '\x7b' ≠ ascii '[' := by decide
  simp only [readValue, skipBlanks_cons hopen, skipBlanks_cons hclose, hq, ha, if_true, if_false]

theorem readValue_object (h : readMembers fuel (ascii '"' :: bs) = some (members, r)) :
    readValue (fuel + 1) (ascii '\x7b' :: ascii '"' :: bs) = some (.object members, r) := by
  have hopen : isBlankByte (ascii '\x7b') = false := by decide
  have hquote : isBlankByte (ascii '"') = false := by decide
  have hq : ascii '\x7b' ≠ ascii '"' := by decide
  have ha : ascii '\x7b' ≠ ascii '[' := by decide
  have hne : ascii '"' ≠ ascii '\x7d' := by decide
  simp only [readValue, skipBlanks_cons hopen, skipBlanks_cons hquote, hq, ha, hne, if_true,
    if_false, h, Option.map_some]

theorem readValue_number (hblank : isBlankByte b = false)
    (hb : b = ascii '-' ∨ isDigitByte b = true) (h : readNumeral (b :: bs) = some (n, r)) :
    readValue (fuel + 1) (b :: bs) = some (.number n, r) := by
  have hne : b ≠ ascii '"' ∧ b ≠ ascii '[' ∧ b ≠ ascii '\x7b' := by
    rcases hb with rfl | hd
    · decide
    · refine ⟨?_, ?_, ?_⟩ <;>
      · rintro rfl
        exact absurd hd (by decide)
  have hstart : (decide (b = ascii '-') || isDigitByte b) = true := by
    rcases hb with rfl | hd
    · rfl
    · rw [hd, Bool.or_true]
  simp only [readValue, skipBlanks_cons hblank, hne.1, hne.2.1, hne.2.2, hstart, if_true, if_false,
    h, Option.map_some]

theorem readItems_last (h : readValue fuel bs = some (s, ascii ']' :: r)) :
    readItems (fuel + 1) bs = some ([s], r) := by
  have hclose : isBlankByte (ascii ']') = false := by decide
  simp only [readItems, h, skipBlanks_cons hclose, if_true]

theorem readItems_more {bs' : List UInt8} (h : readValue fuel bs = some (s, ascii ',' :: bs'))
    (hmore : readItems fuel bs' = some (items, r)) :
    readItems (fuel + 1) bs = some (s :: items, r) := by
  have hcomma : isBlankByte (ascii ',') = false := by decide
  have hne : ascii ',' ≠ ascii ']' := by decide
  simp only [readItems, h, skipBlanks_cons hcomma, hne, if_true, if_false, hmore, Option.map_some]

theorem readMembers_last {bs' : List UInt8} (hkey : readPieces bs = some (l, ascii ':' :: bs'))
    (h : readValue fuel bs' = some (s, ascii '\x7d' :: r)) :
    readMembers (fuel + 1) (ascii '"' :: bs) = some ([(l, s)], r) := by
  have hquote : isBlankByte (ascii '"') = false := by decide
  have hcolon : isBlankByte (ascii ':') = false := by decide
  have hclose : isBlankByte (ascii '\x7d') = false := by decide
  simp only [readMembers, skipBlanks_cons hquote, if_true, hkey, skipBlanks_cons hcolon, h,
    skipBlanks_cons hclose]

theorem readMembers_more {bs' bs'' : List UInt8}
    (hkey : readPieces bs = some (l, ascii ':' :: bs'))
    (h : readValue fuel bs' = some (s, ascii ',' :: bs''))
    (hmore : readMembers fuel bs'' = some (members, r)) :
    readMembers (fuel + 1) (ascii '"' :: bs) = some ((l, s) :: members, r) := by
  have hquote : isBlankByte (ascii '"') = false := by decide
  have hcolon : isBlankByte (ascii ':') = false := by decide
  have hcomma : isBlankByte (ascii ',') = false := by decide
  have hne : ascii ',' ≠ ascii '\x7d' := by decide
  simp only [readMembers, skipBlanks_cons hquote, if_true, hkey, skipBlanks_cons hcolon, h,
    skipBlanks_cons hcomma, hne, if_false, hmore, Option.map_some]

def itemBytes (vs : List Value) : List UInt8 := Utf8.encode (separated (itemChars vs))

def memberBytes (ms : List (String × Value)) : List UInt8 :=
  Utf8.encode (separated (memberChars ms))

theorem bytes_string (s : String) :
    (Value.string s).bytes =
      ascii '"' :: (Utf8.encode (s.toList.flatMap writeChar) ++ [ascii '"']) := by
  rw [Value.bytes, Value.chars, writeString, Utf8.encode_append]
  rfl

theorem bytes_array (vs : List Value) :
    (Value.array vs).bytes = ascii '[' :: (itemBytes vs ++ [ascii ']']) := by
  rw [Value.bytes, Value.chars, Utf8.encode_append]
  rfl

theorem bytes_object (ms : List (String × Value)) :
    (Value.object ms).bytes = ascii '\x7b' :: (memberBytes ms ++ [ascii '\x7d']) := by
  rw [Value.bytes, Value.chars, Utf8.encode_append]
  rfl

theorem itemBytes_singleton (v : Value) : itemBytes [v] = v.bytes := rfl

theorem itemBytes_cons (v v' : Value) (vs : List Value) :
    itemBytes (v :: v' :: vs) = v.bytes ++ ascii ',' :: itemBytes (v' :: vs) := by
  have hchars : separated (itemChars (v :: v' :: vs)) =
      v.chars ++ ',' :: separated (itemChars (v' :: vs)) := rfl
  rw [itemBytes, hchars, Utf8.encode_append]
  rfl

theorem memberBytes_singleton (k : String) (v : Value) :
    memberBytes [(k, v)] = (Value.string k).bytes ++ ascii ':' :: v.bytes := by
  have hchars : separated (memberChars [(k, v)]) = writeString k.toList ++ ':' :: v.chars := rfl
  rw [memberBytes, hchars, Utf8.encode_append]
  rfl

theorem memberBytes_cons (k : String) (v : Value) (m : String × Value)
    (ms : List (String × Value)) :
    memberBytes ((k, v) :: m :: ms) =
      (Value.string k).bytes ++ ascii ':' :: (v.bytes ++ ascii ',' :: memberBytes (m :: ms)) := by
  have hchars : separated (memberChars ((k, v) :: m :: ms)) =
      writeString k.toList ++ ':' :: (v.chars ++ ',' :: separated (memberChars (m :: ms))) := by
    obtain ⟨k', v'⟩ := m
    have hsplit : separated (memberChars ((k, v) :: (k', v') :: ms)) =
        (writeString k.toList ++ ':' :: v.chars) ++
          ',' :: separated (memberChars ((k', v') :: ms)) := rfl
    rw [hsplit, List.append_assoc, List.cons_append]
  rw [memberBytes, hchars, Utf8.encode_append]
  have hvalue : Utf8.encode (':' :: (v.chars ++ ',' :: separated (memberChars (m :: ms)))) =
      ascii ':' :: (Utf8.encode v.chars ++
        Utf8.encode (',' :: separated (memberChars (m :: ms)))) := by
    rw [← Utf8.encode_append]
    rfl
  rw [hvalue]
  rfl

/-- A value starts with neither a blank nor a closing bracket. -/
theorem exists_bytes (v : Value) (hv : Syntax.ofValue? v = some s) :
    ∃ b bs, v.bytes = b :: bs ∧ isBlankByte b = false ∧ b ≠ ascii ']' := by
  cases v with
  | null => exact ⟨_, _, rfl, by decide, by decide⟩
  | bool b => cases b <;> exact ⟨_, _, rfl, by decide, by decide⟩
  | integer i =>
    cases i with
    | ofNat n =>
      obtain ⟨b, bs, hbytes, hdigit, hblank⟩ := exists_encode_decimal n
      refine ⟨b, bs, hbytes, hblank, ?_⟩
      rintro rfl
      exact absurd hdigit (by decide)
    | negSucc n => exact ⟨_, _, rfl, by decide, by decide⟩
  | float x => cases hv
  | string t => exact ⟨_, _, bytes_string t, by decide, by decide⟩
  | array vs => exact ⟨_, _, bytes_array vs, by decide, by decide⟩
  | object ms => exact ⟨_, _, bytes_object ms, by decide, by decide⟩

theorem itemsOfValues?_cons {v : Value} {vs : List Value} {ss : List Syntax}
    (h : itemsOfValues? (v :: vs) = some ss) :
    ∃ s, Syntax.ofValue? v = some s ∧ ∃ ss', itemsOfValues? vs = some ss' ∧ ss = s :: ss' := by
  obtain ⟨s, hs, h⟩ := Option.bind_eq_some_iff.mp h
  obtain ⟨ss', hss', h⟩ := Option.bind_eq_some_iff.mp h
  exact ⟨s, hs, ss', hss', (Option.some.inj h).symm⟩

theorem membersOfValues?_cons {k : String} {v : Value} {ms : List (String × Value)}
    {ss : List (Literal × Syntax)} (h : membersOfValues? ((k, v) :: ms) = some ss) :
    ∃ s, Syntax.ofValue? v = some s ∧
      ∃ ss', membersOfValues? ms = some ss' ∧ ss = (Literal.ofString k, s) :: ss' := by
  obtain ⟨s, hs, h⟩ := Option.bind_eq_some_iff.mp h
  obtain ⟨ss', hss', h⟩ := Option.bind_eq_some_iff.mp h
  exact ⟨s, hs, ss', hss', (Option.some.inj h).symm⟩

/-- Items start as the first of them. -/
theorem exists_itemBytes {v : Value} {vs : List Value} {ss : List Syntax}
    (h : itemsOfValues? (v :: vs) = some ss) :
    ∃ b bs, itemBytes (v :: vs) = b :: bs ∧ isBlankByte b = false ∧ b ≠ ascii ']' := by
  obtain ⟨s, hs, -⟩ := itemsOfValues?_cons h
  obtain ⟨b, bs, hb, hblank, hne⟩ := exists_bytes v hs
  cases vs with
  | nil => exact ⟨b, bs, hb, hblank, hne⟩
  | cons v' vs' =>
    refine ⟨b, bs ++ ascii ',' :: itemBytes (v' :: vs'), ?_, hblank, hne⟩
    rw [itemBytes_cons, hb, List.cons_append]

/-- Members start with the quotation mark of the first key. -/
theorem exists_memberBytes (k : String) (v : Value) (ms : List (String × Value)) :
    ∃ bs, memberBytes ((k, v) :: ms) = ascii '"' :: bs := by
  cases ms with
  | nil => exact ⟨_, by rw [memberBytes_singleton, bytes_string, List.cons_append]⟩
  | cons m ms => exact ⟨_, by rw [memberBytes_cons, bytes_string, List.cons_append]⟩

/-- An integer is read up to what ends it. -/
theorem readValue_integer (i : Int) (hr : EndsNumeral r) :
    readValue (fuel + 1) ((Value.integer i).bytes ++ r) = some (.number (Numeral.ofInt i), r) := by
  have hread := readNumeral_ofInt i hr
  have hbytes : (Value.integer i).bytes = Utf8.encode (writeInteger i) := rfl
  rw [hbytes]
  cases i with
  | ofNat n =>
    obtain ⟨b, bs, hb, hdigit, hblank⟩ := exists_encode_decimal n
    rw [writeInteger, hb, List.cons_append] at hread ⊢
    exact readValue_number hblank (Or.inr hdigit) hread
  | negSucc n => exact readValue_number (by decide) (Or.inl rfl) hread

theorem readValue_writtenString (t : String) (r : List UInt8) :
    readValue (fuel + 1) ((Value.string t).bytes ++ r) =
      some (.string (Literal.ofString t), r) := by
  rw [bytes_string, List.cons_append, List.append_assoc]
  exact readValue_string (readPieces_writeString t r)

theorem endsNumeral_separator (c : Char) (h : c ∈ [',', ']', '\x7d']) (r : List UInt8) :
    EndsNumeral (ascii c :: r) := by
  have hc : c = ',' ∨ c = ']' ∨ c = '\x7d' := by simpa using h
  rcases hc with rfl | rfl | rfl <;> exact endsNumeral_cons (by decide) r

mutual

/-- The bytes of a value are read up to what follows, if the fuel is twice their number. -/
theorem readValue_bytes (v : Value) {s : Syntax} {fuel : Nat} {r : List UInt8}
    (hv : Syntax.ofValue? v = some s) (hf : 2 * v.bytes.length ≤ fuel) (hr : EndsNumeral r) :
    readValue fuel (v.bytes ++ r) = some (s, r) := by
  obtain ⟨n, hfuel⟩ : ∃ n, fuel = n + 1 := by
    obtain ⟨b, bs, hb, -, -⟩ := exists_bytes v hv
    rw [hb, List.length_cons] at hf
    exact ⟨fuel - 1, by omega⟩
  rw [hfuel]
  match v with
  | .null =>
    cases hv
    rfl
  | .bool b =>
    cases hv
    cases b <;> rfl
  | .integer i =>
    cases hv
    exact readValue_integer i hr
  | .float x => cases hv
  | .string t =>
    cases hv
    exact readValue_writtenString t r
  | .array [] =>
    cases hv
    exact readValue_emptyArray r
  | .array (v :: vs) =>
    obtain ⟨ss, hss, rfl⟩ := Option.map_eq_some_iff.mp hv
    rw [bytes_array, List.length_cons, List.length_append, List.length_singleton] at hf
    have hread := readItems_itemBytes v vs (r := r) hss (show _ ≤ n by omega)
    rw [bytes_array, List.cons_append, List.append_assoc, List.singleton_append]
    -- the byte after the opening bracket is the first one of the first item
    obtain ⟨b, bs, hb, hblank, hne⟩ := exists_itemBytes hss
    rw [hb, List.cons_append] at hread ⊢
    exact readValue_array hblank hne hread
  | .object [] =>
    cases hv
    exact readValue_emptyObject r
  | .object ((k, v) :: ms) =>
    obtain ⟨ss, hss, rfl⟩ := Option.map_eq_some_iff.mp hv
    rw [bytes_object, List.length_cons, List.length_append, List.length_singleton] at hf
    have hread := readMembers_memberBytes k v ms (r := r) hss (show _ ≤ n by omega)
    rw [bytes_object, List.cons_append, List.append_assoc, List.singleton_append]
    obtain ⟨bs, hb⟩ := exists_memberBytes k v ms
    rw [hb, List.cons_append] at hread ⊢
    exact readValue_object hread
termination_by fuel

/-- The bytes of items are read up to the closing bracket. -/
theorem readItems_itemBytes (v : Value) (vs : List Value) {ss : List Syntax} {fuel : Nat}
    {r : List UInt8} (hv : itemsOfValues? (v :: vs) = some ss)
    (hf : 2 * (itemBytes (v :: vs)).length + 1 ≤ fuel) :
    readItems fuel (itemBytes (v :: vs) ++ ascii ']' :: r) = some (ss, r) := by
  obtain ⟨n, hfuel⟩ : ∃ n, fuel = n + 1 := ⟨fuel - 1, by omega⟩
  rw [hfuel]
  obtain ⟨s, hs, ss', hss', rfl⟩ := itemsOfValues?_cons hv
  match vs with
  | [] =>
    cases hss'
    rw [itemBytes_singleton] at hf ⊢
    exact readItems_last
      (readValue_bytes v hs (by omega) (endsNumeral_separator ']' (by decide) r))
  | v' :: vs' =>
    rw [itemBytes_cons, List.length_append, List.length_cons] at hf
    rw [itemBytes_cons, List.append_assoc, List.cons_append]
    exact readItems_more
      (readValue_bytes v hs (by omega) (endsNumeral_separator ',' (by decide) _))
      (readItems_itemBytes v' vs' hss' (by omega))
termination_by fuel

/-- The bytes of members are read up to the closing brace. -/
theorem readMembers_memberBytes (k : String) (v : Value) (ms : List (String × Value))
    {ss : List (Literal × Syntax)} {fuel : Nat} {r : List UInt8}
    (hv : membersOfValues? ((k, v) :: ms) = some ss)
    (hf : 2 * (memberBytes ((k, v) :: ms)).length + 1 ≤ fuel) :
    readMembers fuel (memberBytes ((k, v) :: ms) ++ ascii '\x7d' :: r) = some (ss, r) := by
  obtain ⟨n, hfuel⟩ : ∃ n, fuel = n + 1 := ⟨fuel - 1, by omega⟩
  rw [hfuel]
  obtain ⟨s, hs, ss', hss', rfl⟩ := membersOfValues?_cons hv
  match ms with
  | [] =>
    cases hss'
    rw [memberBytes_singleton, List.length_append, List.length_cons] at hf
    rw [memberBytes_singleton, List.append_assoc, List.cons_append, bytes_string,
      List.cons_append, List.append_assoc]
    exact readMembers_last (readPieces_writeString k _)
      (readValue_bytes v hs (by omega) (endsNumeral_separator '\x7d' (by decide) r))
  | (k', v') :: ms' =>
    rw [memberBytes_cons, List.length_append, List.length_cons, List.length_append,
      List.length_cons] at hf
    rw [memberBytes_cons, List.append_assoc, List.cons_append, List.append_assoc,
      List.cons_append, bytes_string, List.cons_append, List.append_assoc]
    exact readMembers_more (readPieces_writeString k _)
      (readValue_bytes v hs (by omega) (endsNumeral_separator ',' (by decide) _))
      (readMembers_memberBytes k' v' ms' hss' (by omega))
termination_by fuel

end

/-- The bytes of a value without floating point numbers are read as what is expected of it. -/
theorem read?_bytes {v : Value} {s : Syntax} (hv : Syntax.ofValue? v = some s) :
    read? v.bytes = some s := by
  have hread : readValue (2 * v.bytes.length + 2) (v.bytes ++ []) = some (s, []) :=
    readValue_bytes v hv (by omega) endsNumeral_nil
  rw [List.append_nil] at hread
  rw [read?, hread]
  rfl

/-- What the text of a value is read as is up to what is expected of it. -/
theorem decode?_render {α : Type} {v : Value} {s : Syntax} (hv : Syntax.ofValue? v = some s)
    (read : Syntax → Option α) : decode? read v.render = read s := by
  have hbytes : Utf8.bytes v.render = v.bytes := by
    rw [Utf8.bytes, Value.render, String.toList_ofList]
    rfl
  rw [decode?, hbytes, read?_bytes hv, Option.bind_some]

end BrokerClient.Json
