import Estafeta.Fidelity

/-!
# Structs and JSON objects, there and back

A struct that becomes JSON and a struct again has lost what JSON has no value for
(`Struct.normal`); an object that becomes a struct and JSON again has its numbers as floats
(`Json.floated`). Either loss happens once.
-/

namespace Estafeta

/-! ## Floats of numbers -/

namespace F64

theorem significand_le (n : ℕ) : significand n ≤ 2 ^ 53 := by
  have below : n < 2 ^ (n.log2 + 1) := Nat.lt_log2_self
  unfold significand
  dsimp only
  by_cases small : n.log2 ≤ 52
  · rw [if_pos small]
    have scaled : n * 2 ^ (52 - n.log2) < 2 ^ (n.log2 + 1) * 2 ^ (52 - n.log2) :=
      Nat.mul_lt_mul_of_pos_right below (Nat.two_pow_pos _)
    rw [← Nat.pow_add, show n.log2 + 1 + (52 - n.log2) = 53 by omega] at scaled
    exact scaled.le
  · rw [if_neg small]
    have quotient : n / 2 ^ (n.log2 - 52) < 2 ^ 53 := by
      rw [Nat.div_lt_iff_lt_mul (Nat.two_pow_pos _), ← Nat.pow_add,
        show 53 + (n.log2 - 52) = n.log2 + 1 by omega]
      exact below
    split <;> omega

/-- The exponent of a natural number's float is far below the largest one. -/
theorem isFinite_ofNat {n : ℕ} (small : n < 2 ^ 64) : (ofNat n).isFinite = true := by
  unfold ofNat
  by_cases zero : n = 0
  · rw [if_pos zero]
    rfl
  rw [if_neg zero]
  have magnitude : n.log2 < 64 := (Nat.log2_lt zero).2 small
  have digits := significand_le n
  have bits : (n.log2 + 1023) * 2 ^ 52 + (significand n - 2 ^ 52) < 1088 * 2 ^ 52 := by omega
  refine decide_eq_true fun largest => ?_
  have fits : (UInt64.ofNat ((n.log2 + 1023) * 2 ^ 52 + (significand n - 2 ^ 52))).toNat =
      (n.log2 + 1023) * 2 ^ 52 + (significand n - 2 ^ 52) :=
    UInt64.toNat_ofNat_of_lt' (lt_trans bits (by decide))
  dsimp only at largest
  rw [fits] at largest
  omega

theorem isFinite_neg (x : F64) : x.neg.isFinite = x.isFinite := by
  have exponent : (x.bits ^^^ UInt64.ofNat (2 ^ 63)).toNat / 2 ^ 52 % 2 ^ 11 =
      x.bits.toNat / 2 ^ 52 % 2 ^ 11 := by
    rw [UInt64.toNat_xor, ← Nat.shiftRight_eq_div_pow, ← Nat.shiftRight_eq_div_pow,
      Nat.shiftRight_xor_distrib, Nat.xor_mod_two_pow]
    exact Nat.xor_zero _
  unfold isFinite neg
  rw [exponent]

end F64

namespace Number

/-- The float of a number, zero if it had none. -/
def toF64 (n : Number) : F64 := n.asF64.getD F64.zero

theorem isFinite_toF64 (n : Number) : n.toF64.isFinite = true := by
  cases n with
  | posInt n => exact F64.isFinite_ofNat n.toNat_lt
  | negInt n =>
    have small : n.toInt.natAbs < 2 ^ 64 := by
      have := n.toInt_lt
      have := n.le_toInt
      omega
    show (if n < 0 then (F64.ofNat n.toInt.natAbs).neg else F64.ofNat n.toInt.natAbs).isFinite = true
    split
    · rw [F64.isFinite_neg]
      exact F64.isFinite_ofNat small
    · exact F64.isFinite_ofNat small
  | float x finite => exact finite

/-- The float form of a number. -/
def floated (n : Number) : Number := .float n.toF64 n.isFinite_toF64

/-- Whether a number is a float. -/
def isFloat : Number → Bool
  | .float .. => true
  | _ => false

theorem fromF64_toF64 (n : Number) : fromF64 n.toF64 = some n.floated :=
  dif_pos n.isFinite_toF64

theorem floated_of_isFloat {n : Number} (float : n.isFloat = true) : n.floated = n := by
  cases n with
  | float x finite => rfl
  | _ => cases float

end Number

/-! ## Objects -/

mutual

/-- The value with every number replaced by its float form. -/
def Json.floated : Json → Json
  | .null => .null
  | .bool b => .bool b
  | .number n => .number n.floated
  | .string s => .string s
  | .array values => .array (Json.floatedValues values)
  | .object fields => .object (Json.floatedFields fields)

/-- The values of an array. -/
def Json.floatedValues : List Json → List Json
  | [] => []
  | v :: vs => v.floated :: Json.floatedValues vs

/-- The fields of an object. -/
def Json.floatedFields : List (String × Json) → List (String × Json)
  | [] => []
  | (k, v) :: fields => (k, v.floated) :: Json.floatedFields fields

end

mutual

/-- Whether all numbers of a value are floats. -/
def Json.allFloats : Json → Bool
  | .number n => n.isFloat
  | .array values => Json.allFloatsValues values
  | .object fields => Json.allFloatsFields fields
  | _ => true

/-- The values of an array. -/
def Json.allFloatsValues : List Json → Bool
  | [] => true
  | v :: vs => v.allFloats && Json.allFloatsValues vs

/-- The fields of an object. -/
def Json.allFloatsFields : List (String × Json) → Bool
  | [] => true
  | (_, v) :: fields => v.allFloats && Json.allFloatsFields fields

end

mutual

/-- A value comes back with its numbers as floats. -/
theorem proto_roundTrip : ∀ v : Json, protoValueToJson (jsonToProtoValue v) = v.floated
  | .null => rfl
  | .bool _ => rfl
  | .number n => by
    rw [jsonToProtoValue, protoValueToJson, show n.asF64.getD F64.zero = n.toF64 from rfl,
      Number.fromF64_toF64, Json.floated]
  | .string _ => rfl
  | .array values => by
    rw [jsonToProtoValue, protoValueToJson, protoValues_roundTrip, Json.floated]
  | .object fields => by
    rw [jsonToProtoValue, protoValueToJson, protoFields_roundTrip, Json.floated]

theorem protoValues_roundTrip : ∀ vs : List Json,
    protoValuesToJson (jsonToProtoValues vs) = Json.floatedValues vs
  | [] => rfl
  | v :: vs => by
    rw [jsonToProtoValues, protoValuesToJson, proto_roundTrip, protoValues_roundTrip,
      Json.floatedValues]

theorem protoFields_roundTrip : ∀ fields : List (String × Json),
    protoFieldsToJson (jsonToProtoFields fields) = Json.floatedFields fields
  | [] => rfl
  | (k, v) :: fields => by
    rw [jsonToProtoFields, protoFieldsToJson, proto_roundTrip, protoFields_roundTrip,
      Json.floatedFields]

end

mutual

theorem Json.floated_of_allFloats : ∀ v : Json, v.allFloats = true → v.floated = v
  | .null, _ => rfl
  | .bool _, _ => rfl
  | .number n, floats => by
    rw [Json.floated, Number.floated_of_isFloat floats]
  | .string _, _ => rfl
  | .array values, floats => by
    rw [Json.floated, Json.floatedValues_of_allFloats values floats]
  | .object fields, floats => by
    rw [Json.floated, Json.floatedFields_of_allFloats fields floats]

theorem Json.floatedValues_of_allFloats : ∀ vs : List Json, Json.allFloatsValues vs = true →
    Json.floatedValues vs = vs
  | [], _ => rfl
  | v :: vs, floats => by
    obtain ⟨first, rest⟩ := Bool.and_eq_true_iff.1 floats
    rw [Json.floatedValues, Json.floated_of_allFloats v first,
      Json.floatedValues_of_allFloats vs rest]

theorem Json.floatedFields_of_allFloats : ∀ fields : List (String × Json),
    Json.allFloatsFields fields = true → Json.floatedFields fields = fields
  | [], _ => rfl
  | (k, v) :: fields, floats => by
    obtain ⟨first, rest⟩ := Bool.and_eq_true_iff.1 floats
    rw [Json.floatedFields, Json.floated_of_allFloats v first,
      Json.floatedFields_of_allFloats fields rest]

end

mutual

theorem Json.allFloats_floated : ∀ v : Json, v.floated.allFloats = true
  | .null => rfl
  | .bool _ => rfl
  | .number _ => rfl
  | .string _ => rfl
  | .array values => Json.allFloats_floatedValues values
  | .object fields => Json.allFloats_floatedFields fields

theorem Json.allFloats_floatedValues : ∀ vs : List Json,
    Json.allFloatsValues (Json.floatedValues vs) = true
  | [] => rfl
  | v :: vs => Bool.and_eq_true_iff.2 ⟨Json.allFloats_floated v, Json.allFloats_floatedValues vs⟩

theorem Json.allFloats_floatedFields : ∀ fields : List (String × Json),
    Json.allFloatsFields (Json.floatedFields fields) = true
  | [] => rfl
  | (_, v) :: fields =>
    Bool.and_eq_true_iff.2 ⟨Json.allFloats_floated v, Json.allFloats_floatedFields fields⟩

end

/-! ## Structs -/

/-- What becomes of a struct: at every depth what JSON has no value for is null. -/
def Struct.normal (s : Struct) : Struct := ⟨ProtoValue.normalFields s.fields⟩

mutual

theorem ProtoValue.normal_normal : ∀ v : ProtoValue, v.normal.normal = v.normal
  | .unset => rfl
  | .nullValue _ => rfl
  | .numberValue x => by
    by_cases finite : x.isFinite = true
    · rw [ProtoValue.normal, if_pos finite, ProtoValue.normal, if_pos finite]
    · rw [ProtoValue.normal, if_neg finite, ProtoValue.normal]
  | .stringValue _ => rfl
  | .boolValue _ => rfl
  | .structValue fields => by
    rw [ProtoValue.normal, ProtoValue.normal, ProtoValue.normalFields_normalFields]
  | .listValue values => by
    rw [ProtoValue.normal, ProtoValue.normal, ProtoValue.normalValues_normalValues]

theorem ProtoValue.normalValues_normalValues : ∀ vs : List ProtoValue,
    ProtoValue.normalValues (ProtoValue.normalValues vs) = ProtoValue.normalValues vs
  | [] => rfl
  | v :: vs => by
    rw [ProtoValue.normalValues, ProtoValue.normalValues, ProtoValue.normal_normal,
      ProtoValue.normalValues_normalValues]

theorem ProtoValue.normalFields_normalFields : ∀ fields : List (String × ProtoValue),
    ProtoValue.normalFields (ProtoValue.normalFields fields) = ProtoValue.normalFields fields
  | [] => rfl
  | (k, v) :: fields => by
    rw [ProtoValue.normalFields, ProtoValue.normalFields, ProtoValue.normal_normal,
      ProtoValue.normalFields_normalFields]

end

theorem struct_there_and_back (s : Struct) :
    valueToProtoStruct (protoStructToValue s) = some s.normal :=
  congrArg (fun fields => some (Struct.mk fields)) (fields_roundTrip s.fields)

theorem object_there_and_back (fields : List (String × Json)) :
    (valueToProtoStruct (.object fields)).map protoStructToValue =
      some (Json.object fields).floated := by
  show some (Json.object (protoFieldsToJson (jsonToProtoFields fields))) = _
  rw [protoFields_roundTrip, Json.floated]

/-- A struct comes back as its normal form, an object with its numbers as floats, so that one whose
numbers are floats comes back as it was; and what has come back once comes back as it is. -/
theorem struct_roundTrip :
    (∀ s : Struct, valueToProtoStruct (protoStructToValue s) = some s.normal) ∧
    (∀ fields : List (String × Json),
      (valueToProtoStruct (.object fields)).map protoStructToValue =
        some (Json.object fields).floated ∧
      ((Json.object fields).allFloats = true →
        (valueToProtoStruct (.object fields)).map protoStructToValue = some (.object fields))) ∧
    (∀ s s' : Struct, valueToProtoStruct (protoStructToValue s) = some s' →
      valueToProtoStruct (protoStructToValue s') = some s') ∧
    ∀ v v' : Json, (valueToProtoStruct v).map protoStructToValue = some v' →
      (valueToProtoStruct v').map protoStructToValue = some v' := by
  have whole : ∀ fields, (Json.object fields).allFloats = true →
      (valueToProtoStruct (.object fields)).map protoStructToValue = some (.object fields) := by
    intro fields floats
    rw [object_there_and_back, Json.floated_of_allFloats _ floats]
  refine ⟨struct_there_and_back, fun fields => ⟨object_there_and_back fields, whole fields⟩, ?_, ?_⟩
  · intro s s' back
    cases (struct_there_and_back s).symm.trans back
    rw [struct_there_and_back, Struct.normal, Struct.normal,
      ProtoValue.normalFields_normalFields]
  · intro v v' back
    cases v with
    | object fields =>
      cases (object_there_and_back fields).symm.trans back
      exact whole _ (Json.allFloats_floated (.object fields))
    | _ => cases back

end Estafeta
