import Mathlib.Algebra.Group.Int.Defs
import Mathlib.Algebra.Group.Nat.Defs

/-!
# JSON values and protobuf structs

`Json` is `serde_json::Value` and `Struct` is `prost_types::Struct`; both keep the fields of an
object in a map ordered by key, which is a list of pairs here. The conversions between the two are
those of `grpc/proto_convert.rs`.
-/

namespace Estafeta

/-! ## Numbers -/

/-- An `f64`, as its bits. -/
structure F64 where
  bits : UInt64
  deriving DecidableEq

namespace F64

/-- The value zero. -/
def zero : F64 := ⟨0⟩

/-- Neither infinite nor NaN: the exponent is not the largest one. -/
def isFinite (x : F64) : Bool := x.bits.toNat / 2 ^ 52 % 2 ^ 11 ≠ 2047

/-- The significand of `n` scaled to 53 bits, rounded to the nearest, ties to even. -/
def significand (n : ℕ) : ℕ :=
  let e := n.log2
  if e ≤ 52 then n * 2 ^ (52 - e)
  else
    let q := n / 2 ^ (e - 52)
    let r := n % 2 ^ (e - 52)
    let half := 2 ^ (e - 53)
    if half < r ∨ r = half ∧ q % 2 = 1 then q + 1 else q

/-- The float nearest to a natural number below `2 ^ 64`. -/
def ofNat (n : ℕ) : F64 :=
  if n = 0 then zero
  -- a significand rounded up to `2 ^ 53` carries into the exponent
  else ⟨UInt64.ofNat ((n.log2 + 1023) * 2 ^ 52 + (significand n - 2 ^ 52))⟩

/-- The opposite of a float. -/
def neg (x : F64) : F64 := ⟨x.bits ^^^ UInt64.ofNat (2 ^ 63)⟩

end F64

/-- `serde_json::Number`: an unsigned or a negative integer, or a finite float. -/
inductive Number where
  | posInt (n : UInt64)
  | negInt (n : Int64)
  | float (x : F64) (finite : x.isFinite = true)
  deriving DecidableEq

namespace Number

/-- The number of a finite float. -/
def fromF64 (x : F64) : Option Number :=
  if h : x.isFinite = true then some (.float x h) else none

/-- The float of a number. -/
def asF64 : Number → Option F64
  | .posInt n => some (F64.ofNat n.toNat)
  | .negInt n => some (if n < 0 then (F64.ofNat n.toInt.natAbs).neg else F64.ofNat n.toInt.natAbs)
  | .float x _ => some x

end Number

/-- A float that a JSON number can be. -/
abbrev FiniteF64 := {x : F64 // x.isFinite = true}

/-! ## Values -/

/-- `serde_json::Value`. -/
inductive Json where
  | null
  | bool (b : Bool)
  | number (n : Number)
  | string (s : String)
  | array (values : List Json)
  | object (fields : List (String × Json))
  deriving Inhabited

namespace Json

/-- The value of a field of an object. -/
def get? : Json → String → Option Json
  | .object fields, key => fields.lookup key
  | _, _ => none

/-- The Boolean that a value is. -/
def asBool? : Json → Option Bool
  | .bool b => some b
  | _ => none

/-- The string that a value is. -/
def asStr? : Json → Option String
  | .string s => some s
  | _ => none

/-- The fields of the object that a value is. -/
def asObject? : Json → Option (List (String × Json))
  | .object fields => some fields
  | _ => none

end Json

/-! ## Text

`serde_json` writes the shortest text of a float, and reads it with best-effort precision: what it
reads may be another float. All else is read as it was written. -/

/-- The number that is read of the text of a number. -/
def Number.reread (floatText : FiniteF64 → FiniteF64) : Number → Number
  | .posInt n => .posInt n
  | .negInt n => .negInt n
  | .float x finite => .float (floatText ⟨x, finite⟩).1 (floatText ⟨x, finite⟩).2

mutual

/-- The value that is read of the text of a value. -/
def Json.reread (floatText : FiniteF64 → FiniteF64) : Json → Json
  | .null => .null
  | .bool b => .bool b
  | .number n => .number (n.reread floatText)
  | .string s => .string s
  | .array values => .array (Json.rereadValues floatText values)
  | .object fields => .object (Json.rereadFields floatText fields)

/-- The values that are read of the text of an array. -/
def Json.rereadValues (floatText : FiniteF64 → FiniteF64) : List Json → List Json
  | [] => []
  | v :: vs => v.reread floatText :: Json.rereadValues floatText vs

/-- The fields that are read of the text of an object. -/
def Json.rereadFields (floatText : FiniteF64 → FiniteF64) :
    List (String × Json) → List (String × Json)
  | [] => []
  | (k, v) :: fields => (k, v.reread floatText) :: Json.rereadFields floatText fields

end

mutual

/-- Whether every number of a value is read of its text as it was. -/
def Json.survives (floatText : FiniteF64 → FiniteF64) : Json → Bool
  | .number n => n.reread floatText = n
  | .array values => Json.survivesValues floatText values
  | .object fields => Json.survivesFields floatText fields
  | _ => true

/-- The values of an array. -/
def Json.survivesValues (floatText : FiniteF64 → FiniteF64) : List Json → Bool
  | [] => true
  | v :: vs => v.survives floatText && Json.survivesValues floatText vs

/-- The fields of an object. -/
def Json.survivesFields (floatText : FiniteF64 → FiniteF64) : List (String × Json) → Bool
  | [] => true
  | (_, v) :: fields => v.survives floatText && Json.survivesFields floatText fields

end

/-! ## Structs -/

/-- `prost_types::Value`; a value whose kind is missing is `unset`. -/
inductive ProtoValue where
  | unset
  | nullValue (n : Int32)
  | numberValue (x : F64)
  | stringValue (s : String)
  | boolValue (b : Bool)
  | structValue (fields : List (String × ProtoValue))
  | listValue (values : List ProtoValue)

/-- `prost_types::Struct`. -/
structure Struct where
  fields : List (String × ProtoValue)

/-! ## Conversions -/

mutual

/-- Convert a protobuf value to JSON. -/
def protoValueToJson : ProtoValue → Json
  | .unset => .null
  | .nullValue _ => .null
  | .numberValue x =>
    match Number.fromF64 x with
    | some n => .number n
    | none => .null
  | .stringValue s => .string s
  | .boolValue b => .bool b
  | .structValue fields => .object (protoFieldsToJson fields)
  | .listValue values => .array (protoValuesToJson values)

/-- Convert the values of a protobuf list. -/
def protoValuesToJson : List ProtoValue → List Json
  | [] => []
  | v :: vs => protoValueToJson v :: protoValuesToJson vs

/-- Convert the fields of a struct. -/
def protoFieldsToJson : List (String × ProtoValue) → List (String × Json)
  | [] => []
  | (k, v) :: fields => (k, protoValueToJson v) :: protoFieldsToJson fields

end

/-- Convert a struct to a JSON value. -/
def protoStructToValue (s : Struct) : Json := .object (protoFieldsToJson s.fields)

mutual

/-- Convert a JSON value to a protobuf value. -/
def jsonToProtoValue : Json → ProtoValue
  | .null => .nullValue 0
  | .bool b => .boolValue b
  | .number n => .numberValue (n.asF64.getD F64.zero)
  | .string s => .stringValue s
  | .array values => .listValue (jsonToProtoValues values)
  | .object fields => .structValue (jsonToProtoFields fields)

/-- Convert the values of a JSON array. -/
def jsonToProtoValues : List Json → List ProtoValue
  | [] => []
  | v :: vs => jsonToProtoValue v :: jsonToProtoValues vs

/-- Convert the fields of a JSON object. -/
def jsonToProtoFields : List (String × Json) → List (String × ProtoValue)
  | [] => []
  | (k, v) :: fields => (k, jsonToProtoValue v) :: jsonToProtoFields fields

end

/-- Convert a JSON object to a struct. -/
def valueToProtoStruct : Json → Option Struct
  | .object fields => some ⟨jsonToProtoFields fields⟩
  | _ => none

/-! ## Structs of texts -/

section

variable {floatText : FiniteF64 → FiniteF64}

mutual

theorem reread_of_survives : ∀ {v : Json}, v.survives floatText = true → v.reread floatText = v
  | .null, _ | .bool _, _ | .string _, _ => rfl
  | .number _, same => congrArg Json.number (of_decide_eq_true same)
  | .array _, same => congrArg Json.array (rereadValues_of_survives same)
  | .object _, same => congrArg Json.object (rereadFields_of_survives same)

theorem rereadValues_of_survives : ∀ {vs : List Json},
    Json.survivesValues floatText vs = true → Json.rereadValues floatText vs = vs
  | [], _ => rfl
  | _ :: _, same => by
    obtain ⟨head, tail⟩ := Bool.and_eq_true_iff.1 same
    exact congrArg₂ _ (reread_of_survives head) (rereadValues_of_survives tail)

theorem rereadFields_of_survives : ∀ {fields : List (String × Json)},
    Json.survivesFields floatText fields = true → Json.rereadFields floatText fields = fields
  | [], _ => rfl
  | (_, _) :: _, same => by
    obtain ⟨head, tail⟩ := Bool.and_eq_true_iff.1 same
    exact congrArg₂ (fun v vs => (_, v) :: vs) (reread_of_survives head)
      (rereadFields_of_survives tail)

end

theorem numberValue_reread (n : Number) : jsonToProtoValue (.number (n.reread floatText)) =
    jsonToProtoValue (.number n) ↔ n.reread floatText = n := by
  cases n with
  | posInt | negInt => exact iff_of_true rfl rfl
  | float x finite => simp [jsonToProtoValue, Number.reread, Number.asF64]

mutual

/-- A value and what is read of its text are the same for protobuf just if all numbers survive. -/
theorem jsonToProtoValue_reread : ∀ v : Json,
    jsonToProtoValue (v.reread floatText) = jsonToProtoValue v ↔ v.survives floatText = true
  | .null | .bool _ | .string _ => iff_of_true rfl rfl
  | .number n => (numberValue_reread n).trans decide_eq_true_iff.symm
  | .array values => by
    simpa [Json.reread, Json.survives, jsonToProtoValue] using jsonToProtoValues_reread values
  | .object fields => by
    simpa [Json.reread, Json.survives, jsonToProtoValue] using jsonToProtoFields_reread fields

theorem jsonToProtoValues_reread : ∀ vs : List Json,
    jsonToProtoValues (Json.rereadValues floatText vs) = jsonToProtoValues vs ↔
      Json.survivesValues floatText vs = true
  | [] => iff_of_true rfl rfl
  | v :: vs => by
    rw [Json.rereadValues, jsonToProtoValues, jsonToProtoValues, List.cons.injEq,
      jsonToProtoValue_reread, jsonToProtoValues_reread, Json.survivesValues, Bool.and_eq_true]

theorem jsonToProtoFields_reread : ∀ fields : List (String × Json),
    jsonToProtoFields (Json.rereadFields floatText fields) = jsonToProtoFields fields ↔
      Json.survivesFields floatText fields = true
  | [] => iff_of_true rfl rfl
  | (k, v) :: fields => by
    rw [Json.rereadFields, jsonToProtoFields, jsonToProtoFields, List.cons.injEq, Prod.mk.injEq,
      jsonToProtoValue_reread, jsonToProtoFields_reread, Json.survivesFields, Bool.and_eq_true]
    exact and_congr_left' (and_iff_right rfl)

end

end

end Estafeta
