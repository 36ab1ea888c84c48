import TboxFramework.Log.LogConfig

/-!
# Log fields

A value carries what its type tag selects; a double is the pattern of its 64 bits,
so that two NaNs with different payloads are two values.
-/

namespace TboxFramework.Log

open TboxFramework.Store (Bytes text)

set_option autoImplicit false

inductive Sensitivity
  | normal
  | identifier
  | payload
  | secret
  deriving DecidableEq

inductive FieldValueType
  | kString
  | kInt64
  | kDouble
  | kBool
  deriving DecidableEq

inductive FieldValue
  | string (stringVal : Bytes)
  | int64 (intVal : Int64)
  | double (doubleVal : UInt64)
  | bool (boolVal : Bool)
  deriving DecidableEq

def FieldValue.type : FieldValue → FieldValueType
  | .string _ => .kString
  | .int64 _ => .kInt64
  | .double _ => .kDouble
  | .bool _ => .kBool

theorem FieldValue.string_or_unprinted (value : FieldValue) :
    (∃ stringVal, value = .string stringVal) ∨ value.type ≠ .kString := by
  cases value with
  | string stringVal => exact .inl ⟨stringVal, rfl⟩
  | int64 intVal => exact .inr FieldValueType.noConfusion
  | double doubleVal => exact .inr FieldValueType.noConfusion
  | bool boolVal => exact .inr FieldValueType.noConfusion

@[ext]
structure Field where
  key : Bytes
  value : FieldValue
  sensitivity : Sensitivity := .normal
  deriving DecidableEq

structure LogContext where
  traceId : Bytes
  requestId : Bytes
  sessionId : Bytes

/-- `std::tolower` in the "C" locale. -/
def toLower (byte : UInt8) : UInt8 := if 65 ≤ byte ∧ byte ≤ 90 then byte + 32 else byte

end TboxFramework.Log
