import TboxFramework.Library.Decimal
import TboxFramework.Store.SaveMachine

/-!
# The serializer at `int`, `bool` and `std::string`

Formatted output and input of the streams with their default flags. `std::string`
has its own specialisation, which passes the bytes through.
-/

namespace TboxFramework.Store

open Decimal

set_option autoImplicit false

/-- A serializer together with its reading direction; none models the answer false. -/
structure Codec (Value : Type) extends Serializer Value where
  deserialize : Bytes → Option Value

/-- The type writes no empty text and reads back what it has written. -/
structure Codec.Lossless {Value : Type} (codec : Codec Value) (value : Value) : Prop where
  serialized : codec.serialize value = [] → codec.isString value = true
  restored : codec.deserialize (codec.serialize value) = some value

/-- `std::isspace` in the classic locale. -/
def isSpace (byte : UInt8) : Bool := byte = 32 ∨ (9 ≤ byte ∧ byte ≤ 13)

/-- A leading sign: whether it is a minus, and what follows it. -/
def splitSign : Bytes → Bool × Bytes
  | 45 :: rest => (true, rest)
  | 43 :: rest => (false, rest)
  | rest => (false, rest)

/-- `num_get` on an integer: blanks, a sign and at least one digit. -/
def extractInteger (bytes : Bytes) : Option Int :=
  let signed := splitSign (bytes.dropWhile isSpace)
  let digits := signed.2.takeWhile fun byte => IsDigit byte
  if digits = [] then none
  else some (if signed.1 then - (value digits : Int) else value digits)

def serializeInt (value : Int32) : Bytes := signedNumeral value.toInt

/-- A number beyond the range of `int` sets `failbit`. -/
def deserializeInt (bytes : Bytes) : Option Int32 :=
  match extractInteger bytes with
  | some number =>
      if Int32.minValue.toInt ≤ number ∧ number ≤ Int32.maxValue.toInt then
        some (Int32.ofInt number)
      else none
  | none => none

def serializeBool (value : Bool) : Bytes := if value then [49] else [48]

/-- Without `boolalpha` only the numbers 0 and 1 are booleans. -/
def deserializeBool (bytes : Bytes) : Option Bool :=
  match extractInteger bytes with
  | some number => if number = 0 then some false else if number = 1 then some true else none
  | none => none

/-- The generic `deserialize` refuses empty input before it reads. -/
def unlessEmpty {Value : Type} (read : Bytes → Option Value) (bytes : Bytes) : Option Value :=
  if bytes = [] then none else read bytes

namespace Codec

def int : Codec Int32 where
  serialize := serializeInt
  isString := fun _ => false
  deserialize := unlessEmpty deserializeInt

def bool : Codec Bool where
  serialize := serializeBool
  isString := fun _ => false
  deserialize := unlessEmpty deserializeBool

def string : Codec Bytes where
  toSerializer := Serializer.string
  deserialize := some

end Codec

/-! ## What is written is read back -/

theorem digit_not_sign {byte : UInt8} (isDigit : IsDigit byte) :
    isSpace byte = false ∧ byte ≠ 45 ∧ byte ≠ 43 := by
  obtain ⟨low, high⟩ := isDigit
  rw [UInt8.le_iff_toNat_le] at low high
  unfold isSpace
  simp only [← UInt8.toNat_inj, UInt8.le_iff_toNat_le, ne_eq, decide_eq_false_iff_not] at low high ⊢
  simp at low high ⊢
  omega

theorem split_sign_digits {first : UInt8} {rest : Bytes} (isDigit : IsDigit first) :
    splitSign (first :: rest) = (false, first :: rest) := by
  obtain ⟨-, minus, plus⟩ := digit_not_sign isDigit
  unfold splitSign
  split
  · rename_i same
    exact absurd (List.cons.inj same).1 minus
  · rename_i same
    exact absurd (List.cons.inj same).1 plus
  · rfl

theorem take_digits (number : Nat) :
    (numeral number).takeWhile (fun byte => IsDigit byte) = numeral number := by
  rw [List.takeWhile_eq_self_iff]
  intro byte member
  exact decide_eq_true (numeral_digits number byte member)

theorem split_sign_numeral (number : Nat) :
    splitSign ((numeral number).dropWhile isSpace) = (false, numeral number) := by
  obtain ⟨first, rest, shape⟩ := List.exists_cons_of_ne_nil (numeral_ne_nil number)
  have isDigit : IsDigit first := numeral_digits number first (by simp [shape])
  rw [shape, List.dropWhile_cons_of_neg (by simp [(digit_not_sign isDigit).1]),
    split_sign_digits isDigit]

theorem extract_signed_numeral (number : Int) :
    extractInteger (signedNumeral number) = some number := by
  unfold extractInteger signedNumeral minusText
  by_cases negative : number < 0
  · have blank : ¬isSpace 45 = true := by decide
    simp only [negative, decide_true, if_true, List.singleton_append,
      List.dropWhile_cons_of_neg blank, splitSign, take_digits, numeral_ne_nil, if_false,
      value_numeral, Option.some.injEq]
    omega
  · simp only [negative, decide_false, Bool.false_eq_true, if_false, List.nil_append,
      split_sign_numeral, take_digits, numeral_ne_nil, value_numeral, Option.some.injEq]
    omega

theorem signed_numeral_ne_nil (number : Int) : signedNumeral number ≠ [] := by
  unfold signedNumeral
  rw [ne_eq, List.append_eq_nil_iff, not_and]
  exact fun _ => numeral_ne_nil _

theorem int_lossless (value : Int32) : Codec.int.Lossless value where
  serialized := fun empty => absurd empty (signed_numeral_ne_nil _)
  restored := by
    have lower : Int32.minValue.toInt ≤ value.toInt := value.minValue_le_toInt
    have upper : value.toInt ≤ Int32.maxValue.toInt := value.toInt_le
    have written : serializeInt value ≠ [] := signed_numeral_ne_nil _
    change unlessEmpty deserializeInt (serializeInt value) = some value
    rw [unlessEmpty, if_neg written, deserializeInt, serializeInt, extract_signed_numeral]
    simp only
    rw [if_pos ⟨lower, upper⟩, Int32.ofInt_toInt]

theorem bool_lossless (value : Bool) : Codec.bool.Lossless value where
  serialized := by
    intro empty
    cases value <;> cases empty
  restored := by
    cases value <;> decide

theorem string_lossless (value : Bytes) : Codec.string.Lossless value where
  serialized := fun _ => rfl
  restored := rfl

end TboxFramework.Store
