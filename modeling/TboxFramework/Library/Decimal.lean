import Mathlib.Data.List.Basic

/-!
# Decimal numerals as bytes

The ASCII digits of a number, without leading zeros, the number that a run of digits
denotes, and the texts of numbers with sign, fraction and exponent.
-/

namespace TboxFramework.Decimal

set_option autoImplicit false

/-- The digits of a number as `Nat.repr` writes them. -/
def numeral (number : Nat) : List UInt8 := number.repr.toUTF8.data.toList

def digit (value : Nat) : UInt8 := UInt8.ofNat (48 + value)

def IsDigit (byte : UInt8) : Prop := 48 ≤ byte ∧ byte ≤ 57

instance (byte : UInt8) : Decidable (IsDigit byte) := inferInstanceAs (Decidable (_ ∧ _))

/-- The number that digits denote, most significant first. -/
def valueFrom (start : Nat) (digits : List UInt8) : Nat :=
  digits.foldl (fun number byte => 10 * number + (byte.toNat - 48)) start

def value (digits : List UInt8) : Nat := valueFrom 0 digits

theorem digit_to_nat {number : Nat} (small : number < 10) : (digit number).toNat = 48 + number := by
  simp only [digit, UInt8.toNat_ofNat']
  omega

theorem digit_is_digit {number : Nat} (small : number < 10) : IsDigit (digit number) := by
  unfold IsDigit
  rw [UInt8.le_iff_toNat_le, UInt8.le_iff_toNat_le, digit_to_nat small]
  simp
  omega

theorem numeral_eq_digits (number : Nat) :
    numeral number = (Nat.toDigits 10 number).flatMap String.utf8EncodeChar := by
  unfold numeral
  rw [Nat.repr_eq_ofList_toDigits, String.toUTF8_eq_toByteArray, String.toByteArray_ofList,
    List.utf8Encode, List.data_toByteArray]

theorem encode_digit {number : Nat} (small : number < 10) :
    String.utf8EncodeChar number.digitChar = [digit number] := by
  have code : number.digitChar.val.toNat = 48 + number := Nat.toNat_digitChar_of_lt_ten small
  unfold String.utf8EncodeChar digit
  simp only [code]
  rw [if_pos (by omega)]

theorem numeral_of_lt {number : Nat} (small : number < 10) : numeral number = [digit number] := by
  rw [numeral_eq_digits, Nat.toDigits_of_lt_base small, List.flatMap_singleton, encode_digit small]

theorem numeral_of_ge {number : Nat} (large : 10 ≤ number) :
    numeral number = numeral (number / 10) ++ [digit (number % 10)] := by
  rw [numeral_eq_digits, Nat.toDigits_of_base_le (by omega) large, List.flatMap_append,
    ← numeral_eq_digits, List.flatMap_singleton, encode_digit (Nat.mod_lt _ (by omega))]

/-- Induction on a number by its last digit. -/
theorem digit_induction {motive : Nat → Prop} (small : ∀ number < 10, motive number)
    (longer : ∀ number, 10 ≤ number → motive (number / 10) → motive number) (number : Nat) :
    motive number := by
  induction number using Nat.strongRecOn with
  | ind number induction =>
      by_cases few : number < 10
      · exact small number few
      · exact longer number (by omega) (induction (number / 10) (by omega))

theorem numeral_ne_nil (number : Nat) : numeral number ≠ [] := by
  induction number using digit_induction with
  | small number few => simp [numeral_of_lt few]
  | longer number large => simp [numeral_of_ge large]

theorem numeral_digits (number : Nat) : ∀ byte ∈ numeral number, IsDigit byte := by
  induction number using digit_induction with
  | small number few =>
      intro byte member
      rw [numeral_of_lt few, List.mem_singleton] at member
      rw [member]
      exact digit_is_digit few
  | longer number large induction =>
      intro byte member
      rw [numeral_of_ge large, List.mem_append, List.mem_singleton] at member
      cases member with
      | inl front => exact induction byte front
      | inr last =>
          rw [last]
          exact digit_is_digit (Nat.mod_lt _ (by omega))

/-- Only zero starts with the digit zero. -/
theorem numeral_head {number : Nat} (positive : 0 < number) :
    ∃ first rest, numeral number = first :: rest ∧ IsDigit first ∧ first ≠ 48 := by
  induction number using digit_induction with
  | small number few =>
      refine ⟨digit number, [], numeral_of_lt few, digit_is_digit few, ?_⟩
      intro zero
      have code := digit_to_nat few
      rw [zero] at code
      simp at code
      omega
  | longer number large induction =>
      obtain ⟨first, rest, numeral_eq, isDigit, nonzero⟩ := induction (by omega)
      refine ⟨first, rest ++ [digit (number % 10)], ?_, isDigit, nonzero⟩
      rw [numeral_of_ge large, numeral_eq, List.cons_append]

theorem value_numeral (number : Nat) : value (numeral number) = number := by
  induction number using digit_induction with
  | small number few =>
      rw [numeral_of_lt few]
      simp only [value, valueFrom, List.foldl_cons, List.foldl_nil, digit_to_nat few]
      omega
  | longer number large induction =>
      rw [numeral_of_ge large]
      unfold value valueFrom at induction ⊢
      rw [List.foldl_append, induction, List.foldl_cons, List.foldl_nil,
        digit_to_nat (Nat.mod_lt _ (by omega))]
      omega

/-! ## Numbers with sign, fraction and exponent -/

def minusText (negative : Bool) : List UInt8 := if negative then [45] else []

def fractionText (fraction : List UInt8) : List UInt8 :=
  if fraction = [] then [] else 46 :: fraction

/-- An exponent, or none. -/
def IsExponent (text : List UInt8) : Prop :=
  text = [] ∨ ∃ sign digits, (sign = 43 ∨ sign = 45) ∧ digits ≠ [] ∧
    (∀ byte ∈ digits, IsDigit byte) ∧ text = 101 :: sign :: digits

/-- The whole part is a numeral; fraction and exponent may be missing. -/
def IsNumberText (text : List UInt8) : Prop :=
  ∃ negative integer fraction exponent, (∀ byte ∈ fraction, IsDigit byte) ∧ IsExponent exponent ∧
    text = minusText negative ++ (numeral integer ++ (fractionText fraction ++ exponent))

def signedNumeral (number : Int) : List UInt8 :=
  minusText (number < 0) ++ numeral number.natAbs

theorem signed_numeral_number (number : Int) : IsNumberText (signedNumeral number) := by
  refine ⟨decide (number < 0), number.natAbs, [], [], ?_, .inl rfl, ?_⟩
  · intro byte member
    cases member
  · unfold signedNumeral fractionText
    rw [if_pos rfl, List.append_nil, List.append_nil]

/-- From the plus sign to the letter n: what numbers, infinities and NaNs are written with. -/
def IsNumeric (byte : UInt8) : Prop := 43 ≤ byte ∧ byte ≤ 110

instance (byte : UInt8) : Decidable (IsNumeric byte) := inferInstanceAs (Decidable (_ ∧ _))

theorem digit_numeric {byte : UInt8} (isDigit : IsDigit byte) : IsNumeric byte :=
  ⟨UInt8.le_trans (by decide) isDigit.1, UInt8.le_trans isDigit.2 (by decide)⟩

theorem minus_numeric (negative : Bool) : ∀ byte ∈ minusText negative, IsNumeric byte := by
  cases negative with
  | false =>
      intro byte member
      cases member
  | true =>
      intro byte member
      rw [List.mem_singleton.mp member]
      decide

theorem number_numeric {text : List UInt8} (number : IsNumberText text) :
    ∀ byte ∈ text, IsNumeric byte := by
  obtain ⟨negative, integer, fraction, exponent, digits, shape, rfl⟩ := number
  intro byte member
  rw [List.mem_append, List.mem_append, List.mem_append] at member
  rcases member with sign | whole | part | power
  · exact minus_numeric negative byte sign
  · exact digit_numeric (numeral_digits integer byte whole)
  · unfold fractionText at part
    split at part
    · cases part
    · rw [List.mem_cons] at part
      cases part with
      | inl point => rw [point]; decide
      | inr digit => exact digit_numeric (digits byte digit)
  · cases shape with
    | inl none => rw [none] at power; cases power
    | inr some =>
        obtain ⟨sign, powers, signs, _, all, rfl⟩ := some
        rw [List.mem_cons, List.mem_cons] at power
        rcases power with letter | signed | digit
        · rw [letter]; decide
        · rw [signed]
          rcases signs with plus | minus
          · rw [plus]; decide
          · rw [minus]; decide
        · exact digit_numeric (all byte digit)

end TboxFramework.Decimal
