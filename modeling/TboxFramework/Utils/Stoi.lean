import TboxFramework.Store.ValueTypes
import Mathlib.Data.List.TakeWhile
import Mathlib.Tactic.SplitIfs

/-!
# `std::stoi`

The number that `strtol` reads at the front of a text, in base ten or sixteen, if it fits
an `int`; the exceptions are none. `long` has 64 bits, so that a number beyond its range
is beyond that of `int`.
-/

namespace TboxFramework.Utils

open Decimal (IsDigit signedNumeral valueFrom)
open TboxFramework.Store (extractInteger extract_signed_numeral isSpace splitSign)

set_option autoImplicit false

abbrev Bytes := List UInt8

/-- The value of a character as a digit; 36 is that of no digit. -/
def digitValue (byte : UInt8) : Nat :=
  if 48 ≤ byte ∧ byte ≤ 57 then byte.toNat - 48
  else if 97 ≤ byte ∧ byte ≤ 122 then byte.toNat - 87
  else if 65 ≤ byte ∧ byte ≤ 90 then byte.toNat - 55
  else 36

/-- `0x` in front of a number of base sixteen; without a digit behind it, the number is
its zero. -/
def skipBase (base : Nat) : Bytes → Bytes
  | 48 :: mark :: digit :: rest =>
      if base = 16 ∧ (mark = 120 ∨ mark = 88) ∧ digitValue digit < 16 then digit :: rest
      else 48 :: mark :: digit :: rest
  | text => text

def strtol (base : Nat) (text : Bytes) : Option Int :=
  let signed := splitSign (text.dropWhile isSpace)
  let digits := (skipBase base signed.2).takeWhile fun byte => digitValue byte < base
  if digits = [] then none
  else
    let number := digits.foldl (fun number byte => base * number + digitValue byte) 0
    some (if signed.1 then -(number : Int) else number)

def stoi (base : Nat) (text : Bytes) : Option Int32 :=
  match strtol base text with
  | some number =>
      if Int32.minValue.toInt ≤ number ∧ number ≤ Int32.maxValue.toInt then
        some (Int32.ofInt number)
      else none
  | none => none

/-! ## Base ten -/

theorem digit_value_digit {byte : UInt8} (isDigit : IsDigit byte) :
    digitValue byte = byte.toNat - 48 := if_pos isDigit

theorem digit_value_ten (byte : UInt8) : digitValue byte < 10 ↔ IsDigit byte := by
  constructor
  · intro small
    by_contra other
    change ¬(48 ≤ byte ∧ byte ≤ 57) at other
    unfold digitValue at small
    rw [if_neg other] at small
    simp only [UInt8.le_iff_toNat_le, UInt8.reduceToNat] at small
    split_ifs at small <;> omega
  · intro isDigit
    have high := UInt8.le_iff_toNat_le.mp isDigit.2
    rw [digit_value_digit isDigit]
    simp only [UInt8.reduceToNat] at high
    omega

theorem skip_base_ten (text : Bytes) : skipBase 10 text = text := by
  unfold skipBase
  split
  · next mark digit rest =>
      rw [if_neg]
      intro sixteen
      cases sixteen.1
  · rfl

/-- In base ten, the number is the one that a stream extracts. -/
theorem strtol_ten (text : Bytes) : strtol 10 text = extractInteger text := by
  have digits : ∀ bytes : Bytes, bytes.takeWhile (fun byte => decide (digitValue byte < 10)) =
      bytes.takeWhile fun byte => decide (IsDigit byte) := by
    intro bytes
    congr 1
    funext byte
    exact decide_eq_decide.mpr (digit_value_ten byte)
  have folded : ∀ (bytes : Bytes) (start : Nat), (∀ byte ∈ bytes, IsDigit byte) →
      bytes.foldl (fun number byte => 10 * number + digitValue byte) start =
        valueFrom start bytes := by
    intro bytes start all
    apply List.foldl_ext
    intro number byte member
    rw [digit_value_digit (all byte member)]
  unfold strtol extractInteger
  simp only [skip_base_ten, digits]
  by_cases nothing : (splitSign (text.dropWhile isSpace)).2.takeWhile
      (fun byte => decide (IsDigit byte)) = []
  · rw [if_pos nothing, if_pos nothing]
  · rw [if_neg nothing, if_neg nothing, folded]
    · rfl
    · intro byte member
      have kept := List.mem_takeWhile_imp member
      exact of_decide_eq_true kept

/-- A number that was written is read back. -/
theorem stoi_signed_numeral (number : Int32) :
    stoi 10 (signedNumeral number.toInt) = some number := by
  have lower : Int32.minValue.toInt ≤ number.toInt := number.minValue_le_toInt
  have upper : number.toInt ≤ Int32.maxValue.toInt := number.toInt_le
  unfold stoi
  rw [strtol_ten, extract_signed_numeral]
  simp only
  rw [if_pos ⟨lower, upper⟩, Int32.ofInt_toInt]

end TboxFramework.Utils
