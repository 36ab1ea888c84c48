import TboxFramework.Library.SixDigits
import Mathlib.Data.List.TakeWhile

/-!
# What the digits of the general format denote

The digits before and after the point as one number: padding and trimming zeros move
the point, not the value.
-/

namespace TboxFramework.GeneralFormat

open Decimal

set_option autoImplicit false

/-! ## Runs of digits -/

theorem value_from (start : ℕ) (digits : List UInt8) :
    valueFrom start digits = start * 10 ^ digits.length + value digits := by
  induction digits generalizing start with
  | nil => simp [value, valueFrom]
  | cons byte digits induction =>
      have head : valueFrom start (byte :: digits) =
          valueFrom (10 * start + (byte.toNat - 48)) digits := rfl
      have alone : value (byte :: digits) = valueFrom (byte.toNat - 48) digits := by
        unfold value valueFrom
        rw [List.foldl_cons, Nat.mul_zero, Nat.zero_add]
      rw [head, alone, induction, induction (byte.toNat - 48), List.length_cons, Nat.pow_succ]
      ring

theorem value_append (front back : List UInt8) :
    value (front ++ back) = value front * 10 ^ back.length + value back := by
  have split : value (front ++ back) = valueFrom (value front) back := List.foldl_append ..
  rw [split, value_from]

theorem value_zeros (count : ℕ) : value (List.replicate count 48) = 0 := by
  induction count with
  | zero => rfl
  | succ count induction =>
      rw [List.replicate_succ', value_append, induction]
      rfl

theorem numeral_length {number width : ℕ} (some : 0 < width) (bound : number < 10 ^ width) :
    (numeral number).length ≤ width := by
  induction number using digit_induction generalizing width with
  | small number few =>
      rw [numeral_of_lt few]
      exact some
  | longer number large induction =>
      obtain ⟨rest, rfl⟩ := Nat.exists_eq_succ_of_ne_zero some.ne'
      have more : 0 < rest := by
        by_contra none
        have zero : rest = 0 := by omega
        rw [zero] at bound
        omega
      have fewer : number / 10 < 10 ^ rest := by
        rw [Nat.div_lt_iff_lt_mul (by norm_num), ← Nat.pow_succ]
        exact bound
      rw [numeral_of_ge large, List.length_append]
      exact Nat.succ_le_succ (induction more fewer)

theorem value_padded (width number : ℕ) : value (padded width number) = number := by
  unfold padded
  rw [value_append, value_zeros, value_numeral, Nat.zero_mul, Nat.zero_add]

theorem padded_length {width number : ℕ} (some : 0 < width) (bound : number < 10 ^ width) :
    (padded width number).length = width := by
  have short := numeral_length some bound
  unfold padded
  rw [List.length_append, List.length_replicate]
  omega

/-! ## The point -/

theorem trim_zeros_append (digits : List UInt8) :
    ∃ count, digits = trimZeros digits ++ List.replicate count 48 := by
  refine ⟨(digits.reverse.takeWhile (· = 48)).length, ?_⟩
  have zeros : digits.reverse.takeWhile (· = 48) =
      List.replicate (digits.reverse.takeWhile (· = 48)).length 48 := by
    rw [List.eq_replicate_iff]
    refine ⟨rfl, ?_⟩
    intro byte member
    simpa using List.mem_takeWhile_imp member
  have whole := List.takeWhile_append_dropWhile (p := (· = 48)) (l := digits.reverse)
  have reversed := congrArg List.reverse whole
  rw [List.reverse_append, List.reverse_reverse] at reversed
  rw [← List.reverse_replicate, ← zeros]
  exact reversed.symm

/-- Trimmed digits after the point denote what all of them do. -/
theorem fraction_value {places number : ℕ} (bound : number < 10 ^ places) :
    value (fractionDigits places number) * 10 ^ places =
      number * 10 ^ (fractionDigits places number).length := by
  by_cases none : places = 0
  · subst none
    have zero : number = 0 := by omega
    subst zero
    rfl
  · obtain ⟨count, split⟩ := trim_zeros_append (padded places number)
    have all := value_padded places number
    have length := padded_length (Nat.pos_of_ne_zero none) bound
    unfold fractionDigits
    rw [split, value_append, value_zeros, List.length_replicate, Nat.add_zero] at all
    rw [split, List.length_append, List.length_replicate] at length
    generalize trimZeros (padded places number) = trimmed at all length
    rw [← length, Nat.pow_add, ← all]
    ring

/-- The digits of a pointed coefficient, read without the point. -/
theorem pointed_value (coefficient places : ℕ) :
    value (numeral (coefficient / 10 ^ places) ++
        fractionDigits places (coefficient % 10 ^ places)) * 10 ^ places =
      coefficient * 10 ^ (fractionDigits places (coefficient % 10 ^ places)).length := by
  have fraction := fraction_value (Nat.mod_lt coefficient (Nat.pow_pos (by norm_num)) :
    coefficient % 10 ^ places < 10 ^ places)
  have parts := Nat.div_add_mod coefficient (10 ^ places)
  rw [value_append, value_numeral, Nat.add_mul, fraction]
  generalize (fractionDigits places (coefficient % 10 ^ places)).length = length
  calc coefficient / 10 ^ places * 10 ^ length * 10 ^ places +
        coefficient % 10 ^ places * 10 ^ length
      = (10 ^ places * (coefficient / 10 ^ places) + coefficient % 10 ^ places) * 10 ^ length := by
        ring
    _ = coefficient * 10 ^ length := by rw [parts]

end TboxFramework.GeneralFormat
