import TboxFramework.Library.Decimal
import Mathlib.Algebra.Group.Nat.Defs
import Mathlib.Data.Nat.Log

/-!
# The general format of binary64 numbers

`%g` with its default precision, from the 64 bits of a number: six significant digits,
rounded to nearest with ties to even, without trailing zeros, in fixed notation for
exponents from -4 to 5 and in scientific notation otherwise.
-/

namespace TboxFramework.GeneralFormat

open Decimal

set_option autoImplicit false

/-! ## The number -/

def negative (bits : UInt64) : Bool := 2 ^ 63 ≤ bits.toNat

def exponentBits (bits : UInt64) : Nat := bits.toNat / 2 ^ 52 % 2048

def fractionBits (bits : UInt64) : Nat := bits.toNat % 2 ^ 52

/-- Neither an infinity nor a NaN. -/
def IsFinite (bits : UInt64) : Prop := exponentBits bits ≠ 2047

instance (bits : UInt64) : Decidable (IsFinite bits) := inferInstanceAs (Decidable (_ ≠ _))

/-- Subnormal numbers have no leading one. -/
def significand (bits : UInt64) : Nat :=
  if exponentBits bits = 0 then fractionBits bits else 2 ^ 52 + fractionBits bits

/-- The exponent with its bias of 1075; subnormal numbers share the least one. -/
def biased (bits : UInt64) : Nat := max 1 (exponentBits bits)

/-- The magnitude is this over `denominator`. -/
def numerator (bits : UInt64) : Nat := significand bits * 2 ^ (biased bits - 1075)

def denominator (bits : UInt64) : Nat := 2 ^ (1075 - biased bits)

/-! ## Six digits -/

/-- The exponent of the first significant decimal digit of a positive fraction. -/
def decimalExponent (number unit : Nat) : Int :=
  if unit ≤ number then Nat.log 10 (number / unit)
  else - Nat.clog 10 ((unit + number - 1) / number)

def roundHalfEven (number unit : Nat) : Nat :=
  let quotient := number / unit
  let rest := number % unit
  if unit < 2 * rest ∨ (2 * rest = unit ∧ quotient % 2 = 1) then quotient + 1 else quotient

/-- The six digits as a number, and the exponent of the first of them. -/
def sixDigits (number unit : Nat) : Nat × Int :=
  let exponent := decimalExponent number unit
  let coefficient :=
    roundHalfEven (number * 10 ^ (5 - exponent).toNat) (unit * 10 ^ (exponent - 5).toNat)
  if coefficient = 1000000 then (100000, exponent + 1) else (coefficient, exponent)

/-! ## The text -/

def padded (width number : Nat) : List UInt8 :=
  List.replicate (width - (numeral number).length) 48 ++ numeral number

def trimZeros (digits : List UInt8) : List UInt8 := (digits.reverse.dropWhile (· = 48)).reverse

/-- The part after the point, of so many places. -/
def fractionDigits (places number : Nat) : List UInt8 := trimZeros (padded places number)

/-- A coefficient whose point stands before the last `places` digits. -/
def pointed (sign : Bool) (coefficient places : Nat) : List UInt8 :=
  minusText sign ++ (numeral (coefficient / 10 ^ places) ++
    fractionText (fractionDigits places (coefficient % 10 ^ places)))

/-- At least two digits. -/
def exponentText (exponent : Int) : List UInt8 :=
  101 :: (if exponent < 0 then 45 else 43) :: padded 2 exponent.natAbs

/-- The text of a positive fraction. -/
def magnitudeText (sign : Bool) (number unit : Nat) : List UInt8 :=
  let digits := sixDigits number unit
  if digits.2 < -4 ∨ 6 ≤ digits.2 then pointed sign digits.1 5 ++ exponentText digits.2
  else pointed sign digits.1 (5 - digits.2).toNat

def general (bits : UInt64) : List UInt8 :=
  if IsFinite bits then
    if numerator bits = 0 then minusText (negative bits) ++ [48]
    else magnitudeText (negative bits) (numerator bits) (denominator bits)
  else if fractionBits bits = 0 then minusText (negative bits) ++ [105, 110, 102]
  else minusText (negative bits) ++ [110, 97, 110]

theorem padded_digits (width number : Nat) : ∀ byte ∈ padded width number, IsDigit byte := by
  intro byte member
  unfold padded at member
  rw [List.mem_append, List.mem_replicate] at member
  cases member with
  | inl zero => rw [zero.2]; decide
  | inr digit => exact numeral_digits number byte digit

theorem fraction_digits (places number : Nat) :
    ∀ byte ∈ fractionDigits places number, IsDigit byte := by
  intro byte member
  unfold fractionDigits trimZeros at member
  rw [List.mem_reverse] at member
  have among := (List.dropWhile_sublist _).subset member
  rw [List.mem_reverse] at among
  exact padded_digits places number byte among

theorem exponent_shape (exponent : Int) : IsExponent (exponentText exponent) := by
  refine .inr ⟨if exponent < 0 then 45 else 43, padded 2 exponent.natAbs, ?_, ?_,
    padded_digits _ _, rfl⟩
  · split
    · exact .inr rfl
    · exact .inl rfl
  · unfold padded
    rw [ne_eq, List.append_eq_nil_iff, not_and]
    exact fun _ => numeral_ne_nil _

theorem pointed_number (sign : Bool) (coefficient places : Nat) {exponent : List UInt8}
    (shape : IsExponent exponent) : IsNumberText (pointed sign coefficient places ++ exponent) := by
  refine ⟨sign, coefficient / 10 ^ places, _, exponent,
    fraction_digits places (coefficient % 10 ^ places), shape, ?_⟩
  unfold pointed
  rw [List.append_assoc, List.append_assoc]

/-- A finite number is written as a number. -/
theorem general_number {bits : UInt64} (finite : IsFinite bits) : IsNumberText (general bits) := by
  unfold general
  rw [if_pos finite]
  split
  · refine ⟨negative bits, 0, [], [], ?_, .inl rfl, rfl⟩
    intro byte member
    cases member
  · unfold magnitudeText
    simp only
    split
    · exact pointed_number _ _ _ (exponent_shape _)
    · have number := pointed_number (negative bits) (sixDigits (numerator bits)
        (denominator bits)).1 (5 - (sixDigits (numerator bits) (denominator bits)).2).toNat
        (.inl rfl : IsExponent [])
      rwa [List.append_nil] at number

/-- Infinities and NaNs are words. -/
theorem general_word {bits : UInt64} (infinite : ¬ IsFinite bits) :
    ∃ word, (word = [105, 110, 102] ∨ word = [110, 97, 110]) ∧
      general bits = minusText (negative bits) ++ word := by
  unfold general
  rw [if_neg infinite]
  split
  · exact ⟨_, .inl rfl, rfl⟩
  · exact ⟨_, .inr rfl, rfl⟩

theorem general_numeric (bits : UInt64) : ∀ byte ∈ general bits, IsNumeric byte := by
  by_cases finite : IsFinite bits
  · exact number_numeric (general_number finite)
  · obtain ⟨word, words, shape⟩ := general_word finite
    intro byte member
    rw [shape, List.mem_append] at member
    cases member with
    | inl sign => exact minus_numeric _ byte sign
    | inr letter =>
        rcases words with rfl | rfl
        all_goals
          simp only [List.mem_cons, List.not_mem_nil, or_false] at letter
          rcases letter with rfl | rfl | rfl <;> decide

end TboxFramework.GeneralFormat
