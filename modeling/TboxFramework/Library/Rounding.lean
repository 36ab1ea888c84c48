import TboxFramework.Library.GeneralFormat
import Mathlib.Algebra.Order.Ring.Abs
import Mathlib.Data.Rat.Cast.Order
import Mathlib.Tactic.FieldSimp
import Mathlib.Tactic.Linarith
import Mathlib.Tactic.Positivity
import Mathlib.Tactic.Ring

/-!
# Rounding to nearest, ties to even

Half-even rounding as a relation between a rational and a natural number, and the
rounding of a number to so many digits in any base: rounded in the unit of its last
digit, a number is as close as any number with no more digits can be.
-/

namespace TboxFramework.Rounding

open GeneralFormat (roundHalfEven)

set_option autoImplicit false

def HalfEven (number : ℚ) (rounded : ℕ) : Prop :=
  |number - rounded| ≤ 1 / 2 ∧ (|number - rounded| = 1 / 2 → Even rounded)

theorem half_even_round (number : ℕ) {unit : ℕ} (positive : 0 < unit) :
    HalfEven ((number : ℚ) / unit) (roundHalfEven number unit) := by
  have unitPos : (0 : ℚ) < unit := by exact_mod_cast positive
  have whole : (number : ℚ) = unit * (number / unit : ℕ) + (number % unit : ℕ) := by
    exact_mod_cast (Nat.div_add_mod number unit).symm
  have part : (number : ℚ) / unit - (number / unit : ℕ) = (number % unit : ℕ) / unit := by
    rw [eq_div_iff unitPos.ne', sub_mul, div_mul_cancel₀ _ unitPos.ne']
    linarith
  have small : ((number % unit : ℕ) : ℚ) / unit < 1 := by
    rw [div_lt_one unitPos]
    exact_mod_cast Nat.mod_lt number positive
  have nonneg : (0 : ℚ) ≤ ((number % unit : ℕ) : ℚ) / unit := by positivity
  have half : ((number % unit : ℕ) : ℚ) / unit = 1 / 2 ↔ 2 * (number % unit) = unit := by
    rw [div_eq_iff unitPos.ne']
    constructor
    · intro same
      have doubled : (2 : ℚ) * (number % unit : ℕ) = unit := by linarith
      exact_mod_cast doubled
    · intro same
      have doubled : (2 : ℚ) * (number % unit : ℕ) = unit := by exact_mod_cast same
      linarith
  unfold roundHalfEven HalfEven
  simp only
  split
  · rename_i up
    have large : (1 : ℚ) / 2 ≤ (number % unit : ℕ) / unit := by
      rw [le_div_iff₀ unitPos]
      have doubled : (unit : ℚ) ≤ 2 * (number % unit : ℕ) := by
        exact_mod_cast (show unit ≤ 2 * (number % unit) by omega)
      linarith
    have error : |(number : ℚ) / unit - (number / unit + 1 : ℕ)| =
        1 - (number % unit : ℕ) / unit := by
      push_cast
      rw [abs_of_nonpos (by linarith)]
      linarith
    rw [error]
    refine ⟨by linarith, ?_⟩
    intro tie
    have exact : 2 * (number % unit) = unit := half.mp (by linarith)
    rw [Nat.even_iff]
    omega
  · rename_i down
    have error : |(number : ℚ) / unit - (number / unit : ℕ)| = (number % unit : ℕ) / unit := by
      rw [part, abs_of_nonneg nonneg]
    rw [error]
    constructor
    · rw [div_le_iff₀ unitPos]
      have doubled : (2 : ℚ) * (number % unit : ℕ) ≤ unit := by
        exact_mod_cast (show 2 * (number % unit) ≤ unit by omega)
      linarith
    · intro tie
      have exact : 2 * (number % unit) = unit := half.mp tie
      rw [Nat.even_iff]
      omega

/-- A rounded number is closer than any other integer, or as close and even. -/
theorem HalfEven.closer {number : ℚ} {rounded : ℕ} (rounds : HalfEven number rounded)
    {other : ℤ} (different : other ≠ rounded) :
    |number - rounded| < |number - other| ∨
      |number - rounded| = |number - other| ∧ Even rounded := by
  obtain ⟨near, tie⟩ := rounds
  have apart : (1 : ℚ) ≤ |(other : ℚ) - rounded| := by
    have integer : (1 : ℤ) ≤ |other - rounded| := Int.one_le_abs (sub_ne_zero.mpr different)
    exact_mod_cast integer
  have triangle : |(other : ℚ) - rounded| ≤ |number - other| + |number - rounded| := by
    have sum := abs_add_le ((other : ℚ) - number) (number - rounded)
    rw [abs_sub_comm (other : ℚ) number] at sum
    have same : (other : ℚ) - number + (number - rounded) = other - rounded := by ring
    rwa [same] at sum
  rcases lt_or_eq_of_le (show |number - rounded| ≤ |number - other| by linarith) with less | same
  · exact Or.inl less
  · exact Or.inr ⟨same, tie (by linarith)⟩

theorem HalfEven.closest {number : ℚ} {rounded : ℕ} (rounds : HalfEven number rounded)
    (other : ℤ) : |number - rounded| ≤ |number - other| := by
  by_cases same : other = rounded
  · rw [same, Int.cast_natCast]
  · rcases rounds.closer same with less | equal
    · exact less.le
    · exact equal.1.le

/-- Rounding stays on this side of an integer. -/
theorem HalfEven.ge_of_ge {number : ℚ} {rounded bound : ℕ} (rounds : HalfEven number rounded)
    (lower : (bound : ℚ) ≤ number) : bound ≤ rounded := by
  by_contra less
  have gap : (rounded : ℚ) + 1 ≤ bound := by exact_mod_cast (by omega : rounded + 1 ≤ bound)
  have near := (abs_le.mp rounds.1).2
  linarith

theorem HalfEven.le_of_le {number : ℚ} {rounded bound : ℕ} (rounds : HalfEven number rounded)
    (upper : number ≤ bound) : rounded ≤ bound := by
  by_contra more
  have gap : (bound : ℚ) + 1 ≤ rounded := by exact_mod_cast (by omega : bound + 1 ≤ rounded)
  have near := (abs_le.mp rounds.1).1
  linarith

/-! ## In other units -/

theorem abs_scaled {number unit : ℚ} (positive : 0 < unit) (count : ℚ) :
    |count * unit - number| = |number / unit - count| * unit := by
  rw [abs_sub_comm, ← abs_of_pos positive, ← abs_mul, abs_of_pos positive, sub_mul,
    div_mul_cancel₀ _ positive.ne']

theorem HalfEven.closest_multiple {number unit : ℚ} (positive : 0 < unit) {rounded : ℕ}
    (rounds : HalfEven (number / unit) rounded) (count : ℤ) :
    |rounded * unit - number| ≤ |count * unit - number| := by
  rw [abs_scaled positive, abs_scaled positive]
  exact mul_le_mul_of_nonneg_right (rounds.closest count) positive.le

/-! ## So many digits -/

/-- At most so many digits in this base, before any power. -/
def HasDigits (base digits : ℕ) (number : ℚ) : Prop :=
  ∃ (coefficient : ℕ) (power : ℤ), coefficient < base ^ digits ∧
    number = coefficient * (base : ℚ) ^ power

theorem multiple_of_le {base : ℕ} (large : 1 < base) (coefficient : ℕ) {unit power : ℤ}
    (fine : unit ≤ power) :
    ∃ count : ℤ, (coefficient : ℚ) * (base : ℚ) ^ power = count * (base : ℚ) ^ unit := by
  have basePos : (0 : ℚ) < base := by exact_mod_cast (by omega : 0 < base)
  refine ⟨coefficient * base ^ (power - unit).toNat, ?_⟩
  push_cast
  rw [mul_assoc, ← zpow_natCast, ← zpow_add₀ basePos.ne']
  congr 2
  omega

/-- A number of few digits is a whole number of units, or it lies below the number
that starts the digits of this unit. -/
theorem multiple_or_below {base : ℕ} (large : 1 < base) {digits : ℕ} {number : ℚ}
    (few : HasDigits base (digits + 1) number) (unit : ℤ) :
    (∃ count : ℤ, number = count * (base : ℚ) ^ unit) ∨
      number + (base : ℚ) ^ (unit - 1) ≤ (base : ℚ) ^ digits * (base : ℚ) ^ unit := by
  obtain ⟨coefficient, power, bound, rfl⟩ := few
  have basePos : (0 : ℚ) < base := by exact_mod_cast (by omega : 0 < base)
  by_cases fine : unit ≤ power
  · exact Or.inl (multiple_of_le large coefficient fine)
  · refine Or.inr ?_
    have lower : (base : ℚ) ^ power ≤ (base : ℚ) ^ (unit - 1) :=
      zpow_le_zpow_right₀ (by exact_mod_cast large.le) (by omega)
    have count : ((coefficient : ℚ) + 1) ≤ (base : ℚ) ^ (digits + 1) := by exact_mod_cast bound
    have step : (0 : ℚ) ≤ (base : ℚ) ^ (unit - 1) := (zpow_pos basePos (unit - 1)).le
    calc (coefficient : ℚ) * (base : ℚ) ^ power + (base : ℚ) ^ (unit - 1)
        ≤ coefficient * (base : ℚ) ^ (unit - 1) + (base : ℚ) ^ (unit - 1) := by
          gcongr
      _ = (coefficient + 1) * (base : ℚ) ^ (unit - 1) := by ring
      _ ≤ (base : ℚ) ^ (digits + 1) * (base : ℚ) ^ (unit - 1) :=
          mul_le_mul_of_nonneg_right count step
      _ = (base : ℚ) ^ digits * (base : ℚ) ^ unit := by
          rw [zpow_sub_one₀ basePos.ne', pow_succ]
          field_simp

/-- Rounded in this unit, a number that starts no lower is as close as any number
with no more digits. -/
theorem HalfEven.closest_digits {base : ℕ} (large : 1 < base) {digits : ℕ} {number : ℚ} {unit : ℤ}
    (lead : (base : ℚ) ^ digits * (base : ℚ) ^ unit ≤ number) {rounded : ℕ}
    (rounds : HalfEven (number / (base : ℚ) ^ unit) rounded) {other : ℚ}
    (few : HasDigits base (digits + 1) other) :
    |rounded * (base : ℚ) ^ unit - number| ≤ |other - number| := by
  have basePos : (0 : ℚ) < base := by exact_mod_cast (by omega : 0 < base)
  have unitPos : (0 : ℚ) < (base : ℚ) ^ unit := zpow_pos basePos unit
  rcases multiple_or_below large few unit with ⟨count, rfl⟩ | below
  · exact rounds.closest_multiple unitPos count
  · have start := rounds.closest_multiple unitPos ((base : ℤ) ^ digits)
    push_cast at start
    refine start.trans ?_
    have step : (0 : ℚ) < (base : ℚ) ^ (unit - 1) := zpow_pos basePos (unit - 1)
    rw [abs_of_nonpos (by linarith), abs_of_nonpos (by linarith)]
    linarith

end TboxFramework.Rounding
