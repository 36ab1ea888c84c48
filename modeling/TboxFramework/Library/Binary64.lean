import TboxFramework.Library.Rounding

/-!
# Reading a number as the nearest binary64

The bits below the sign, taken as one number, order the magnitudes of binary64. Above
them the exponents go on without end, so rounding to nearest can be stated before
anything overflows.
-/

namespace TboxFramework.Binary64

open Rounding GeneralFormat

set_option autoImplicit false

/-! ## Magnitudes -/

/-- The exponent above the least one. -/
def shift (code : ℕ) : ℕ := code / 2 ^ 52 - 1

def digits (code : ℕ) : ℕ := code - shift code * 2 ^ 52

/-- The unit of the last binary digit at this exponent. -/
def unit (shift : ℕ) : ℚ := ((2 : ℕ) : ℚ) ^ ((shift : ℤ) - 1074)

def magnitude (code : ℕ) : ℚ := digits code * unit (shift code)

theorem unit_pos (shift : ℕ) : 0 < unit shift := zpow_pos (by norm_num) _

theorem unit_succ (shift : ℕ) : unit (shift + 1) = 2 * unit shift := by
  unfold unit
  have exponent : ((shift + 1 : ℕ) : ℤ) - 1074 = ((shift : ℤ) - 1074) + 1 := by
    push_cast
    ring
  rw [exponent, zpow_add_one₀ (by norm_num)]
  push_cast
  ring

theorem digits_lt (code : ℕ) : digits code < 2 ^ 53 := by
  unfold digits shift
  omega

theorem code_eq (code : ℕ) : shift code * 2 ^ 52 + digits code = code := by
  unfold digits shift
  omega

theorem leading (code : ℕ) : shift code = 0 ∨ 2 ^ 52 ≤ digits code := by
  unfold digits shift
  omega

/-- The magnitude of a code by its parts, a carry into the next exponent included. -/
theorem magnitude_parts {exponent rounded : ℕ} (bound : rounded ≤ 2 ^ 53)
    (lead : exponent = 0 ∨ 2 ^ 52 ≤ rounded) :
    magnitude (exponent * 2 ^ 52 + rounded) = rounded * unit exponent := by
  by_cases carry : rounded = 2 ^ 53
  · have parts : shift (exponent * 2 ^ 52 + rounded) = exponent + 1 ∧
        digits (exponent * 2 ^ 52 + rounded) = 2 ^ 52 := by
      unfold digits shift
      omega
    rw [magnitude, parts.1, parts.2, carry, unit_succ]
    push_cast
    ring
  · have parts : shift (exponent * 2 ^ 52 + rounded) = exponent ∧
        digits (exponent * 2 ^ 52 + rounded) = rounded := by
      unfold digits shift
      omega
    rw [magnitude, parts.1, parts.2]

theorem magnitude_strict_mono : StrictMono magnitude := by
  apply strictMono_nat_of_lt_succ
  intro code
  have next : code + 1 = shift code * 2 ^ 52 + (digits code + 1) := by
    rw [← Nat.add_assoc, code_eq]
  rw [next, magnitude_parts (digits_lt code) ((leading code).imp_right Nat.le_succ_of_le),
    magnitude]
  push_cast
  have positive := unit_pos (shift code)
  linarith

theorem magnitude_few (code : ℕ) : HasDigits 2 53 (magnitude code) :=
  ⟨digits code, (shift code : ℤ) - 1074, digits_lt code, rfl⟩

/-! ## The nearest magnitude -/

/-- No magnitude is closer, and another one is as close only if this one is even. -/
def Nearest (number : ℚ) (code : ℕ) : Prop :=
  ∀ other ≠ code, |magnitude code - number| < |magnitude other - number| ∨
    |magnitude code - number| = |magnitude other - number| ∧ Even code

theorem nearest_unique {number : ℚ} {first second : ℕ} (one : Nearest number first)
    (two : Nearest number second) : first = second := by
  have ordered : ∀ {lower upper : ℕ}, Nearest number lower → Nearest number upper →
      ¬lower < upper := by
    intro lower upper below above less
    have equal : |magnitude lower - number| = |magnitude upper - number| ∧
        Even lower ∧ Even upper := by
      rcases below upper less.ne' with nearer | ⟨same, even⟩
      · rcases above lower less.ne with farther | ⟨same, -⟩
        · linarith
        · linarith
      · rcases above lower less.ne with farther | ⟨-, also⟩
        · linarith
        · exact ⟨same, even, also⟩
    obtain ⟨same, even, also⟩ := equal
    -- between two even codes lies another one, and it is closer than both
    have between : lower + 1 < upper := by
      rw [Nat.even_iff] at even also
      omega
    have left := magnitude_strict_mono (Nat.lt_succ_self lower)
    have right := magnitude_strict_mono between
    have closer : |magnitude (lower + 1) - number| < |magnitude lower - number| := by
      rcases abs_eq_abs.mp same with equal | opposite
      · linarith
      · have low : magnitude lower - number < 0 := by linarith
        rw [abs_of_neg low, abs_lt]
        constructor
        · linarith
        · linarith
    rcases below (lower + 1) (Nat.succ_ne_self lower) with nearer | ⟨tied, -⟩
    · linarith
    · linarith
  rcases Nat.lt_trichotomy first second with less | same | more
  · exact absurd less (ordered one two)
  · exact same
  · exact absurd more (ordered two one)

/-- Rounding half to even in the unit that the number calls for. -/
def RoundsTo (number : ℚ) (code : ℕ) : Prop :=
  ∃ exponent rounded, code = exponent * 2 ^ 52 + rounded ∧
    HalfEven (number / unit exponent) rounded ∧
    (exponent = 0 ∨ 2 ^ 52 * unit exponent ≤ number) ∧ number < 2 ^ 53 * unit exponent

theorem rounded_bounds {number : ℚ} {exponent rounded : ℕ}
    (rounds : HalfEven (number / unit exponent) rounded)
    (lead : exponent = 0 ∨ 2 ^ 52 * unit exponent ≤ number)
    (below : number < 2 ^ 53 * unit exponent) :
    rounded ≤ 2 ^ 53 ∧ (exponent = 0 ∨ 2 ^ 52 ≤ rounded) := by
  have positive := unit_pos exponent
  constructor
  · apply rounds.le_of_le
    rw [div_le_iff₀ positive]
    exact_mod_cast below.le
  · apply lead.imp_right
    intro large
    apply rounds.ge_of_ge
    rw [le_div_iff₀ positive]
    exact_mod_cast large

theorem RoundsTo.nearest {number : ℚ} {code : ℕ} (rounds : RoundsTo number code) :
    Nearest number code := by
  obtain ⟨exponent, rounded, rfl, half, lead, below⟩ := rounds
  have positive := unit_pos exponent
  obtain ⟨bound, large⟩ := rounded_bounds half lead below
  intro other different
  have apart : magnitude other ≠ magnitude (exponent * 2 ^ 52 + rounded) :=
    magnitude_strict_mono.injective.ne different
  rw [magnitude_parts bound large] at apart ⊢
  have even : Even rounded → Even (exponent * 2 ^ 52 + rounded) := by
    intro half
    rw [Nat.even_iff] at half ⊢
    omega
  -- another whole number of units
  have multiple : ∀ count : ℤ, magnitude other = count * unit exponent →
      |rounded * unit exponent - number| < |magnitude other - number| ∨
        |rounded * unit exponent - number| = |magnitude other - number| ∧
          Even (exponent * 2 ^ 52 + rounded) := by
    intro count equal
    have distinct : count ≠ rounded := by
      rintro rfl
      exact apart equal
    rw [equal, abs_scaled positive, abs_scaled positive]
    rcases half.closer distinct with nearer | ⟨same, tie⟩
    · exact Or.inl (mul_lt_mul_of_pos_right nearer positive)
    · exact Or.inr ⟨by rw [same], even tie⟩
  rcases lead with rfl | lead
  · obtain ⟨count, equal⟩ := @multiple_of_le 2 (by norm_num) (digits other) _ _
      (show (0 : ℤ) - 1074 ≤ (shift other : ℤ) - 1074 by omega)
    exact multiple count equal
  · rcases multiple_or_below (by norm_num) (magnitude_few other)
      ((exponent : ℤ) - 1074) with ⟨count, equal⟩ | under
    · exact multiple count equal
    · refine Or.inl ?_
      have start := half.closest_multiple positive (2 ^ 52)
      have step : (0 : ℚ) < ((2 : ℕ) : ℚ) ^ ((exponent : ℤ) - 1074 - 1) :=
        zpow_pos (by norm_num) _
      have edge : magnitude other < 2 ^ 52 * unit exponent := by
        unfold unit
        push_cast at under step ⊢
        linarith
      have first : ((2 ^ 52 : ℤ) : ℚ) = 2 ^ 52 := by norm_num
      rw [first] at start
      rw [abs_of_nonpos (show 2 ^ 52 * unit exponent - number ≤ 0 by linarith)] at start
      rw [abs_of_nonpos (show magnitude other - number ≤ 0 by linarith)]
      linarith

/-! ## Computing it -/

/-- How far the exponent of a fraction lies above the least one. -/
def fractionShift (number denominator : ℕ) : ℕ :=
  Nat.log 2 (number * 2 ^ 1074 / denominator) - 52

/-- The code of the nearest magnitude to a fraction. -/
def nearestCode (number denominator : ℕ) : ℕ :=
  let exponent := fractionShift number denominator
  exponent * 2 ^ 52 + roundHalfEven (number * 2 ^ 1074) (denominator * 2 ^ exponent)

theorem unit_mul (exponent : ℕ) :
    unit exponent * ((2 : ℕ) : ℚ) ^ 1074 = ((2 : ℕ) : ℚ) ^ exponent := by
  unfold unit
  rw [← zpow_natCast, ← zpow_add₀ (by norm_num), ← zpow_natCast]
  congr 1
  omega

theorem quotient_by_unit (number denominator exponent : ℕ) :
    (number : ℚ) / denominator / unit exponent =
      ((number * 2 ^ 1074 : ℕ) : ℚ) / (denominator * 2 ^ exponent : ℕ) := by
  have base := unit_mul exponent
  have positive := unit_pos exponent
  have nonzero : ((2 : ℕ) : ℚ) ^ 1074 ≠ 0 := pow_ne_zero _ (by norm_num)
  rw [Nat.cast_mul, Nat.cast_mul, Nat.cast_pow, Nat.cast_pow, ← base]
  generalize ((2 : ℕ) : ℚ) ^ 1074 = power at nonzero
  rw [div_div, ← mul_assoc, mul_div_mul_right _ _ nonzero]

theorem fraction_shift_bounds (number : ℕ) {denominator : ℕ} (positive : 0 < denominator) :
    (fractionShift number denominator = 0 ∨
      2 ^ 52 * (denominator * 2 ^ fractionShift number denominator) ≤ number * 2 ^ 1074) ∧
    number * 2 ^ 1074 < 2 ^ 53 * (denominator * 2 ^ fractionShift number denominator) := by
  unfold fractionShift
  generalize number * 2 ^ 1074 = scaled
  constructor
  · by_cases small : Nat.log 2 (scaled / denominator) ≤ 52
    · exact Or.inl (by omega)
    · refine Or.inr ?_
      have nonzero : scaled / denominator ≠ 0 := by
        intro zero
        rw [zero, Nat.log_zero_right] at small
        omega
      have power := Nat.pow_log_le_self 2 nonzero
      rw [Nat.le_div_iff_mul_le positive] at power
      calc 2 ^ 52 * (denominator * 2 ^ (Nat.log 2 (scaled / denominator) - 52))
          = 2 ^ (Nat.log 2 (scaled / denominator) - 52 + 52) * denominator := by
            rw [Nat.pow_add]
            ring
        _ = 2 ^ Nat.log 2 (scaled / denominator) * denominator := by
            congr 2
            omega
        _ ≤ scaled := power
  · have power := Nat.lt_pow_succ_log_self (b := 2) (by norm_num) (scaled / denominator)
    rw [Nat.div_lt_iff_lt_mul positive] at power
    calc scaled < 2 ^ (Nat.log 2 (scaled / denominator) + 1) * denominator := power
      _ ≤ 2 ^ (Nat.log 2 (scaled / denominator) - 52 + 53) * denominator := by
          apply Nat.mul_le_mul_right
          exact Nat.pow_le_pow_right (by norm_num) (by omega)
      _ = 2 ^ 53 * (denominator * 2 ^ (Nat.log 2 (scaled / denominator) - 52)) := by
          rw [Nat.pow_add]
          ring

theorem rounds_to_nearest_code (number : ℕ) {denominator : ℕ} (positive : 0 < denominator) :
    RoundsTo ((number : ℚ) / denominator) (nearestCode number denominator) := by
  have bounds := fraction_shift_bounds number positive
  have unitsPos : (0 : ℚ) < (denominator * 2 ^ fractionShift number denominator : ℕ) := by
    exact_mod_cast Nat.mul_pos positive (Nat.two_pow_pos _)
  refine ⟨fractionShift number denominator, _, rfl, ?_, ?_, ?_⟩
  · rw [quotient_by_unit]
    apply half_even_round
    exact Nat.mul_pos positive (Nat.two_pow_pos _)
  · apply bounds.1.imp_right
    intro large
    rw [← le_div_iff₀ (unit_pos _), quotient_by_unit, le_div_iff₀ unitsPos]
    exact_mod_cast large
  · rw [← div_lt_iff₀ (unit_pos _), quotient_by_unit, div_lt_iff₀ unitsPos]
    exact_mod_cast bounds.2

theorem nearest_iff_code {number denominator code : ℕ} (positive : 0 < denominator) :
    Nearest ((number : ℚ) / denominator) code ↔ nearestCode number denominator = code := by
  have computed := (rounds_to_nearest_code number positive).nearest
  constructor
  · exact nearest_unique computed
  · rintro rfl
    exact computed

theorem nearest_iff_rounds {number : ℚ} (nonneg : 0 ≤ number) {code : ℕ} :
    Nearest number code ↔ RoundsTo number code := by
  have computed := rounds_to_nearest_code number.num.toNat number.den_pos
  have same : ((number.num.toNat : ℕ) : ℚ) / number.den = number := by
    have numerator : ((number.num.toNat : ℕ) : ℤ) = number.num :=
      Int.toNat_of_nonneg (Rat.num_nonneg.mpr nonneg)
    have cast : ((number.num.toNat : ℕ) : ℚ) = (number.num : ℚ) := by exact_mod_cast numerator
    rw [cast, Rat.num_div_den]
  rw [same] at computed
  constructor
  · intro nearest
    rw [nearest_unique nearest computed.nearest]
    exact computed
  · exact RoundsTo.nearest

end TboxFramework.Binary64
