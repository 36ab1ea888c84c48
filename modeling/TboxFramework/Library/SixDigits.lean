import TboxFramework.Library.Binary64

/-!
# Binary64 numbers that six digits keep

The six digits that the general format prints are as close to the number as six digits
can be. If any decimal of six digits reads back as the number, the printed one does:
the spacing of such decimals is far wider than that of normal numbers, and below the
normal numbers all gaps are equal.
-/

namespace TboxFramework.GeneralFormat

open Rounding Binary64

set_option autoImplicit false

/-- A power of ten as an exact rational. -/
def tens (exponent : ℤ) : ℚ := ((10 : ℕ) : ℚ) ^ exponent

theorem tens_pos (exponent : ℤ) : 0 < tens exponent := zpow_pos (by norm_num) _

theorem tens_succ (exponent : ℤ) : tens (exponent + 1) = 10 * tens exponent := by
  unfold tens
  rw [zpow_add_one₀ (by norm_num)]
  push_cast
  ring

theorem tens_nat (power : ℕ) : tens power = ((10 ^ power : ℕ) : ℚ) := by
  unfold tens
  rw [zpow_natCast, Nat.cast_pow]

theorem tens_neg (power : ℕ) : tens (-power) = 1 / ((10 ^ power : ℕ) : ℚ) := by
  rw [← tens_nat, tens, tens, zpow_neg, one_div]

/-! ## The six digits -/

theorem decimal_exponent_of_large {number unit : ℕ} (positive : 0 < unit) (large : unit ≤ number) :
    tens (decimalExponent number unit) ≤ (number : ℚ) / unit ∧
      (number : ℚ) / unit < tens (decimalExponent number unit + 1) := by
  have unitPos : (0 : ℚ) < unit := by exact_mod_cast positive
  have nonzero : number / unit ≠ 0 := (Nat.div_pos large positive).ne'
  have low := Nat.pow_log_le_self 10 nonzero
  have high := Nat.lt_pow_succ_log_self (b := 10) (by norm_num) (number / unit)
  rw [Nat.le_div_iff_mul_le positive] at low
  rw [Nat.div_lt_iff_lt_mul positive] at high
  have exponent : decimalExponent number unit = (Nat.log 10 (number / unit) : ℤ) := if_pos large
  rw [exponent, ← Nat.cast_succ, tens_nat, tens_nat, le_div_iff₀ unitPos, div_lt_iff₀ unitPos]
  exact ⟨by exact_mod_cast low, by exact_mod_cast high⟩

theorem decimal_exponent_of_small {number unit : ℕ} (positive : 0 < number)
    (small : number < unit) :
    tens (decimalExponent number unit) ≤ (number : ℚ) / unit ∧
      (number : ℚ) / unit < tens (decimalExponent number unit + 1) := by
  have unitPos : (0 : ℚ) < unit := by exact_mod_cast (by omega : 0 < unit)
  have ceiling := Nat.div_add_mod (unit + number - 1) number
  have rest := Nat.mod_lt (unit + number - 1) positive
  generalize parts : (unit + number - 1) / number = quotient at ceiling
  have more : 1 < quotient := by
    rw [← parts, ← Nat.succ_le_iff, Nat.le_div_iff_mul_le positive]
    omega
  have reached : unit ≤ quotient * number := by
    rw [Nat.mul_comm]
    omega
  have high := Nat.le_pow_clog (b := 10) (by norm_num) quotient
  have low := Nat.pow_pred_clog_lt_self (b := 10) (by norm_num) more
  have some : 0 < Nat.clog 10 quotient := Nat.clog_pos (by norm_num) more
  have exponent : decimalExponent number unit = -(Nat.clog 10 quotient : ℤ) := by
    unfold decimalExponent
    rw [if_neg (by omega), parts]
  have next : -(Nat.clog 10 quotient : ℤ) + 1 = -((Nat.clog 10 quotient).pred : ℕ) := by
    rw [Nat.pred_eq_sub_one]
    omega
  rw [exponent, next, tens_neg, tens_neg, div_le_div_iff₀ (by positivity) unitPos,
    div_lt_div_iff₀ unitPos (by positivity)]
  constructor
  · have enough : unit ≤ 10 ^ Nat.clog 10 quotient * number :=
      reached.trans (Nat.mul_le_mul_right number high)
    rw [one_mul, mul_comm]
    exact_mod_cast enough
  · have fewer : (10 ^ (Nat.clog 10 quotient).pred + 1) * number ≤ number * quotient := by
      rw [Nat.mul_comm number]
      exact Nat.mul_le_mul_right number low
    have below : number * 10 ^ (Nat.clog 10 quotient).pred < unit := by
      rw [Nat.add_mul, Nat.mul_comm (10 ^ _) number] at fewer
      omega
    rw [one_mul]
    exact_mod_cast below

theorem decimal_exponent_bounds {number unit : ℕ} (some : 0 < number) (positive : 0 < unit) :
    tens (decimalExponent number unit) ≤ (number : ℚ) / unit ∧
      (number : ℚ) / unit < tens (decimalExponent number unit + 1) := by
  by_cases large : unit ≤ number
  · exact decimal_exponent_of_large positive large
  · exact decimal_exponent_of_small some (by omega)

/-- A power of ten as the quotient that keeps both sides whole. -/
theorem tens_quotient (exponent : ℤ) :
    ((10 ^ exponent.toNat : ℕ) : ℚ) / (10 ^ (-exponent).toNat : ℕ) = tens exponent := by
  by_cases negative : exponent < 0
  · have power : exponent = -((-exponent).toNat : ℤ) := by omega
    have none : exponent.toNat = 0 := by omega
    rw [none]
    conv_rhs => rw [power, tens_neg]
    norm_num
  · have power : exponent = (exponent.toNat : ℤ) := by omega
    have none : (-exponent).toNat = 0 := by omega
    rw [none]
    conv_rhs => rw [power, tens_nat]
    norm_num

theorem tens_add (left right : ℤ) : tens (left + right) = tens left * tens right :=
  zpow_add₀ (by norm_num) left right

/-- The value of the printed digits. -/
def sixValue (number unit : ℕ) : ℚ :=
  (sixDigits number unit).1 * tens ((sixDigits number unit).2 - 5)

/-- The printed digits are the number, rounded in the unit of its sixth digit. -/
theorem six_digits_round {number unit : ℕ} (some : 0 < number) (positive : 0 < unit) :
    (sixDigits number unit).1 < 10 ^ 6 ∧
      ∃ rounded, HalfEven ((number : ℚ) / unit / tens (decimalExponent number unit - 5)) rounded ∧
        sixValue number unit = rounded * tens (decimalExponent number unit - 5) := by
  have high := (decimal_exponent_bounds some positive).2
  unfold sixValue sixDigits
  simp only
  generalize decimalExponent number unit = exponent at high
  have unitPos := tens_pos (exponent - 5)
  have ratio : ((number * 10 ^ (5 - exponent).toNat : ℕ) : ℚ) /
      (unit * 10 ^ (exponent - 5).toNat : ℕ) = (number : ℚ) / unit / tens (exponent - 5) := by
    have inverse : tens (5 - exponent) = 1 / tens (exponent - 5) := by
      rw [eq_div_iff unitPos.ne', ← tens_add]
      have none : 5 - exponent + (exponent - 5) = 0 := by omega
      rw [none]
      exact zpow_zero _
    have flipped := tens_quotient (5 - exponent)
    rw [neg_sub, inverse] at flipped
    rw [Nat.cast_mul, Nat.cast_mul, mul_div_mul_comm, flipped, mul_one_div]
  have half : HalfEven ((number : ℚ) / unit / tens (exponent - 5))
      (roundHalfEven (number * 10 ^ (5 - exponent).toNat) (unit * 10 ^ (exponent - 5).toNat)) := by
    rw [← ratio]
    exact half_even_round _ (Nat.mul_pos positive (Nat.pow_pos (by norm_num)))
  generalize roundHalfEven (number * 10 ^ (5 - exponent).toNat)
    (unit * 10 ^ (exponent - 5).toNat) = rounded at half ⊢
  have bound : rounded ≤ 10 ^ 6 := by
    apply half.le_of_le
    rw [div_le_iff₀ unitPos]
    have edge : tens (exponent + 1) = 10 ^ 6 * tens (exponent - 5) := by
      have split : exponent + 1 = (6 : ℕ) + (exponent - 5) := by push_cast; ring
      rw [split, tens_add, tens_nat]
      push_cast
      ring
    rw [edge] at high
    exact_mod_cast high.le
  split
  · rename_i full
    refine ⟨by norm_num, rounded, half, ?_⟩
    have next : exponent + 1 - 5 = exponent - 5 + 1 := by ring
    rw [full, next, tens_succ]
    push_cast
    ring
  · rename_i partly
    exact ⟨by omega, rounded, half, rfl⟩

/-! ## Which numbers they keep -/

section Kept

variable {number decimal : ℚ} {exponent : ℤ} {rounded : ℕ}

/-- The powers of ten around a number, in the unit of its sixth digit. -/
theorem tens_scale (exponent : ℤ) : tens exponent = 10 ^ 5 * tens (exponent - 5) ∧
    tens (exponent + 1) = 10 ^ 6 * tens (exponent - 5) ∧
    tens (exponent - 5) = 10 * tens (exponent - 5 - 1) := by
  have five := tens_add (5 : ℕ) (exponent - 5)
  have six := tens_add (6 : ℕ) (exponent - 5)
  have one := tens_succ (exponent - 5 - 1)
  rw [tens_nat] at five six
  have first : ((5 : ℕ) : ℤ) + (exponent - 5) = exponent := by push_cast; ring
  have second : ((6 : ℕ) : ℤ) + (exponent - 5) = exponent + 1 := by push_cast; ring
  have third : exponent - 5 - 1 + 1 = exponent - 5 := by ring
  rw [first] at five
  rw [second] at six
  rw [third] at one
  push_cast at five six
  exact ⟨by linarith, by linarith, one⟩

/-- The printed decimal is as close as any other one of six digits. -/
theorem printed_closest (low : tens exponent ≤ number)
    (half : HalfEven (number / tens (exponent - 5)) rounded) (few : HasDigits 10 6 decimal) :
    |rounded * tens (exponent - 5) - number| ≤ |decimal - number| := by
  have lead : ((10 : ℕ) : ℚ) ^ 5 * ((10 : ℕ) : ℚ) ^ (exponent - 5) ≤ number := by
    have scale := (tens_scale exponent).1
    change ((10 : ℕ) : ℚ) ^ 5 * tens (exponent - 5) ≤ number
    push_cast
    linarith
  exact half.closest_digits (by norm_num) lead few

/-- Decimals of six digits are spaced so widely that only one comes this close. -/
theorem printed_of_close (low : tens exponent ≤ number) (high : number < tens (exponent + 1))
    (half : HalfEven (number / tens (exponent - 5)) rounded) (few : HasDigits 10 6 decimal)
    (close : 2 ^ 53 * |decimal - number| ≤ number) : rounded * tens (exponent - 5) = decimal := by
  have positive := tens_pos (exponent - 5)
  obtain ⟨start, stop, tenth⟩ := tens_scale exponent
  have near := printed_closest low half few
  rcases multiple_or_below (by norm_num) few (exponent - 5) with
    ⟨count, rfl⟩ | below
  · change |rounded * tens (exponent - 5) - number| ≤ |count * tens (exponent - 5) - number| at near
    change 2 ^ 53 * |count * tens (exponent - 5) - number| ≤ number at close
    change rounded * tens (exponent - 5) = count * tens (exponent - 5)
    by_contra different
    have apart : (1 : ℚ) ≤ |(count : ℚ) - rounded| := by
      have distinct : count - rounded ≠ 0 := by
        intro same
        apply different
        have equal : count = rounded := by omega
        rw [equal, Int.cast_natCast]
      have integer : (1 : ℤ) ≤ |count - rounded| := Int.one_le_abs distinct
      exact_mod_cast integer
    have spaced : tens (exponent - 5) ≤
        |count * tens (exponent - 5) - number| + |rounded * tens (exponent - 5) - number| := by
      calc tens (exponent - 5) ≤ |(count : ℚ) - rounded| * tens (exponent - 5) :=
            le_mul_of_one_le_left positive.le apart
        _ = |(count * tens (exponent - 5) - number) -
              (rounded * tens (exponent - 5) - number)| := by
            rw [← abs_of_pos positive, ← abs_mul, abs_of_pos positive]
            congr 1
            ring
        _ ≤ _ := abs_sub _ _
    linarith
  · exfalso
    change decimal + tens (exponent - 5 - 1) ≤ ((10 : ℕ) : ℚ) ^ 5 * tens (exponent - 5) at below
    push_cast at below
    have under : decimal ≤ number := by
      have step := tens_pos (exponent - 5 - 1)
      linarith
    rw [abs_of_nonpos (by linarith)] at close
    linarith

/-- Where all gaps are equal, the printed decimal rounds to the number because it is no
farther from it; elsewhere it is the same decimal. -/
theorem printed_rounds_to {code : ℕ} (value : number = magnitude code)
    (low : tens exponent ≤ number) (high : number < tens (exponent + 1))
    (half : HalfEven (number / tens (exponent - 5)) rounded) (few : HasDigits 10 6 decimal)
    (rounds : RoundsTo decimal code) : RoundsTo (rounded * tens (exponent - 5)) code := by
  have near := printed_closest low half few
  obtain ⟨power, binary, rfl, halfEven, lead, below⟩ := rounds
  have positive := unit_pos power
  obtain ⟨bound, large⟩ := rounded_bounds halfEven lead below
  rw [magnitude_parts bound large] at value
  -- the number, in units of its last binary digit, is a whole one
  have error : |decimal - number| = |decimal / unit power - binary| * unit power := by
    rw [value, abs_sub_comm]
    exact abs_scaled positive binary
  by_cases least : power = 0 ∧ binary < 2 ^ 53
  · obtain ⟨rfl, small⟩ := least
    have printed : |rounded * tens (exponent - 5) - number| =
        |rounded * tens (exponent - 5) / unit 0 - binary| * unit 0 := by
      rw [value, abs_sub_comm]
      exact abs_scaled positive binary
    rw [error, printed] at near
    have closer := le_of_mul_le_mul_right near positive
    refine ⟨0, binary, rfl, ⟨closer.trans halfEven.1, ?_⟩, Or.inl rfl, ?_⟩
    · intro tie
      apply halfEven.2
      exact le_antisymm halfEven.1 (tie ▸ closer)
    · have within := (abs_le.mp (closer.trans halfEven.1)).2
      have whole : (binary : ℚ) + 1 ≤ 2 ^ 53 := by exact_mod_cast small
      rw [← div_lt_iff₀ positive]
      linarith
  · have many : (2 : ℚ) ^ 52 ≤ binary := by
      have digits : 2 ^ 52 ≤ binary := by omega
      exact_mod_cast digits
    have close : 2 ^ 53 * |decimal - number| ≤ number := by
      have within := mul_le_mul_of_nonneg_right halfEven.1 positive.le
      have start := mul_le_mul_of_nonneg_right many positive.le
      rw [error]
      linarith
    rw [printed_of_close low high half few close]
    exact ⟨power, binary, rfl, halfEven, lead, below⟩

end Kept

/-- The printed digits read back as the number just when some decimal of six digits does. -/
theorem printed_nearest_iff {number unit code : ℕ} (some : 0 < number) (positive : 0 < unit)
    (value : (number : ℚ) / unit = magnitude code) :
    Nearest (sixValue number unit) code ↔
      ∃ decimal, HasDigits 10 6 decimal ∧ Nearest decimal code := by
  obtain ⟨few, rounded, half, printed⟩ := six_digits_round some positive
  obtain ⟨low, high⟩ := decimal_exponent_bounds some positive
  constructor
  · intro nearest
    exact ⟨_, ⟨_, _, few, rfl⟩, nearest⟩
  · intro kept
    obtain ⟨decimal, digits, nearest⟩ := kept
    have nonneg : 0 ≤ decimal := by
      obtain ⟨coefficient, power, -, rfl⟩ := digits
      exact mul_nonneg coefficient.cast_nonneg (tens_pos power).le
    rw [printed]
    exact (printed_rounds_to value low high half digits
      ((nearest_iff_rounds nonneg).mp nearest)).nearest

end TboxFramework.GeneralFormat
