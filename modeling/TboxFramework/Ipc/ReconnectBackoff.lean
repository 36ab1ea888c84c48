import TboxFramework.Library.CappedGrowth
import Mathlib.Algebra.Order.Field.Basic
import Mathlib.Data.Rat.Floor
import Mathlib.Tactic.NormNum

/-!
# The backoff between two connections

`calculateBackoff` multiplies a backoff until it reaches `max_backoff_ms`. A product is
converted to 32 bits before it is compared with the maximum, and the first value is not
compared at all. The multiplier is a rational number and products are exact; a number that
does not fit the type has no conversion.
-/

namespace TboxFramework.Ipc

open CappedGrowth

set_option autoImplicit false

structure ReconnectConfig where
  initialBackoffMs : UInt32 := 100
  maxBackoffMs : UInt32 := 5000
  multiplier : ℚ := 2

/-- `backoff * cfg.multiplier` -/
def ReconnectConfig.product (cfg : ReconnectConfig) (backoff : ℕ) : ℚ :=
  (backoff : ℚ) * cfg.multiplier

/-- The conversion drops the fraction; what is left has to be a value of the type. -/
def castUint32 (number : ℚ) : Option UInt32 :=
  let truncated := number.num.tdiv number.den
  if 0 ≤ truncated ∧ truncated < 2 ^ 32 then some (UInt32.ofNat truncated.toNat) else none

/-- What a call computes: the products that it converts, one in each pass of the loop, and
the value that it returns, if every conversion has one. -/
structure Backoff where
  converted : List ℚ
  value : Option UInt32
  deriving DecidableEq

theorem counter_succ {i attempt : UInt32} (below : i < attempt) : (i + 1).toNat = i.toNat + 1 := by
  have less := UInt32.lt_iff_toNat_lt.mp below
  have small := attempt.toNat_lt
  rw [UInt32.toNat_add]
  change (i.toNat + 1) % 2 ^ 32 = _
  omega

def backoffLoop (cfg : ReconnectConfig) (attempt i backoff : UInt32) : Backoff :=
  if i < attempt ∧ backoff < cfg.maxBackoffMs then
    let product := cfg.product backoff.toNat
    match castUint32 product with
    | none => { converted := [product], value := none }
    | some next =>
        -- the maximum is looked at after the conversion, and not without a pass
        let rest := backoffLoop cfg attempt (i + 1)
          (if next > cfg.maxBackoffMs then cfg.maxBackoffMs else next)
        { converted := product :: rest.converted, value := rest.value }
  else { converted := [], value := some backoff }
termination_by attempt.toNat - i.toNat
decreasing_by
  rename_i passes
  have less := UInt32.lt_iff_toNat_lt.mp passes.1
  rw [counter_succ passes.1]
  omega

def calculateBackoff (cfg : ReconnectConfig) (attempt : UInt32) : Backoff :=
  backoffLoop cfg attempt 0 cfg.initialBackoffMs

/-! ## One pass -/

def ReconnectConfig.grow (cfg : ReconnectConfig) (value : ℕ) : ℕ := ⌊cfg.product value⌋₊

theorem cast_uint32_eq {number : ℚ} (nonneg : 0 ≤ number) : castUint32 number =
    if number < 2 ^ 32 then some (UInt32.ofNat ⌊number⌋₊) else none := by
  have floor : number.num.tdiv number.den = ⌊number⌋ := by
    rw [Rat.floor_def', Int.tdiv_eq_ediv_of_nonneg (Rat.num_nonneg.mpr nonneg)]
  have fits : (0 ≤ ⌊number⌋ ∧ ⌊number⌋ < 2 ^ 32) ↔ number < 2 ^ 32 := by
    rw [and_iff_right (Int.floor_nonneg.mpr nonneg), Int.floor_lt]
    norm_num
  unfold castUint32
  simp only [floor, fits, Int.floor_toNat]

variable {cfg : ReconnectConfig} {attempt i backoff : UInt32}

theorem product_nonneg (nonneg : 0 ≤ cfg.multiplier) (value : ℕ) : 0 ≤ cfg.product value :=
  mul_nonneg (Nat.cast_nonneg value) nonneg

theorem grow_inflates (grows : 1 ≤ cfg.multiplier) (value : ℕ) : value ≤ cfg.grow value := by
  apply Nat.le_floor
  exact le_mul_of_one_le_right (Nat.cast_nonneg value) grows

/-- A pass of the loop where every number has a conversion. -/
def ReconnectConfig.next (cfg : ReconnectConfig) : ℕ → ℕ :=
  capped cfg.maxBackoffMs.toNat cfg.grow

theorem loop_stops (ended : ¬(i < attempt ∧ backoff < cfg.maxBackoffMs)) :
    backoffLoop cfg attempt i backoff = { converted := [], value := some backoff } := by
  rw [backoffLoop, if_neg ended]

theorem loop_overflows (passes : i < attempt ∧ backoff < cfg.maxBackoffMs)
    (nonneg : 0 ≤ cfg.multiplier) (large : ¬cfg.product backoff.toNat < 2 ^ 32) :
    backoffLoop cfg attempt i backoff =
      { converted := [cfg.product backoff.toNat], value := none } := by
  have conversion : castUint32 (cfg.product backoff.toNat) = none := by
    rw [cast_uint32_eq (product_nonneg nonneg _), if_neg large]
  rw [backoffLoop, if_pos passes]
  simp only [conversion]

theorem loop_passes (passes : i < attempt ∧ backoff < cfg.maxBackoffMs)
    (nonneg : 0 ≤ cfg.multiplier) (small : cfg.product backoff.toNat < 2 ^ 32) :
    ∃ next : UInt32, next.toNat = cfg.next backoff.toNat ∧
      backoffLoop cfg attempt i backoff =
        { converted :=
            cfg.product backoff.toNat :: (backoffLoop cfg attempt (i + 1) next).converted
          value := (backoffLoop cfg attempt (i + 1) next).value } := by
  have conversion : castUint32 (cfg.product backoff.toNat) =
      some (UInt32.ofNat (cfg.grow backoff.toNat)) := by
    rw [cast_uint32_eq (product_nonneg nonneg _), if_pos small]
    rfl
  have fits : cfg.grow backoff.toNat < 2 ^ 32 := by
    rw [ReconnectConfig.grow, Nat.floor_lt (product_nonneg nonneg _)]
    exact_mod_cast small
  have exactly : (UInt32.ofNat (cfg.grow backoff.toNat)).toNat =
      cfg.grow backoff.toNat := UInt32.toNat_ofNat_of_lt' fits
  refine ⟨if UInt32.ofNat (cfg.grow backoff.toNat) > cfg.maxBackoffMs
    then cfg.maxBackoffMs else UInt32.ofNat (cfg.grow backoff.toNat), ?_, ?_⟩
  · unfold ReconnectConfig.next capped
    rw [if_pos (UInt32.lt_iff_toNat_lt.mp passes.2)]
    by_cases beyond : UInt32.ofNat (cfg.grow backoff.toNat) > cfg.maxBackoffMs
    · have more := UInt32.lt_iff_toNat_lt.mp beyond
      rw [exactly] at more
      rw [if_pos beyond, min_eq_right (le_of_lt more)]
    · have less := UInt32.le_iff_toNat_le.mp (UInt32.not_lt.mp beyond)
      rw [exactly] at less
      rw [if_neg beyond, exactly, min_eq_left less]
  · rw [backoffLoop, if_pos passes]
    simp only [conversion]

/-! ## The loop -/

/-- What the loop computes from a start value in at most so many passes. -/
structure Follows (cfg : ReconnectConfig) (passes start : ℕ) (run : Backoff) : Prop where
  stops : run.converted.length ≤ passes
  converted : (∀ product ∈ run.converted, product < 2 ^ 32) ↔
    ∀ pass < passes, cfg.next^[pass] start < cfg.maxBackoffMs.toNat →
      cfg.product (cfg.next^[pass] start) < 2 ^ 32
  value : (∀ product ∈ run.converted, product < 2 ^ 32) →
    ∃ value, run.value = some value ∧ value.toNat = cfg.next^[passes] start

theorem follows_stopped (passes : ℕ) (reached : cfg.maxBackoffMs.toNat ≤ backoff.toNat) :
    Follows cfg passes backoff.toNat { converted := [], value := some backoff } where
  stops := Nat.zero_le _
  converted := by
    refine iff_of_true (by simp) ?_
    intro pass _ below
    rw [ReconnectConfig.next, iterate_of_le reached] at below
    exact absurd below (Nat.not_lt.mpr reached)
  value _ := ⟨backoff, rfl, (iterate_of_le reached passes).symm⟩

/-- The induction is on the passes that are left. -/
theorem loop_follows (nonneg : 0 ≤ cfg.multiplier) (passes : ℕ) :
    ∀ {i backoff : UInt32}, i.toNat + passes = attempt.toNat →
      Follows cfg passes backoff.toNat (backoffLoop cfg attempt i backoff) := by
  induction passes with
  | zero =>
      intro i backoff counted
      have ended : ¬(i < attempt ∧ backoff < cfg.maxBackoffMs) := by
        intro passes
        have less := UInt32.lt_iff_toNat_lt.mp passes.1
        omega
      rw [loop_stops ended]
      exact ⟨Nat.le_refl 0, by simp, fun _ => ⟨backoff, rfl, rfl⟩⟩
  | succ passes induction =>
      intro i backoff counted
      have counts : i < attempt := UInt32.lt_iff_toNat_lt.mpr (by omega)
      by_cases below : backoff < cfg.maxBackoffMs
      · have less := UInt32.lt_iff_toNat_lt.mp below
        by_cases small : cfg.product backoff.toNat < 2 ^ 32
        · obtain ⟨next, capped, unfolded⟩ := loop_passes ⟨counts, below⟩ nonneg small
          have counter := counter_succ counts
          have rest := @induction (i + 1) next (by omega)
          rw [capped] at rest
          rw [unfolded]
          refine ⟨Nat.succ_le_succ rest.stops, ?_, ?_⟩
          · rw [List.forall_mem_cons, rest.converted, Nat.forall_lt_succ_left]
            simp only [Function.iterate_succ_apply, Function.iterate_zero, id_eq, less, small,
              true_imp_iff]
          · intro all
            exact rest.value (List.forall_mem_cons.mp all).2
        · rw [loop_overflows ⟨counts, below⟩ nonneg small]
          refine ⟨Nat.succ_le_succ (Nat.zero_le _), ?_, ?_⟩
          · refine iff_of_false (by simpa using small) ?_
            intro all
            exact small (all 0 (Nat.succ_pos _) less)
          · intro all
            exact absurd (all _ (List.mem_singleton_self _)) small
      · rw [loop_stops (fun passing => below passing.2)]
        exact follows_stopped _ (UInt32.le_iff_toNat_le.mp (UInt32.not_lt.mp below))

theorem calculate_backoff_follows (nonneg : 0 ≤ cfg.multiplier) (attempt : UInt32) :
    Follows cfg attempt.toNat cfg.initialBackoffMs.toNat (calculateBackoff cfg attempt) :=
  loop_follows nonneg attempt.toNat (Nat.zero_add _)

/-! ## The limits -/

/-- The loop ends after a pass for each attempt at most, every product fits the type, and
the value is at most the maximum and at least that of every earlier attempt. -/
structure WithinLimits (cfg : ReconnectConfig) (attempt : UInt32) : Prop where
  stops : (calculateBackoff cfg attempt).converted.length ≤ attempt.toNat
  fits : ∀ product ∈ (calculateBackoff cfg attempt).converted, product < 2 ^ 32
  value : ∃ value, (calculateBackoff cfg attempt).value = some value ∧
    value ≤ cfg.maxBackoffMs ∧
    ∀ earlier ≤ attempt, ∃ before, (calculateBackoff cfg earlier).value = some before ∧
      before ≤ value

/-- The sequence of the initial backoff, multiplied and truncated again and again. -/
def ReconnectConfig.term (cfg : ReconnectConfig) (n : ℕ) : ℕ :=
  cfg.grow^[n] cfg.initialBackoffMs.toNat

/-- The values from `2 ^ 32 / multiplier` on that are below the maximum. -/
def ReconnectConfig.InGap (cfg : ReconnectConfig) (value : ℕ) : Prop :=
  (2 ^ 32 : ℚ) / cfg.multiplier ≤ value ∧ value < cfg.maxBackoffMs.toNat

theorem gap_avoided (positive : 0 < cfg.multiplier) (value : ℕ) :
    ¬cfg.InGap value ↔ (value < cfg.maxBackoffMs.toNat → cfg.product value < 2 ^ 32) := by
  unfold ReconnectConfig.InGap
  rw [div_le_iff₀ positive, not_and']
  apply imp_congr_right
  intro _
  exact not_le

/-- A maximum that can still be multiplied leaves no gap. -/
theorem no_gap (positive : 0 < cfg.multiplier)
    (room : cfg.product cfg.maxBackoffMs.toNat ≤ 2 ^ 32) (value : ℕ) : ¬cfg.InGap value := by
  rw [gap_avoided positive]
  intro below
  refine lt_of_lt_of_le ?_ room
  exact mul_lt_mul_of_pos_right (Nat.cast_lt.mpr below) positive

/-- Above the maximum, the loop has no pass. -/
theorem value_of_large (large : cfg.maxBackoffMs < cfg.initialBackoffMs) (attempt : UInt32) :
    (calculateBackoff cfg attempt).value = some cfg.initialBackoffMs := by
  unfold calculateBackoff
  rw [loop_stops]
  intro passes
  exact absurd passes.2 (UInt32.not_lt.mpr (UInt32.le_of_lt large))

section Growing

variable (grows : 1 ≤ cfg.multiplier)

include grows

theorem multiplier_pos : 0 < cfg.multiplier := lt_of_lt_of_le one_pos grows

theorem products_fit_iff (start : cfg.initialBackoffMs ≤ cfg.maxBackoffMs) (attempt : UInt32) :
    (∀ product ∈ (calculateBackoff cfg attempt).converted, product < 2 ^ 32) ↔
      ∀ n < attempt.toNat, ¬cfg.InGap (cfg.term n) := by
  have positive := multiplier_pos grows
  rw [(calculate_backoff_follows (le_of_lt positive) attempt).converted]
  apply forall₂_congr
  intro n _
  rw [gap_avoided positive]
  exact iterate_below (grow_inflates grows) (UInt32.le_iff_toNat_le.mp start) n
    fun value => cfg.product value < 2 ^ 32

theorem value_of_fitting
    (fits : ∀ product ∈ (calculateBackoff cfg attempt).converted, product < 2 ^ 32) :
    ∃ value, (calculateBackoff cfg attempt).value = some value ∧
      value.toNat = cfg.next^[attempt.toNat] cfg.initialBackoffMs.toNat :=
  (calculate_backoff_follows (le_of_lt (multiplier_pos grows)) attempt).value fits

theorem within_limits_of (start : cfg.initialBackoffMs ≤ cfg.maxBackoffMs)
    (avoided : ∀ n < attempt.toNat, ¬cfg.InGap (cfg.term n)) : WithinLimits cfg attempt := by
  have positive := multiplier_pos grows
  have fits := (products_fit_iff grows start attempt).mpr avoided
  obtain ⟨value, returned, counted⟩ := value_of_fitting grows fits
  refine ⟨(calculate_backoff_follows (le_of_lt positive) attempt).stops, fits, value, returned,
    ?_, ?_⟩
  · rw [UInt32.le_iff_toNat_le, counted]
    exact iterate_le (UInt32.le_iff_toNat_le.mp start) _
  · intro earlier ordered
    have fewer := UInt32.le_iff_toNat_le.mp ordered
    obtain ⟨before, came, reached⟩ := value_of_fitting grows
      ((products_fit_iff grows start earlier).mpr fun n below =>
        avoided n (Nat.lt_of_lt_of_le below fewer))
    refine ⟨before, came, ?_⟩
    rw [UInt32.le_iff_toNat_le, counted, reached]
    exact iterate_monotone (grow_inflates grows) _ fewer

/-- The backoff is the term of the sequence, cut off at the maximum. -/
theorem backoff_eq_min (start : cfg.initialBackoffMs ≤ cfg.maxBackoffMs)
    (avoided : ∀ n < attempt.toNat, ¬cfg.InGap (cfg.term n)) :
    ∃ value, (calculateBackoff cfg attempt).value = some value ∧
      value.toNat = min (cfg.term attempt.toNat) cfg.maxBackoffMs.toNat := by
  obtain ⟨value, returned, counted⟩ :=
    value_of_fitting grows ((products_fit_iff grows start attempt).mpr avoided)
  refine ⟨value, returned, counted.trans ?_⟩
  exact iterate_eq_min (grow_inflates grows) (UInt32.le_iff_toNat_le.mp start) _

/-- What the conversions drop makes the terms only smaller. -/
theorem term_le_power (n : ℕ) :
    (cfg.term n : ℚ) ≤ cfg.initialBackoffMs.toNat * cfg.multiplier ^ n := by
  have positive := multiplier_pos grows
  induction n with
  | zero => simp [ReconnectConfig.term]
  | succ n induction =>
      have step : cfg.term (n + 1) = cfg.grow (cfg.term n) := Function.iterate_succ_apply' _ _ _
      calc (cfg.term (n + 1) : ℚ) = cfg.grow (cfg.term n) := by rw [step]
        _ ≤ cfg.product (cfg.term n) := Nat.floor_le (product_nonneg (le_of_lt positive) _)
        _ ≤ cfg.initialBackoffMs.toNat * cfg.multiplier ^ n * cfg.multiplier :=
          mul_le_mul_of_nonneg_right induction (le_of_lt positive)
        _ = cfg.initialBackoffMs.toNat * cfg.multiplier ^ (n + 1) := by
          rw [pow_succ, mul_assoc]

end Growing

/-- The limits hold of an attempt exactly if the initial backoff is at most the maximum, and
the sequence of the initial backoff has no term in the gap before the attempt. -/
theorem backoff_within_limits_iff (cfg : ReconnectConfig) (grows : 1 ≤ cfg.multiplier)
    (attempt : UInt32) :
    WithinLimits cfg attempt ↔ cfg.initialBackoffMs ≤ cfg.maxBackoffMs ∧
      ∀ n < attempt.toNat, ¬cfg.InGap (cfg.term n) := by
  constructor
  · intro within
    obtain ⟨value, returned, small, _⟩ := within.value
    have start : cfg.initialBackoffMs ≤ cfg.maxBackoffMs := by
      by_contra above
      have large := UInt32.not_le.mp above
      rw [value_of_large large] at returned
      rw [← Option.some.inj returned] at small
      exact above small
    exact ⟨start, (products_fit_iff grows start attempt).mp within.fits⟩
  · intro condition
    exact within_limits_of grows condition.1 condition.2

theorem backoff_within_limits_default : WithinLimits {} 10 := by
  have doubles : (1 : ℚ) ≤ 2 := by norm_num
  have room : ReconnectConfig.product {} 5000 ≤ 2 ^ 32 := by
    norm_num [ReconnectConfig.product]
  exact (backoff_within_limits_iff {} doubles 10).mpr
    ⟨by decide, fun n _ => @no_gap {} (multiplier_pos doubles) room _⟩

/-- The default maximum, and an initial backoff above it. -/
def lateStart : ReconnectConfig := { initialBackoffMs := 6000 }

/-- Twice the initial backoff does not fit 32 bits. -/
def wideRange : ReconnectConfig := { initialBackoffMs := 3000000000, maxBackoffMs := 4000000000 }

theorem backoff_leaves_limits :
    (calculateBackoff lateStart 0).value = some 6000 ∧ ¬WithinLimits lateStart 0 ∧
      calculateBackoff wideRange 1 = { converted := [6000000000], value := none } ∧
      ¬WithinLimits wideRange 1 := by
  have above : (calculateBackoff lateStart 0).value = some 6000 :=
    @value_of_large lateStart (by decide) 0
  have twice : wideRange.product wideRange.initialBackoffMs.toNat = 6000000000 := by
    change ((3000000000 : ℕ) : ℚ) * 2 = 6000000000
    norm_num
  have overflow : calculateBackoff wideRange 1 =
      { converted := [6000000000], value := none } := by
    rw [← twice]
    exact loop_overflows (by decide) (by norm_num [wideRange]) (by rw [twice]; norm_num)
  refine ⟨above, ?_, overflow, ?_⟩
  · intro within
    obtain ⟨value, returned, small, _⟩ := within.value
    rw [above] at returned
    rw [← Option.some.inj returned] at small
    exact absurd small (by decide)
  · intro within
    have fits := within.fits
    rw [overflow] at fits
    have small := fits 6000000000 (List.mem_singleton_self _)
    norm_num at small

/-! ## The sleeps of `runLoop` -/

/-- What a pass of `runLoop` comes to. -/
inductive PassOutcome
  /-- No connection, and the subscription is still active. -/
  | failed
  /-- A connection that `eventLoop` has left, and the subscription is still active. -/
  | lost
  | rejected
  | cancelled
  deriving DecidableEq, Repr

/-- What `runLoop` sleeps for, pass after pass, from a value of `backoff_attempt` on. -/
def sleeps (cfg : ReconnectConfig) : UInt32 → List PassOutcome → List Backoff
  | backoffAttempt, .failed :: rest =>
      calculateBackoff cfg backoffAttempt :: sleeps cfg (backoffAttempt + 1) rest
  | _, .lost :: rest => calculateBackoff cfg 0 :: sleeps cfg (0 + 1) rest
  | _, .rejected :: _ => []
  | _, .cancelled :: _ => []
  | _, [] => []

/-- Every sleep is the backoff of some attempt. -/
theorem sleep_is_backoff (outcomes : List PassOutcome) :
    ∀ {backoffAttempt : UInt32} {sleep : Backoff},
      sleep ∈ sleeps cfg backoffAttempt outcomes →
        ∃ attempt, sleep = calculateBackoff cfg attempt := by
  induction outcomes with
  | nil =>
      intro backoffAttempt sleep slept
      cases slept
  | cons outcome rest induction =>
      intro backoffAttempt sleep slept
      cases outcome with
      | failed =>
          cases List.mem_cons.mp slept with
          | inl first => exact ⟨backoffAttempt, first⟩
          | inr later => exact induction later
      | lost =>
          cases List.mem_cons.mp slept with
          | inl first => exact ⟨0, first⟩
          | inr later => exact induction later
      | rejected => cases slept
      | cancelled => cases slept

theorem sleeps_of_failures (count : ℕ) : ∀ backoffAttempt : UInt32,
    sleeps cfg backoffAttempt (List.replicate count .failed) =
      (List.range count).map fun n => calculateBackoff cfg (backoffAttempt + UInt32.ofNat n) := by
  induction count with
  | zero =>
      intro backoffAttempt
      rfl
  | succ count induction =>
      intro backoffAttempt
      rw [List.replicate_succ, sleeps, induction, List.range_succ_eq_map, List.map_cons,
        List.map_map]
      congr 1
      · exact congrArg (calculateBackoff cfg) (UInt32.add_zero _).symm
      · apply List.map_congr_left
        intro n _
        refine congrArg (calculateBackoff cfg) ?_
        rw [UInt32.add_assoc, UInt32.add_comm 1, Nat.succ_eq_add_one, UInt32.ofNat_add]
        rfl

/-- Until `backoff_attempt` begins again, no sleep between two failures is shorter than an
earlier one. -/
theorem sleeps_sorted (within : ∀ attempt, WithinLimits cfg attempt) {backoffAttempt : UInt32}
    {count : ℕ} (counted : backoffAttempt.toNat + count ≤ 2 ^ 32) :
    (sleeps cfg backoffAttempt (List.replicate count .failed)).Pairwise fun first later =>
      ∃ less more, first.value = some less ∧ later.value = some more ∧ less ≤ more := by
  rw [sleeps_of_failures, List.pairwise_map]
  refine List.Pairwise.imp_of_mem ?_ List.pairwise_lt_range
  intro earlier later _ bounded ordered
  have few := List.mem_range.mp bounded
  have position : ∀ n < count,
      (backoffAttempt + UInt32.ofNat n).toNat = backoffAttempt.toNat + n := by
    intro n below
    have small : n < UInt32.size := by
      change n < 2 ^ 32
      omega
    rw [UInt32.toNat_add, UInt32.toNat_ofNat_of_lt' small]
    exact Nat.mod_eq_of_lt (by omega)
  obtain ⟨more, returned, _, least⟩ := (within (backoffAttempt + UInt32.ofNat later)).value
  obtain ⟨less, before, smaller⟩ := least (backoffAttempt + UInt32.ofNat earlier) (by
    rw [UInt32.le_iff_toNat_le, position later few, position earlier (by omega)]
    omega)
  exact ⟨less, more, before, returned, smaller⟩

/-- Every sleep of every run is at most the maximum, also where `backoff_attempt` begins
again at zero. -/
theorem sleeps_within_limits (grows : 1 ≤ cfg.multiplier)
    (start : cfg.initialBackoffMs ≤ cfg.maxBackoffMs)
    (avoided : ∀ n, ¬cfg.InGap (cfg.term n)) {outcomes : List PassOutcome}
    {sleep : Backoff} (slept : sleep ∈ sleeps cfg 0 outcomes) :
    ∃ value, sleep.value = some value ∧ value ≤ cfg.maxBackoffMs := by
  obtain ⟨attempt, rfl⟩ := sleep_is_backoff outcomes slept
  have within : WithinLimits cfg attempt := within_limits_of grows start fun n _ => avoided n
  obtain ⟨value, returned, small, _⟩ := within.value
  exact ⟨value, returned, small⟩

end TboxFramework.Ipc
