import Mathlib.Order.Iterate
import Mathlib.Order.Lattice

/-!
# Growth under a cap

A value takes steps as long as it is below a cap, and a step beyond the cap ends at the
cap. If no step makes a value smaller, this is the growth without the cap, cut off at the
cap once at the end. A value that begins above the cap stays where it is.
-/

namespace CappedGrowth

set_option autoImplicit false

variable {α : Type*} [LinearOrder α]

def capped (cap : α) (step : α → α) (value : α) : α :=
  if value < cap then min (step value) cap else value

variable {cap start value : α} {step : α → α}

theorem capped_of_le (reached : cap ≤ value) : capped cap step value = value :=
  if_neg (not_lt_of_ge reached)

theorem capped_le (within : value ≤ cap) : capped cap step value ≤ cap := by
  unfold capped
  by_cases below : value < cap
  · rw [if_pos below]
    exact min_le_right _ _
  · rw [if_neg below]
    exact within

theorem iterate_of_le (reached : cap ≤ start) (count : ℕ) :
    (capped cap step)^[count] start = start :=
  Function.iterate_fixed (capped_of_le reached) count

theorem iterate_le (within : start ≤ cap) (count : ℕ) :
    (capped cap step)^[count] start ≤ cap := by
  induction count with
  | zero => exact within
  | succ count induction =>
      rw [Function.iterate_succ_apply']
      exact capped_le induction

section Inflating

variable (inflates : ∀ value, value ≤ step value)

include inflates

theorem le_capped (value : α) : value ≤ capped cap step value := by
  unfold capped
  by_cases below : value < cap
  · rw [if_pos below]
    exact le_min (inflates value) (le_of_lt below)
  · rw [if_neg below]

theorem iterate_monotone (start : α) : Monotone fun count => (capped cap step)^[count] start := by
  have grows : id ≤ capped cap step := le_capped inflates
  intro fewer more ordered
  exact Function.monotone_iterate_of_id_le grows ordered start

/-- The induction takes the last step: below the cap both sides take it, and the side
without the cap does not come back. -/
theorem iterate_eq_min (within : start ≤ cap) (count : ℕ) :
    (capped cap step)^[count] start = min (step^[count] start) cap := by
  induction count with
  | zero => exact (min_eq_left within).symm
  | succ count induction =>
      rw [Function.iterate_succ_apply', Function.iterate_succ_apply', induction]
      by_cases below : step^[count] start < cap
      · rw [min_eq_left (le_of_lt below)]
        exact if_pos below
      · have reached : cap ≤ step^[count] start := le_of_not_gt below
        rw [min_eq_right reached, capped_of_le (le_refl cap),
          min_eq_right (le_trans reached (inflates _))]

/-- Below the cap, the growth does not notice it. -/
theorem iterate_below (within : start ≤ cap) (count : ℕ) (property : α → Prop) :
    ((capped cap step)^[count] start < cap → property ((capped cap step)^[count] start)) ↔
      (step^[count] start < cap → property (step^[count] start)) := by
  rw [iterate_eq_min inflates within]
  by_cases below : step^[count] start < cap
  · rw [min_eq_left (le_of_lt below)]
  · have reached : cap ≤ step^[count] start := le_of_not_gt below
    rw [min_eq_right reached]
    exact iff_of_true (fun impossible => absurd impossible (lt_irrefl cap))
      (fun impossible => absurd impossible below)

end Inflating

end CappedGrowth
