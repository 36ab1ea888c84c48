import Mathlib.Data.List.Basic
import Mathlib.Data.List.TakeWhile

/-!
# Texts cut at a mark

The text before the first occurrence of a byte and the text behind it, and with that the
lines of a text: its last line need not be ended.
-/

namespace TextLines

set_option autoImplicit false

def before (mark : UInt8) (text : List UInt8) : List UInt8 := text.takeWhile (· ≠ mark)

def behind (mark : UInt8) (text : List UInt8) : List UInt8 := (text.dropWhile (· ≠ mark)).drop 1

theorem behind_shorter (mark : UInt8) {text : List UInt8} (some : text ≠ []) :
    (behind mark text).length < text.length := by
  have length := List.length_dropWhile_le (· ≠ mark) text
  have positive := List.length_pos_iff.mpr some
  unfold behind
  rw [List.length_drop]
  omega

def lines (text : List UInt8) : List (List UInt8) :=
  if text ≠ [] then before 10 text :: lines (behind 10 text) else []
termination_by text.length
decreasing_by
  apply behind_shorter
  assumption

section Marks

variable {mark : UInt8} {front : List UInt8}

/-- Behind a mark, nothing is before the first one. -/
theorem before_append (front back : List UInt8) :
    before mark (front ++ mark :: back) = before mark front := by
  unfold before
  induction front with
  | nil => simp
  | cons byte front induction =>
      rw [List.cons_append, List.takeWhile_cons, List.takeWhile_cons, induction]

theorem mark_not_mem_before (text : List UInt8) : mark ∉ before mark text := by
  intro member
  unfold before at member
  have differs := List.mem_takeWhile_imp member
  exact absurd rfl (of_decide_eq_true differs)

theorem free_passes (free : mark ∉ front) : ∀ byte ∈ front, decide (byte ≠ mark) = true := by
  intro byte member
  apply decide_eq_true
  intro same
  rw [same] at member
  exact free member

theorem before_free_append (free : mark ∉ front) (back : List UInt8) :
    before mark (front ++ back) = front ++ before mark back := by
  unfold before
  rw [List.takeWhile_append_of_pos (free_passes free)]

theorem before_free (free : mark ∉ front) : before mark front = front := by
  have nothing := before_free_append free []
  rw [List.append_nil] at nothing
  exact nothing.trans (List.append_nil front)

theorem behind_append (free : mark ∉ front) (back : List UInt8) :
    behind mark (front ++ mark :: back) = back := by
  unfold behind
  rw [List.dropWhile_append_of_pos (free_passes free)]
  simp

end Marks

/-- The first line ends at the first line feed. -/
theorem lines_first (front back : List UInt8) :
    lines (front ++ 10 :: back) = before 10 front :: lines (behind 10 (front ++ 10 :: back)) := by
  have some : front ++ 10 :: back ≠ [] := by simp
  rw [lines, if_pos some, before_append]

theorem lines_append {front : List UInt8} (free : 10 ∉ front) (back : List UInt8) :
    lines (front ++ 10 :: back) = front :: lines back := by
  rw [lines_first, before_free free, behind_append free]

theorem lines_nil : lines [] = [] := by
  rw [lines, if_neg (not_not.mpr rfl)]

end TextLines
