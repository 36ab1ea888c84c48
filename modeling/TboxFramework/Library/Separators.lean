import Mathlib.Data.List.Basic
import Mathlib.Data.List.Infix

/-!
# Texts cut at a separator

A text of several parts is read back part by part: each ends at the first occurrence of
its separator. That gives the parts as they were put together exactly when no part holds
its separator, as long as no end of the separator is a beginning of it.
-/

namespace Separators

set_option autoImplicit false

variable {Letter : Type} [DecidableEq Letter]

/-- What stands before the first occurrence of the separator, and what stands behind it. -/
def cut (separator : List Letter) : List Letter → Option (List Letter × List Letter)
  | [] => if separator = [] then some ([], []) else none
  | letter :: rest =>
      if separator <+: letter :: rest then some ([], (letter :: rest).drop separator.length)
      else (cut separator rest).map fun parts => (letter :: parts.1, parts.2)

/-- The text up to the first occurrence of the separator, or all of it. -/
def firstPart (separator text : List Letter) : List Letter :=
  match cut separator text with
  | some parts => parts.1
  | none => text

/-- Two occurrences of the separator never overlap. -/
def Unbordered (separator : List Letter) : Prop :=
  ∀ count < separator.length, 0 < count → ¬ separator.drop count <+: separator

instance (separator : List Letter) : Decidable (Unbordered separator) :=
  inferInstanceAs (Decidable (∀ _ < _, _ → _))

variable {separator front back text : List Letter}

/-- The first occurrence leaves none before it. -/
theorem cut_eq_some (nonempty : separator ≠ []) (found : cut separator text = some (front, back)) :
    text = front ++ separator ++ back ∧ ¬ separator <:+: front := by
  have nowhere : ¬ separator <:+: [] := fun inside => nonempty (List.infix_nil.mp inside)
  induction text generalizing front with
  | nil =>
      unfold cut at found
      rw [if_neg nonempty] at found
      cases found
  | cons letter rest induction =>
      unfold cut at found
      split at found
      · next begins =>
          obtain ⟨behind, split⟩ := begins
          cases found
          refine ⟨?_, nowhere⟩
          rw [← split, List.drop_left]
          rfl
      · next other =>
          obtain ⟨parts, later, same⟩ := Option.map_eq_some_iff.mp found
          cases same
          obtain ⟨split, free⟩ := induction later
          constructor
          · rw [split]
            rfl
          · rw [List.infix_cons_iff]
            rintro (begins | inside)
            · apply other
              have whole : letter :: rest = (letter :: parts.1) ++ (separator ++ parts.2) := by
                rw [split]
                simp
              rw [whole]
              exact begins.trans (List.prefix_append _ _)
            · exact free inside

/-- A part ends where its separator begins. -/
theorem cut_append (unbordered : Unbordered separator) (nonempty : separator ≠ [])
    (free : ¬ separator <:+: front) (back : List Letter) :
    cut separator (front ++ separator ++ back) = some (front, back) := by
  induction front with
  | nil =>
      obtain ⟨letter, rest, rfl⟩ := List.exists_cons_of_ne_nil nonempty
      rw [List.nil_append, List.cons_append, cut, ← List.cons_append,
        if_pos (List.prefix_append _ back), List.drop_left]
  | cons letter front induction =>
      rw [List.infix_cons_iff, not_or] at free
      have other : ¬ separator <+: letter :: (front ++ separator ++ back) := by
        intro begins
        have whole : letter :: (front ++ separator ++ back) =
            (letter :: front) ++ (separator ++ back) := by simp
        rw [whole] at begins
        by_cases short : separator.length ≤ (letter :: front).length
        · exact free.1 (List.prefix_of_prefix_length_le begins (List.prefix_append _ _) short)
        · -- the occurrence would reach from the part into the separator
          rw [Nat.not_le] at short
          apply unbordered _ short (Nat.succ_pos _)
          have inside := begins.drop (letter :: front).length
          rw [List.drop_left] at inside
          apply List.prefix_of_prefix_length_le inside (List.prefix_append _ back)
          rw [List.length_drop]
          exact Nat.sub_le _ _
      rw [List.cons_append, List.cons_append, cut, if_neg other, induction free.2]
      rfl

theorem cut_eq_none (nonempty : separator ≠ []) :
    cut separator text = none ↔ ¬ separator <:+: text := by
  induction text with
  | nil =>
      unfold cut
      rw [if_neg nonempty, List.infix_nil]
      exact iff_of_true rfl nonempty
  | cons letter rest induction =>
      unfold cut
      rw [List.infix_cons_iff, not_or]
      split
      · next begins => simp [begins]
      · next other => simp [other, induction]

/-! ## The first part -/

/-- What is put behind a text and a separator does not change the first part. -/
theorem first_part_append (unbordered : Unbordered separator) (nonempty : separator ≠ [])
    (text back : List Letter) :
    firstPart separator (text ++ separator ++ back) = firstPart separator text := by
  unfold firstPart
  cases found : cut separator text with
  | none => rw [cut_append unbordered nonempty ((cut_eq_none nonempty).mp found)]
  | some parts =>
      obtain ⟨split, free⟩ := cut_eq_some nonempty found
      have whole : text ++ separator ++ back =
          parts.1 ++ separator ++ (parts.2 ++ separator ++ back) := by
        rw [split]
        simp
      rw [whole, cut_append unbordered nonempty free]

theorem first_part_prefix (nonempty : separator ≠ []) (text : List Letter) :
    firstPart separator text <+: text := by
  unfold firstPart
  cases found : cut separator text with
  | none => exact List.prefix_refl text
  | some parts =>
      obtain ⟨split, -⟩ := cut_eq_some nonempty found
      exact ⟨separator ++ parts.2, by rw [split, List.append_assoc]⟩

/-- A letter that stands behind no separator stands in the first part. -/
theorem mem_first_part {letter : Letter} (nonempty : separator ≠ []) (other : letter ∉ separator)
    (nowhere : ∀ front back, text = front ++ separator ++ back → letter ∉ back) :
    letter ∈ firstPart separator text ↔ letter ∈ text := by
  unfold firstPart
  cases found : cut separator text with
  | none => rfl
  | some parts =>
      obtain ⟨split, -⟩ := cut_eq_some nonempty found
      have behind := nowhere parts.1 parts.2 split
      rw [split, List.mem_append, List.mem_append]
      simp [other, behind]

omit [DecidableEq Letter] in
/-- A separator that the text does not hold begins behind any mark that follows the text. -/
theorem mark_mem_of_split {mark : Letter} (nonempty : separator ≠ []) (other : mark ∉ separator)
    (free : ¬ separator <:+: text) {rest : List Letter}
    (split : text ++ mark :: rest = front ++ (separator ++ back)) : mark ∈ front := by
  rcases List.append_eq_append_iff.mp split with ⟨between, longer, same⟩ |
    ⟨between, shorter, same⟩
  · cases between with
    | nil =>
        obtain ⟨letter, tail, rfl⟩ := List.exists_cons_of_ne_nil nonempty
        have first : mark = letter := (List.cons.inj same).1
        exact absurd (first ▸ List.mem_cons_self) other
    | cons letter tail =>
        have first : mark = letter := (List.cons.inj same).1
        rw [longer, first]
        exact List.mem_append_right _ List.mem_cons_self
  · rcases List.append_eq_append_iff.mp same with ⟨tail, whole, -⟩ | ⟨tail, whole, ends⟩
    · exact absurd ⟨front, tail, by rw [shorter, whole, List.append_assoc]⟩ free
    · cases tail with
      | nil =>
          rw [List.append_nil] at whole
          exact absurd ⟨front, [], by rw [shorter, whole, List.append_nil]⟩ free
      | cons letter tail =>
          have first : mark = letter := (List.cons.inj ends).1
          apply absurd _ other
          rw [whole, first]
          exact List.mem_append_right _ List.mem_cons_self

/-- A mark behind a text is in the first part exactly when it, or an equal one before it,
comes before every separator of the text. -/
theorem mark_mem_first_part {mark : Letter} (unbordered : Unbordered separator)
    (nonempty : separator ≠ []) (other : mark ∉ separator) (text rest : List Letter) :
    mark ∈ firstPart separator (text ++ mark :: rest) ↔
      ∀ front back, text = front ++ separator ++ back → mark ∈ front := by
  cases found : cut separator text with
  | none =>
      have free := (cut_eq_none nonempty).mp found
      apply iff_of_true
      · unfold firstPart
        cases later : cut separator (text ++ mark :: rest) with
        | none => simp
        | some parts =>
            obtain ⟨split, -⟩ := cut_eq_some nonempty later
            rw [List.append_assoc] at split
            exact mark_mem_of_split nonempty other free split
      · intro front back split
        exact absurd ⟨front, back, split.symm⟩ free
  | some parts =>
      obtain ⟨split, free⟩ := cut_eq_some nonempty found
      have whole : text ++ mark :: rest =
          parts.1 ++ separator ++ (parts.2 ++ mark :: rest) := by
        rw [split]
        simp
      have first : firstPart separator text = parts.1 := by
        unfold firstPart
        rw [found]
      have same : firstPart separator (text ++ mark :: rest) = parts.1 := by
        unfold firstPart
        rw [whole, cut_append unbordered nonempty free]
      rw [same]
      constructor
      · intro member front back also
        have early : parts.1 <+: front := by
          rw [← first, also, first_part_append unbordered nonempty]
          exact first_part_prefix nonempty front
        exact early.subset member
      · exact fun every => every parts.1 parts.2 split

end Separators
