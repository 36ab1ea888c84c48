import Mathlib.Data.List.Basic
import Mathlib.Order.Defs.LinearOrder

/-!
# Maps as sorted lists

Entries in the order of their keys. An assignment replaces the value of a key or puts a
new entry at its place; assigned in their order, the entries give the list again.
-/

namespace SortedMap

set_option autoImplicit false

variable {Key Value : Type} [LT Key] [DecidableEq Key] [DecidableLT Key]

def Sorted (entries : List (Key × Value)) : Prop :=
  entries.Pairwise fun left right => left.1 < right.1

def assign (key : Key) (value : Value) : List (Key × Value) → List (Key × Value)
  | [] => [(key, value)]
  | entry :: rest =>
      if key = entry.1 then (key, value) :: rest
      else if key < entry.1 then (key, value) :: entry :: rest
      else entry :: assign key value rest

def lookup (key : Key) (entries : List (Key × Value)) : Option Value :=
  (entries.find? fun entry => entry.1 = key).map Prod.snd

/-- The entry of the key goes, if there is one. -/
def remove (key : Key) (entries : List (Key × Value)) : List (Key × Value) :=
  entries.filter fun entry => entry.1 ≠ key

/-- Assignments of entries one after the other. -/
def assignAll (entries map : List (Key × Value)) : List (Key × Value) :=
  entries.foldl (fun map entry => assign entry.1 entry.2 map) map

omit [LT Key] [DecidableLT Key] in
theorem lookup_cons (key : Key) (entry : Key × Value) (rest : List (Key × Value)) :
    lookup key (entry :: rest) = if entry.1 = key then some entry.2 else lookup key rest := by
  unfold lookup
  by_cases same : entry.1 = key
  · simp only [List.find?_cons, same, decide_true, if_true, Option.map_some]
  · simp only [List.find?_cons, same, decide_false, if_false]

omit [LT Key] [DecidableLT Key] in
/-- Entries of other keys are skipped. -/
theorem lookup_append {key : Key} {front : List (Key × Value)}
    (others : ∀ entry ∈ front, entry.1 ≠ key) (back : List (Key × Value)) :
    lookup key (front ++ back) = lookup key back := by
  induction front with
  | nil => rfl
  | cons entry front induction =>
      rw [List.forall_mem_cons] at others
      rw [List.cons_append, lookup_cons, if_neg others.1, induction others.2]

theorem lookup_assign (key : Key) (value : Value) (entries : List (Key × Value)) (other : Key) :
    lookup other (assign key value entries) =
      if key = other then some value else lookup other entries := by
  induction entries with
  | nil => exact lookup_cons other (key, value) []
  | cons entry rest induction =>
      unfold assign
      by_cases same : key = entry.1
      · rw [if_pos same, lookup_cons, lookup_cons, ← same]
        by_cases found : key = other
        · rw [if_pos found, if_pos found]
        · rw [if_neg found, if_neg found, if_neg found]
      · rw [if_neg same]
        by_cases before : key < entry.1
        · rw [if_pos before, lookup_cons]
        · rw [if_neg before, lookup_cons, lookup_cons, induction]
          by_cases found : entry.1 = other
          · rw [if_pos found, if_pos found, if_neg]
            intro equal
            exact same (equal.trans found.symm)
          · rw [if_neg found, if_neg found]

omit [LT Key] [DecidableLT Key] in
theorem lookup_remove (key : Key) (entries : List (Key × Value)) (other : Key) :
    lookup other (remove key entries) = if key = other then none else lookup other entries := by
  induction entries with
  | nil => exact (ite_self none).symm
  | cons entry rest induction =>
      unfold remove at induction ⊢
      by_cases same : entry.1 = key
      · rw [List.filter_cons_of_neg (by simpa using same), induction, lookup_cons, same]
        by_cases found : key = other
        · rw [if_pos found, if_pos found]
        · rw [if_neg found, if_neg found, if_neg found]
      · rw [List.filter_cons_of_pos (by simpa using same), lookup_cons, lookup_cons, induction]
        by_cases found : entry.1 = other
        · have apart : ¬key = other := fun equal => same (found.trans equal.symm)
          rw [if_pos found, if_pos found, if_neg apart]
        · rw [if_neg found, if_neg found]

/-- The new entry is the first one of its key, and those before it were there. -/
theorem assign_split (key : Key) (value : Value) (entries : List (Key × Value)) :
    ∃ front back, assign key value entries = front ++ (key, value) :: back ∧
      (∀ entry ∈ front, entry ∈ entries ∧ entry.1 ≠ key) ∧ ∀ entry ∈ back, entry ∈ entries := by
  induction entries with
  | nil => exact ⟨[], [], rfl, by simp, by simp⟩
  | cons entry rest induction =>
      unfold assign
      by_cases same : key = entry.1
      · rw [if_pos same]
        exact ⟨[], rest, rfl, by simp, fun later member => List.mem_cons_of_mem _ member⟩
      · rw [if_neg same]
        by_cases before : key < entry.1
        · rw [if_pos before]
          exact ⟨[], entry :: rest, rfl, by simp, fun later member => member⟩
        · obtain ⟨front, back, shape, others, later⟩ := induction
          rw [if_neg before, shape]
          refine ⟨entry :: front, back, rfl, ?_, ?_⟩
          · intro earlier member
            cases List.mem_cons.mp member with
            | inl first =>
                rw [first]
                exact ⟨List.mem_cons_self, Ne.symm same⟩
            | inr within =>
                have known := others earlier within
                exact ⟨List.mem_cons_of_mem _ known.1, known.2⟩
          · intro entry member
            exact List.mem_cons_of_mem _ (later entry member)

omit [DecidableEq Key] [DecidableLT Key] in
theorem Sorted.cons_iff (entry : Key × Value) (rest : List (Key × Value)) :
    Sorted (entry :: rest) ↔ (∀ later ∈ rest, entry.1 < later.1) ∧ Sorted rest :=
  List.pairwise_cons

omit [DecidableLT Key] in
theorem remove_sorted (key : Key) {entries : List (Key × Value)} (sorted : Sorted entries) :
    Sorted (remove key entries) :=
  sorted.sublist List.filter_sublist

theorem mem_assign {key : Key} {value : Value} {entries : List (Key × Value)}
    {entry : Key × Value} (member : entry ∈ assign key value entries) :
    entry = (key, value) ∨ entry ∈ entries := by
  obtain ⟨front, back, shape, before, after⟩ := assign_split key value entries
  rw [shape, List.mem_append, List.mem_cons] at member
  cases member with
  | inl earlier => exact Or.inr (before entry earlier).1
  | inr rest =>
      cases rest with
      | inl same => exact Or.inl same
      | inr later => exact Or.inr (after entry later)

section Order

variable [LE Key] [Std.IsLinearOrder Key] [Std.LawfulOrderLT Key]

theorem assign_sorted (key : Key) (value : Value) {entries : List (Key × Value)}
    (sorted : Sorted entries) : Sorted (assign key value entries) := by
  induction entries with
  | nil => exact List.pairwise_singleton _ _
  | cons entry rest induction =>
      rw [Sorted.cons_iff] at sorted
      obtain ⟨first, sorted_rest⟩ := sorted
      unfold assign
      by_cases same : key = entry.1
      · rw [if_pos same, Sorted.cons_iff, same]
        exact ⟨first, sorted_rest⟩
      · rw [if_neg same]
        by_cases before : key < entry.1
        · rw [if_pos before, Sorted.cons_iff, Sorted.cons_iff]
          refine ⟨?_, first, sorted_rest⟩
          intro later member
          cases List.mem_cons.mp member with
          | inl head =>
              rw [head]
              exact before
          | inr within => exact Std.lt_trans before (first later within)
        · rw [if_neg before, Sorted.cons_iff]
          have after : entry.1 < key :=
            Std.lt_of_le_of_ne (Std.not_lt.mp before) (Ne.symm same)
          refine ⟨?_, induction sorted_rest⟩
          intro later member
          cases mem_assign member with
          | inl new =>
              rw [new]
              exact after
          | inr old => exact first later old

omit [DecidableLT Key] [Std.IsLinearOrder Key] in
/-- Sorted entries are those a lookup finds. -/
theorem mem_iff_lookup {entries : List (Key × Value)} (sorted : Sorted entries)
    (entry : Key × Value) : entry ∈ entries ↔ lookup entry.1 entries = some entry.2 := by
  induction entries with
  | nil =>
      have missing : lookup entry.1 ([] : List (Key × Value)) = none := rfl
      rw [missing]
      simp
  | cons first rest induction =>
      rw [Sorted.cons_iff] at sorted
      rw [List.mem_cons, lookup_cons]
      by_cases same : first.1 = entry.1
      · have absent : entry ∉ rest := by
          intro member
          have before := sorted.1 entry member
          rw [same] at before
          exact Std.lt_irrefl before
        rw [if_pos same, Option.some_inj, Prod.ext_iff, same]
        constructor
        · rintro (⟨_, values⟩ | member)
          · exact values.symm
          · exact absurd member absent
        · intro values
          exact Or.inl ⟨rfl, values.symm⟩
      · rw [if_neg same, ← induction sorted.2]
        constructor
        · rintro (equal | member)
          · exact absurd (congrArg Prod.fst equal).symm same
          · exact member
        · exact Or.inr

/-- A key above all others goes to the end. -/
theorem assign_end {key : Key} (value : Value) {entries : List (Key × Value)}
    (above : ∀ entry ∈ entries, entry.1 < key) :
    assign key value entries = entries ++ [(key, value)] := by
  induction entries with
  | nil => rfl
  | cons entry rest induction =>
      rw [List.forall_mem_cons] at above
      have different : ¬key = entry.1 := Ne.symm (Std.ne_of_lt above.1)
      have later : ¬key < entry.1 := by
        intro before
        exact Std.lt_irrefl (Std.lt_trans before above.1)
      rw [assign, if_neg different, if_neg later, induction above.2]
      rfl

/-- The entries of a sorted list, assigned in their order, are the list. -/
theorem assign_all_sorted {entries : List (Key × Value)} (sorted : Sorted entries) :
    assignAll entries [] = entries := by
  have general : ∀ front, Sorted (front ++ entries) →
      assignAll entries front = front ++ entries := by
    induction entries with
    | nil => exact fun front _ => (List.append_nil front).symm
    | cons entry rest induction =>
        intro front both
        have above : ∀ earlier ∈ front, earlier.1 < entry.1 := by
          intro earlier member
          exact (List.pairwise_append.mp both).2.2 earlier member entry List.mem_cons_self
        have shifted : front ++ entry :: rest = front ++ [entry] ++ rest := by
          rw [List.append_assoc]
          rfl
        rw [shifted] at both
        have later := induction ((Sorted.cons_iff entry rest).mp sorted).2 _ both
        change assignAll rest (assign entry.1 entry.2 front) = _
        rw [assign_end entry.2 above, shifted]
        exact later
  exact general [] sorted

end Order

end SortedMap
