import Mathlib.Data.List.Basic

/-!
# Resolving a path name

A path is walked component by component from the root or from the working directory.
Empty components and `.` stay where they are, `..` goes to the parent, which for the
root is the root. Symbolic links are left out. A location is the list of the names
that lead to it from the root.
-/

namespace PathResolution

set_option autoImplicit false

abbrev Bytes := List UInt8

abbrev Location := List Bytes

def separator : UInt8 := 47

def dot : UInt8 := 46

/-- A name that leads one level down. -/
def Proper (name : Bytes) : Prop := name ≠ [] ∧ name ≠ [dot] ∧ name ≠ [dot, dot]

instance (name : Bytes) : Decidable (Proper name) := inferInstanceAs (Decidable (_ ∧ _))

def follow (location : Location) (name : Bytes) : Location :=
  if name = [] ∨ name = [dot] then location
  else if name = [dot, dot] then location.dropLast
  else location ++ [name]

def walk (start : Location) (names : List Bytes) : Location := names.foldl follow start

def components (path : Bytes) : List Bytes := path.splitOn separator

def startOf (workingDirectory : Location) (path : Bytes) : Location :=
  if path.head? = some separator then [] else workingDirectory

def resolve (workingDirectory : Location) (path : Bytes) : Location :=
  walk (startOf workingDirectory path) (components path)

theorem follow_proper {name : Bytes} (proper : Proper name) (location : Location) :
    follow location name = location ++ [name] := by
  obtain ⟨nonempty, here, parent⟩ := proper
  unfold follow
  rw [if_neg (not_or.mpr ⟨nonempty, here⟩), if_neg parent]

@[simp] theorem walk_nil (start : Location) : walk start [] = start := rfl

theorem walk_append (start : Location) (front back : List Bytes) :
    walk start (front ++ back) = walk (walk start front) back :=
  List.foldl_append

theorem walk_proper {name : Bytes} (proper : Proper name) (start : Location) :
    walk start [name] = start ++ [name] :=
  follow_proper proper start

theorem components_name {name : Bytes} (single : separator ∉ name) : components name = [name] :=
  List.splitOn_eq_singleton single

theorem components_append (front back : Bytes) :
    components (front ++ separator :: back) = components front ++ components back :=
  List.splitOn_append_cons_self front back

/-- What is put behind a path goes to its last component. -/
theorem components_append_name {suffix : Bytes} (single : separator ∉ suffix) (path : Bytes) :
    ∃ front last, components path = front ++ [last] ∧
      components (path ++ suffix) = front ++ [last ++ suffix] := by
  by_cases inside : separator ∈ path
  · obtain ⟨first, rest, split, free⟩ := List.eq_append_cons_of_mem inside
    have shorter : rest.length < path.length := by
      rw [split, List.length_append, List.length_cons]
      omega
    obtain ⟨front, last, parts, longer⟩ := components_append_name single rest
    refine ⟨first :: front, last, ?_, ?_⟩
    · rw [split, components_append, components_name free, parts]
      rfl
    · rw [split, List.append_assoc, List.cons_append, components_append, components_name free,
        longer]
      rfl
  · have whole : separator ∉ path ++ suffix := by
      rw [List.mem_append, not_or]
      exact ⟨inside, single⟩
    exact ⟨[], path, components_name inside, components_name whole⟩
termination_by path.length

/-- The components are the path. -/
theorem components_inj {path other : Bytes} (same : components path = components other) :
    path = other := by
  have joined := congrArg [separator].intercalate same
  unfold components at joined
  rwa [List.intercalate_splitOn, List.intercalate_splitOn] at joined

/-- Where the entries of a directory lie; the empty path stands for the root. -/
def under (workingDirectory : Location) (directory : Bytes) : Location :=
  walk (startOf workingDirectory (directory ++ [separator])) (components directory)

theorem start_below (workingDirectory : Location) (directory name : Bytes) :
    startOf workingDirectory (directory ++ separator :: name) =
      startOf workingDirectory (directory ++ [separator]) := by
  cases directory <;> rfl

theorem walk_all_proper {names : List Bytes} (proper : ∀ name ∈ names, Proper name)
    (start : Location) : walk start names = start ++ names := by
  induction names generalizing start with
  | nil => exact (List.append_nil start).symm
  | cons name rest induction =>
      rw [List.forall_mem_cons] at proper
      have first : walk start (name :: rest) = walk (follow start name) rest := rfl
      rw [first, follow_proper proper.1, induction proper.2, List.append_assoc]
      rfl

/-- Below a directory a path of proper names goes down name by name. -/
theorem resolve_below (workingDirectory : Location) (directory : Bytes) {path : Bytes}
    (proper : ∀ name ∈ components path, Proper name) :
    resolve workingDirectory (directory ++ separator :: path) =
      under workingDirectory directory ++ components path := by
  unfold resolve
  rw [start_below, components_append, walk_append, walk_all_proper proper]
  rfl

theorem resolve_directory (workingDirectory : Location) (directory : Bytes) :
    resolve workingDirectory (directory ++ [separator]) = under workingDirectory directory := by
  unfold resolve
  rw [components_append, walk_append]
  rfl

theorem under_below (workingDirectory : Location) (directory : Bytes) {name : Bytes}
    (single : separator ∉ name) (proper : Proper name) :
    under workingDirectory (directory ++ separator :: name) =
      under workingDirectory directory ++ [name] := by
  unfold under
  rw [List.append_assoc, List.cons_append, start_below, components_append, components_name single,
    walk_append, walk_proper proper]

theorem under_name (workingDirectory : Location) {name : Bytes} (single : separator ∉ name)
    (proper : Proper name) : under workingDirectory name = workingDirectory ++ [name] := by
  have relative : (name ++ [separator]).head? ≠ some separator := by
    intro head
    rw [List.head?_append_of_ne_nil _ proper.1] at head
    exact single (List.mem_of_head? head)
  unfold under startOf
  rw [if_neg relative, components_name single, walk_proper proper]

end PathResolution
