import TboxFramework.Store.Paths
import Mathlib.Data.List.Basic
import Mathlib.Data.List.Nodup

/-!
# YAML trees

A parsed document without anchors. The keys of a map are nodes of any kind, and
`operator[]` with a string finds the first entry whose key is that scalar.
-/

namespace TboxFramework.Config

open TboxFramework.Store (Bytes text)

set_option autoImplicit false

inductive Yaml
  | null
  | scalar (text : Bytes)
  | sequence (items : List Yaml)
  | map (entries : List (Yaml × Yaml))

abbrev Entries := List (Yaml × Yaml)

namespace Yaml

/-- `Node::IsMap`. -/
def isMap : Yaml → Bool
  | .map _ => true
  | _ => false

/-- `Node::IsNull`. -/
def isNull : Yaml → Bool
  | .null => true
  | _ => false

/-- `as<std::string>()` of a key: none models `TypedBadConversion`. -/
def keyText : Yaml → Option Bytes
  | .null => some (text "null")
  | .scalar text => some text
  | .sequence _ => none
  | .map _ => none

/-- A null key is no scalar, so the string "null" does not find it. -/
def hasKey (key : Bytes) : Yaml → Bool
  | .scalar text => text = key
  | _ => false

def find (key : Bytes) : Entries → Option Yaml
  | [] => none
  | (name, value) :: rest => if name.hasKey key then some value else find key rest

/-- `map[key] = value`: a missing key is appended. -/
def assign (key : Bytes) (value : Yaml) : Entries → Entries
  | [] => [(.scalar key, value)]
  | (name, old) :: rest =>
      if name.hasKey key then (name, value) :: rest else (name, old) :: assign key value rest

@[simp] theorem has_key_scalar (key name : Bytes) :
    (Yaml.scalar name).hasKey key = true ↔ name = key := by
  simp [hasKey]

theorem has_key_iff {key : Bytes} {name : Yaml} : name.hasKey key = true ↔ name = .scalar key := by
  cases name <;> simp [hasKey]

theorem is_map_iff {node : Yaml} : node.isMap = true ↔ ∃ entries, node = .map entries := by
  cases node <;> simp [isMap]

@[simp] theorem find_assign_self (key : Bytes) (value : Yaml) (entries : Entries) :
    find key (assign key value entries) = some value := by
  induction entries with
  | nil => simp [assign, find]
  | cons entry rest ih =>
      unfold assign
      split <;> simp_all [find]

theorem find_assign_of_ne {key other : Bytes} (distinct : other ≠ key) (value : Yaml)
    (entries : Entries) : find other (assign key value entries) = find other entries := by
  induction entries with
  | nil => simp [assign, find, distinct.symm]
  | cons entry rest ih =>
      obtain ⟨name, old⟩ := entry
      by_cases named : name.hasKey key = true
      · obtain rfl := has_key_iff.mp named
        simp [assign, find, distinct.symm]
      · simp [assign, find, named, ih]

theorem mem_of_find {key : Bytes} {value : Yaml} {entries : Entries}
    (found : find key entries = some value) : (Yaml.scalar key, value) ∈ entries := by
  induction entries with
  | nil => simp [find] at found
  | cons entry rest ih =>
      obtain ⟨name, old⟩ := entry
      simp only [find] at found
      split at found
      · next named =>
          cases found
          rw [has_key_iff.mp named]
          exact List.mem_cons_self ..
      · exact List.mem_cons_of_mem _ (ih found)

theorem find_eq_none {key : Bytes} {entries : Entries} :
    find key entries = none ↔ Yaml.scalar key ∉ entries.map Prod.fst := by
  induction entries with
  | nil => simp [find]
  | cons entry rest ih =>
      obtain ⟨name, old⟩ := entry
      by_cases named : name.hasKey key = true
      · simp [find, has_key_iff.mp named]
      · have differs : Yaml.scalar key ≠ name := fun same => named (has_key_iff.mpr same.symm)
        simp [find, named, ih, differs]

/-- The keys of an assigned map: none is lost and at most one is new. -/
theorem keys_assign (key : Bytes) (value : Yaml) (entries : Entries) :
    (assign key value entries).map Prod.fst =
      if find key entries = none then entries.map Prod.fst ++ [.scalar key]
      else entries.map Prod.fst := by
  induction entries with
  | nil => simp [assign, find]
  | cons entry rest ih =>
      obtain ⟨name, old⟩ := entry
      by_cases named : name.hasKey key = true
      · simp [assign, find, named]
      · simp only [assign, find, named, Bool.false_eq_true, if_false, List.map_cons, ih]
        split <;> simp

/-! ## Well-formed documents -/

mutual

/-- String keys, each at most once in a map. A sequence is never entered by key. -/
def WellFormed : Yaml → Prop
  | .map entries =>
      (∀ key ∈ entries.map Prod.fst, ∃ name, key = .scalar name) ∧
        (entries.map Prod.fst).Nodup ∧ EntriesFormed entries
  | _ => True

def EntriesFormed : Entries → Prop
  | [] => True
  | (_, value) :: rest => WellFormed value ∧ EntriesFormed rest

end

theorem entries_formed_iff (entries : Entries) :
    EntriesFormed entries ↔ ∀ entry ∈ entries, WellFormed entry.2 := by
  induction entries with
  | nil => simp [EntriesFormed]
  | cons entry rest ih =>
      obtain ⟨key, value⟩ := entry
      simp [EntriesFormed, ih]

theorem well_formed_map (entries : Entries) :
    WellFormed (.map entries) ↔
      (∀ entry ∈ entries, ∃ name, entry.1 = .scalar name) ∧ (entries.map Prod.fst).Nodup ∧
        ∀ entry ∈ entries, WellFormed entry.2 := by
  simp only [WellFormed, entries_formed_iff, List.forall_mem_map]

theorem WellFormed.find {entries : Entries} (formed : WellFormed (.map entries)) {key : Bytes}
    {value : Yaml} (found : Yaml.find key entries = some value) : WellFormed value :=
  ((well_formed_map entries).mp formed).2.2 _ (mem_of_find found)

/-! ## Key paths -/

/-- What a document shows at a key path. -/
def at? : Yaml → List Bytes → Option Yaml
  | node, [] => some node
  | .map entries, key :: rest =>
      match Yaml.find key entries with
      | some child => child.at? rest
      | none => none
  | _, _ :: _ => none

/-- A null root is no document: nothing is defined in it. -/
def nodeAt (document : Yaml) (path : List Bytes) : Option Yaml :=
  if document.isNull then none else document.at? path

end Yaml

end TboxFramework.Config
