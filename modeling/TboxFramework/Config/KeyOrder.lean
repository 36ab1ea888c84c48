import TboxFramework.Config.ConfigView
import TboxFramework.Config.LayeredMerge
import TboxFramework.Config.LoadSequence

/-!
# The order of the keys

A map keeps its entries in the order in which they were made. A merge assigns to keys
that are there and appends those that are new, so the keys of a section stand in the
order in which the layers bring them, from the last layer on that has replaced it.
-/

namespace TboxFramework.Config

open TboxFramework.Store (Bytes text)
open LayeredOverride

set_option autoImplicit false

namespace Yaml

/-- `as<std::string>()` of the keys, in the order of the entries. -/
def nameList (entries : Entries) : List Bytes := (entries.map Prod.fst).filterMap keyText

/-- The names in a map; none for anything else. -/
def names : Option Yaml → Option (List Bytes)
  | some (.map entries) => some (nameList entries)
  | _ => none

/-- The entries have string keys. -/
def StringKeys (entries : Entries) : Prop :=
  ∀ key ∈ entries.map Prod.fst, ∃ name, key = .scalar name

theorem StringKeys.mem_iff {entries : Entries} (strings : StringKeys entries) (name : Bytes) :
    name ∈ nameList entries ↔ find name entries ≠ none := by
  rw [Ne, find_eq_none, not_not, nameList, List.mem_filterMap]
  constructor
  · rintro ⟨key, member, read⟩
    obtain ⟨other, rfl⟩ := strings key member
    cases read
    exact member
  · intro member
    exact ⟨.scalar name, member, rfl⟩

theorem StringKeys.assign {entries : Entries} (strings : StringKeys entries) (name : Bytes)
    (value : Yaml) : StringKeys (Yaml.assign name value entries) := by
  unfold StringKeys
  rw [keys_assign]
  by_cases fresh : find name entries = none
  · rw [if_pos fresh]
    intro key member
    cases List.mem_append.mp member with
    | inl old => exact strings key old
    | inr new => exact ⟨name, List.mem_singleton.mp new⟩
  · rw [if_neg fresh]
    exact strings

theorem StringKeys.keys {entries : Entries} (strings : StringKeys entries) :
    entries.map Prod.fst = (nameList entries).map .scalar := by
  unfold StringKeys at strings
  unfold nameList
  generalize entries.map Prod.fst = keys at strings ⊢
  induction keys with
  | nil => rfl
  | cons key rest induction =>
      obtain ⟨⟨name, rfl⟩, others⟩ := List.forall_mem_cons.mp strings
      have first : (Yaml.scalar name :: rest).filterMap keyText = name :: rest.filterMap keyText :=
        rfl
      rw [first, List.map_cons, ← induction others]

end Yaml

variable {Text : Type}

namespace ImmutableConfigView

variable {library : YamlLibrary Text}

end ImmutableConfigView

open ImmutableConfigView

end TboxFramework.Config
