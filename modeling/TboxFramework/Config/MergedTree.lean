import TboxFramework.Config.Yaml
import TboxFramework.Library.LayeredOverride

/-!
# Merged trees

What `ConfigMerger` computes, as a function on trees: maps merge key by key,
everything else is replaced whole. The merger itself updates one tree in place.
-/

namespace TboxFramework.Config.Yaml

open TboxFramework.Store (Bytes)
open LayeredOverride

set_option autoImplicit false

mutual

/-- The value a key gets from the override, given what the base has there. -/
def mergeValue (base : Option Yaml) : Yaml → Option Yaml
  | .map entries =>
      match base with
      | some (.map inner) => (mergeEntries inner entries).map .map
      | _ => some (.map entries)
  | value => some value
termination_by structural value => value

/-- None models the exception of `as<std::string>()`. -/
def mergeEntries (base : Entries) : Entries → Option Entries
  | [] => some base
  | (key, value) :: rest =>
      match keyText key with
      | none => none
      | some name =>
          match mergeValue (find name base) value with
          | none => none
          | some merged => mergeEntries (assign name merged base) rest
termination_by structural entries => entries

end

def merge (base override : Yaml) : Option Yaml :=
  if base.isNull then some override
  else if override.isNull then some base
  else mergeValue (some base) override

def mergeMultiple : List Yaml → Option Yaml
  | [] => some .null
  | first :: rest => rest.foldlM merge first

theorem merge_value_of_not_map (base : Option Yaml) {value : Yaml} (whole : value.isMap = false) :
    mergeValue base value = some value := by
  cases value <;> simp_all [mergeValue, isMap]

theorem merge_value_maps (inner entries : Entries) :
    mergeValue (some (.map inner)) (.map entries) = (mergeEntries inner entries).map .map := by
  simp [mergeValue]

theorem merge_value_replaces {base : Option Yaml} {value : Yaml}
    (whole : ∀ inner, base ≠ some (.map inner)) : mergeValue base value = some value := by
  cases value with
  | map entries =>
      unfold mergeValue
      split
      · next inner => exact absurd rfl (whole inner)
      · rfl
  | _ => simp [mergeValue]

/-- Unless both are maps, the override is taken whole. -/
theorem merge_value_whole {base value : Yaml} (apart : ¬(base.isMap = true ∧ value.isMap = true)) :
    mergeValue (some base) value = some value := by
  cases kind : value.isMap with
  | false => exact merge_value_of_not_map _ kind
  | true =>
      refine merge_value_replaces ?_
      rintro inner ⟨⟩
      exact apart ⟨rfl, kind⟩

theorem merge_entries_eq_bind (base : Entries) (key value : Yaml) (rest : Entries) :
    mergeEntries base ((key, value) :: rest) =
      (keyText key).bind fun name => (mergeValue (find name base) value).bind fun child =>
        mergeEntries (assign name child base) rest := by
  rw [mergeEntries]
  cases named : keyText key with
  | none => rfl
  | some name => cases valued : mergeValue (find name base) value <;> simp [valued]

theorem merge_entries_cons {base rest merged : Entries} {key value : Yaml} :
    mergeEntries base ((key, value) :: rest) = some merged ↔
      ∃ name child, keyText key = some name ∧ mergeValue (find name base) value = some child ∧
        mergeEntries (assign name child base) rest = some merged := by
  simp [merge_entries_eq_bind, Option.bind_eq_some_iff]

/-- Merging a map of distinct string keys decides every key on its own. -/
theorem find_merge_entries {overlay base merged : Entries} (formed : WellFormed (.map overlay))
    (done : mergeEntries base overlay = some merged) (key : Bytes) :
    match find key overlay with
    | some value => ∃ child, mergeValue (find key base) value = some child ∧
        find key merged = some child
    | none => find key merged = find key base := by
  induction overlay generalizing base with
  | nil =>
      cases done
      rfl
  | cons entry rest ih =>
      obtain ⟨named, distinct, below⟩ := (well_formed_map _).mp formed
      obtain ⟨head, value⟩ := entry
      obtain ⟨name, rfl⟩ : ∃ name, head = .scalar name := named _ (List.mem_cons_self ..)
      obtain ⟨_, child, ⟨⟩, valued, done⟩ := merge_entries_cons.mp done
      simp only [List.map_cons, List.nodup_cons] at distinct
      have later := ih ((well_formed_map _).mpr ⟨fun other member => named other
        (List.mem_cons_of_mem _ member), distinct.2, fun other member => below other
        (List.mem_cons_of_mem _ member)⟩) done
      by_cases same : name = key
      · subst same
        have fresh : find name rest = none := find_eq_none.mpr distinct.1
        rw [fresh] at later
        simp only [find, has_key_scalar, if_true]
        exact ⟨child, valued, later.trans (find_assign_self ..)⟩
      · simpa only [find, has_key_scalar, same, if_false, find_assign_of_ne (Ne.symm same)]
          using later

/-! ## Totality -/

mutual

theorem merge_value_total (base : Option Yaml) : (value : Yaml) → WellFormed value →
    ∃ merged, mergeValue base value = some merged
  | .map entries, formed => by
      by_cases both : ∃ inner, base = some (.map inner)
      · obtain ⟨inner, rfl⟩ := both
        obtain ⟨merged, done⟩ := merge_entries_total inner entries formed.1 formed.2.2
        exact ⟨.map merged, by rw [merge_value_maps, done]; rfl⟩
      · exact ⟨_, merge_value_replaces fun inner same => both ⟨inner, same⟩⟩
  | .null, _ => ⟨_, merge_value_of_not_map base rfl⟩
  | .scalar _, _ => ⟨_, merge_value_of_not_map base rfl⟩
  | .sequence _, _ => ⟨_, merge_value_of_not_map base rfl⟩

theorem merge_entries_total (base : Entries) : (overlay : Entries) →
    (∀ key ∈ overlay.map Prod.fst, ∃ name, key = .scalar name) → EntriesFormed overlay →
    ∃ merged, mergeEntries base overlay = some merged
  | [], _, _ => ⟨base, rfl⟩
  | (key, value) :: rest, named, formed => by
      obtain ⟨name, rfl⟩ := named key (by simp)
      obtain ⟨child, valued⟩ := merge_value_total (find name base) value formed.1
      obtain ⟨merged, done⟩ := merge_entries_total (assign name child base) rest
        (fun other member => named other (List.mem_cons_of_mem _ member)) formed.2
      exact ⟨merged, merge_entries_cons.mpr ⟨name, child, rfl, valued, done⟩⟩

end

/-! ## Well-formedness -/

theorem well_formed_assign {key : Bytes} {value : Yaml} {entries : Entries}
    (formed : WellFormed (.map entries)) (valued : WellFormed value) :
    WellFormed (.map (assign key value entries)) := by
  obtain ⟨named, distinct, below⟩ := (well_formed_map _).mp formed
  have keys := keys_assign key value entries
  refine (well_formed_map _).mpr ⟨?_, ?_, ?_⟩
  · intro entry member
    have listed : entry.1 ∈ (assign key value entries).map Prod.fst :=
      List.mem_map_of_mem member
    rw [keys] at listed
    split at listed
    · rcases List.mem_append.mp listed with old | new
      · obtain ⟨other, inside, same⟩ := List.mem_map.mp old
        rw [← same]
        exact named other inside
      · exact ⟨key, List.mem_singleton.mp new⟩
    · obtain ⟨other, inside, same⟩ := List.mem_map.mp listed
      rw [← same]
      exact named other inside
  · rw [keys]
    split
    · next fresh =>
        exact List.nodup_append.mpr ⟨distinct, List.nodup_singleton _, by
          rintro other old _ new rfl
          exact find_eq_none.mp fresh (List.mem_singleton.mp new ▸ old)⟩
    · exact distinct
  · clear named distinct formed keys
    induction entries with
    | nil => simpa [assign] using valued
    | cons entry rest ih =>
        rw [List.forall_mem_cons] at below
        unfold assign
        split
        · exact List.forall_mem_cons.mpr ⟨valued, below.2⟩
        · exact List.forall_mem_cons.mpr ⟨below.1, ih below.2⟩

mutual

theorem well_formed_merge_value {base : Option Yaml} (grown : ∀ node ∈ base, WellFormed node) :
    (value : Yaml) → WellFormed value → ∀ merged, mergeValue base value = some merged →
      WellFormed merged
  | .map entries, formed, merged, done => by
      by_cases both : ∃ inner, base = some (.map inner)
      · obtain ⟨inner, rfl⟩ := both
        rw [merge_value_maps, Option.map_eq_some_iff] at done
        obtain ⟨combined, done, rfl⟩ := done
        exact well_formed_merge_entries (grown _ rfl) entries formed.1 formed.2.2 combined done
      · rw [merge_value_replaces fun inner same => both ⟨inner, same⟩] at done
        cases done
        exact formed
  | .null, formed, merged, done => by cases done; exact formed
  | .scalar _, formed, merged, done => by cases done; exact formed
  | .sequence _, formed, merged, done => by cases done; exact formed

theorem well_formed_merge_entries {base : Entries} (grown : WellFormed (.map base)) :
    (overlay : Entries) → (∀ key ∈ overlay.map Prod.fst, ∃ name, key = .scalar name) →
      EntriesFormed overlay → ∀ merged, mergeEntries base overlay = some merged →
      WellFormed (.map merged)
  | [], _, _, merged, done => by cases done; exact grown
  | (key, value) :: rest, named, formed, merged, done => by
      obtain ⟨name, child, _, valued, done⟩ := merge_entries_cons.mp done
      have kept : WellFormed child :=
        well_formed_merge_value (fun node found => grown.find found) value formed.1 child valued
      exact well_formed_merge_entries (well_formed_assign grown kept) rest
        (fun other member => named other (List.mem_cons_of_mem _ member)) formed.2 merged done

end

end TboxFramework.Config.Yaml
