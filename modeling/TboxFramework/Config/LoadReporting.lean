import TboxFramework.Config.ConfigManager
import Mathlib.Data.List.Induction

/-!
# Loads that report by error code

The merge asks every key of a map it walks into for its string, and nothing
catches what a sequence or a map as a key throws. All other failures come back
as a code with the manager unloaded.
-/

namespace TboxFramework.Config

open TboxFramework.Store (Bytes text)

set_option autoImplicit false

/-! ## The maps that a merge walks into -/

/-- The maps of an override that are merged into a map of the base, each with the base
as the entries before it have left it. -/
inductive Walks : Entries → Entries → Entries → Prop
  | here (base overlay : Entries) : Walks base overlay overlay
  | inside {base front back earlier inner entries walked : Entries} {key : Yaml} {name : Bytes}
      (before : Yaml.mergeEntries base front = some earlier) (named : key.keyText = some name)
      (met : Yaml.find name earlier = some (.map inner)) (deeper : Walks inner entries walked) :
      Walks base (front ++ (key, .map entries) :: back) walked

theorem merge_entries_append (base front back : Entries) :
    Yaml.mergeEntries base (front ++ back) =
      (Yaml.mergeEntries base front).bind fun earlier => Yaml.mergeEntries earlier back := by
  induction front generalizing base with
  | nil => rfl
  | cons entry front ih =>
      obtain ⟨key, value⟩ := entry
      simp only [List.cons_append, Yaml.merge_entries_eq_bind, ih, Option.bind_assoc]

theorem merge_entries_none_of_key {base overlay : Entries} {key : Yaml}
    (listed : key ∈ overlay.map Prod.fst) (nameless : key.keyText = none) :
    Yaml.mergeEntries base overlay = none := by
  induction overlay generalizing base with
  | nil => cases listed
  | cons entry rest ih =>
      obtain ⟨first, value⟩ := entry
      rw [Yaml.merge_entries_eq_bind]
      rcases List.mem_cons.mp listed with rfl | later
      · simp only [nameless, Option.bind_none]
      · simp only [ih later, Option.bind_fun_none]

theorem Walks.later {base rest walked assigned : Entries} {entry : Yaml × Yaml}
    (walks : Walks assigned rest walked)
    (first : Yaml.mergeEntries base [entry] = some assigned) (inner : walked ≠ rest) :
    Walks base (entry :: rest) walked := by
  cases walks with
  | here => exact absurd rfl inner
  | inside before named met deeper =>
      rw [← List.cons_append]
      refine .inside ?_ named met deeper
      rw [← List.singleton_append, merge_entries_append, first]
      exact before

mutual

theorem walks_of_value_none {base : Option Yaml} : (value : Yaml) →
    Yaml.mergeValue base value = none →
    ∃ inner entries walked key, base = some (.map inner) ∧ value = .map entries ∧
      Walks inner entries walked ∧ key ∈ walked.map Prod.fst ∧ key.keyText = none
  | .map entries, thrown => by
      by_cases both : ∃ inner, base = some (.map inner)
      · obtain ⟨inner, rfl⟩ := both
        rw [Yaml.merge_value_maps, Option.map_eq_none_iff] at thrown
        obtain ⟨walked, key, walks, listed, nameless⟩ := walks_of_entries_none entries thrown
        exact ⟨inner, entries, walked, key, rfl, rfl, walks, listed, nameless⟩
      · rw [Yaml.merge_value_replaces fun inner same => both ⟨inner, same⟩] at thrown
        cases thrown
  | .null, thrown => by simp [Yaml.mergeValue] at thrown
  | .scalar _, thrown => by simp [Yaml.mergeValue] at thrown
  | .sequence _, thrown => by simp [Yaml.mergeValue] at thrown

theorem walks_of_entries_none {base : Entries} : (overlay : Entries) →
    Yaml.mergeEntries base overlay = none →
    ∃ walked key, Walks base overlay walked ∧ key ∈ walked.map Prod.fst ∧ key.keyText = none
  | [], thrown => by cases thrown
  | (key, value) :: rest, thrown => by
      cases named : key.keyText with
      | none => exact ⟨_, key, .here .., by simp, named⟩
      | some name =>
          cases valued : Yaml.mergeValue (Yaml.find name base) value with
          | none =>
              obtain ⟨inner, entries, walked, bad, met, rfl, walks, listed, nameless⟩ :=
                walks_of_value_none value valued
              have inside : Walks base ([] ++ (key, .map entries) :: rest) walked :=
                .inside rfl named met walks
              exact ⟨walked, bad, inside, listed, nameless⟩
          | some child =>
              simp only [Yaml.merge_entries_eq_bind, named, valued, Option.bind_some] at thrown
              obtain ⟨walked, bad, walks, listed, nameless⟩ := walks_of_entries_none rest thrown
              by_cases whole : walked = rest
              · subst whole
                exact ⟨_, bad, .here .., by simpa using .inr (by simpa using listed), nameless⟩
              · refine ⟨walked, bad, walks.later ?_ whole, listed, nameless⟩
                simp [named, valued, Yaml.mergeEntries]

end

theorem Walks.none_of_key {base overlay walked : Entries} (walks : Walks base overlay walked)
    {key : Yaml} (listed : key ∈ walked.map Prod.fst) (nameless : key.keyText = none) :
    Yaml.mergeEntries base overlay = none := by
  induction walks with
  | here => exact merge_entries_none_of_key listed nameless
  | inside before named met deeper ih =>
      rw [merge_entries_append, before, Option.bind_some, Yaml.merge_entries_eq_bind, named,
        Option.bind_some, met, Yaml.merge_value_maps, ih listed]
      rfl

/-! ## Layers whose keys convert -/

/-- In every layer but the first, each map that is merged into the map of the layers
before it has only scalars and nulls as keys. -/
def KeysConvert (layers : List Yaml) : Prop :=
  ∀ front back inner entries walked key, layers = front ++ .map entries :: back → front ≠ [] →
    Yaml.mergeMultiple front = some (.map inner) → Walks inner entries walked →
    key ∈ walked.map Prod.fst → key.keyText ≠ none

theorem merge_multiple_snoc {front : List Yaml} (layered : front ≠ []) (layer : Yaml) :
    Yaml.mergeMultiple (front ++ [layer]) =
      (Yaml.mergeMultiple front).bind fun merged => Yaml.merge merged layer := by
  obtain ⟨first, rest, rfl⟩ := List.exists_cons_of_ne_nil layered
  simp only [Yaml.mergeMultiple, List.cons_append, List.foldlM_append]
  cases rest.foldlM Yaml.merge first with
  | none => rfl
  | some merged => simp

theorem merge_eq_none {base override : Yaml} :
    Yaml.merge base override = none ↔
      ∃ inner entries, base = .map inner ∧ override = .map entries ∧
        Yaml.mergeEntries inner entries = none := by
  by_cases both : base.isMap = true ∧ override.isMap = true
  · obtain ⟨⟨inner, rfl⟩, entries, rfl⟩ := both.imp Yaml.is_map_iff.mp Yaml.is_map_iff.mp
    simp [Yaml.merge, Yaml.isNull, Yaml.merge_value_maps]
  · have apart : ¬∃ inner entries, base = .map inner ∧ override = .map entries ∧
        Yaml.mergeEntries inner entries = none := by
      rintro ⟨inner, entries, rfl, rfl, -⟩
      exact both ⟨rfl, rfl⟩
    rw [iff_false_right apart, Yaml.merge, Yaml.merge_value_whole both]
    split
    · simp
    · split <;> simp

/-- A merge goes through exactly when the keys it asks for convert. -/
theorem merge_multiple_some_iff (layers : List Yaml) :
    (∃ merged, Yaml.mergeMultiple layers = some merged) ↔ KeysConvert layers := by
  induction layers using List.reverseRecOn with
  | nil => simp [Yaml.mergeMultiple, KeysConvert]
  | append_singleton front layer ih =>
      by_cases layered : front = []
      · subst layered
        simp only [List.nil_append, Yaml.mergeMultiple, List.foldlM_nil]
        refine ⟨fun _ before back inner entries walked key split nonempty => ?_,
          fun _ => ⟨layer, rfl⟩⟩
        obtain ⟨first, rest, rfl⟩ := List.exists_cons_of_ne_nil nonempty
        have lengths := congrArg List.length split
        simp at lengths
      · rw [merge_multiple_snoc layered]
        constructor
        · rintro ⟨merged, done⟩ before back inner entries walked key split nonempty below walks
            listed nameless
          obtain ⟨earlier, front_done, layer_done⟩ := Option.bind_eq_some_iff.mp done
          rcases List.eq_nil_or_concat back with rfl | ⟨rest, last, rfl⟩
          · obtain ⟨rfl, same⟩ := List.append_inj' split (by simp)
            cases same
            rw [front_done] at below
            cases below
            have refuted := walks.none_of_key listed nameless
            rw [merge_eq_none.mpr ⟨inner, entries, rfl, rfl, refuted⟩] at layer_done
            cases layer_done
          · rw [List.concat_eq_append, ← List.cons_append, ← List.append_assoc] at split
            obtain ⟨rfl, -⟩ := List.append_inj' split (by simp)
            exact ih.mp ⟨earlier, front_done⟩ before rest inner entries walked key rfl nonempty
              below walks listed nameless
        · intro converts
          have earlier : KeysConvert front := by
            intro before back inner entries walked key split
            exact converts before (back ++ [layer]) inner entries walked key (by simp [split])
          obtain ⟨merged, done⟩ := ih.mpr earlier
          rw [done, Option.bind_some]
          refine Option.ne_none_iff_exists'.mp fun thrown => ?_
          obtain ⟨inner, entries, rfl, rfl, refuted⟩ := merge_eq_none.mp thrown
          obtain ⟨walked, key, walks, listed, nameless⟩ := walks_of_entries_none entries refuted
          exact converts front [] inner entries walked key rfl layered done walks listed nameless

/-! ## The report of a load -/

section Report

variable {Text : Type} (library : YamlLibrary Text) (files : FileSystem Text)

/-- The files of a load, in reading order. -/
def layerEntries (serviceName : Bytes) (configRoots : List Bytes) : List ConfigEntry :=
  (PathResolver.make serviceName configRoots).resolveAll files

/-- The manager shows the merge of all the files. -/
def ShowsMerged (serviceName : Bytes) (configRoots : List Bytes) (after : ConfigManager Text) :
    Prop :=
  ∃ layers merged view,
    ConfigManager.readLayers library files (layerEntries files serviceName configRoots) =
      .ok layers ∧
    Yaml.mergeMultiple layers = some merged ∧ after.getSnapshot = some view ∧
    library.load view.yamlStr = .ok merged

/-- The load returns a code, `kOk` exactly with the merged tree loaded, and any other
code with the manager unloaded and the code kept as its last error. -/
def ReportsByCode (manager : ConfigManager Text) (serviceName : Bytes)
    (configRoots : List Bytes) : Prop :=
  ∃ code after, manager.load library files serviceName configRoots = .returned code after ∧
    (code = .kOk ↔
      after.isLoaded = true ∧ ShowsMerged library files serviceName configRoots after) ∧
    (code ≠ .kOk → after.isLoaded = false ∧ after.getSnapshot = none ∧
      after.toYaml library = .ok .null ∧ after.getLastError.code = code)

theorem read_layers_code {entries : List ConfigEntry} {error : ConfigErrorInfo}
    (stopped : ConfigManager.readLayers library files entries = .error error) :
    error.code = .kParseFailed := by
  induction entries with
  | nil => cases stopped
  | cons entry rest ih =>
      unfold ConfigManager.readLayers at stopped
      split at stopped
      · cases stopped
        rfl
      · cases tail : ConfigManager.readLayers library files rest with
        | error other =>
            rw [tail] at stopped
            cases stopped
            exact ih tail
        | ok layers =>
            rw [tail] at stopped
            cases stopped

/-- Where a load ends: without a common file, at a file that does not parse, in the
merge, or with the merged tree published. -/
theorem load_cases (manager : ConfigManager Text) (serviceName : Bytes)
    (configRoots : List Bytes) :
    let entries := layerEntries files serviceName configRoots
    let reset : ConfigManager Text := { manager with loaded := false, snapshot := none }
    let outcome := manager.load library files serviceName configRoots
    (ConfigManager.hasCommon entries = false ∧
        outcome = reset.failed ConfigManager.commonNotFound) ∨
      (∃ error, ConfigManager.readLayers library files entries = .error error ∧
        outcome = reset.failed error) ∨
      (∃ layers, ConfigManager.hasCommon entries = true ∧
        ConfigManager.readLayers library files entries = .ok layers ∧
        Yaml.mergeMultiple layers = none ∧ outcome = .escaped reset) ∨
      ∃ layers merged, ConfigManager.readLayers library files entries = .ok layers ∧
        Yaml.mergeMultiple layers = some merged ∧ outcome = reset.publish library merged := by
  intro entries reset outcome
  obtain ⟨result, done⟩ : ∃ result, outcome = result := ⟨_, rfl⟩
  rw [done]
  simp only [outcome, ConfigManager.load] at done
  split at done
  · next absent => exact .inl ⟨absent, done.symm⟩
  · next present =>
      have common : ConfigManager.hasCommon entries = true := Bool.not_eq_false _ ▸ present
      split at done
      · next error stopped => exact .inr (.inl ⟨error, stopped, done.symm⟩)
      · next layers read =>
          split at done
          · next thrown => exact .inr (.inr (.inl ⟨layers, common, read, thrown, done.symm⟩))
          · next merged combined =>
              exact .inr (.inr (.inr ⟨layers, merged, read, combined, done.symm⟩))

variable {library files}

/-- A failure found by the load itself leaves the manager unloaded. -/
theorem reports_failed {manager reset : ConfigManager Text} {serviceName : Bytes}
    {configRoots : List Bytes} {error : ConfigErrorInfo} (failure : error.code ≠ .kOk)
    (unloaded : reset.loaded = false ∧ reset.snapshot = none)
    (stopped : manager.load library files serviceName configRoots = reset.failed error) :
    ReportsByCode library files manager serviceName configRoots := by
  refine ⟨_, _, stopped, ⟨fun same => absurd same failure, ?_⟩, fun _ => ⟨unloaded.1, unloaded.2,
    ?_, rfl⟩⟩
  · rintro ⟨loaded, -⟩
    cases unloaded.1.symm.trans loaded
  · simp [ConfigManager.toYaml, unloaded]

/-- From the merged tree on, every load reports. -/
theorem reports_published {manager reset : ConfigManager Text} {serviceName : Bytes}
    {configRoots : List Bytes} {layers : List Yaml} {merged : Yaml}
    (unloaded : reset.loaded = false ∧ reset.snapshot = none)
    (read : ConfigManager.readLayers library files (layerEntries files serviceName configRoots) =
      .ok layers)
    (done : Yaml.mergeMultiple layers = some merged)
    (reached : manager.load library files serviceName configRoots =
      reset.publish library merged) :
    ReportsByCode library files manager serviceName configRoots := by
  simp only [ConfigManager.publish, library.load_dump] at reached
  split at reached
  · next refused => exact reports_failed refused unloaded reached
  · refine ⟨_, _, reached, ⟨fun _ => ⟨rfl, ?_⟩, fun _ => rfl⟩, fun failure => absurd rfl failure⟩
    exact ⟨layers, merged, _, read, done, rfl, library.load_dump merged⟩

end Report

/-- Only keys that do not convert, in a map that is merged into another, make a load
end without a code. -/
theorem load_reports_iff {Text : Type} (library : YamlLibrary Text) (files : FileSystem Text)
    (manager : ConfigManager Text) (serviceName : Bytes) (configRoots : List Bytes) :
    ReportsByCode library files manager serviceName configRoots ↔
      ∀ layers, ConfigManager.hasCommon (layerEntries files serviceName configRoots) = true →
        ConfigManager.readLayers library files (layerEntries files serviceName configRoots) =
          .ok layers →
        KeysConvert layers := by
  rcases load_cases library files manager serviceName configRoots with
    ⟨absent, stopped⟩ | ⟨error, read, stopped⟩ | ⟨layers, common, read, thrown, stopped⟩ |
    ⟨layers, merged, read, combined, reached⟩
  · apply iff_of_true (reports_failed (by simp [ConfigManager.commonNotFound]) ⟨rfl, rfl⟩ stopped)
    intro layers present
    cases absent.symm.trans present
  · apply iff_of_true (reports_failed (by simp [read_layers_code library files read]) ⟨rfl, rfl⟩
      stopped)
    intro layers _ parsed
    cases read.symm.trans parsed
  · apply iff_of_false
    · rintro ⟨code, after, returned, -⟩
      cases stopped.symm.trans returned
    · intro converts
      obtain ⟨merged, combined⟩ :=
        (merge_multiple_some_iff layers).mpr (converts layers common read)
      cases thrown.symm.trans combined
  · apply iff_of_true (reports_published ⟨rfl, rfl⟩ read combined reached)
    intro others _ parsed
    cases read.symm.trans parsed
    exact (merge_multiple_some_iff layers).mp ⟨merged, combined⟩

/-- The texts are the trees themselves. -/
def treeLibrary : YamlLibrary Yaml where
  load := .ok
  dump tree := tree
  badFile path := text "bad file: " ++ path
  load_dump _ := rfl

/-- `common.yaml` is sound; the service file has a sequence as a key. -/
def sequenceKeyFiles : FileSystem Yaml := fun path =>
  if path = text "/etc/tbox/common.yaml" then
    .contents (.map [(.scalar (text "common"), .map [(.scalar (text "log"), .map [])])])
  else if path = text "/etc/tbox/conf.d/diag.yaml" then
    .contents (.map [(.sequence [.scalar (text "a")], .scalar (text "1"))])
  else .absent

/-- A service file with a sequence as a key: the exception leaves the load. -/
theorem sequence_key_escapes_load :
    ¬∀ (manager : ConfigManager Yaml) (serviceName : Bytes) (configRoots : List Bytes)
      (files : FileSystem Yaml),
      ReportsByCode treeLibrary files manager serviceName configRoots := by
  intro reports
  obtain ⟨code, after, returned, -⟩ := reports ⟨none, false, ConfigValidator.noError⟩
    (text "diag") [text "/etc/tbox/"] sequenceKeyFiles
  have escapes : ConfigManager.load treeLibrary sequenceKeyFiles
      ⟨none, false, ConfigValidator.noError⟩ (text "diag") [text "/etc/tbox/"] =
      .escaped ⟨none, false, ConfigValidator.noError⟩ := rfl
  cases escapes.symm.trans returned

end TboxFramework.Config
