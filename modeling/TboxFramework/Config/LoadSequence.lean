import TboxFramework.Config.LoadReporting

/-!
# One load after another

A manager is loaded again and again while its files change. What its getters answer is
settled by the last load, except that a load whose merge throws leaves the error of an
earlier one behind.
-/

namespace TboxFramework.Config

open TboxFramework.Store (Bytes text)

set_option autoImplicit false

variable {Text : Type}

structure LoadCall (Text : Type) where
  files : FileSystem Text
  serviceName : Bytes
  configRoots : List Bytes

namespace ConfigManager

def initial : ConfigManager Text := ⟨none, false, ConfigValidator.noError⟩

/-- The manager after a call, whether it has returned or thrown. -/
def after (library : YamlLibrary Text) (manager : ConfigManager Text) (call : LoadCall Text) :
    ConfigManager Text :=
  match manager.load library call.files call.serviceName call.configRoots with
  | .returned _ next => next
  | .escaped next => next

def afterAll (library : YamlLibrary Text) (calls : List (LoadCall Text)) : ConfigManager Text :=
  calls.foldl (after library) initial

end ConfigManager

/-- The tree is a map with a map at `common.log`. -/
def HasCommonLog (tree : Yaml) : Prop :=
  ∃ entries common log, tree = .map entries ∧
    Yaml.find (text "common") entries = some (.map common) ∧
    Yaml.find (text "log") common = some (.map log)

namespace LoadCall

variable (library : YamlLibrary Text) (call : LoadCall Text)

def entries : List ConfigEntry := layerEntries call.files call.serviceName call.configRoots

/-- The files of the call merge to this tree. -/
def MergesTo (merged : Yaml) : Prop :=
  ConfigManager.hasCommon call.entries = true ∧
    ∃ layers, ConfigManager.readLayers library call.files call.entries = .ok layers ∧
      Yaml.mergeMultiple layers = some merged

/-- What the call reports; none when it throws. -/
def report : Option ConfigErrorInfo :=
  if ConfigManager.hasCommon call.entries = false then some ConfigManager.commonNotFound
  else
    match ConfigManager.readLayers library call.files call.entries with
    | .error error => some error
    | .ok layers => (Yaml.mergeMultiple layers).map (ConfigValidator.validate [logRule])

end LoadCall

theorem split_common_log : ConfigValidator.splitPath logRule.path = [text "common", text "log"] := by
  decide

theorem get_node_map_iff {node : Option Yaml} {part : Bytes} {rest : List Bytes}
    {found : Entries} :
    ConfigValidator.getNode node (part :: rest) = some (.map found) ↔
      ∃ entries, node = some (.map entries) ∧
        ConfigValidator.getNode (Yaml.find part entries) rest = some (.map found) := by
  cases node with
  | none => simp [ConfigValidator.getNode]
  | some tree => cases tree <;> simp [ConfigValidator.getNode]

/-- A required map passes its check exactly when the path leads to a map. -/
theorem validate_map_iff {rule : ValidationRule} (required : rule.required = true)
    (map : rule.expectedType = .kMap) (tree : Yaml) :
    (ConfigValidator.validate [rule] tree).code = .kOk ↔
      ∃ found, ConfigValidator.getNode (some tree) (ConfigValidator.splitPath rule.path) =
        some (.map found) := by
  unfold ConfigValidator.validate
  rw [map]
  cases ConfigValidator.getNode (some tree) (ConfigValidator.splitPath rule.path) with
  | none => simp [required, ConfigValidator.missing]
  | some node =>
      cases node <;>
        simp [required, ConfigValidator.missing, ConfigValidator.mismatch,
          ConfigValidator.checkType, Yaml.isMap, ConfigValidator.validate, ConfigValidator.noError]

theorem validate_log_rule (tree : Yaml) :
    (ConfigValidator.validate [logRule] tree).code = .kOk ↔ HasCommonLog tree := by
  rw [validate_map_iff rfl rfl, split_common_log]
  unfold HasCommonLog
  constructor
  · rintro ⟨log, found⟩
    obtain ⟨entries, root, inner⟩ := get_node_map_iff.mp found
    obtain ⟨common, above, last⟩ := get_node_map_iff.mp inner
    exact ⟨entries, common, log, Option.some.inj root, above, last⟩
  · rintro ⟨entries, common, log, rfl, above, last⟩
    exact ⟨log, get_node_map_iff.mpr ⟨entries, rfl, get_node_map_iff.mpr ⟨common, above, last⟩⟩⟩

variable {library : YamlLibrary Text} {call : LoadCall Text} {merged other : Yaml}

theorem merges_to_unique (first : call.MergesTo library merged)
    (second : call.MergesTo library other) : merged = other := by
  obtain ⟨_, layers, read, combined⟩ := first
  obtain ⟨_, others, again, done⟩ := second
  cases read.symm.trans again
  exact Option.some.inj (combined.symm.trans done)

theorem report_of_merges (merges : call.MergesTo library merged) :
    call.report library = some (ConfigValidator.validate [logRule] merged) := by
  obtain ⟨common, layers, read, combined⟩ := merges
  unfold LoadCall.report
  rw [if_neg (by simp [common]), read]
  simp only [combined, Option.map_some]

/-- How a call ends. -/
inductive Ends (library : YamlLibrary Text) (call : LoadCall Text)
    (manager : ConfigManager Text) : LoadOutcome Text → Prop
  | throws (silent : call.report library = none) :
      Ends library call manager (.escaped ⟨none, false, manager.lastError⟩)
  | refuses (error : ConfigErrorInfo) (reported : call.report library = some error)
      (failed : error.code ≠ .kOk) :
      Ends library call manager (.returned error.code ⟨none, false, error⟩)
  | succeeds (merged : Yaml) (merges : call.MergesTo library merged) (log : HasCommonLog merged)
      (reported : call.report library = some ConfigValidator.noError) :
      Ends library call manager
        (.returned .kOk ⟨some ⟨library.dump merged⟩, true, ConfigValidator.noError⟩)

theorem validate_log_eq (passed : HasCommonLog merged) :
    ConfigValidator.validate [logRule] merged = ConfigValidator.noError := by
  obtain ⟨log, found⟩ := (validate_map_iff rfl rfl merged).mp ((validate_log_rule merged).mpr passed)
  unfold ConfigValidator.validate
  rw [found]
  rfl

theorem load_ends (library : YamlLibrary Text) (manager : ConfigManager Text)
    (call : LoadCall Text) : Ends library call manager
      (manager.load library call.files call.serviceName call.configRoots) := by
  unfold ConfigManager.load
  have resolved : (PathResolver.make call.serviceName call.configRoots).resolveAll call.files =
      call.entries := rfl
  simp only [resolved]
  by_cases absent : ConfigManager.hasCommon call.entries = false
  · rw [if_pos absent]
    apply Ends.refuses
    · unfold LoadCall.report
      rw [if_pos absent]
    · simp [ConfigManager.commonNotFound]
  · rw [if_neg absent]
    have common : ConfigManager.hasCommon call.entries = true := Bool.not_eq_false _ ▸ absent
    cases read : ConfigManager.readLayers library call.files call.entries with
    | error error =>
        apply Ends.refuses
        · unfold LoadCall.report
          rw [if_neg absent, read]
        · rw [read_layers_code library call.files read]
          decide
    | ok layers =>
        simp only
        cases combined : Yaml.mergeMultiple layers with
        | none =>
            apply Ends.throws
            unfold LoadCall.report
            rw [if_neg absent, read]
            simp only [combined, Option.map_none]
        | some merged =>
            have merges : call.MergesTo library merged := ⟨common, layers, read, combined⟩
            have reported := report_of_merges merges
            simp only [ConfigManager.publish, library.load_dump]
            by_cases log : HasCommonLog merged
            · rw [validate_log_eq log] at reported ⊢
              exact .succeeds merged merges log reported
            · have refused := mt (validate_log_rule merged).mp log
              rw [if_pos refused]
              exact .refuses _ reported refused

end TboxFramework.Config
