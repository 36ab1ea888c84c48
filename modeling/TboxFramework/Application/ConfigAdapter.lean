import TboxFramework.Application.FailClosed
import TboxFramework.Config.LoadReporting

/-!
# Two readers of the log configuration

`LogConfigAdapter` reads a common and a service document itself, catches what the reading
throws and falls back to the defaults. On the documents of a tree that a load accepts it
comes to the configuration that `setup_logging` goes on with.
-/

namespace TboxFramework.Application

open TboxFramework.Store (Bytes text)
open TboxFramework.Config
open TboxFramework.Log

set_option autoImplicit false

namespace ConfigAdapter

variable {Text : Type}

/-- The fields of `common.log`; the adapter reads the format last. -/
def readCommon (convert : Conversions) (config : LogConfig) (logNode : Yaml) :
    Except YamlException LogConfig := do
  let schemaVersion ← readField logNode (text "schema_version") config.schemaVersion fun child =>
    .ok (convert.asUInt32 child 1)
  let level ← readField logNode (text "level") config.level fun child =>
    .ok (readLevel convert child)
  let strict ← readField logNode (text "strict") config.strict fun child =>
    .ok (convert.asBool child false)
  let asyncConfig ← readField logNode (text "async") config.asyncConfig
    (readAsync convert config.asyncConfig)
  let consoleConfig ← readField logNode (text "console") config.consoleConfig
    (readConsole convert config.consoleConfig)
  let fileConfig ← readField logNode (text "file") config.fileConfig
    (readFile convert config.fileConfig)
  let redactConfig ← readField logNode (text "redact") config.redactConfig
    (readRedact convert config.redactConfig)
  let format ← readField logNode (text "format") config.format fun child =>
    .ok (convert.asString child (text "standard"))
  .ok { config with
    schemaVersion, level, strict, format, asyncConfig, consoleConfig, fileConfig, redactConfig }

def readDocuments (convert : Conversions) (common service : Yaml) :
    Except YamlException LogConfig := do
  let defaults : LogConfig := {}
  let config ← readField common (text "common") defaults fun node =>
    readField node (text "log") defaults (readCommon convert defaults)
  readField service (text "log") config (readServiceLog convert config)

/-- What the `catch` returns. -/
def unreadable (what : Bytes) : LogConfig × LogErrorInfo :=
  (LogConfigAdapter.getDefaultConfig, ⟨.kConfigInvalid, text "YAML parse error: " ++ what, []⟩)

/-- What is made of a configuration that has been read, or of what the reading threw. -/
def concluded (what : YamlException → Bytes) : Except YamlException LogConfig →
    LogConfig × LogErrorInfo
  | .error thrown => unreadable (what thrown)
  | .ok config =>
      let validationError := LogConfigAdapter.validate config
      if validationError.code ≠ .kOk then (LogConfigAdapter.getDefaultConfig, validationError)
      else (config, ⟨.kOk, [], []⟩)

/-- None is the empty service text. -/
def loadFromYamlString (library : YamlLibrary Text) (what : YamlException → Bytes)
    (convert : Conversions) (commonYaml : Text) (serviceYaml : Option Text) :
    LogConfig × LogErrorInfo :=
  match library.load commonYaml, (serviceYaml.map library.load).getD (.ok .null) with
  | .error unparsed, _ => unreadable unparsed
  | _, .error unparsed => unreadable unparsed
  | .ok common, .ok service => concluded what (readDocuments convert common service)

/-- A service file that cannot be read is no error. -/
def loadFromYaml (library : YamlLibrary Text) (what : YamlException → Bytes)
    (convert : Conversions) (files : FileSystem Text) (commonConfigPath serviceConfigPath : Bytes) :
    LogConfig × LogErrorInfo :=
  match ConfigManager.loadFile library files commonConfigPath with
  | .error unparsed =>
      ({}, ⟨.kConfigInvalid, text "Failed to parse YAML: " ++ unparsed, commonConfigPath⟩)
  | .ok common =>
      let service := (ConfigManager.loadFile library files serviceConfigPath).toOption.getD .null
      loadFromYamlString library what convert (library.dump common)
        (if serviceConfigPath = [] then none else some (library.dump service))

/-! ## What is returned -/

theorem concluded_valid (what : YamlException → Bytes) (read : Except YamlException LogConfig) :
    LogConfigAdapter.Valid (concluded what read).1 := by
  cases read with
  | error thrown => exact (by decide : LogConfigAdapter.Valid LogConfigAdapter.getDefaultConfig)
  | ok config =>
      unfold concluded
      simp only
      split
      · exact (by decide : LogConfigAdapter.Valid LogConfigAdapter.getDefaultConfig)
      · next passed => exact not_not.mp passed

theorem load_from_yaml_string_valid (library : YamlLibrary Text) (what : YamlException → Bytes)
    (convert : Conversions) (commonYaml : Text) (serviceYaml : Option Text) :
    LogConfigAdapter.Valid
      (loadFromYamlString library what convert commonYaml serviceYaml).1 := by
  unfold loadFromYamlString
  split
  · exact (by decide : LogConfigAdapter.Valid LogConfigAdapter.getDefaultConfig)
  · exact (by decide : LogConfigAdapter.Valid LogConfigAdapter.getDefaultConfig)
  · exact concluded_valid what _

/-- Whatever files there are, the adapter comes to a valid configuration. -/
theorem load_from_yaml_valid (library : YamlLibrary Text) (what : YamlException → Bytes)
    (convert : Conversions) (files : FileSystem Text)
    (commonConfigPath serviceConfigPath : Bytes) :
    LogConfigAdapter.Valid
      (loadFromYaml library what convert files commonConfigPath serviceConfigPath).1 := by
  unfold loadFromYaml
  split
  · exact (by decide : LogConfigAdapter.Valid ({} : LogConfig))
  · exact load_from_yaml_string_valid library what convert _ _

/-- Reading the format earlier or later makes no difference: it cannot throw by itself. -/
theorem read_common_eq (convert : Conversions) (config : LogConfig) (logNode : Yaml) :
    readCommon convert config logNode = readCommonLog convert config logNode := by
  cases plain : isScalar logNode with
  | true =>
      unfold readCommon readCommonLog
      rw [read_field_scalar _ _ plain]
      rfl
  | false =>
      obtain ⟨version, versioned⟩ := read_field_value (text "schema_version")
        config.schemaVersion plain (convert.asUInt32 · 1)
      obtain ⟨level, levelled⟩ := read_field_value (text "level") config.level plain
        (readLevel convert)
      obtain ⟨strict, stricted⟩ := read_field_value (text "strict") config.strict plain
        (convert.asBool · false)
      obtain ⟨format, formatted⟩ := read_field_value (text "format") config.format plain
        (convert.asString · (text "standard"))
      unfold readCommon readCommonLog
      rw [versioned, levelled, stricted, formatted]
      rfl

theorem at_key {entries : Entries} (key : Bytes) :
    (Yaml.map entries).at? [key] = Yaml.find key entries := by
  rw [Yaml.at_map_cons]
  cases Yaml.find key entries <;> simp

/-- The documents of an accepted tree: the tree itself and the section of the service. -/
theorem read_documents_eq (convert : Conversions) {config_ : Yaml} (serviceName : Bytes)
    (accepted : (ConfigValidator.validate [logRule] config_).code = .kOk) :
    readDocuments convert config_ ((config_.at? [serviceName]).getD .null) =
      buildLogConfig convert config_ serviceName := by
  obtain ⟨root, common, entries, rfl, foundCommon, foundLog⟩ := common_log_of_accepted accepted
  have service (config : LogConfig) :
      readField (((Yaml.map root).at? [serviceName]).getD .null) (text "log") config
          (readServiceLog convert config) =
        readField (.map root) serviceName config fun service =>
          readField service (text "log") config (readServiceLog convert config) := by
    rw [at_key]
    simp only [readField, subscript]
    cases Yaml.find serviceName root <;> rfl
  simp only [readDocuments, buildLogConfig, service]
  simp only [readField, subscript, foundCommon, foundLog, read_common_eq]

/-- What `setup_logging` does with a configuration that it has settled on. -/
def initialised (config : LogConfig) (serviceName : Bytes) (opens : Bool)
    (registry : LoggerRegistry) : SetupOutcome :=
  let (result, after) := registry.init serviceName config opens
  if result.error ≠ .kOk then
    if config.strict then .returned false after
    else .returned true (after.init serviceName LogConfigAdapter.getDefaultConfig opens).2
  else .returned true after

theorem setup_of_built {convert : Conversions} {config_ : Yaml} {serviceName : Bytes}
    {built : LogConfig} (done : buildLogConfig convert config_ serviceName = .ok built)
    (what : YamlException → Bytes) (opens : Bool) (registry : LoggerRegistry) :
    setupLogging convert true config_ serviceName opens registry =
      if (concluded what (.ok built)).2.code ≠ .kOk ∧ built.strict = true then
        .returned false registry
      else initialised (concluded what (.ok built)).1 serviceName opens registry := by
  unfold setupLogging concluded initialised
  rw [if_neg (by decide), done]
  by_cases passed : (LogConfigAdapter.validate built).code = .kOk
  · simp [passed]
  · simp [passed]

/-- On the documents of a tree that a load accepts, the adapter always comes to a valid
configuration, and `setup_logging` goes on with that one unless a strict configuration is
invalid; where the sections cannot be read, the adapter gives the defaults with an error
and `setup_logging` throws. -/
theorem adapter_agrees_with_setup {Text : Type} (library : YamlLibrary Text)
    (what : YamlException → Bytes) (convert : Conversions) (config_ : Yaml) (serviceName : Bytes)
    (accepted : (ConfigValidator.validate [logRule] config_).code = .kOk)
    (commonYaml : Text) (serviceYaml : Option Text) (common : library.load commonYaml = .ok config_)
    (service : (serviceYaml.map library.load).getD (.ok .null) =
      .ok ((config_.at? [serviceName]).getD .null))
    (opens : Bool) (registry : LoggerRegistry) :
    LogConfigAdapter.Valid
        (loadFromYamlString library what convert commonYaml serviceYaml).1 ∧
      (SectionsReadable config_ serviceName →
        setupLogging convert true config_ serviceName opens registry =
          if (loadFromYamlString library what convert commonYaml serviceYaml).2.code ≠ .kOk ∧
              strictIn convert config_ = true then .returned false registry
          else initialised (loadFromYamlString library what convert commonYaml serviceYaml).1
            serviceName opens registry) ∧
      (¬ SectionsReadable config_ serviceName →
        (loadFromYamlString library what convert commonYaml serviceYaml).1 =
            LogConfigAdapter.getDefaultConfig ∧
          (loadFromYamlString library what convert commonYaml serviceYaml).2.code =
            .kConfigInvalid ∧
          ∃ thrown, setupLogging convert true config_ serviceName opens registry =
            .escaped thrown registry) := by
  have read : loadFromYamlString library what convert commonYaml serviceYaml =
      concluded what (buildLogConfig convert config_ serviceName) := by
    unfold loadFromYamlString
    rw [common, service]
    simp only [read_documents_eq convert serviceName accepted]
  have builds := build_log_config_iff convert serviceName accepted
  apply And.intro (load_from_yaml_string_valid library what convert commonYaml serviceYaml)
  rw [read]
  apply And.intro
  · intro readable
    obtain ⟨built, done⟩ := builds.1.mpr readable
    rw [setup_of_built done what, done, builds.2 built done]
  · intro unreadable
    cases done : buildLogConfig convert config_ serviceName with
    | ok built => exact absurd (builds.1.mp ⟨built, done⟩) unreadable
    | error thrown =>
        refine ⟨rfl, rfl, thrown, ?_⟩
        unfold setupLogging
        rw [if_neg (by decide), done]

/-- A switch where a section is expected: the adapter falls back, the set-up throws. -/
theorem scalar_section_divides_readers :
    (loadFromYamlString treeLibrary (fun _ => text "bad subscript") plainConversions
        scalarAsyncTree none).1 = LogConfigAdapter.getDefaultConfig ∧
      ∃ thrown, setupLogging plainConversions true scalarAsyncTree (text "diag") true
        LoggerRegistry.fresh = .escaped thrown LoggerRegistry.fresh := by
  have agrees := adapter_agrees_with_setup treeLibrary (fun _ => text "bad subscript")
    plainConversions scalarAsyncTree (text "diag") (by decide) scalarAsyncTree none rfl rfl true
    LoggerRegistry.fresh
  have unreadable : ¬ SectionsReadable scalarAsyncTree (text "diag") := by
    intro readable
    have plain := readable.1 "async" (by decide) (.scalar (text "on")) rfl
    cases plain
  have divided := agrees.2.2 unreadable
  exact ⟨divided.1, divided.2.2⟩

end ConfigAdapter

end TboxFramework.Application
