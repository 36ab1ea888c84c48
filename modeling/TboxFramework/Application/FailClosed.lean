import TboxFramework.Application.LogSetup

/-!
# When the log set-up fails closed

Reading the configuration throws on a scalar where a section is expected, and
the registry reports success whatever became of the file sink. Apart from that
the set-up returns false exactly for a strict configuration that is not met.
-/

namespace TboxFramework.Application

open TboxFramework.Store (Bytes text)
open TboxFramework.Config
open TboxFramework.Log

set_option autoImplicit false

def isScalar : Yaml → Bool
  | .scalar _ => true
  | _ => false

/-! ## Reading a field or a section -/

theorem bind_eq_ok {First Second : Type} {first : Except YamlException First}
    {next : First → Except YamlException Second} {result : Second} :
    (first >>= next) = .ok result ↔ ∃ value, first = .ok value ∧ next value = .ok result := by
  cases first with
  | error thrown => simp [Bind.bind, Except.bind]
  | ok value => simp [Bind.bind, Except.bind]

section Fields

variable {Value : Type} (key : Bytes) (current : Value)

theorem read_field_scalar {node : Yaml} (scalar : isScalar node = true)
    (read : Yaml → Except YamlException Value) :
    readField node key current read = .error .badSubscript := by
  cases node <;> first | rfl | cases scalar

/-- Below anything but a scalar a field is read, or keeps its value. -/
theorem read_field_of_not_scalar {node : Yaml} (plain : isScalar node = false)
    (read : Yaml → Except YamlException Value) :
    readField node key current read =
      match node.at? [key] with
      | none => .ok current
      | some child => read child := by
  cases node with
  | scalar _ => cases plain
  | map entries =>
      rw [Yaml.at_map_cons]
      simp only [readField, subscript]
      cases Yaml.find key entries <;> simp
  | null | sequence _ => rfl

theorem read_field_value {node : Yaml} (plain : isScalar node = false) (value : Yaml → Value) :
    ∃ result, readField node key current (fun child => .ok (value child)) = .ok result := by
  rw [read_field_of_not_scalar key current plain]
  cases node.at? [key] with
  | none => exact ⟨_, rfl⟩
  | some child => exact ⟨_, rfl⟩

/-- A section is read through when its node is. -/
theorem read_section_iff {node : Yaml} (plain : isScalar node = false)
    (read : Yaml → Except YamlException Value) :
    (∃ result, readField node key current read = .ok result) ↔
      ∀ child, node.at? [key] = some child → ∃ result, read child = .ok result := by
  rw [read_field_of_not_scalar key current plain]
  cases node.at? [key] with
  | none => simp
  | some child => simp

/-- What the current value has and every reading gives, the field has. -/
theorem read_field_keeps {node : Yaml} {read : Yaml → Except YamlException Value}
    {result : Value} (property : Value → Prop) (start : property current)
    (kept : ∀ child value, read child = .ok value → property value)
    (done : readField node key current read = .ok result) : property result := by
  unfold readField at done
  split at done
  · cases done
  · cases done
    exact start
  · exact kept _ _ done

end Fields

section Sections

variable (convert : Conversions) (node : Yaml)

theorem read_async_iff (config : AsyncConfig) :
    (∃ result, readAsync convert config node = .ok result) ↔ isScalar node = false := by
  cases plain : isScalar node with
  | true => simp [readAsync, read_field_scalar _ _ plain, bind_eq_ok]
  | false =>
      obtain ⟨enabled, first⟩ := read_field_value (text "enabled") config.enabled plain
        (convert.asBool · true)
      obtain ⟨size, second⟩ := read_field_value (text "queue_size") config.queueSize plain
        (convert.asUInt32 · 4096)
      obtain ⟨interval, third⟩ := read_field_value (text "flush_interval_ms")
        config.flushIntervalMs plain (convert.asUInt32 · 1000)
      simp [readAsync, bind_eq_ok, first, second, third]

theorem read_console_iff (config : ConsoleConfig) :
    (∃ result, readConsole convert config node = .ok result) ↔ isScalar node = false := by
  cases plain : isScalar node with
  | true => simp [readConsole, read_field_scalar _ _ plain, bind_eq_ok]
  | false =>
      obtain ⟨enabled, first⟩ := read_field_value (text "enabled") config.enabled plain
        (convert.asBool · true)
      simp [readConsole, bind_eq_ok, first]

theorem read_file_iff (config : FileConfig) :
    (∃ result, readFile convert config node = .ok result) ↔ isScalar node = false := by
  cases plain : isScalar node with
  | true => simp [readFile, read_field_scalar _ _ plain, bind_eq_ok]
  | false =>
      obtain ⟨enabled, first⟩ := read_field_value (text "enabled") config.enabled plain
        (convert.asBool · false)
      obtain ⟨root, second⟩ := read_field_value (text "root") config.root plain
        (convert.asString · (text "/var/log/tbox"))
      obtain ⟨size, third⟩ := read_field_value (text "max_file_size_mb") config.maxFileSizeMb plain
        (convert.asUInt32 · 20)
      obtain ⟨files, fourth⟩ := read_field_value (text "max_files") config.maxFiles plain
        (convert.asUInt32 · 5)
      obtain ⟨budget, fifth⟩ := read_field_value (text "total_budget_mb") config.totalBudgetMb plain
        (convert.asUInt32 · 100)
      simp [readFile, bind_eq_ok, first, second, third, fourth, fifth]

theorem read_redact_iff (config : RedactConfig) :
    (∃ result, readRedact convert config node = .ok result) ↔ isScalar node = false := by
  cases plain : isScalar node with
  | true => simp [readRedact, read_field_scalar _ _ plain, bind_eq_ok]
  | false =>
      obtain ⟨identifiers, first⟩ := read_field_value (text "identifiers") config.identifiers plain
        (convert.asString · (text "mask"))
      obtain ⟨limit, second⟩ := read_field_value (text "raw_payload_max_bytes")
        config.rawPayloadMaxBytes plain (convert.asUInt32 · 256)
      simp [readRedact, bind_eq_ok, first, second]

/-- The keys of a module table convert, and there is no sequence in its place. -/
def ModulesReadable (node : Yaml) : Prop :=
  (∀ item rest, node ≠ .sequence (item :: rest)) ∧
    ∀ entries, node = .map entries → ∀ key ∈ entries.map Prod.fst, key.keyText ≠ none

theorem read_modules_iff (levels : List (Bytes × LogLevel)) :
    (∃ result, readModules convert levels node = .ok result) ↔ ModulesReadable node := by
  unfold ModulesReadable
  cases node with
  | null | scalar _ => simp [readModules]
  | sequence items => cases items <;> simp [readModules]
  | map entries =>
      simp only [readModules, reduceCtorEq, ne_eq, not_false_eq_true, implies_true, true_and,
        Yaml.map.injEq, forall_eq']
      induction entries generalizing levels with
      | nil => simp [readModuleEntries]
      | cons entry rest ih =>
          obtain ⟨key, value⟩ := entry
          cases named : key.keyText with
          | none => simp [readModuleEntries, named]
          | some name => simp [readModuleEntries, named, ih]

end Sections

/-! ## The whole configuration -/

def sectionNames : List String := ["async", "console", "file", "redact"]

theorem read_common_log_iff (convert : Conversions) (config : LogConfig) {logNode : Yaml}
    (plain : isScalar logNode = false) :
    (∃ result, readCommonLog convert config logNode = .ok result) ↔
      ∀ name ∈ sectionNames, ∀ child, logNode.at? [text name] = some child →
        isScalar child = false := by
  have async := read_section_iff (text "async") config.asyncConfig plain
    (readAsync convert config.asyncConfig)
  have console := read_section_iff (text "console") config.consoleConfig plain
    (readConsole convert config.consoleConfig)
  have file := read_section_iff (text "file") config.fileConfig plain
    (readFile convert config.fileConfig)
  have redact := read_section_iff (text "redact") config.redactConfig plain
    (readRedact convert config.redactConfig)
  simp only [read_async_iff] at async
  simp only [read_console_iff] at console
  simp only [read_file_iff] at file
  simp only [read_redact_iff] at redact
  simp only [sectionNames, List.forall_mem_cons, List.not_mem_nil, false_imp_iff, implies_true,
    and_true, ← async, ← console, ← file, ← redact]
  simp only [readCommonLog, bind_eq_ok]
  constructor
  · rintro ⟨_, _, _, _, _, _, _, _, _, asyncConfig, first, consoleConfig, second, fileConfig, third,
      redactConfig, fourth, _⟩
    exact ⟨⟨_, first⟩, ⟨_, second⟩, ⟨_, third⟩, ⟨_, fourth⟩⟩
  · rintro ⟨⟨asyncConfig, first⟩, ⟨consoleConfig, second⟩, ⟨fileConfig, third⟩,
      redactConfig, fourth⟩
    obtain ⟨version, versioned⟩ := read_field_value (text "schema_version")
      config.schemaVersion plain (convert.asUInt32 · 1)
    obtain ⟨level, levelled⟩ := read_field_value (text "level") config.level plain
      (readLevel convert)
    obtain ⟨strict, stricted⟩ := read_field_value (text "strict") config.strict plain
      (convert.asBool · false)
    obtain ⟨format, formatted⟩ := read_field_value (text "format") config.format plain
      (convert.asString · (text "standard"))
    exact ⟨_, version, versioned, level, levelled, strict, stricted, format, formatted, asyncConfig,
      first, consoleConfig, second, fileConfig, third, redactConfig, fourth, rfl⟩

theorem read_service_log_iff (convert : Conversions) (config : LogConfig) (svcLog : Yaml) :
    (∃ result, readServiceLog convert config svcLog = .ok result) ↔
      isScalar svcLog = false ∧
        ∀ modules, svcLog.at? [text "modules"] = some modules → ModulesReadable modules := by
  cases plain : isScalar svcLog with
  | true => simp [readServiceLog, read_field_scalar _ _ plain, bind_eq_ok]
  | false =>
      have modules := read_section_iff (text "modules") config.moduleLevels plain
        (readModules convert config.moduleLevels)
      simp only [read_modules_iff] at modules
      simp only [true_and, ← modules, readServiceLog, bind_eq_ok]
      obtain ⟨level, levelled⟩ := read_field_value (text "level") config.level plain
        (readLevel convert)
      obtain ⟨format, formatted⟩ := read_field_value (text "format") config.format plain
        (convert.asString · (text "standard"))
      constructor
      · rintro ⟨_, _, _, _, _, moduleLevels, read, _⟩
        exact ⟨moduleLevels, read⟩
      · rintro ⟨moduleLevels, read⟩
        exact ⟨_, level, levelled, format, formatted, moduleLevels, read, rfl⟩

/-- No section that is read is a scalar, and the module table of the service can be
iterated over. -/
def SectionsReadable (config_ : Yaml) (serviceName : Bytes) : Prop :=
  (∀ name ∈ sectionNames, ∀ child,
    config_.at? [text "common", text "log", text name] = some child → isScalar child = false) ∧
  (∀ service, config_.at? [serviceName] = some service → isScalar service = false) ∧
  (∀ svcLog, config_.at? [serviceName, text "log"] = some svcLog → isScalar svcLog = false) ∧
  ∀ modules, config_.at? [serviceName, text "log", text "modules"] = some modules →
    ModulesReadable modules

/-- The value of `common.log.strict`. -/
def strictIn (convert : Conversions) (config_ : Yaml) : Bool :=
  match config_.at? [text "common", text "log", text "strict"] with
  | some node => convert.asBool node false
  | none => false

/-- The validator of a load accepts a tree only if `common.log` is a map. -/
theorem common_log_of_accepted {config_ : Yaml}
    (accepted : (ConfigValidator.validate [logRule] config_).code = .kOk) :
    ∃ root common entries, config_ = .map root ∧
      Yaml.find (text "common") root = some (.map common) ∧
      Yaml.find (text "log") common = some (.map entries) := by
  have parts : ConfigValidator.splitPath logRule.path = [text "common", text "log"] := rfl
  unfold ConfigValidator.validate at accepted
  rw [parts] at accepted
  cases config_ with
  | null | scalar _ | sequence _ =>
      simp [ConfigValidator.getNode, ConfigValidator.missing, logRule] at accepted
  | map root =>
      cases common : Yaml.find (text "common") root with
      | none =>
          simp [ConfigValidator.getNode, ConfigValidator.missing, logRule, common] at accepted
      | some below =>
          cases below with
          | null | scalar _ | sequence _ =>
              simp [ConfigValidator.getNode, ConfigValidator.missing, logRule, common] at accepted
          | map entries =>
              cases log : Yaml.find (text "log") entries with
              | none =>
                  simp [ConfigValidator.getNode, ConfigValidator.missing, logRule, common, log]
                    at accepted
              | some logNode =>
                  cases logNode with
                  | null | scalar _ | sequence _ =>
                      simp [ConfigValidator.getNode, ConfigValidator.missing,
                        ConfigValidator.mismatch, ConfigValidator.checkType, Yaml.isMap, logRule,
                        common, log] at accepted
                  | map inner => exact ⟨root, entries, inner, rfl, common, log⟩

theorem read_common_log_strict {convert : Conversions} {config result : LogConfig}
    {entries : Entries} (done : readCommonLog convert config (.map entries) = .ok result) :
    result.strict =
      match Yaml.find (text "strict") entries with
      | some node => convert.asBool node false
      | none => config.strict := by
  simp only [readCommonLog, bind_eq_ok] at done
  obtain ⟨_, _, _, _, strict, read, _, _, _, _, _, _, _, _, _, _, rest⟩ := done
  cases rest
  simp only [readField, subscript] at read
  cases found : Yaml.find (text "strict") entries with
  | none =>
      rw [found] at read
      cases read
      rfl
  | some node =>
      rw [found] at read
      cases read
      rfl

theorem read_service_log_strict {convert : Conversions} {config result : LogConfig}
    {svcLog : Yaml} (done : readServiceLog convert config svcLog = .ok result) :
    result.strict = config.strict := by
  simp only [readServiceLog, bind_eq_ok] at done
  obtain ⟨_, _, _, _, _, _, rest⟩ := done
  cases rest
  rfl

/-- On an accepted tree the configuration is built unless a section stands in the way,
and its strict flag is the one in the tree. -/
theorem build_log_config_iff (convert : Conversions) {config_ : Yaml} (serviceName : Bytes)
    (accepted : (ConfigValidator.validate [logRule] config_).code = .kOk) :
    ((∃ config, buildLogConfig convert config_ serviceName = .ok config) ↔
      SectionsReadable config_ serviceName) ∧
    ∀ config, buildLogConfig convert config_ serviceName = .ok config →
      config.strict = strictIn convert config_ := by
  obtain ⟨root, common, entries, rfl, foundCommon, foundLog⟩ := common_log_of_accepted accepted
  have log : ∀ path, (Yaml.map root).at? (text "common" :: text "log" :: path) =
      (Yaml.map entries).at? path := by
    intro path
    rw [Yaml.at_map_cons, foundCommon, Option.bind_some, Yaml.at_map_cons, foundLog,
      Option.bind_some]
  have below : ∀ (node : Yaml) key rest found, node.at? (key :: rest) = some found ↔
      ∃ child, node.at? [key] = some child ∧ child.at? rest = some found := by
    intro node key rest found
    rw [← Option.bind_eq_some_iff, ← Yaml.at_append, List.singleton_append]
  have built : buildLogConfig convert (.map root) serviceName =
      (readCommonLog convert {} (.map entries) >>= fun config =>
        readField (.map root) serviceName config fun service =>
          readField service (text "log") config (readServiceLog convert config)) := by
    simp only [buildLogConfig, readField, subscript, foundCommon, foundLog]
  have plain : isScalar (.map entries) = false := rfl
  have sections := read_common_log_iff convert {} plain
  constructor
  · -- Each of the two readings goes through on its own.
    have service : ∀ config, (∃ result, readField (.map root) serviceName config (fun service =>
        readField service (text "log") config (readServiceLog convert config)) = .ok result) ↔
        ∀ service, (Yaml.map root).at? [serviceName] = some service → isScalar service = false ∧
          ∀ svcLog, service.at? [text "log"] = some svcLog → isScalar svcLog = false ∧
            ∀ modules, svcLog.at? [text "modules"] = some modules → ModulesReadable modules := by
      intro config
      have plainRoot : isScalar (.map root) = false := rfl
      rw [read_section_iff serviceName config plainRoot]
      refine forall_congr' fun service => forall_congr' fun _ => ?_
      cases plain : isScalar service with
      | true => simp [read_field_scalar _ _ plain]
      | false =>
          rw [read_section_iff (text "log") config plain]
          simp only [read_service_log_iff, true_and]
    rw [built]
    constructor
    · rintro ⟨config, done⟩
      obtain ⟨first, read, rest⟩ := bind_eq_ok.mp done
      have inner := (service first).mp ⟨config, rest⟩
      refine ⟨fun name member child found => ?_, fun node found => (inner node found).1,
        fun svcLog found => ?_, fun modules found => ?_⟩
      · exact sections.mp ⟨first, read⟩ name member child ((log _).symm.trans found)
      · obtain ⟨node, reached, found⟩ := (below ..).mp found
        exact ((inner node reached).2 svcLog found).1
      · obtain ⟨node, reached, found⟩ := (below ..).mp found
        obtain ⟨svcLog, further, found⟩ := (below ..).mp found
        exact ((inner node reached).2 svcLog further).2 modules found
    · rintro ⟨unbroken, serviced, logged, listed⟩
      obtain ⟨first, read⟩ := sections.mpr fun name member child found =>
        unbroken name member child ((log _).trans found)
      obtain ⟨config, rest⟩ := (service first).mpr fun node reached =>
        ⟨serviced node reached, fun svcLog found =>
          ⟨logged svcLog ((below ..).mpr ⟨node, reached, found⟩), fun modules last =>
            listed modules ((below ..).mpr ⟨node, reached, (below ..).mpr ⟨svcLog, found, last⟩⟩)⟩⟩
      exact ⟨config, bind_eq_ok.mpr ⟨first, read, rest⟩⟩
  · intro config done
    rw [built] at done
    obtain ⟨first, read, rest⟩ := bind_eq_ok.mp done
    have kept : config.strict = first.strict :=
      read_field_keeps _ _ (fun other : LogConfig => other.strict = first.strict) rfl
        (fun service value inner => read_field_keeps _ _
          (fun other : LogConfig => other.strict = first.strict) rfl
          (fun _ _ last => read_service_log_strict last) inner) rest
    rw [kept, read_common_log_strict read, strictIn, log, Yaml.at_map_cons]
    cases Yaml.find (text "strict") entries <;> simp

/-! ## The decision -/

/-- A sink that the configuration enables is not there: the console always is. -/
def SinkUnavailable (config : LogConfig) (opens : Bool) : Prop :=
  config.fileConfig.enabled = true ∧ opens = false

/-- The set-up returns; false means a strict configuration that is invalid or lacks a
sink, true means a registry initialised with the configuration or, for an invalid one,
with the defaults. -/
def FailsClosed (convert : Conversions) (config_ : Yaml) (serviceName : Bytes) (opens : Bool)
    (registry : LoggerRegistry) : Prop :=
  ∃ started after config,
    setupLogging convert true config_ serviceName opens registry = .returned started after ∧
    buildLogConfig convert config_ serviceName = .ok config ∧
    (started = false ↔ strictIn convert config_ = true ∧
      (¬LogConfigAdapter.Valid config ∨ SinkUnavailable config opens)) ∧
    (started = true → after.initialized = true ∧
      after = (registry.init serviceName
        (if LogConfigAdapter.Valid config then config else LogConfigAdapter.getDefaultConfig)
        opens).2)

/-- With a configuration at hand the set-up looks at the checks and the strict flag only. -/
theorem setup_logging_eq {convert : Conversions} {config_ : Yaml} {serviceName : Bytes}
    {opens : Bool} {registry : LoggerRegistry} {config : LogConfig}
    (idle : registry.initialized = false)
    (built : buildLogConfig convert config_ serviceName = .ok config) :
    setupLogging convert true config_ serviceName opens registry =
      if ¬LogConfigAdapter.Valid config ∧ config.strict = true then .returned false registry
      else .returned true (registry.init serviceName
        (if LogConfigAdapter.Valid config then config else LogConfigAdapter.getDefaultConfig)
        opens).2 := by
  have initialised : ∀ chosen, (registry.init serviceName chosen opens).1.error = .kOk := by
    intro chosen
    simp [LoggerRegistry.init, idle]
  unfold setupLogging
  simp only [built, reduceCtorEq, if_false]
  by_cases valid : LogConfigAdapter.Valid config
  · have code : (LogConfigAdapter.validate config).code = .kOk := valid
    simp [valid, code, initialised]
  · have code : (LogConfigAdapter.validate config).code ≠ .kOk := valid
    simp [valid, code, initialised]

/-- Apart from the two gaps, the set-up fails closed: no section throws while it is read,
and no valid strict configuration has a file sink whose file does not open. -/
theorem setup_fails_closed_iff (convert : Conversions) (config_ : Yaml) (serviceName : Bytes)
    (opens : Bool) (registry : LoggerRegistry)
    (accepted : (ConfigValidator.validate [logRule] config_).code = .kOk)
    (idle : registry.initialized = false) :
    FailsClosed convert config_ serviceName opens registry ↔
      SectionsReadable config_ serviceName ∧
        ∀ config, buildLogConfig convert config_ serviceName = .ok config →
          strictIn convert config_ = true → LogConfigAdapter.Valid config →
          ¬SinkUnavailable config opens := by
  obtain ⟨readable, strict⟩ := build_log_config_iff convert serviceName accepted
  cases built : buildLogConfig convert config_ serviceName with
  | error thrown =>
      refine iff_of_false ?_ ?_
      · rintro ⟨started, after, config, -, other, -⟩
        cases built.symm.trans other
      · rintro ⟨sections, -⟩
        obtain ⟨config, other⟩ := readable.mpr sections
        cases built.symm.trans other
  | ok config =>
      have flag := strict config built
      have initialised :
          ∀ chosen, (registry.init serviceName chosen opens).2.initialized = true := by
        intro chosen
        simp [LoggerRegistry.init, idle]
      simp only [FailsClosed, setup_logging_eq idle built, built, Except.ok.injEq, forall_eq',
        readable.mp ⟨config, built⟩, true_and, ← flag]
      by_cases valid : LogConfigAdapter.Valid config
      · -- The registry starts with the configuration, whatever became of its file.
        simp only [valid, not_true_eq_false, false_and, if_false, if_true,
          SetupOutcome.returned.injEq, forall_const]
        constructor
        · rintro ⟨_, _, _, ⟨rfl, rfl⟩, rfl, decision, -⟩ strictly unavailable
          cases decision.mpr ⟨strictly, .inr unavailable⟩
        · intro available
          refine ⟨true, _, config, ⟨rfl, rfl⟩, rfl, ?_, fun _ => ⟨initialised config, ?_⟩⟩
          · exact iff_of_false (by simp) fun both =>
              available both.1 (both.2.resolve_left (not_not.mpr valid))
          · rw [if_pos valid]
      · simp only [valid, not_false_eq_true, true_and, if_false, false_imp_iff, implies_true,
          iff_true]
        cases strictly : config.strict with
        | true =>
            refine ⟨false, registry, config, if_pos rfl, rfl, ?_, by simp⟩
            exact iff_of_true rfl ⟨rfl, .inl valid⟩
        | false =>
            refine ⟨true, _, config, if_neg (by simp), rfl, ?_, fun _ => ⟨initialised _, ?_⟩⟩
            · simp
            · rw [if_neg valid]

/-- The conversions of the library on the nodes below: no number is read there. -/
def plainConversions : Conversions where
  asUInt32 _ fallback := fallback
  asBool node fallback :=
    match node with
    | .scalar word => if word = text "true" then true
        else if word = text "false" then false else fallback
    | _ => fallback
  asString node fallback :=
    match node with
    | .scalar word => word
    | .null => text "null"
    | _ => fallback

def logTree (entries : Entries) : Yaml :=
  .map [(.scalar (text "common"), .map [(.scalar (text "log"), .map entries)])]

/-- A strict configuration with a file sink. -/
def strictFileTree : Yaml :=
  logTree [(.scalar (text "strict"), .scalar (text "true")),
    (.scalar (text "file"), .map [(.scalar (text "enabled"), .scalar (text "true"))])]

/-- A switch where the section of the asynchronous mode is expected. -/
def scalarAsyncTree : Yaml := logTree [(.scalar (text "async"), .scalar (text "on"))]

theorem setup_fails_closed_opened :
    FailsClosed plainConversions strictFileTree (text "diag") true LoggerRegistry.fresh ↔
      SectionsReadable strictFileTree (text "diag") ∧
        ∀ config, buildLogConfig plainConversions strictFileTree (text "diag") = .ok config →
          strictIn plainConversions strictFileTree = true → LogConfigAdapter.Valid config →
          ¬SinkUnavailable config true :=
  setup_fails_closed_iff plainConversions strictFileTree (text "diag") true LoggerRegistry.fresh
    (by decide) rfl

/-- A strict set-up returns true although its file did not open, and a scalar section
ends a set-up that is not even strict. -/
theorem setup_does_not_fail_closed :
    ¬FailsClosed plainConversions strictFileTree (text "diag") false LoggerRegistry.fresh ∧
      ¬FailsClosed plainConversions scalarAsyncTree (text "diag") true LoggerRegistry.fresh := by
  constructor
  · rintro ⟨started, after, config, returned, built, decision, -⟩
    have read : buildLogConfig plainConversions strictFileTree (text "diag") =
        .ok { strict := true, fileConfig := { enabled := true } } := rfl
    cases read.symm.trans built
    cases returned
    have refused := decision.mpr ⟨rfl, .inr ⟨rfl, rfl⟩⟩
    cases refused
  · rintro ⟨started, after, config, -, built, -⟩
    have thrown : buildLogConfig plainConversions scalarAsyncTree (text "diag") =
        .error .badSubscript := rfl
    cases thrown.symm.trans built

end TboxFramework.Application
