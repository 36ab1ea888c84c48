import TboxFramework.Config.KeyPaths
import TboxFramework.Config.ConfigManager
import TboxFramework.Log.LoggerRegistry

/-!
# Setting up the log of an application

`buildLogConfig` reads the merged tree through subscripts that throw on a scalar,
outside any try block; `setup_logging` then validates, initialises the registry
and decides by the strict flag.
-/

namespace TboxFramework.Application

open TboxFramework.Store (Bytes text)
open TboxFramework.Config
open TboxFramework.Log

set_option autoImplicit false

inductive YamlException
  | badSubscript
  | badConversion
  | invalidNode
  deriving DecidableEq

/-- `as<T>(fallback)` of the YAML library: total, the fallback is the second argument. -/
structure Conversions where
  asUInt32 : Yaml → UInt32 → UInt32
  asBool : Yaml → Bool → Bool
  asString : Yaml → Bytes → Bytes

/-- `node[key]`: none is an undefined node. Null and sequences have no string keys. -/
def subscript (node : Yaml) (key : Bytes) : Except YamlException (Option Yaml) :=
  match node with
  | .map entries => .ok (Yaml.find key entries)
  | .scalar _ => .error .badSubscript
  | _ => .ok none

/-- `if (node[key]) value = read(node[key])`. -/
def readField {Value : Type} (node : Yaml) (key : Bytes) (current : Value)
    (read : Yaml → Except YamlException Value) : Except YamlException Value :=
  match subscript node key with
  | .error thrown => .error thrown
  | .ok none => .ok current
  | .ok (some child) => read child

section Build

variable (convert : Conversions)

def readAsync (config : AsyncConfig) (node : Yaml) : Except YamlException AsyncConfig := do
  let enabled ← readField node (text "enabled") config.enabled fun child =>
    .ok (convert.asBool child true)
  let queueSize ← readField node (text "queue_size") config.queueSize fun child =>
    .ok (convert.asUInt32 child 4096)
  let flushIntervalMs ← readField node (text "flush_interval_ms") config.flushIntervalMs
    fun child => .ok (convert.asUInt32 child 1000)
  .ok ⟨enabled, queueSize, flushIntervalMs⟩

def readConsole (config : ConsoleConfig) (node : Yaml) : Except YamlException ConsoleConfig := do
  let enabled ← readField node (text "enabled") config.enabled fun child =>
    .ok (convert.asBool child true)
  .ok ⟨enabled⟩

def readFile (config : FileConfig) (node : Yaml) : Except YamlException FileConfig := do
  let enabled ← readField node (text "enabled") config.enabled fun child =>
    .ok (convert.asBool child false)
  let root ← readField node (text "root") config.root fun child =>
    .ok (convert.asString child (text "/var/log/tbox"))
  let maxFileSizeMb ← readField node (text "max_file_size_mb") config.maxFileSizeMb fun child =>
    .ok (convert.asUInt32 child 20)
  let maxFiles ← readField node (text "max_files") config.maxFiles fun child =>
    .ok (convert.asUInt32 child 5)
  let totalBudgetMb ← readField node (text "total_budget_mb") config.totalBudgetMb fun child =>
    .ok (convert.asUInt32 child 100)
  .ok ⟨enabled, root, maxFileSizeMb, maxFiles, totalBudgetMb⟩

def readRedact (config : RedactConfig) (node : Yaml) : Except YamlException RedactConfig := do
  let identifiers ← readField node (text "identifiers") config.identifiers fun child =>
    .ok (convert.asString child (text "mask"))
  let rawPayloadMaxBytes ← readField node (text "raw_payload_max_bytes") config.rawPayloadMaxBytes
    fun child => .ok (convert.asUInt32 child 256)
  .ok ⟨identifiers, rawPayloadMaxBytes⟩

def readLevel (node : Yaml) : LogLevel := logLevelFromString (convert.asString node (text "INFO"))

/-- `module_levels[name] = level`. -/
def setLevel (name : Bytes) (level : LogLevel) :
    List (Bytes × LogLevel) → List (Bytes × LogLevel)
  | [] => [(name, level)]
  | (module, old) :: rest =>
      if module = name then (module, level) :: rest else (module, old) :: setLevel name level rest

def readModuleEntries : List (Bytes × LogLevel) → Entries →
    Except YamlException (List (Bytes × LogLevel))
  | levels, [] => .ok levels
  | levels, (key, value) :: rest =>
      match key.keyText with
      | none => .error .badConversion
      | some name => readModuleEntries (setLevel name (readLevel convert value) levels) rest

/-- Iterating over a sequence gives pairs whose key is no node at all. -/
def readModules (levels : List (Bytes × LogLevel)) (node : Yaml) :
    Except YamlException (List (Bytes × LogLevel)) :=
  match node with
  | .map entries => readModuleEntries convert levels entries
  | .sequence (_ :: _) => .error .invalidNode
  | _ => .ok levels

/-- The fields of `common.log`, in the order of the source. -/
def readCommonLog (config : LogConfig) (logNode : Yaml) : Except YamlException LogConfig := do
  let schemaVersion ← readField logNode (text "schema_version") config.schemaVersion fun child =>
    .ok (convert.asUInt32 child 1)
  let level ← readField logNode (text "level") config.level fun child =>
    .ok (readLevel convert child)
  let strict ← readField logNode (text "strict") config.strict fun child =>
    .ok (convert.asBool child false)
  let format ← readField logNode (text "format") config.format fun child =>
    .ok (convert.asString child (text "standard"))
  let asyncConfig ← readField logNode (text "async") config.asyncConfig
    (readAsync convert config.asyncConfig)
  let consoleConfig ← readField logNode (text "console") config.consoleConfig
    (readConsole convert config.consoleConfig)
  let fileConfig ← readField logNode (text "file") config.fileConfig
    (readFile convert config.fileConfig)
  let redactConfig ← readField logNode (text "redact") config.redactConfig
    (readRedact convert config.redactConfig)
  .ok { config with
    schemaVersion, level, strict, format, asyncConfig, consoleConfig, fileConfig, redactConfig }

/-- The overrides of `<svc>.log`. -/
def readServiceLog (config : LogConfig) (svcLog : Yaml) : Except YamlException LogConfig := do
  let level ← readField svcLog (text "level") config.level fun child =>
    .ok (readLevel convert child)
  let format ← readField svcLog (text "format") config.format fun child =>
    .ok (convert.asString child (text "standard"))
  let moduleLevels ← readField svcLog (text "modules") config.moduleLevels
    (readModules convert config.moduleLevels)
  .ok { config with level, format, moduleLevels }

/-- The tree is read in three stages: `common.log`, then the overrides of the service. What
the subscripts leave behind in a section that is null or a sequence is not read again. -/
def buildLogConfig (config_ : Yaml) (serviceName : Bytes) : Except YamlException LogConfig :=
  let defaults : LogConfig := {}
  readField config_ (text "common") defaults fun common =>
    readField common (text "log") defaults fun logNode => do
      let config ← readCommonLog convert defaults logNode
      readField config_ serviceName config fun service =>
        readField service (text "log") config (readServiceLog convert config)

end Build

/-- A call of `setup_logging`: it returns, or an exception leaves it. -/
inductive SetupOutcome
  | returned (started : Bool) (registry : LoggerRegistry)
  | escaped (thrown : YamlException) (registry : LoggerRegistry)

/-- `opens` is the outcome of opening the log file. -/
def setupLogging (convert : Conversions) (useFrameworkLog : Bool) (config_ : Yaml)
    (serviceName : Bytes) (opens : Bool) (registry : LoggerRegistry) : SetupOutcome :=
  if useFrameworkLog = false then .returned true registry
  else
    match buildLogConfig convert config_ serviceName with
    | .error thrown => .escaped thrown registry
    | .ok built =>
        let verr := LogConfigAdapter.validate built
        if verr.code ≠ .kOk ∧ built.strict = true then .returned false registry
        else
          let config := if verr.code ≠ .kOk then LogConfigAdapter.getDefaultConfig else built
          let (result, after) := registry.init serviceName config opens
          if result.error ≠ .kOk then
            if config.strict then .returned false after
            else .returned true
              (after.init serviceName LogConfigAdapter.getDefaultConfig opens).2
          else .returned true after

end TboxFramework.Application
