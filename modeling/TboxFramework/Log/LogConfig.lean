import TboxFramework.Log.Levels
import TboxFramework.Store.Paths

/-!
# Log configuration

The values that `buildLogConfig` starts from, the checks of
`LogConfigAdapter::validate` in their order, and the configuration that replaces
an invalid one.
-/

namespace TboxFramework.Log

open TboxFramework.Store (Bytes text)

set_option autoImplicit false

inductive LogError
  | kOk
  | kConfigInvalid
  | kInitFailed
  | kSinkFailed
  | kQueueOverflow
  | kSensitiveViolation
  deriving DecidableEq

structure LogErrorInfo where
  code : LogError
  message : Bytes
  detail : Bytes

structure AsyncConfig where
  enabled : Bool := true
  queueSize : UInt32 := 4096
  flushIntervalMs : UInt32 := 1000
  deriving DecidableEq

structure ConsoleConfig where
  enabled : Bool := true
  deriving DecidableEq

structure FileConfig where
  enabled : Bool := false
  root : Bytes := text "/var/log/tbox"
  maxFileSizeMb : UInt32 := 20
  maxFiles : UInt32 := 5
  totalBudgetMb : UInt32 := 100
  deriving DecidableEq

structure RedactConfig where
  identifiers : Bytes := text "mask"
  rawPayloadMaxBytes : UInt32 := 256
  deriving DecidableEq

structure LogConfig where
  schemaVersion : UInt32 := 1
  level : LogLevel := .kInfo
  strict : Bool := false
  asyncConfig : AsyncConfig := {}
  consoleConfig : ConsoleConfig := {}
  fileConfig : FileConfig := {}
  redactConfig : RedactConfig := {}
  format : Bytes := text "standard"
  /-- At most one level for each module. -/
  moduleLevels : List (Bytes × LogLevel) := []
  deriving DecidableEq

/-- `std::toupper` in the "C" locale. -/
def toUpper (byte : UInt8) : UInt8 := if 97 ≤ byte ∧ byte ≤ 122 then byte - 32 else byte

def logLevelFromString (name : Bytes) : LogLevel :=
  let upper := name.map toUpper
  if upper = text "TRACE" then .kTrace
  else if upper = text "DEBUG" then .kDebug
  else if upper = text "INFO" then .kInfo
  else if upper = text "WARN" then .kWarn
  else if upper = text "ERROR" then .kError
  else if upper = text "FATAL" then .kFatal
  else if upper = text "OFF" then .kOff
  else .kInfo

def logLevelToString : LogLevel → Bytes
  | .kTrace => text "TRACE"
  | .kDebug => text "DEBUG"
  | .kInfo => text "INFO"
  | .kWarn => text "WARN"
  | .kError => text "ERROR"
  | .kFatal => text "FATAL"
  | .kOff => text "OFF"

/-- `std::to_string`. -/
def decimal (number : Nat) : Bytes := text number.repr

namespace LogConfigAdapter

def invalid (message : Bytes) : LogErrorInfo := ⟨.kConfigInvalid, message, []⟩

def validate (config : LogConfig) : LogErrorInfo :=
  let file := config.fileConfig
  let totalNeeded := file.maxFileSizeMb.toNat * file.maxFiles.toNat
  if config.schemaVersion ≠ 1 then
    invalid (text "schema_version must be 1, got " ++ decimal config.schemaVersion.toNat)
  else if config.format ≠ text "standard" ∧ config.format ≠ text "json" then
    invalid (text "format must be 'standard' or 'json', got '" ++ config.format ++ text "'")
  else if config.asyncConfig.queueSize = 0 then
    invalid (text "async.queue_size must be positive")
  else if file.enabled = true ∧ file.root = [] then
    invalid (text "file.root is required when file sink is enabled")
  else if file.enabled = true ∧ file.totalBudgetMb.toNat < totalNeeded then
    invalid (text "max_file_size_mb × max_files (" ++ decimal totalNeeded ++
      text ") exceeds total_budget_mb (" ++ decimal file.totalBudgetMb.toNat ++ text ")")
  else ⟨.kOk, [], []⟩

def getDefaultConfig : LogConfig :=
  { schemaVersion := 1, level := .kInfo, strict := false, consoleConfig := { enabled := true }
    fileConfig := { enabled := false } }

def Valid (config : LogConfig) : Prop := (validate config).code = .kOk

instance (config : LogConfig) : Decidable (Valid config) :=
  inferInstanceAs (Decidable (_ = _))

/-- What the checks of a valid configuration amount to. -/
theorem valid_iff (config : LogConfig) :
    Valid config ↔
      config.schemaVersion = 1 ∧
      (config.format = text "standard" ∨ config.format = text "json") ∧
      config.asyncConfig.queueSize ≠ 0 ∧
      (config.fileConfig.enabled = true → config.fileConfig.root ≠ [] ∧
        config.fileConfig.maxFileSizeMb.toNat * config.fileConfig.maxFiles.toNat ≤
          config.fileConfig.totalBudgetMb.toNat) := by
  unfold Valid validate
  simp only
  split
  · next other => simp [invalid, other]
  · split
    · next other => simp [invalid, other]
    · split
      · next empty => simp [invalid, empty]
      · split
        · next rootless => simp [invalid, rootless]
        · split
          · next exceeding => simp [invalid, exceeding]
          · next version format queue root budget =>
              simp only [true_iff]
              refine ⟨not_not.mp version, ?_, queue, fun enabled => ⟨?_, ?_⟩⟩
              · exact Decidable.or_iff_not_not_and_not.mpr format
              · exact fun empty => root ⟨enabled, empty⟩
              · exact Nat.not_lt.mp fun exceeds => budget ⟨enabled, exceeds⟩

/-- The replacement passes the checks that the configuration has failed. -/
theorem default_valid : Valid getDefaultConfig := by decide

end LogConfigAdapter

end TboxFramework.Log
