import TboxFramework.Log.LoggerLifetime
import TboxFramework.Log.LoggerLine

/-!
# The level filter and the two ways to the sinks

A Logger asks the level filter before it makes a line. A message of spdlog's default
logger comes through the adapter, which opens spdlog's own filter and hands the line to
`forwardRaw`. What spdlog itself does with a message is a parameter.
-/

namespace TboxFramework.Log

open Interleaving (Along along_iff_of_invariant guarded)
open TboxFramework.Store (Bytes text)

set_option autoImplicit false

/-! ## The adapter -/

/-- `spdlog::level::level_enum`. -/
inductive SpdlogLevel
  | trace
  | debug
  | info
  | warn
  | err
  | critical
  | off
  | nLevels
  deriving DecidableEq

def mapSpdlogLevel : SpdlogLevel → LogLevel
  | .trace => .kTrace
  | .debug => .kDebug
  | .info => .kInfo
  | .warn => .kWarn
  | .err => .kError
  | .critical | .off => .kFatal
  | .nLevels => .kInfo

/-- What the adapter uses of spdlog. -/
structure Spdlog where
  /-- Whether a logger of the first level passes a message of the second to its sink. -/
  shouldLog : SpdlogLevel → SpdlogLevel → Bool
  /-- The text of a message under a pattern. -/
  format : Bytes → Bytes → Bytes

/-- A spdlog logger whose sink is a `ForwardingSink`. -/
structure SpdlogLogger where
  pattern : Bytes
  level : SpdlogLevel

/-- A logger that is installed stays. -/
def SpdlogAdapter.installAsDefault : Option SpdlogLogger → SpdlogLogger
  | some logger => logger
  | none => ⟨text "%v", .trace⟩

/-- `sink_it_` drops one line feed at the end. -/
def dropLineFeed (line : Bytes) : Bytes :=
  if line.getLast? = some 10 then line.dropLast else line

/-! ## Lines on their way -/

inductive Origin
  | logger (module : Bytes)
  | spdlog

/-- A line that is handed to the dispatcher or to the sinks. -/
structure HandedLine where
  origin : Origin
  line : Bytes
  level : LogLevel
  target : Component

/-- `LoggerRegistry::forwardRaw`; what is handed to nobody goes to stderr or is lost. -/
def LoggerRegistry.forwardRaw (registry : LoggerRegistry) (line : Bytes) (level : LogLevel) :
    Option HandedLine :=
  if registry.initialized then
    if registry.dispatcher.isSome then some ⟨.spdlog, line, level, .dispatcher⟩
    else if registry.sinkManager.isSome then some ⟨.spdlog, line, level, .sinkManager⟩
    else none
  else none

namespace LoggerImpl

/-- What the pointers lead to. -/
def parts (impl : LoggerImpl) (registry : LoggerRegistry) : Option LoggerParts :=
  match LoggerRegistry.dereference registry.enricher impl.enricher,
    LoggerRegistry.dereference registry.redactor impl.redactor,
    LoggerRegistry.dereference registry.levelFilter impl.levelFilter with
  | some enricher, some redactor, some levelFilter =>
      some ⟨impl.module, enricher, redactor, levelFilter, impl.useStandardFormat⟩
  | _, _, _ => none

/-- `Logger::Impl::log`. -/
def log (impl : LoggerImpl) (registry : LoggerRegistry) (call : LogCall) : Option HandedLine :=
  (impl.parts registry).bind fun parts =>
    (parts.log call).map fun handed =>
      ⟨.logger impl.module, handed.1, handed.2, impl.target.1⟩

end LoggerImpl

/-! ## Runs of log calls -/

structure LoggingState where
  registry : LoggerRegistry
  /-- The Loggers obtained so far. -/
  loggers : List Logger
  /-- The logger that the adapter has made spdlog's default. -/
  adapter : Option SpdlogLogger

inductive LoggingAction
  | get (module : Bytes)
  | log (logger : Nat) (call : LogCall)
  | install
  | spdlog (level : SpdlogLevel) (message : Bytes)

namespace LoggingState

def start (service : Bytes) (config : LogConfig) (opens : Bool) : LoggingState :=
  ⟨(LoggerRegistry.fresh.init service config opens).2, [], none⟩

def step (state : LoggingState) : LoggingAction → Option LoggingState
  | .get module => some { state with loggers := state.loggers ++ [state.registry.getLogger module] }
  | .log logger _ => guarded (logger < state.loggers.length) state
  | .install =>
      some { state with adapter := some (SpdlogAdapter.installAsDefault state.adapter) }
  | .spdlog _ _ => some state

/-- The line that an action hands on. Before the adapter is installed, spdlog has sinks of
its own. -/
def hands (spdlog : Spdlog) (state : LoggingState) : LoggingAction → Option HandedLine
  | .log logger call =>
      match state.loggers[logger]? with
      | some (some impl) => impl.log state.registry call
      | _ => none
  | .spdlog level message =>
      match state.adapter with
      | some logger =>
          if spdlog.shouldLog logger.level level then
            state.registry.forwardRaw (dropLineFeed (spdlog.format logger.pattern message))
              (mapSpdlogLevel level)
          else none
      | none => none
  | _ => none

end LoggingState

/-- The level that a module has of its own, or else the global one. -/
def applicableLevel (config : LogConfig) : Origin → LogLevel
  | .logger module => (config.moduleLevels.lookup module).getD config.level
  | .spdlog => config.level

namespace LoggingState

variable {spdlog : Spdlog} {service : Bytes} {config : LogConfig} {opens : Bool}

/-- A line is handed on only at the level that applies to it, or above. -/
def Mediated (spdlog : Spdlog) (config : LogConfig) (state : LoggingState)
    (action : LoggingAction) : Prop :=
  ∀ handed, state.hands spdlog action = some handed →
    (applicableLevel config handed.origin).value ≤ handed.level.value

/-- No message below the global level is given to the adapter. -/
def AboveGlobal (config : LogConfig) (state : LoggingState) : LoggingAction → Prop
  | .spdlog level _ =>
      state.adapter ≠ none → config.level.value ≤ (mapSpdlogLevel level).value
  | _ => True

/-! ## The filter of a configuration -/

theorem byte_character (byte : UInt8) : (Char.ofNat byte.toNat).toNat = byte.toNat := by
  have valid : byte.toNat.isValidChar := by
    have bound := byte.toNat_lt
    exact .inl (by omega)
  unfold Char.ofNat
  rw [dif_pos valid]
  rfl

theorem module_name_injective : Function.Injective moduleName := by
  intro left right same
  have characters := String.ofList_injective same
  apply List.map_injective_iff.mpr ?_ characters
  intro first second equal
  have codes := congrArg Char.toNat equal
  rw [byte_character, byte_character] at codes
  exact UInt8.toNat_inj.mp codes

theorem lookup_module_name (levels : List (Bytes × LogLevel)) (module : Bytes) :
    (levels.map fun entry => (moduleName entry.1, entry.2)).lookup (moduleName module) =
      levels.lookup module := by
  induction levels with
  | nil => rfl
  | cons entry rest induction =>
      rw [List.map_cons, List.lookup_cons, List.lookup_cons, induction]
      by_cases same : module = entry.1
      · rw [same, beq_self_eq_true, beq_self_eq_true]
      · have other : moduleName module ≠ moduleName entry.1 := fun equal =>
          same (module_name_injective equal)
        rw [beq_false_of_ne same, beq_false_of_ne other]

/-- The filter of a configuration compares with the level that applies. -/
theorem filter_threshold (config : LogConfig) (module : Bytes) :
    (LevelFilter.make config).threshold (moduleName module) =
      applicableLevel config (.logger module) := by
  unfold LevelFilter.threshold LevelFilter.make applicableLevel
  simp only
  rw [lookup_module_name]

/-! ## The invariant -/

/-- While the registry stays as `init` made it, every Logger leads to its components, and
spdlog's own filter is open. -/
structure Settled (service : Bytes) (config : LogConfig) (opens : Bool)
    (state : LoggingState) : Prop where
  registry : state.registry = (start service config opens).registry
  loggers : ∀ impl, some impl ∈ state.loggers → ∃ module,
    state.registry.getLogger module = some impl
  adapter : ∀ logger, state.adapter = some logger → logger.level = .trace

theorem start_settled (service : Bytes) (config : LogConfig) (opens : Bool) :
    Settled service config opens (start service config opens) := by
  refine ⟨rfl, ?_, ?_⟩
  · intro impl member
    cases member
  · intro logger installed
    cases installed

/-- The cases are the actions. -/
theorem step_settled {state next : LoggingState} {action : LoggingAction}
    (settled : Settled service config opens state) (taken : state.step action = some next) :
    Settled service config opens next := by
  cases action with
  | get module =>
      cases taken
      refine ⟨settled.registry, ?_, settled.adapter⟩
      intro impl member
      rw [List.mem_append, List.mem_singleton] at member
      cases member with
      | inl before => exact settled.loggers impl before
      | inr obtained => exact ⟨module, obtained.symm⟩
  | log logger call =>
      obtain ⟨_, same⟩ := (Interleaving.guarded_eq_some _ _ _).mp taken
      rw [← same]
      exact settled
  | install =>
      cases taken
      refine ⟨settled.registry, settled.loggers, ?_⟩
      intro logger installed
      rw [← Option.some.inj installed]
      cases found : state.adapter with
      | none => rfl
      | some before => exact settled.adapter before found
  | spdlog level message =>
      cases taken
      exact settled

/-- A Logger of that registry asks the filter of the configuration. -/
theorem parts_of_logger {module : Bytes} {impl : LoggerImpl}
    (obtained : (start service config opens).registry.getLogger module = some impl) :
    impl.module = module ∧ impl.parts (start service config opens).registry =
      some ⟨module, ⟨service⟩, ⟨config.redactConfig⟩, LevelFilter.make config,
        config.format = text "standard"⟩ := by
  cases obtained
  exact ⟨rfl, rfl⟩

theorem logger_line_mediated {module : Bytes} {impl : LoggerImpl} {call : LogCall}
    {handed : HandedLine}
    (obtained : (start service config opens).registry.getLogger module = some impl)
    (logged : impl.log (start service config opens).registry call = some handed) :
    (applicableLevel config handed.origin).value ≤ handed.level.value := by
  obtain ⟨named, parts⟩ := parts_of_logger obtained
  unfold LoggerImpl.log at logged
  rw [parts, Option.bind_some, named] at logged
  obtain ⟨produced, passed, rfl⟩ := Option.map_eq_some_iff.mp logged
  unfold LoggerParts.log at passed
  split at passed
  · next allowed =>
      rw [← Option.some.inj passed, ← filter_threshold]
      exact of_decide_eq_true allowed
  · cases passed

/-- The registry is initialised, so a forwarded line is always handed on, at its level. -/
theorem forward_raw_handed (line : Bytes) (level : LogLevel) :
    ∃ target, (start service config opens).registry.forwardRaw line level =
      some ⟨.spdlog, line, level, target⟩ := by
  cases asynchronous : config.asyncConfig.enabled with
  | true =>
      refine ⟨.dispatcher, ?_⟩
      unfold start LoggerRegistry.forwardRaw LoggerRegistry.init
      simp [LoggerRegistry.fresh, asynchronous]
  | false =>
      refine ⟨.sinkManager, ?_⟩
      unfold start LoggerRegistry.forwardRaw LoggerRegistry.init
      simp [LoggerRegistry.fresh, asynchronous]

/-- Where spdlog passes everything on at its lowest level, only a message below the global
level escapes the filter. -/
theorem mediated_iff (opened : ∀ level, spdlog.shouldLog .trace level = true)
    {state : LoggingState} (settled : Settled service config opens state)
    (action : LoggingAction) :
    Mediated spdlog config state action ↔ AboveGlobal config state action := by
  cases action with
  | get module => exact iff_of_true (fun _ handed => by cases handed) trivial
  | install => exact iff_of_true (fun _ handed => by cases handed) trivial
  | log logger call =>
      refine iff_of_true ?_ trivial
      intro handed logged
      simp only [hands] at logged
      split at logged
      · next impl kept =>
          obtain ⟨module, obtained⟩ := settled.loggers impl (List.mem_of_getElem? kept)
          rw [settled.registry] at obtained logged
          exact logger_line_mediated obtained logged
      · cases logged
  | spdlog level message =>
      unfold Mediated AboveGlobal hands
      cases installed : state.adapter with
      | none => simp
      | some logger =>
          simp only [settled.adapter logger installed, opened, if_true]
          rw [settled.registry]
          obtain ⟨target, forwarded⟩ := @forward_raw_handed service config opens
            (dropLineFeed (spdlog.format logger.pattern message)) (mapSpdlogLevel level)
          rw [forwarded]
          constructor
          · intro mediated _
            exact mediated _ rfl
          · intro above handed same
            cases same
            exact above (Option.some_ne_none logger)

/-- In every run of log calls after an `init`, every line handed on has the level that
applies to it exactly when no message below the global level reaches the adapter. -/
theorem lines_mediated_iff (spdlog : Spdlog)
    (opened : ∀ level, spdlog.shouldLog .trace level = true) (service : Bytes)
    (config : LogConfig) (opens : Bool) (actions : List LoggingAction) :
    Along step (Mediated spdlog config) (start service config opens) actions ↔
      Along step (AboveGlobal config) (start service config opens) actions := by
  apply along_iff_of_invariant (Settled service config opens)
  · intro state action next settled taken
    exact step_settled settled taken
  · intro state action settled
    exact mediated_iff opened settled action
  · exact start_settled service config opens

/-! ## A message below the global level -/

/-- A library that compares levels and ends each line. -/
def comparingSpdlog : Spdlog where
  shouldLog logger message := [SpdlogLevel.trace, .debug, .info, .warn, .err, .critical, .off].idxOf
    logger ≤ [SpdlogLevel.trace, .debug, .info, .warn, .err, .critical, .off].idxOf message
  format _ message := message ++ [10]

theorem comparing_open (level : SpdlogLevel) :
    comparingSpdlog.shouldLog .trace level = true := by
  cases level <;> rfl

/-- With warnings and above asked for, a warning may come through the adapter. -/
theorem warning_mediated :
    Along step (Mediated comparingSpdlog { level := .kWarn })
      (start (text "tbox") { level := .kWarn } true)
      [.install, .spdlog .warn (text "low voltage")] := by
  apply (lines_mediated_iff comparingSpdlog comparing_open (text "tbox") { level := .kWarn } true
    _).mpr
  refine ⟨trivial, fun installed _ => ⟨?_, fun _ _ => trivial⟩⟩
  intro _
  decide

/-- So may a debug message. -/
theorem debug_message_unfiltered :
    ¬ Along step (Mediated comparingSpdlog { level := .kWarn })
      (start (text "tbox") { level := .kWarn } true)
      [.install, .spdlog .debug (text "tick")] := by
  intro mediated
  have handed := (mediated.2 _ rfl).1 ⟨.spdlog, text "tick", .kDebug, .dispatcher⟩ rfl
  exact absurd handed (by decide)

end LoggingState

end TboxFramework.Log
