import TboxFramework.Application.ConfigLoading
import TboxFramework.Application.FailClosed
import TboxFramework.Application.Shutdown

/-!
# From the files to `initialize`

The life cycle with the two steps of the framework in place: `load_config` on the files
that are there and `setup_logging` on the tree that it leaves. What is left to the derived
class is its name, its roots, its signals and its own functions.
-/

namespace TboxFramework.Application

open Interleaving
open TboxFramework.Store (Bytes text)
open TboxFramework.Config
open TboxFramework.Log

set_option autoImplicit false

/-- A process about to call `run`: its class, its files and what the libraries answer. -/
structure Startup (Text : Type) where
  library : YamlLibrary Text
  convert : Conversions
  /-- The texts of the exceptions of the YAML library. -/
  thrown : YamlException → Bytes
  files : FileSystem Text
  /-- `CONFIG_FILE`. -/
  customConfig : Option Bytes
  serviceName : Bytes := text "tbox"
  configRoots : List Bytes := [text "/etc/tbox/", text "./config/"]
  useFrameworkLog : Bool := true
  /-- Whether the log file opens. -/
  opens : Bool
  lists : SignalLists := {}
  sigaction : Sigaction
  initialization : CallEnd Bool := .returned true
  execute : CallEnd Int32
  cleanup : CallEnd Unit := .returned ()
  manager : ConfigManager Text
  config_ : Yaml
  registry : LoggerRegistry

def SetupOutcome.callEnd (thrown : YamlException → Bytes) : SetupOutcome → CallEnd Bool
  | .returned started _ => .returned started
  | .escaped exception _ => .threw (thrown exception)

variable {Text : Type}

namespace Startup

variable (startup : Startup Text)

def call : LoadCall Text :=
  customCall startup.files startup.customConfig startup.serviceName startup.configRoots

def load : ConfigLoad Text :=
  loadConfig startup.library (startup.thrown .badConversion) startup.files startup.customConfig
    startup.serviceName startup.configRoots startup.manager startup.config_

def setup : SetupOutcome :=
  setupLogging startup.convert startup.useFrameworkLog startup.load.config_ startup.serviceName
    startup.opens startup.registry

def app : App where
  lists := startup.lists
  loadConfig := startup.load.outcome
  setupLogging := startup.setup.callEnd startup.thrown
  sigaction := startup.sigaction
  initialization := startup.initialization
  execute := startup.execute
  cleanup := startup.cleanup

/-- A log configuration that `setup_logging` goes on with: its sections can be read, and a
strict one is valid. -/
structure LogReady (merged : Yaml) : Prop where
  readable : SectionsReadable merged startup.serviceName
  strict : ∀ config, buildLogConfig startup.convert merged startup.serviceName = .ok config →
    strictIn startup.convert merged = true → LogConfigAdapter.Valid config

/-- All that has to be right for `initialize` to be called. -/
structure Ready (merged : Yaml) : Prop where
  merges : startup.call.MergesTo startup.library merged
  log : HasCommonLog merged
  logging : startup.useFrameworkLog = true → startup.LogReady merged
  signals : (setupSignalHandlers startup.lists startup.sigaction ⟨[], []⟩).registered = true

end Startup

/-! ## The stages -/

theorem called_in_calling {Value : Type} {stage other : Stage} {answer : CallEnd Value}
    {next : Value → RunRecord} :
    RunEvent.called other ∈ (calling stage answer next).1 ↔
      other = stage ∨ ∃ value, answer = .returned value ∧ RunEvent.called other ∈ (next value).1 := by
  cases answer with
  | returned value => simp [calling, after]
  | threw what => simp [calling]
  | threwOther => simp [calling]

/-- Before `initialize` the framework does its own work. -/
def Passes (app : App) : Prop :=
  app.loadConfig = .returned true ∧ app.setupLogging = .returned true ∧
    (setupSignalHandlers app.lists app.sigaction ⟨[], []⟩).registered = true

theorem run_reaches_iff (app : App) (requested : Bool) {stage : Stage}
    (late : stage ≠ .loadConfig ∧ stage ≠ .setupLogging) :
    RunEvent.called stage ∈ (app.run requested).1 ↔
      Passes app ∧ RunEvent.called stage ∈ (app.runInitialize requested).1 := by
  have signals : RunEvent.called stage ∈ (app.runSignals requested).1 ↔
      (setupSignalHandlers app.lists app.sigaction ⟨[], []⟩).registered = true ∧
        RunEvent.called stage ∈ (app.runInitialize requested).1 := by
    unfold App.runSignals
    simp only
    by_cases registered : (setupSignalHandlers app.lists app.sigaction ⟨[], []⟩).registered = true
    · rw [if_pos registered]
      simp [after, App.installed, registered]
    · rw [if_neg registered]
      simp [App.installFailed, registered]
  have logging : RunEvent.called stage ∈ (app.runLogging requested).1 ↔
      app.setupLogging = .returned true ∧ RunEvent.called stage ∈ (app.runSignals requested).1 := by
    unfold App.runLogging
    rw [called_in_calling]
    constructor
    · rintro (same | ⟨ready, returned, inside⟩)
      · exact absurd same late.2
      · cases ready with
        | true =>
            rw [if_pos rfl, after] at inside
            exact ⟨returned, by simpa [App.loaded] using inside⟩
        | false => cases inside
    · rintro ⟨returned, inside⟩
      refine Or.inr ⟨true, returned, ?_⟩
      rw [if_pos rfl, after, List.mem_append]
      exact Or.inr inside
  unfold Passes App.run
  rw [called_in_calling]
  constructor
  · rintro (same | ⟨loaded, returned, inside⟩)
    · exact absurd same late.1
    · cases loaded with
      | true =>
          rw [if_pos rfl, logging, signals] at inside
          exact ⟨⟨returned, inside.1, inside.2.1⟩, inside.2.2⟩
      | false => simp at inside
  · rintro ⟨⟨returned, ready, registered⟩, inside⟩
    refine Or.inr ⟨true, returned, ?_⟩
    rw [if_pos rfl, logging, signals]
    exact ⟨ready, registered, inside⟩

/-- A stage of the framework that is not passed ends the run. -/
theorem run_fails {app : App} (requested : Bool) (load : app.loadConfig ≠ .threwOther)
    (setup : app.setupLogging ≠ .threwOther) (stopped : ¬Passes app) :
    (app.run requested).2 = failure := by
  unfold Passes at stopped
  unfold App.run App.runLogging App.runSignals
  cases loaded : app.loadConfig with
  | threwOther => exact absurd loaded load
  | threw what => rfl
  | returned value =>
      cases value with
      | false => rfl
      | true =>
          cases ready : app.setupLogging with
          | threwOther => exact absurd ready setup
          | threw what => rfl
          | returned started =>
              cases started with
              | false => rfl
              | true =>
                  have refused : ¬(setupSignalHandlers app.lists app.sigaction
                      ⟨[], []⟩).registered = true :=
                    fun registered => stopped ⟨loaded, ready, registered⟩
                  simp only [calling, after, if_true, if_neg refused]

/-! ## What the stages need -/

namespace Startup

variable {startup : Startup Text}

/-- With a configuration at hand the set-up returns, whatever was initialised before. -/
theorem setup_returns_iff {config : LogConfig} (framework : startup.useFrameworkLog = true)
    (built : buildLogConfig startup.convert startup.load.config_ startup.serviceName =
      .ok config) :
    startup.app.setupLogging = .returned true ↔
      (config.strict = true → LogConfigAdapter.Valid config) := by
  have initialised : ∀ chosen,
      (startup.registry.init startup.serviceName chosen startup.opens).1.error = .kOk := by
    intro chosen
    unfold LoggerRegistry.init
    split <;> rfl
  change startup.setup.callEnd startup.thrown = _ ↔ _
  unfold setup setupLogging
  rw [if_neg (by simp [framework]), built]
  by_cases valid : LogConfigAdapter.Valid config
  · have code : (LogConfigAdapter.validate config).code = .kOk := valid
    simp [code, initialised, valid, SetupOutcome.callEnd]
  · have code : (LogConfigAdapter.validate config).code ≠ .kOk := valid
    cases strict : config.strict with
    | true => simp [code, valid, strict, SetupOutcome.callEnd]
    | false => simp [code, initialised, strict, SetupOutcome.callEnd]

theorem setup_true_iff {merged : Yaml} (log : HasCommonLog merged)
    (left : startup.load.config_ = merged) :
    startup.app.setupLogging = .returned true ↔
      (startup.useFrameworkLog = true → startup.LogReady merged) := by
  by_cases framework : startup.useFrameworkLog = true
  · have accepted := (validate_log_rule merged).mpr log
    have builds := build_log_config_iff startup.convert startup.serviceName accepted
    cases built : buildLogConfig startup.convert merged startup.serviceName with
    | error thrown =>
        apply iff_of_false
        · have escaped : startup.setup = .escaped thrown startup.registry := by
            unfold setup setupLogging
            rw [if_neg (by simp [framework]), left, built]
          change startup.setup.callEnd startup.thrown ≠ _
          rw [escaped]
          intro returned
          cases returned
        · intro ready
          obtain ⟨config, done⟩ := builds.1.mpr (ready framework).readable
          cases built.symm.trans done
    | ok config =>
        rw [setup_returns_iff framework (left ▸ built), builds.2 config built]
        constructor
        · intro valid _
          refine ⟨builds.1.mp ⟨config, built⟩, ?_⟩
          intro other done strict
          cases built.symm.trans done
          exact valid strict
        · intro ready strict
          exact (ready framework).strict config built strict
  · apply iff_of_true
    · change startup.setup.callEnd startup.thrown = _
      unfold setup setupLogging
      rw [if_pos (by simpa using framework)]
      rfl
    · exact fun enabled => absurd enabled framework

theorem load_loads (startup : Startup Text) :
    Loads startup.library (startup.thrown .badConversion) startup.call startup.manager
      startup.config_ startup.load :=
  load_config_loads _ _ _ _ _ _ _ _

theorem load_of_merges {merged : Yaml}
    (merges : startup.call.MergesTo startup.library merged) (log : HasCommonLog merged) :
    startup.load.outcome = .returned true ∧ startup.load.config_ = merged := by
  have loads := startup.load_loads
  have reported := report_of_merges merges
  rw [validate_log_eq log] at reported
  generalize startup.load = leaves at loads
  cases loads with
  | throws silent => cases silent.symm.trans reported
  | refuses error refused failed =>
      cases refused.symm.trans reported
      exact absurd rfl failed
  | succeeds other others _ => exact ⟨rfl, merges_to_unique others merges⟩

theorem passes_iff : Passes startup.app ↔ ∃ merged, startup.Ready merged := by
  constructor
  · rintro ⟨loaded, ready, registered⟩
    have loads := startup.load_loads
    change startup.load.outcome = _ at loaded
    have left : ∀ {merged}, startup.load.config_ = merged → HasCommonLog merged →
        startup.useFrameworkLog = true → startup.LogReady merged :=
      fun same log => (setup_true_iff log same).mp ready
    generalize startup.load = leaves at loads loaded left
    cases loads with
    | throws silent => cases loaded
    | refuses error reported failed => cases loaded
    | succeeds merged merges log => exact ⟨merged, merges, log, left rfl log, registered⟩
  · rintro ⟨merged, merges, log, logging, registered⟩
    have left := load_of_merges merges log
    exact ⟨left.1, (setup_true_iff log left.2).mpr logging, registered⟩

theorem load_not_other (startup : Startup Text) : startup.app.loadConfig ≠ .threwOther := by
  have loads := startup.load_loads
  change startup.load.outcome ≠ _
  generalize startup.load = leaves at loads
  intro other
  cases loads <;> cases other

theorem setup_not_other (startup : Startup Text) : startup.app.setupLogging ≠ .threwOther := by
  change startup.setup.callEnd startup.thrown ≠ _
  cases startup.setup <;> exact nofun

end Startup

/-- What a process has come to, told from its files. -/
structure StartsUp (startup : Startup Text) (state : AppState) : Prop where
  /-- Nothing of the derived class runs before all is right. -/
  guarded : ∀ stage, stage ≠ .loadConfig ∧ stage ≠ .setupLogging →
    RunEvent.called stage ∈ state.events → ∃ merged, startup.Ready merged
  /-- A run that is over has called `initialize` exactly when all was right. -/
  decided : ∀ outcome, state.phase = .ended outcome →
    (state.HasInitialized ↔ ∃ merged, startup.Ready merged)
  refused : ∀ outcome, state.phase = .ended outcome →
    (¬∃ merged, startup.Ready merged) → outcome = failure

/-- Wherever signals interrupt the run, the functions of the derived class are called only
if the files merge to a tree with `common.log`, the log configuration in it can be gone on
with and every signal handler is installed; otherwise the run fails. -/
theorem startup_is_settled_by_files (startup : Startup Text) (terminates : Int32 → Bool)
    (actions : List LifeAction) (state : AppState)
    (completed : run (lifeStep startup.app terminates) .initial actions = some state) :
    StartsUp startup state := by
  have story := (reachable_life completed).1.story
  have initializes : ∀ requested, RunEvent.called .initialization ∈
      (startup.app.run requested).1 ↔ ∃ merged, startup.Ready merged := by
    intro requested
    rw [run_reaches_iff startup.app requested (by simp), Startup.passes_iff]
    have first : RunEvent.called .initialization ∈ (startup.app.runInitialize requested).1 := by
      unfold App.runInitialize
      rw [called_in_calling]
      exact Or.inl rfl
    exact and_iff_left first
  constructor
  · intro stage late called
    obtain ⟨requested, begun⟩ := story.begun
    have reached := (run_reaches_iff startup.app requested late).mp (begun.subset called)
    exact Startup.passes_iff.mp reached.1
  · intro outcome ending
    obtain ⟨front, _, _, _, record⟩ := story.ended outcome ending
    have initialized := initializes (decide (Requested front))
    rw [record] at initialized
    exact initialized
  · intro outcome ending stopped
    obtain ⟨front, _, _, _, record⟩ := story.ended outcome ending
    have fails := run_fails (decide (Requested front)) startup.load_not_other
      startup.setup_not_other (mt Startup.passes_iff.mp stopped)
    rw [record] at fails
    exact fails

/-- A common file with a log section, and nothing else. -/
def plainStartup : Startup Yaml where
  library := treeLibrary
  convert := plainConversions
  thrown _ := text "yaml-cpp: error"
  files path :=
    if path = text "/etc/tbox/common.yaml" then
      .contents (logTree [(.scalar (text "level"), .scalar (text "INFO"))])
    else .absent
  customConfig := none
  opens := true
  sigaction _ _ _ := true
  execute := .returned 0
  manager := ConfigManager.initial
  config_ := .null
  registry := LoggerRegistry.fresh

theorem startup_is_settled_by_files_plain :
    ∃ state, run (lifeStep plainStartup.app fun _ => true) .initial
        (List.replicate 13 .proceed) = some state ∧
      state.phase = .ended (.returned 0) ∧ StartsUp plainStartup state :=
  ⟨_, rfl, rfl, startup_is_settled_by_files plainStartup (fun _ => true)
    (List.replicate 13 .proceed) _ rfl⟩

end TboxFramework.Application
