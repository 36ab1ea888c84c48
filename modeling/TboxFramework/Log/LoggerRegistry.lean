import TboxFramework.Log.Enricher
import TboxFramework.Log.Redactor

/-!
# The logger registry

`init` builds the components and `shutdown` stops the dispatcher; the components
stay until the next `init` replaces them. A Logger keeps the addresses that the
registry had when it was obtained, and each component has an identity of its own.
-/

namespace TboxFramework.Log

open TboxFramework.Store (Bytes text)

set_option autoImplicit false

/-- An owned object: no two objects share an identity. -/
structure Owned (Object : Type) where
  identity : Nat
  object : Object

/-- The sinks that exist; a file sink is available when its file was opened. -/
structure SinkManager where
  consoleSink : Bool
  fileSink : Option Bool

structure DispatcherThread where
  queueSize : UInt32
  flushIntervalMs : UInt32
  running : Bool

/-- A module name as the text that the level filter compares, one character a byte. -/
def moduleName (module : Bytes) : String :=
  String.ofList (module.map fun byte => Char.ofNat byte.toNat)

def LevelFilter.make (config : LogConfig) : LevelFilter where
  globalLevel := config.level
  moduleLevels := config.moduleLevels.map fun entry => (moduleName entry.1, entry.2)

structure LoggerRegistry where
  initialized : Bool
  service : Bytes
  enricher : Option (Owned Enricher)
  redactor : Option (Owned Redactor)
  levelFilter : Option (Owned LevelFilter)
  dispatcher : Option (Owned DispatcherThread)
  sinkManager : Option (Owned SinkManager)
  useStandardFormat : Bool
  /-- The identity of the next object. -/
  created : Nat

structure InitResult where
  error : LogError
  errorMessage : Bytes

/-- `Logger::Impl`: raw pointers. The dispatcher may be null. -/
structure LoggerImpl where
  module : Bytes
  enricher : Nat
  redactor : Nat
  levelFilter : Nat
  dispatcher : Option Nat
  sinkManager : Nat
  useStandardFormat : Bool

/-- A Logger without an implementation does nothing. -/
abbrev Logger := Option LoggerImpl

namespace LoggerRegistry

def fresh : LoggerRegistry where
  initialized := false
  service := []
  enricher := none
  redactor := none
  levelFilter := none
  dispatcher := none
  sinkManager := none
  useStandardFormat := true
  created := 0

/-- The sink manager; `opens` is the outcome of opening the first log file. -/
def makeSinks (config : LogConfig) (opens : Bool) : SinkManager where
  consoleSink := config.consoleConfig.enabled
  fileSink := if config.fileConfig.enabled then some opens else none

def init (registry : LoggerRegistry) (service : Bytes) (config : LogConfig) (opens : Bool) :
    InitResult × LoggerRegistry :=
  if registry.initialized then (⟨.kOk, text "Already initialized"⟩, registry)
  else
    let next := registry.created
    (⟨.kOk, []⟩,
      { initialized := true
        service := service
        enricher := some ⟨next, ⟨service⟩⟩
        redactor := some ⟨next + 1, ⟨config.redactConfig⟩⟩
        levelFilter := some ⟨next + 2, LevelFilter.make config⟩
        sinkManager := some ⟨next + 3, makeSinks config opens⟩
        useStandardFormat := config.format = text "standard"
        dispatcher :=
          if config.asyncConfig.enabled then
            some ⟨next + 4,
              ⟨config.asyncConfig.queueSize, config.asyncConfig.flushIntervalMs, true⟩⟩
          else none
        created := next + 5 })

/-- An initialised registry has all its components, so no pointer but the
dispatcher's is null. -/
def getLogger (registry : LoggerRegistry) (module : Bytes) : Logger :=
  if registry.initialized then
    match registry.enricher, registry.redactor, registry.levelFilter, registry.sinkManager with
    | some enricher, some redactor, some levelFilter, some sinkManager => some
        { module := module
          enricher := enricher.identity
          redactor := redactor.identity
          levelFilter := levelFilter.identity
          dispatcher := registry.dispatcher.map (·.identity)
          sinkManager := sinkManager.identity
          useStandardFormat := registry.useStandardFormat }
    | _, _, _, _ => none
  else none

def stopped (dispatcher : Owned DispatcherThread) : Owned DispatcherThread :=
  ⟨dispatcher.identity, { dispatcher.object with running := false }⟩

def shutdown (registry : LoggerRegistry) : LoggerRegistry :=
  { registry with dispatcher := registry.dispatcher.map stopped, initialized := false }

end LoggerRegistry

end TboxFramework.Log
