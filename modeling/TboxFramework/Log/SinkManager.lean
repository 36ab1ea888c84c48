import TboxFramework.Log.Fields
import TboxFramework.Log.LogConfig
import TboxFramework.Log.SinkSurvival

/-!
# The sinks of a service, with their failures

`SinkManager::write` tries the console and the file and falls back to stderr when
neither takes the line. What the streams accept, whether they are terminals and
what the file operations do are the caller's choice.
-/

namespace TboxFramework.Log.Sinks

open TboxFramework.Store (Bytes text)
open RollingFileSink (lineFeed)

set_option autoImplicit false

inductive Stream
  | stdout
  | stderr
  deriving DecidableEq

/-- What `isatty` and `fwrite` answer to one call; a short write accepts that many bytes. -/
structure ConsoleOutcomes where
  isTerminal : Bool
  shortWrite : Option Nat

def accepted (output : Bytes) (shortWrite : Option Nat) : Bytes :=
  match shortWrite with
  | some count => output.take count
  | none => output

/-- What a stream accepted of the write with this number. -/
inductive Printed
  | console (stream : Stream) (number : Nat) (bytes : Bytes)
  /-- Always on stderr. -/
  | fallback (number : Nat) (bytes : Bytes)

structure ConsoleSink where
  available : Bool

namespace ConsoleSink

def make : ConsoleSink := ⟨true⟩

def escape : UInt8 := 27

def ansiColorForLevel : LogLevel → Option Bytes
  | .kTrace | .kDebug => some (escape :: text "[2m")
  | .kInfo => some (escape :: text "[32m")
  | .kWarn => some (escape :: text "[33m")
  | .kError | .kFatal => some (escape :: text "[31m")
  | .kOff => none

def reset : Bytes := escape :: text "[0m"

/-- The tag of the level as a line shows it. -/
def marker (level : LogLevel) : Bytes :=
  text "[" ++ (logLevelToString level).map toLower ++ text "]"

/-- The first tag that reads as the level gets its color. -/
def colored (line : Bytes) (level : LogLevel) (color : Bytes) : Bytes :=
  match find (marker level) line with
  | some position =>
      line.take position ++ color ++ (line.drop position).take (marker level).length ++ reset ++
        line.drop (position + (marker level).length)
  | none => line

def output (line : Bytes) (level : LogLevel) (isTerminal : Bool) : Bytes :=
  match if isTerminal then ansiColorForLevel level else none with
  | some color => colored line level color ++ [lineFeed]
  | none => line ++ [lineFeed]

def stream (level : LogLevel) : Stream :=
  if LogLevel.kError.value ≤ level.value then .stderr else .stdout

/-- An unavailable sink refuses before it looks at its stream. -/
def write (sink : ConsoleSink) (number : Nat) (line : Bytes) (level : LogLevel)
    (outcomes : ConsoleOutcomes) : Bool × ConsoleSink × List Printed :=
  if sink.available then
    let printed := Printed.console (stream level) number
      (accepted (output line level outcomes.isTerminal) outcomes.shortWrite)
    match outcomes.shortWrite with
    | some _ => (false, ⟨false⟩, [printed])
    | none => (true, sink, [printed])
  else (false, sink, [])

end ConsoleSink

/-- What the operations of one `SinkManager::write` do. -/
structure WriteOutcomes where
  console : ConsoleOutcomes
  file : FileOutcomes
  /-- The `fwrite` of the fallback. -/
  fallback : Option Nat

def WriteOutcomes.success : WriteOutcomes where
  console := ⟨false, none⟩
  file := .success
  fallback := none

/-- Where lines end up. -/
structure Outputs where
  directory : LogDirectory
  printed : List Printed

def Outputs.print (outputs : Outputs) (printed : List Printed) : Outputs :=
  { outputs with printed := outputs.printed ++ printed }

structure SinkManager where
  consoleSink : Option ConsoleSink
  fileSink : Option RollingFileSink
  consecutiveFailures : Nat
  stderrFallback : Bool

namespace SinkManager

/-- The constructor. -/
def make (config : LogConfig) (serviceName : Bytes) (directory : LogDirectory)
    (outcomes : FileOutcomes) : SinkManager × LogDirectory :=
  let consoleSink := if config.consoleConfig.enabled then some ConsoleSink.make else none
  if config.fileConfig.enabled then
    let made := RollingFileSink.make config.fileConfig serviceName directory outcomes
    (⟨consoleSink, some made.1, 0, false⟩, made.2)
  else (⟨consoleSink, none, 0, false⟩, directory)

def writeConsole (manager : SinkManager) (outputs : Outputs) (number : Nat) (line : Bytes)
    (level : LogLevel) (outcomes : WriteOutcomes) : Bool × SinkManager × Outputs :=
  match manager.consoleSink with
  | some sink =>
      if sink.available then
        let after := sink.write number line level outcomes.console
        (after.1, { manager with consoleSink := some after.2.1 }, outputs.print after.2.2)
      else (false, manager, outputs)
  | none => (false, manager, outputs)

def countFailure (manager : SinkManager) : SinkManager :=
  let failures := manager.consecutiveFailures + 1
  { manager with
    consecutiveFailures := failures
    stderrFallback := manager.stderrFallback || decide (3 ≤ failures) }

/-- What the answer of the file sink does; an exception leaves the count of failures. -/
def settle (manager : SinkManager) (outputs : Outputs)
    (after : Except StoulError Bool × RollingFileSink × LogDirectory) :
    Except StoulError Bool × SinkManager × Outputs :=
  let written := { manager with fileSink := some after.2.1 }
  let stored := { outputs with directory := after.2.2 }
  match after.1 with
  | .error error => (.error error, written, stored)
  | .ok true => (.ok true, { written with consecutiveFailures := 0 }, stored)
  | .ok false => (.ok false, written.countFailure, stored)

def writeFile (manager : SinkManager) (outputs : Outputs) (number : Nat) (line : Bytes)
    (outcomes : WriteOutcomes) : Except StoulError Bool × SinkManager × Outputs :=
  match manager.fileSink with
  | some sink =>
      if sink.available then
        manager.settle outputs (sink.write outputs.directory number line outcomes.file)
      else (.ok false, manager, outputs)
  | none => (.ok false, manager, outputs)

def fallbackMark : Bytes := text "[LOG_FALLBACK] "

def fallbackOutput (line : Bytes) : Bytes := fallbackMark ++ line ++ [lineFeed]

def write (manager : SinkManager) (outputs : Outputs) (number : Nat) (line : Bytes)
    (level : LogLevel) (outcomes : WriteOutcomes) :
    Except StoulError Bool × SinkManager × Outputs :=
  let console := manager.writeConsole outputs number line level outcomes
  let file := console.2.1.writeFile console.2.2 number line outcomes
  match file.1 with
  | .error error => (.error error, file.2)
  | .ok stored =>
      if console.1 || stored then (.ok true, file.2)
      else
        (.ok true, file.2.1, file.2.2.print
          [.fallback number (accepted (fallbackOutput line) outcomes.fallback)])

def hasAvailableSink (manager : SinkManager) : Bool :=
  (match manager.consoleSink with
    | some sink => sink.available
    | none => false) ||
    (match manager.fileSink with
    | some sink => sink.available
    | none => false) ||
    manager.stderrFallback

end SinkManager

/-! ## A service that logs -/

/-- The sinks of one process and what they write to. -/
structure LoggingService where
  manager : SinkManager
  outputs : Outputs
  /-- The number of writes so far. -/
  written : Nat

inductive LoggingEvent
  | write (line : Bytes) (level : LogLevel) (outcomes : WriteOutcomes)
  /-- Other tools leave the directory so. -/
  | tools (directory : LogDirectory)

namespace LoggingService

def start (config : LogConfig) (serviceName : Bytes) (directory : LogDirectory)
    (outcomes : FileOutcomes) : LoggingService :=
  let made := SinkManager.make config serviceName directory outcomes
  { manager := made.1, outputs := ⟨made.2, []⟩, written := 0 }

def writing (service : LoggingService) (line : Bytes) (level : LogLevel)
    (outcomes : WriteOutcomes) : Except StoulError Bool × SinkManager × Outputs :=
  service.manager.write service.outputs service.written line level outcomes

def step (service : LoggingService) : LoggingEvent → Option LoggingService
  | .write line level outcomes =>
      let after := service.writing line level outcomes
      some { manager := after.2.1, outputs := after.2.2, written := service.written + 1 }
  | .tools directory =>
      some { service with outputs := { service.outputs with directory := directory } }

end LoggingService

end TboxFramework.Log.Sinks
