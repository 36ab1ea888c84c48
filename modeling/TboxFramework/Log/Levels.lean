import Mathlib.Data.List.Basic

/-!
# Log levels and the level filter

Level thresholds compare the `uint8_t` values of the enumeration; a module
entry replaces the global threshold instead of tightening it.
-/

namespace TboxFramework.Log

set_option autoImplicit false

inductive LogLevel
  | kTrace
  | kDebug
  | kInfo
  | kWarn
  | kError
  | kFatal
  | kOff
  deriving DecidableEq, Repr

def LogLevel.value : LogLevel → Nat
  | .kTrace => 0
  | .kDebug => 1
  | .kInfo => 2
  | .kWarn => 3
  | .kError => 4
  | .kFatal => 5
  | .kOff => 6

structure LevelFilter where
  globalLevel : LogLevel
  moduleLevels : List (String × LogLevel)

def LevelFilter.threshold (filter : LevelFilter) (module : String) : LogLevel :=
  (filter.moduleLevels.lookup module).getD filter.globalLevel

def LevelFilter.shouldLog (filter : LevelFilter) (level : LogLevel) (module : String) : Bool :=
  (filter.threshold module).value ≤ level.value

/-- Only a threshold of `kOff` can silence a fatal record. -/
theorem fatal_passes_filter (filter : LevelFilter) (module : String)
    (enabled : filter.threshold module ≠ .kOff) :
    filter.shouldLog .kFatal module = true := by
  unfold LevelFilter.shouldLog
  cases found : filter.threshold module <;> simp_all [LogLevel.value]

end TboxFramework.Log
