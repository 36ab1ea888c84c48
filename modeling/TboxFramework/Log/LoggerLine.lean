import TboxFramework.Log.Enricher
import TboxFramework.Log.JsonLineFormatter
import TboxFramework.Log.LoggerRegistry
import TboxFramework.Log.Redactor
import TboxFramework.Log.StandardFormatter

/-!
# From a log call to its line

`Logger::Impl::log`: a call that passes the level filter is enriched, redacted and
formatted; the line goes to the dispatcher or to the sinks unchanged.
-/

namespace TboxFramework.Log

open TboxFramework.Store (Bytes text)

set_option autoImplicit false

/-- What the pointers of a Logger's implementation lead to. -/
structure LoggerParts where
  module : Bytes
  enricher : Enricher
  redactor : Redactor
  levelFilter : LevelFilter
  useStandardFormat : Bool

/-- The arguments of a call, and what the thread and the system add. -/
structure LogCall where
  level : LogLevel
  event : Bytes
  message : Bytes
  fields : List Field
  /-- `ContextScope::current`. -/
  context : Option LogContext
  moment : Moment
  localTime : BrokenDownTime → BrokenDownTime

namespace LoggerParts

/-- What the formatter gets. -/
def redacted (parts : LoggerParts) (call : LogCall) : List Field :=
  parts.redactor.redact (parts.enricher.enrich call.moment call.fields call.level parts.module
    call.event call.message call.context)

def line (parts : LoggerParts) (call : LogCall) : Bytes :=
  if parts.useStandardFormat then StandardFormatter.format call.localTime (parts.redacted call)
  else JsonLineFormatter.format (parts.redacted call)

/-- The line that is handed on, with its level; a filtered call hands on nothing. -/
def log (parts : LoggerParts) (call : LogCall) : Option (Bytes × LogLevel) :=
  if parts.levelFilter.shouldLog call.level (moduleName parts.module) then
    some (parts.line call, call.level)
  else none

end LoggerParts

end TboxFramework.Log
