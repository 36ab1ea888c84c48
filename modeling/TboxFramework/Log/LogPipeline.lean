import TboxFramework.Log.CallOrder
import TboxFramework.Log.FallbackLines
import TboxFramework.Log.LoggerRegistry

/-!
# From the threads to the files

The writer of the dispatcher is `SinkManager::write`. The files that it leaves, read
from the oldest to the newest, are the end of the calls of the writer, and so the order
in which the threads made their calls is the order of the lines in the files.
-/

namespace TboxFramework.Log.Sinks

open AsyncDispatcher (QueueItem DrainAction drainStep drainInitial AcceptedBefore Bypassed)
open Interleaving (run run_cons)
open TboxFramework.Store (Bytes text)
open RollingFileSink (output)

set_option autoImplicit false

variable {manager : SinkManager} {outputs : Outputs} {number : Nat} {line : Bytes}
  {level : LogLevel} {choices : WriteOutcomes} {sink : RollingFileSink}

end TboxFramework.Log.Sinks
