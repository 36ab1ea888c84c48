import TboxFramework.Library.Interleaving
import TboxFramework.Log.Levels

/-!
# The asynchronous dispatcher as an interleaving of critical sections

Each action is one critical section of `m_mutex`, one call of `m_writer` made
outside it, or one access to the atomic `m_running`. A `submit` call is named by
its ticket, which travels with the line so that two equal lines stay apart.
Timed waits may end at any moment, so neither interval appears in the state.
-/

namespace TboxFramework.Log.AsyncDispatcher

open Interleaving

set_option autoImplicit false

abbrev Ticket := Nat

structure QueueItem where
  ticket : Ticket
  line : String
  level : LogLevel
  deriving DecidableEq, Repr

/-- The program points of one `submit` call. -/
inductive SubmitPoint
  | idle
  | entered (line : String) (level : LogLevel)
  | unlockedToWrite (line : String) (level : LogLevel)
  | unlockedToSleep (line : String) (level : LogLevel)
  | returned (line : String) (level : LogLevel) (accepted : Bool)
  deriving DecidableEq, Repr

/-- The program points of `workerLoop`; `writing` holds what is left of `batch`. -/
inductive WorkerPoint
  | absent
  | testing
  | waiting
  | writing (batch : List QueueItem)
  | exited
  deriving DecidableEq, Repr

/-- The program points of the thread that calls `start` once and `stop` once. -/
inductive ControlPoint
  | fresh
  | spawning
  | started
  | notifying
  | joining
  | draining
  | stopped
  deriving DecidableEq, Repr

/-- `returned true` means that the predicate held, `returned false` a timeout. -/
inductive FlushPoint
  | idle
  | waiting
  | returned (predicate : Bool)
  deriving DecidableEq, Repr

/-- The program points of one `Logger::fatal` call. -/
inductive FatalPoint
  | idle
  | logging (ticket : Ticket)
  | flushing (ticket : Ticket) (flush : Nat)
  | aborted (ticket : Ticket) (flush : Nat)
  deriving DecidableEq, Repr

structure Config where
  queueSize : Nat
  filter : LevelFilter

structure State where
  running : Bool
  queue : List QueueItem
  droppedCount : Nat
  worker : WorkerPoint
  control : ControlPoint
  submits : Ticket → SubmitPoint
  flushes : Nat → FlushPoint
  /-- The tickets whose `submit` had returned true when the flush was entered. -/
  acceptedBefore : Nat → Ticket → Bool
  fatals : Nat → FatalPoint
  /-- Every call of `m_writer` so far, in order. -/
  written : List QueueItem
  processAborted : Bool

def initial : State where
  running := false
  queue := []
  droppedCount := 0
  worker := .absent
  control := .fresh
  submits := fun _ => .idle
  flushes := fun _ => .idle
  acceptedBefore := fun _ _ => false
  fatals := fun _ => .idle
  written := []
  processAborted := false

def isHighPriority (level : LogLevel) : Bool :=
  level = .kError || level = .kFatal

/-- The batch bound of `workerLoop`. -/
def batchLimit : Nat := 64

def WorkerPoint.batch : WorkerPoint → List QueueItem
  | .writing batch => batch
  | _ => []

def SubmitPoint.wasAccepted : SubmitPoint → Bool
  | .returned _ _ accepted => accepted
  | _ => false

inductive Action
  | startExchange
  | startSpawn
  | stopExchange
  | stopNotify
  | stopJoin
  | stopDrain
  | submit (ticket : Ticket) (line : String) (level : LogLevel)
  | submitEnqueue (ticket : Ticket) (line : String) (level : LogLevel)
  | submitOverflowHigh (ticket : Ticket) (line : String) (level : LogLevel)
  | submitOverflowWarn (ticket : Ticket) (line : String) (level : LogLevel)
  | submitOverflowDrop (ticket : Ticket) (line : String) (level : LogLevel)
  | submitWrite (ticket : Ticket) (line : String) (level : LogLevel)
  | submitRetryEnqueue (ticket : Ticket) (line : String) (level : LogLevel)
  | submitRetryDrop (ticket : Ticket) (line : String) (level : LogLevel)
  | workerTest
  | workerCollect
  | workerWrite (item : QueueItem) (batch : List QueueItem)
  | workerNotify
  | flush (call : Nat)
  | flushPredicate (call : Nat)
  | flushTimeout (call : Nat)
  | fatalLog (call : Nat) (ticket : Ticket) (line module : String)
  | fatalFlush (call : Nat) (ticket : Ticket) (line : String) (accepted : Bool) (flush : Nat)
  | fatalAbort (call : Nat) (ticket : Ticket) (flush : Nat) (predicate : Bool)
  deriving DecidableEq, Repr

namespace State

def setSubmit (state : State) (ticket : Ticket) (point : SubmitPoint) : State :=
  { state with submits := Function.update state.submits ticket point }

def enqueue (state : State) (item : QueueItem) : State :=
  { state with queue := state.queue ++ [item] }

/-- One call of `m_writer`. -/
def write (state : State) (item : QueueItem) : State :=
  { state with written := state.written ++ [item] }

def enterFlush (state : State) (call : Nat) : State :=
  { state with
    flushes := Function.update state.flushes call .waiting
    acceptedBefore := Function.update state.acceptedBefore call
      fun ticket => (state.submits ticket).wasAccepted }

def leaveFlush (state : State) (call : Nat) (predicate : Bool) : State :=
  { state with flushes := Function.update state.flushes call (.returned predicate) }

def setFatal (state : State) (call : Nat) (point : FatalPoint) : State :=
  { state with fatals := Function.update state.fatals call point }

end State

/-- One step of a dispatcher whose process is still alive. -/
def transition (config : Config) (state : State) : Action → Option State
  | .startExchange =>
      guarded (state.control = .fresh)
        { state with running := true, control := .spawning }
  | .startSpawn =>
      guarded (state.control = .spawning)
        { state with worker := .testing, control := .started }
  | .stopExchange =>
      guarded (state.control = .started)
        { state with running := false, control := .notifying }
  | .stopNotify =>
      guarded (state.control = .notifying) { state with control := .joining }
  | .stopJoin =>
      guarded (state.control = .joining ∧ state.worker = .exited)
        { state with control := .draining }
  | .stopDrain =>
      -- the whole loop of `stop` runs inside one critical section
      guarded (state.control = .draining)
        { state with written := state.written ++ state.queue, queue := [], control := .stopped }
  | .submit ticket line level =>
      guarded (state.submits ticket = .idle) (state.setSubmit ticket (.entered line level))
  | .submitEnqueue ticket line level =>
      guarded (state.submits ticket = .entered line level ∧
          state.queue.length < config.queueSize)
        ((state.enqueue ⟨ticket, line, level⟩).setSubmit ticket (.returned line level true))
  | .submitOverflowHigh ticket line level =>
      guarded (state.submits ticket = .entered line level ∧
          ¬state.queue.length < config.queueSize ∧ isHighPriority level)
        (state.setSubmit ticket (.unlockedToWrite line level))
  | .submitOverflowWarn ticket line level =>
      guarded (state.submits ticket = .entered line level ∧
          ¬state.queue.length < config.queueSize ∧ level = .kWarn)
        (state.setSubmit ticket (.unlockedToSleep line level))
  | .submitOverflowDrop ticket line level =>
      guarded (state.submits ticket = .entered line level ∧
          ¬state.queue.length < config.queueSize ∧ ¬isHighPriority level ∧ level ≠ .kWarn)
        ({ state with droppedCount := state.droppedCount + 1 }.setSubmit ticket
          (.returned line level false))
  | .submitWrite ticket line level =>
      guarded (state.submits ticket = .unlockedToWrite line level)
        ((state.write ⟨ticket, line, level⟩).setSubmit ticket (.returned line level true))
  | .submitRetryEnqueue ticket line level =>
      guarded (state.submits ticket = .unlockedToSleep line level ∧
          state.queue.length < config.queueSize)
        ((state.enqueue ⟨ticket, line, level⟩).setSubmit ticket (.returned line level true))
  | .submitRetryDrop ticket line level =>
      guarded (state.submits ticket = .unlockedToSleep line level ∧
          ¬state.queue.length < config.queueSize)
        ({ state with droppedCount := state.droppedCount + 1 }.setSubmit ticket
          (.returned line level false))
  | .workerTest =>
      guarded (state.worker = .testing)
        { state with worker := if state.running then .waiting else .exited }
  | .workerCollect =>
      guarded (state.worker = .waiting)
        { state with
          worker := .writing (state.queue.take batchLimit)
          queue := state.queue.drop batchLimit }
  | .workerWrite item batch =>
      guarded (state.worker = .writing (item :: batch))
        { state.write item with worker := .writing batch }
  | .workerNotify =>
      guarded (state.worker = .writing []) { state with worker := .testing }
  | .flush call =>
      guarded (state.flushes call = .idle) (state.enterFlush call)
  | .flushPredicate call =>
      guarded (state.flushes call = .waiting ∧ state.queue = []) (state.leaveFlush call true)
  | .flushTimeout call =>
      guarded (state.flushes call = .waiting ∧ state.queue ≠ []) (state.leaveFlush call false)
  | .fatalLog call ticket line module =>
      guarded (state.fatals call = .idle ∧ state.submits ticket = .idle ∧
          config.filter.shouldLog .kFatal module)
        ((state.setSubmit ticket (.entered line .kFatal)).setFatal call (.logging ticket))
  | .fatalFlush call ticket line accepted flush =>
      guarded (state.fatals call = .logging ticket ∧
          state.submits ticket = .returned line .kFatal accepted ∧
          state.flushes flush = .idle)
        ((state.enterFlush flush).setFatal call (.flushing ticket flush))
  | .fatalAbort call ticket flush predicate =>
      guarded (state.fatals call = .flushing ticket flush ∧
          state.flushes flush = .returned predicate)
        { state.setFatal call (.aborted ticket flush) with processAborted := true }

/-- After `std::abort` no thread of the process takes another step. -/
def step (config : Config) (state : State) (action : Action) : Option State :=
  if state.processAborted then none else transition config state action

theorem transition_of_step {config : Config} {state next : State} {action : Action}
    (taken : step config state action = some next) :
    transition config state action = some next := by
  unfold step at taken
  split at taken
  · cases taken
  · exact taken

/-! ## Conditions on a schedule -/

/-- No critical section of `submit` puts a line into the queue once `stop` has
drained it. -/
def EnqueuesBeforeDrain (state : State) : Action → Prop
  | .submitEnqueue _ _ _ => state.control ≠ .stopped
  | .submitRetryEnqueue _ _ _ => state.control ≠ .stopped
  | _ => True

instance (state : State) (action : Action) : Decidable (EnqueuesBeforeDrain state action) := by
  cases action <;> unfold EnqueuesBeforeDrain <;> infer_instance

/-- `flush` tests its predicate while the batch of the worker holds no line
that was accepted before it. -/
def BatchAlreadyWritten (state : State) : Action → Prop
  | .flushPredicate call =>
      ∀ item ∈ state.worker.batch, state.acceptedBefore call item.ticket = false
  | _ => True

instance (state : State) (action : Action) : Decidable (BatchAlreadyWritten state action) := by
  cases action <;> unfold BatchAlreadyWritten <;> infer_instance

end TboxFramework.Log.AsyncDispatcher
