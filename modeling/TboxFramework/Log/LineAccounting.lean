import TboxFramework.Log.FlushBarrier
import Mathlib.Data.Set.Card

/-!
# Line accounting, with the drain of `stop` taken apart

`stop` holds the mutex from the first drained line to the last. Other critical
sections wait for it, calls of the writer outside the mutex do not.
-/

namespace TboxFramework.Log.AsyncDispatcher

open Interleaving

set_option autoImplicit false

/-- The actions that run under `m_mutex`. -/
def Action.locks : Action → Bool
  | .submitEnqueue _ _ _ | .submitOverflowHigh _ _ _ | .submitOverflowWarn _ _ _
  | .submitOverflowDrop _ _ _ | .submitRetryEnqueue _ _ _ | .submitRetryDrop _ _ _
  | .workerCollect | .flushPredicate _ | .flushTimeout _ | .stopDrain => true
  | _ => false

structure DrainState where
  dispatcher : State
  /-- `stop` is inside its last critical section. -/
  draining : Bool

inductive DrainAction
  | other (action : Action)
  | drainLock
  | drainWrite (item : QueueItem) (queue : List QueueItem)
  | drainUnlock
  deriving DecidableEq, Repr

def drainInitial : DrainState := ⟨initial, false⟩

/-- One iteration of the loop: the front line is written, then popped. -/
def State.drainFront (state : State) (item : QueueItem) (queue : List QueueItem) : State :=
  { state.write item with queue := queue }

def drainStep (config : Config) (state : DrainState) : DrainAction → Option DrainState
  | .other action =>
      if action = .stopDrain ∨ (state.draining ∧ action.locks) then none
      else (step config state.dispatcher action).map fun next => ⟨next, state.draining⟩
  | .drainLock =>
      guarded (state.dispatcher.control = .draining ∧ ¬state.draining ∧
          ¬state.dispatcher.processAborted)
        { state with draining := true }
  | .drainWrite item queue =>
      guarded (state.draining ∧ state.dispatcher.queue = item :: queue ∧
          ¬state.dispatcher.processAborted)
        { state with dispatcher := state.dispatcher.drainFront item queue }
  | .drainUnlock =>
      guarded (state.draining ∧ state.dispatcher.queue = [] ∧ ¬state.dispatcher.processAborted)
        ⟨{ state.dispatcher with control := .stopped }, false⟩

theorem drain_step_other {config : Config} {state next : DrainState} {action : Action}
    (taken : drainStep config state (.other action) = some next) :
    action ≠ .stopDrain ∧ step config state.dispatcher action = some next.dispatcher ∧
      next.draining = state.draining := by
  simp only [drainStep] at taken
  split at taken
  · cases taken
  · rename_i free
    obtain ⟨after, stepped, rfl⟩ := Option.map_eq_some_iff.mp taken
    exact ⟨fun drain => free (Or.inl drain), stepped, rfl⟩

/-! ## The drain as one step -/

/-- The lines of a queue, each with what is left behind it. -/
def drainWrites : List QueueItem → List DrainAction
  | [] => []
  | item :: queue => .drainWrite item queue :: drainWrites queue

theorem drain_writes_run (config : Config) (items : List QueueItem) :
    ∀ state : State, state.queue = items → state.processAborted = false →
      run (drainStep config) ⟨state, true⟩ (drainWrites items) =
        some ⟨{ state with written := state.written ++ items, queue := [] }, true⟩ := by
  induction items with
  | nil =>
      intro state queue alive
      cases state
      simp_all [drainWrites]
  | cons item items ih =>
      intro state queue alive
      have front : drainStep config ⟨state, true⟩ (.drainWrite item items) =
          some ⟨state.drainFront item items, true⟩ := by
        simp [drainStep, guarded, queue, alive]
      rw [drainWrites, run_cons, front, Option.bind_some,
        ih (state.drainFront item items) rfl alive]
      simp [State.drainFront, State.write]

/-- Undisturbed, the loop does what `stopDrain` does in one step. -/
theorem drain_run {config : Config} {state next : State}
    (taken : step config state .stopDrain = some next) :
    run (drainStep config) ⟨state, false⟩
      (.drainLock :: drainWrites state.queue ++ [.drainUnlock]) = some ⟨next, false⟩ := by
  have alive : state.processAborted = false := by
    cases aborted : state.processAborted with
    | false => rfl
    | true => simp [step, aborted] at taken
  have moved := transition_of_step taken
  simp only [transition, guarded_eq_some] at moved
  obtain ⟨draining, rfl⟩ := moved
  have lock : drainStep config ⟨state, false⟩ .drainLock = some ⟨state, true⟩ := by
    simp [drainStep, guarded, draining, alive]
  rw [List.cons_append, run_cons, lock, Option.bind_some, run_append,
    drain_writes_run config state.queue state rfl alive, Option.bind_some]
  simp [run_cons, drainStep, guarded, alive]

/-! ## Places -/

inductive Place
  | queue
  | workerBatch
  | stopDrain
  | synchronousWrite
  | written
  | dropped
  deriving DecidableEq, Repr

/-- How often a line of a `submit` is in a place. -/
def DrainState.copiesAt (state : DrainState) (item : QueueItem) : Place → Nat
  | .queue => if state.draining then 0 else state.dispatcher.queue.count item
  | .workerBatch => state.dispatcher.worker.batch.count item
  | .stopDrain => if state.draining then state.dispatcher.queue.count item else 0
  | .synchronousWrite =>
      if state.dispatcher.submits item.ticket = .unlockedToWrite item.line item.level then 1 else 0
  | .written => state.dispatcher.written.count item
  | .dropped =>
      if state.dispatcher.submits item.ticket = .returned item.line item.level false then 1 else 0

def DrainState.OnlyAt (state : DrainState) (item : QueueItem) (place : Place) : Prop :=
  state.copiesAt item place = 1 ∧ ∀ other, other ≠ place → state.copiesAt item other = 0

/-- The `submit` of this line has no critical section before it any more. -/
def State.PastCriticalSections (state : State) (item : QueueItem) : Prop :=
  state.submits item.ticket = .unlockedToWrite item.line item.level ∨
    ∃ accepted, state.submits item.ticket = .returned item.line item.level accepted

def State.refused (state : State) : Set Ticket :=
  {ticket | ∃ line level, state.submits ticket = .returned line level false}

/-- The line that an action puts into the queue. -/
def Action.enqueues : Action → List QueueItem
  | .submitEnqueue ticket line level | .submitRetryEnqueue ticket line level =>
      [⟨ticket, line, level⟩]
  | _ => []

def DrainAction.enqueues : DrainAction → List QueueItem
  | .other action => action.enqueues
  | _ => []

/-- Every line accepted through the queue, in the order of the enqueues. -/
def enqueued (actions : List DrainAction) : List QueueItem :=
  actions.flatMap DrainAction.enqueues

structure LinesAccounted (config : Config) (actions : List DrainAction) (state : DrainState) :
    Prop where
  bounded : state.dispatcher.queue.length ≤ config.queueSize
  placed : ∀ item, state.dispatcher.PastCriticalSections item → ∃ place, state.OnlyAt item place
  counted : state.dispatcher.refused.encard = state.dispatcher.droppedCount
  highKept : ∀ ticket line level, isHighPriority level →
    state.dispatcher.submits ticket ≠ .returned line level false
  ordered : state.dispatcher.written.filter (fun item => item ∈ enqueued actions) <+:
    enqueued actions

/-! ## The invariants -/

/-- Lines leave the queue at its front and are written in the order of the batch. -/
def InOrder (lines : List QueueItem) (state : State) : Prop :=
  state.written.filter (fun item => item ∈ lines) ++ state.worker.batch ++ state.queue = lines

structure Tallied (config : Config) (lines : List QueueItem) (state : State) : Prop where
  consistent : Consistent state
  bounded : state.queue.length ≤ config.queueSize
  counted : state.refused.encard = state.droppedCount
  priority : PriorityKept state
  ordered : InOrder lines state

theorem filter_extended {items lines : List QueueItem} {item : QueueItem}
    (absent : item ∉ items) :
    items.filter (fun other => other ∈ lines ++ [item]) =
      items.filter (fun other => other ∈ lines) := by
  apply List.filter_congr
  intro other member
  have differs : other ≠ item := by
    intro same
    exact absent (same ▸ member)
  simp [differs]

theorem InOrder.lines_held {lines : List QueueItem} {state : State} (ordered : InOrder lines state)
    {item : QueueItem} (member : item ∈ lines) : item ∈ state.held := by
  rw [← ordered] at member
  rw [mem_held]
  simp only [List.mem_append, List.mem_filter] at member
  tauto

/-- A line whose `submit` has not returned true is nowhere. -/
theorem Faithful.not_held {state : State} (faithful : Faithful state) {item : QueueItem}
    (unreturned : state.submits item.ticket ≠ .returned item.line item.level true) :
    item ∉ state.held :=
  fun member => unreturned (faithful item member)

/-- What a step does to the refused tickets and to their counter. -/
inductive CounterMove (state next : State) : Prop
  | still (refused : next.refused = state.refused)
      (counter : next.droppedCount = state.droppedCount)
  | dropped (ticket : Ticket) (fresh : ticket ∉ state.refused)
      (refused : next.refused = insert ticket state.refused)
      (counter : next.droppedCount = state.droppedCount + 1)

theorem refused_update {state next : State} {ticket : Ticket} {point : SubmitPoint}
    (submits : next.submits = Function.update state.submits ticket point)
    (before : ∀ line level, state.submits ticket ≠ .returned line level false)
    (after : ∀ line level, point ≠ .returned line level false) :
    next.refused = state.refused := by
  ext other
  simp only [State.refused, Set.mem_ofPred_eq, submits]
  by_cases same : other = ticket
  · simp [same, before, after]
  · simp [Function.update_of_ne same]

theorem counter_move_drop {state next : State} {ticket : Ticket} {line : String}
    {level : LogLevel}
    (submits : next.submits = Function.update state.submits ticket (.returned line level false))
    (before : ∀ line level, state.submits ticket ≠ .returned line level false)
    (counter : next.droppedCount = state.droppedCount + 1) : CounterMove state next := by
  refine .dropped ticket ?_ ?_ counter
  · rintro ⟨text, severity, refused⟩
    exact before text severity refused
  · ext other
    simp only [State.refused, Set.mem_ofPred_eq, Set.mem_insert_iff, submits]
    by_cases same : other = ticket
    · simp [same]
    · simp [same]

theorem transition_counter_move {config : Config} {state next : State} {action : Action}
    (taken : transition config state action = some next) : CounterMove state next := by
  cases action <;> simp only [transition, guarded_eq_some] at taken <;>
    obtain ⟨here, rfl⟩ := taken
  case submit | submitWrite => exact .still (refused_update rfl (by simp [here]) (by simp)) rfl
  case submitEnqueue | submitOverflowHigh | submitOverflowWarn | submitRetryEnqueue =>
      exact .still (refused_update rfl (by simp [here.1]) (by simp)) rfl
  case submitOverflowDrop | submitRetryDrop => exact counter_move_drop rfl (by simp [here.1]) rfl
  case fatalLog => exact .still (refused_update rfl (by simp [here.2.1]) (by simp)) rfl
  all_goals exact .still rfl rfl

theorem CounterMove.counted {state next : State} (move : CounterMove state next)
    (counted : state.refused.encard = state.droppedCount) :
    next.refused.encard = next.droppedCount := by
  cases move with
  | still refused counter => rw [refused, counter, counted]
  | dropped ticket fresh refused counter =>
      rw [refused, Set.encard_insert_of_notMem fresh, counted, counter, Nat.cast_add,
        Nat.cast_one]

theorem transition_bounded {config : Config} {state next : State} {action : Action}
    (bounded : state.queue.length ≤ config.queueSize)
    (taken : transition config state action = some next) :
    next.queue.length ≤ config.queueSize := by
  cases action <;> simp only [transition, guarded_eq_some] at taken
  case submitEnqueue ticket line level =>
      obtain ⟨⟨entered, room⟩, rfl⟩ := taken
      simpa [State.enqueue, State.setSubmit] using room
  case submitRetryEnqueue ticket line level =>
      obtain ⟨⟨slept, room⟩, rfl⟩ := taken
      simpa [State.enqueue, State.setSubmit] using room
  case stopDrain =>
      obtain ⟨draining, rfl⟩ := taken
      exact Nat.zero_le _
  case workerCollect =>
      obtain ⟨waiting, rfl⟩ := taken
      simp only [List.length_drop]
      omega
  all_goals
    obtain ⟨_, rfl⟩ := taken
    exact bounded

/-! ## Order -/

theorem in_order_enqueue {lines : List QueueItem} {state next : State} {item : QueueItem}
    (ordered : InOrder lines state) (absent : item ∉ state.held)
    (written : next.written = state.written) (worker : next.worker = state.worker)
    (queue : next.queue = state.queue ++ [item]) : InOrder (lines ++ [item]) next := by
  have unwritten : item ∉ state.written := fun member => absent (mem_held.mpr (.inr (.inr member)))
  unfold InOrder at ordered ⊢
  rw [written, worker, queue, filter_extended unwritten, ← List.append_assoc, ordered]

theorem in_order_write {lines : List QueueItem} {state next : State} {item : QueueItem}
    (ordered : InOrder lines state) (absent : item ∉ state.held)
    (written : next.written = state.written ++ [item]) (worker : next.worker = state.worker)
    (queue : next.queue = state.queue) : InOrder lines next := by
  have foreign : item ∉ lines := fun member => absent (ordered.lines_held member)
  unfold InOrder at ordered ⊢
  rw [written, worker, queue, List.filter_append]
  simpa [foreign] using ordered

/-- A step that only hands lines on. -/
theorem in_order_hand {lines : List QueueItem} {state next : State}
    (ordered : InOrder lines state)
    (handed : next.written.filter (fun item => item ∈ lines) ++ next.worker.batch ++ next.queue =
      state.written.filter (fun item => item ∈ lines) ++ state.worker.batch ++ state.queue) :
    InOrder lines next :=
  handed.trans ordered

theorem transition_in_order {config : Config} {lines : List QueueItem} {state next : State}
    {action : Action} (ordered : InOrder lines state) (consistent : Consistent state)
    (taken : transition config state action = some next) :
    InOrder (lines ++ action.enqueues) next := by
  cases action <;> simp only [transition, guarded_eq_some] at taken
  case submitEnqueue ticket line level =>
      obtain ⟨⟨entered, room⟩, rfl⟩ := taken
      have absent : (⟨ticket, line, level⟩ : QueueItem) ∉ state.held :=
        consistent.faithful.not_held (by simp [entered])
      exact in_order_enqueue ordered absent rfl rfl rfl
  case submitRetryEnqueue ticket line level =>
      obtain ⟨⟨slept, room⟩, rfl⟩ := taken
      have absent : (⟨ticket, line, level⟩ : QueueItem) ∉ state.held :=
        consistent.faithful.not_held (by simp [slept])
      exact in_order_enqueue ordered absent rfl rfl rfl
  all_goals
    obtain ⟨here, rfl⟩ := taken
    simp only [Action.enqueues, List.append_nil]
  case submitWrite ticket line level =>
      have absent : (⟨ticket, line, level⟩ : QueueItem) ∉ state.held :=
        consistent.faithful.not_held (by simp [here])
      exact in_order_write ordered absent rfl rfl rfl
  case startSpawn =>
      have absent := consistent.phase.absent (Or.inr here)
      exact in_order_hand ordered (by simp [absent, WorkerPoint.batch])
  case stopDrain =>
      have exited := consistent.phase.exited (Or.inl here)
      have queued : ∀ item ∈ state.queue, item ∈ lines := by
        intro item member
        rw [← ordered]
        exact List.mem_append_right _ member
      apply in_order_hand ordered
      have kept : state.queue.filter (fun item => item ∈ lines) = state.queue := by
        simpa using queued
      simp [List.filter_append, kept, exited, WorkerPoint.batch]
  case workerTest =>
      apply in_order_hand ordered
      cases running : state.running <;> simp [here, WorkerPoint.batch]
  case workerCollect =>
      apply in_order_hand ordered
      simp [here, WorkerPoint.batch]
  case workerWrite item batch =>
      have batched : item ∈ lines := by
        rw [← ordered]
        simp [here, WorkerPoint.batch]
      apply in_order_hand ordered
      simp [State.write, here, WorkerPoint.batch, List.filter_append, batched]
  case workerNotify =>
      exact in_order_hand ordered (by simp [here, WorkerPoint.batch])
  all_goals exact ordered

theorem initial_tallied (config : Config) : Tallied config [] initial where
  consistent := initial_consistent
  bounded := Nat.zero_le _
  counted := by simp [State.refused, initial]
  priority := ⟨by simp [initial], by simp [initial]⟩
  ordered := rfl

theorem step_tallied {config : Config} {lines : List QueueItem} {state next : State}
    {action : Action} (tallied : Tallied config lines state)
    (taken : step config state action = some next) :
    Tallied config (lines ++ action.enqueues) next :=
  have moved := transition_of_step taken
  { consistent := step_consistent tallied.consistent taken
    bounded := transition_bounded tallied.bounded moved
    counted := (transition_counter_move moved).counted tallied.counted
    priority := transition_priority_kept tallied.priority moved
    ordered := transition_in_order tallied.ordered tallied.consistent moved }

/-! ## The drain taken apart -/

structure DrainTallied (config : Config) (lines : List QueueItem) (state : DrainState) : Prop where
  tallied : Tallied config lines state.dispatcher
  phase : state.draining → state.dispatcher.control = .draining

/-- Only `stopDrain` ends the phase of the drain. -/
theorem transition_keeps_draining {config : Config} {state next : State} {action : Action}
    (draining : state.control = .draining) (other : action ≠ .stopDrain)
    (taken : transition config state action = some next) : next.control = .draining := by
  cases action <;> simp only [transition, guarded_eq_some] at taken
  case stopDrain => exact absurd rfl other
  case startExchange | startSpawn | stopExchange | stopNotify =>
      obtain ⟨here, rfl⟩ := taken
      rw [draining] at here
      cases here
  case stopJoin =>
      obtain ⟨⟨joining, done⟩, rfl⟩ := taken
      rfl
  all_goals
    obtain ⟨_, rfl⟩ := taken
    exact draining

theorem Tallied.drain_front {config : Config} {lines : List QueueItem} {state : State}
    {item : QueueItem} {queue : List QueueItem} (tallied : Tallied config lines state)
    (draining : state.control = .draining) (front : state.queue = item :: queue) :
    Tallied config lines (state.drainFront item queue) := by
  have exited := tallied.consistent.phase.exited (Or.inl draining)
  constructor
  · constructor
    · refine accounted_of_same tallied.consistent.accounted ?_ (fun _ => rfl)
      intro ticket
      simp [State.copies, State.drainFront, State.write, front]
      omega
    · refine faithful_of_same tallied.consistent.faithful ?_ rfl
      intro other
      simp only [mem_held, State.drainFront, State.write, front, List.mem_append, List.mem_cons,
        List.not_mem_nil, or_false]
      tauto
    · exact ⟨tallied.consistent.phase.absent, tallied.consistent.phase.exited⟩
  · have bounded := tallied.bounded
    rw [front, List.length_cons] at bounded
    exact Nat.le_of_succ_le bounded
  · exact tallied.counted
  · exact ⟨tallied.priority.sleeping, tallied.priority.refused⟩
  · have queued : item ∈ lines := by
      rw [← tallied.ordered]
      simp [front]
    apply in_order_hand tallied.ordered
    simp [State.drainFront, State.write, front, exited, WorkerPoint.batch, List.filter_append,
      queued]

theorem drain_step_tallied {config : Config} {lines : List QueueItem} {state next : DrainState}
    {action : DrainAction} (tallied : DrainTallied config lines state)
    (taken : drainStep config state action = some next) :
    DrainTallied config (lines ++ action.enqueues) next := by
  cases action with
  | other action =>
      obtain ⟨undrained, stepped, same⟩ := drain_step_other taken
      refine ⟨step_tallied tallied.tallied stepped, ?_⟩
      intro draining
      rw [same] at draining
      exact transition_keeps_draining (tallied.phase draining) undrained
        (transition_of_step stepped)
  | drainLock =>
      obtain ⟨⟨draining, unlocked, alive⟩, rfl⟩ := (guarded_eq_some ..).mp taken
      simp only [DrainAction.enqueues, List.append_nil]
      exact ⟨tallied.tallied, fun _ => draining⟩
  | drainWrite item queue =>
      obtain ⟨⟨locked, front, alive⟩, rfl⟩ := (guarded_eq_some ..).mp taken
      simp only [DrainAction.enqueues, List.append_nil]
      exact ⟨tallied.tallied.drain_front (tallied.phase locked) front, tallied.phase⟩
  | drainUnlock =>
      obtain ⟨⟨locked, empty, alive⟩, rfl⟩ := (guarded_eq_some ..).mp taken
      have exited := tallied.tallied.consistent.phase.exited (Or.inl (tallied.phase locked))
      simp only [DrainAction.enqueues, List.append_nil]
      obtain ⟨⟨accounted, faithful, -⟩, bounded, counted, priority, ordered⟩ := tallied.tallied
      exact ⟨⟨⟨accounted, faithful, nofun, fun _ => exited⟩, bounded, counted,
        ⟨priority.sleeping, priority.refused⟩, ordered⟩, nofun⟩

theorem reachable_tallied {config : Config} {actions : List DrainAction} {state : DrainState}
    (completed : run (drainStep config) drainInitial actions = some state) :
    DrainTallied config (enqueued actions) state := by
  refine traced_invariant (fun past state => DrainTallied config (enqueued past) state) ?_
    (⟨initial_tallied config, nofun⟩ : DrainTallied config [] drainInitial)
    (along_of_forall (fun _ _ => trivial) drainInitial) completed
  intro past state action next tallied _ taken
  rw [enqueued, List.flatMap_append, List.flatMap_singleton]
  exact drain_step_tallied tallied taken

/-! ## One place for each line -/

theorem count_eq_ticket_count {items : List QueueItem} {item : QueueItem}
    (own : ∀ other ∈ items, other.ticket = item.ticket → other = item) :
    items.count item = ticketCount items item.ticket := by
  unfold List.count ticketCount
  apply List.countP_congr
  intro other member
  simp only [beq_iff_eq, decide_eq_true_eq]
  exact ⟨fun same => same ▸ rfl, own other member⟩

/-- The line of a `submit` that is past its critical sections is held as it was submitted. -/
theorem own_of_past {state : State} (faithful : Faithful state) {item : QueueItem}
    (past : state.PastCriticalSections item) :
    ∀ other ∈ state.held, other.ticket = item.ticket → other = item := by
  intro other member same
  have accepted := faithful other member
  rw [same] at accepted
  rcases past with unlocked | ⟨answer, returned⟩
  · rw [unlocked] at accepted
    cases accepted
  · rw [returned] at accepted
    cases other
    cases item
    simp_all

/-- Both names of the queue: which one applies depends on who holds the mutex. -/
def DrainState.queuePlace (state : DrainState) : Place :=
  if state.draining then .stopDrain else .queue

theorem only_at_of_returned {state : DrainState} {item : QueueItem}
    (returned : state.dispatcher.submits item.ticket = .returned item.line item.level true)
    (total : state.dispatcher.queue.count item + state.dispatcher.worker.batch.count item +
      state.dispatcher.written.count item = 1) : ∃ place, state.OnlyAt item place := by
  have places : state.dispatcher.queue.count item = 1 ∨
      state.dispatcher.worker.batch.count item = 1 ∨
      state.dispatcher.written.count item = 1 := by omega
  rcases places with queued | batched | written
  · refine ⟨state.queuePlace, ?_, ?_⟩
    · cases draining : state.draining <;>
        simp [DrainState.copiesAt, DrainState.queuePlace, draining, queued]
    · intro other differs
      cases draining : state.draining <;> cases other <;>
        simp [DrainState.copiesAt, DrainState.queuePlace, draining, returned] at differs ⊢ <;>
        omega
  · refine ⟨.workerBatch, batched, ?_⟩
    intro other differs
    cases other <;> simp [DrainState.copiesAt, returned] at differs ⊢ <;> omega
  · refine ⟨.written, written, ?_⟩
    intro other differs
    cases other <;> simp [DrainState.copiesAt, returned] at differs ⊢ <;> omega

theorem placed_of_consistent {state : DrainState} (consistent : Consistent state.dispatcher)
    {item : QueueItem} (past : state.dispatcher.PastCriticalSections item) :
    ∃ place, state.OnlyAt item place := by
  have own := own_of_past consistent.faithful past
  have total := consistent.accounted item.ticket
  have queued := count_eq_ticket_count fun other member =>
    own other (mem_held.mpr (Or.inl member))
  have batched := count_eq_ticket_count fun other member =>
    own other (mem_held.mpr (Or.inr (Or.inl member)))
  have written := count_eq_ticket_count fun other member =>
    own other (mem_held.mpr (Or.inr (Or.inr member)))
  rw [State.copies, ← queued, ← batched, ← written] at total
  rcases past with unlocked | ⟨accepted, returned⟩
  · simp only [unlocked, SubmitPoint.promised] at total
    refine ⟨.synchronousWrite, by simp [DrainState.copiesAt, unlocked], ?_⟩
    intro other differs
    cases other <;> simp [DrainState.copiesAt, unlocked] at differs ⊢ <;> omega
  · cases accepted with
    | false =>
        simp only [returned, SubmitPoint.promised] at total
        refine ⟨.dropped, by simp [DrainState.copiesAt, returned], ?_⟩
        intro other differs
        cases other <;> simp [DrainState.copiesAt, returned] at differs ⊢ <;> omega
    | true =>
        simp only [returned, SubmitPoint.promised] at total
        exact only_at_of_returned returned total

/-- Wherever the threads stand, every line is accounted for. -/
theorem dispatcher_accounts_for_every_line (config : Config) (actions : List DrainAction)
    (state : DrainState)
    (completed : run (drainStep config) drainInitial actions = some state) :
    LinesAccounted config actions state where
  bounded := (reachable_tallied completed).tallied.bounded
  placed := fun _ => placed_of_consistent (reachable_tallied completed).tallied.consistent
  counted := (reachable_tallied completed).tallied.counted
  highKept := by
    intro ticket line level high refused
    have low := (reachable_tallied completed).tallied.priority.refused ticket line level refused
    rw [high] at low
    cases low
  ordered := by
    have ordered := (reachable_tallied completed).tallied.ordered
    unfold InOrder at ordered
    rw [List.append_assoc] at ordered
    exact ⟨_, ordered⟩

/-- The second line finds the queue full and is written beside the drain, the third
one is refused. -/
def overflowRun : List DrainAction :=
  [.other .startExchange, .other .startSpawn, .other (.submit 0 "boot" .kInfo),
    .other (.submitEnqueue 0 "boot" .kInfo), .other (.submit 1 "fault" .kError),
    .other (.submitOverflowHigh 1 "fault" .kError), .other (.submit 2 "tick" .kInfo),
    .other (.submitOverflowDrop 2 "tick" .kInfo), .other .stopExchange, .other .workerTest,
    .other .stopNotify, .other .stopJoin, .drainLock, .other (.submitWrite 1 "fault" .kError),
    .drainWrite ⟨0, "boot", .kInfo⟩ []]

theorem overflow_run_accounted :
    ∃ state, run (drainStep ⟨1, ⟨.kInfo, []⟩⟩) drainInitial overflowRun = some state ∧
      LinesAccounted ⟨1, ⟨.kInfo, []⟩⟩ overflowRun state ∧
      state.dispatcher.written = [⟨1, "fault", .kError⟩, ⟨0, "boot", .kInfo⟩] ∧
      state.dispatcher.submits 1 = .returned "fault" .kError true ∧
      state.copiesAt ⟨1, "fault", .kError⟩ .written = 1 ∧
      enqueued overflowRun = [⟨0, "boot", .kInfo⟩] ∧
      state.copiesAt ⟨2, "tick", .kInfo⟩ .dropped = 1 ∧ state.dispatcher.droppedCount = 1 :=
  ⟨_, rfl, dispatcher_accounts_for_every_line ⟨1, ⟨.kInfo, []⟩⟩ overflowRun _ rfl, rfl, rfl,
    rfl, rfl, rfl, rfl⟩

end TboxFramework.Log.AsyncDispatcher
