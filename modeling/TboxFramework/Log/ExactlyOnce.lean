import TboxFramework.Log.DispatcherAccounting

/-!
# Accepted lines are written exactly once

The account leaves one way to lose an accepted line: it can still sit in the
queue when nobody is left to take it out. After the drain of `stop` that is the
fate of every line that a late `submit` puts there, and of no other line.
-/

namespace TboxFramework.Log.AsyncDispatcher

open Interleaving

set_option autoImplicit false

/-- All `submit` calls made so far have returned. -/
def Settled (state : State) : Prop :=
  ∀ ticket, state.submits ticket = .idle ∨
    ∃ line level accepted, state.submits ticket = .returned line level accepted

/-- The writer saw each accepted line once, as submitted, and no refused line. -/
def ExactlyOnce (state : State) : Prop :=
  ∀ ticket line level,
    (state.submits ticket = .returned line level true →
      state.written.filter (fun item => item.ticket = ticket) = [⟨ticket, line, level⟩]) ∧
    (state.submits ticket = .returned line level false →
      state.written.filter (fun item => item.ticket = ticket) = [])

theorem stopped_is_final {config : Config} {state next : State} {action : Action}
    (stopped : state.control = .stopped) (taken : step config state action = some next) :
    next.control = .stopped := by
  have moved := transition_of_step taken
  cases action <;> simp only [transition, guarded_eq_some] at moved <;>
    obtain ⟨here, rfl⟩ := moved
  case startExchange | startSpawn | stopExchange | stopNotify | stopDrain => simp_all
  case stopJoin => simp_all
  all_goals exact stopped

/-- Once `stop` has returned nothing leaves the queue any more. -/
theorem stopped_keeps_queue {config : Config} {state next : State} {action : Action}
    (phase : WorkerPhase state) (stopped : state.control = .stopped)
    (taken : step config state action = some next) : state.queue <+: next.queue := by
  have exited := phase.exited (Or.inr stopped)
  have moved := transition_of_step taken
  cases action <;> simp only [transition, guarded_eq_some] at moved <;>
    obtain ⟨here, rfl⟩ := moved
  case stopDrain => simp [stopped] at here
  case workerCollect => simp [exited] at here
  case submitEnqueue | submitRetryEnqueue => exact List.prefix_append _ _
  all_goals exact List.prefix_refl _

/-- While every enqueue comes before the drain, the drained queue stays empty. -/
theorem queue_stays_drained {config : Config} {state next : State} {action : Action}
    (drained : state.control = .stopped → state.queue = [])
    (early : EnqueuesBeforeDrain state action)
    (taken : step config state action = some next) :
    next.control = .stopped → next.queue = [] := by
  have moved := transition_of_step taken
  cases action <;> simp only [transition, guarded_eq_some] at moved <;>
    obtain ⟨here, rfl⟩ := moved
  case stopDrain => exact fun _ => rfl
  case submitEnqueue | submitRetryEnqueue => exact fun stopped => absurd stopped early
  case workerCollect =>
      intro stopped
      simp [drained stopped]
  case startExchange | startSpawn | stopExchange | stopNotify => simp
  case stopJoin => simp
  all_goals exact drained

/-- A step against the condition leaves a line in the queue of a stopped dispatcher. -/
theorem late_enqueue_stays {config : Config} {state next : State} {action : Action}
    (late : ¬EnqueuesBeforeDrain state action) (taken : step config state action = some next) :
    next.control = .stopped ∧ next.queue ≠ [] := by
  have moved := transition_of_step taken
  cases action <;> simp only [EnqueuesBeforeDrain, not_true_eq_false, not_not] at late
  case submitEnqueue | submitRetryEnqueue =>
      simp only [transition, guarded_eq_some] at moved
      obtain ⟨here, rfl⟩ := moved
      exact ⟨late, by simp [State.setSubmit, State.enqueue]⟩

theorem stopped_run_keeps_queue {config : Config} {state last : State} {actions : List Action}
    (consistent : Consistent state) (stopped : state.control = .stopped)
    (waiting : state.queue ≠ []) (completed : run (step config) state actions = some last) :
    last.queue ≠ [] := by
  have kept : Consistent last ∧ last.control = .stopped ∧ last.queue ≠ [] := by
    refine reachable_invariant (fun state =>
      Consistent state ∧ state.control = .stopped ∧ state.queue ≠ []) ?_
      ⟨consistent, stopped, waiting⟩ completed
    rintro state action next ⟨consistent, stopped, waiting⟩ taken
    refine ⟨step_consistent consistent taken, stopped_is_final stopped taken, ?_⟩
    intro empty
    have shorter := stopped_keeps_queue consistent.phase stopped taken
    rw [empty, List.prefix_nil] at shorter
    exact waiting shorter
  exact kept.2.2

/-- A run ends with an empty queue exactly when it enqueued nothing after the drain. -/
theorem drained_iff_no_late_enqueue {config : Config} {state : State} {actions : List Action}
    (completed : run (step config) initial actions = some state)
    (stopped : state.control = .stopped) :
    state.queue = [] ↔ Along (step config) EnqueuesBeforeDrain initial actions := by
  constructor
  · intro empty
    by_contra violated
    obtain ⟨front, action, back, before, after, -, prior, late, taken, rest⟩ :=
      exists_violation completed violated
    have left := late_enqueue_stays late taken
    have consistent := step_consistent (reachable_consistent prior) taken
    exact stopped_run_keeps_queue consistent left.1 left.2 rest empty
  · intro early
    exact run_invariant (fun state => state.control = .stopped → state.queue = [])
      (fun _ _ _ => queue_stays_drained) (by simp [initial]) early completed stopped

theorem filter_eq_singleton {items : List QueueItem} {ticket : Ticket} {line : String}
    {level : LogLevel} (once : ticketCount items ticket = 1)
    (own : ∀ item ∈ items, item.ticket = ticket → item = ⟨ticket, line, level⟩) :
    items.filter (fun item => item.ticket = ticket) = [⟨ticket, line, level⟩] := by
  have single : (items.filter fun item => item.ticket = ticket).length = 1 := by
    rw [← List.countP_eq_length_filter]
    exact once
  obtain ⟨item, only⟩ := List.length_eq_one_iff.mp single
  have member : item ∈ items.filter fun item => item.ticket = ticket := by simp [only]
  rw [List.mem_filter] at member
  rw [only, own item member.1 (by simpa using member.2)]

theorem filter_eq_nil {items : List QueueItem} {ticket : Ticket}
    (none : ticketCount items ticket = 0) :
    items.filter (fun item => item.ticket = ticket) = [] := by
  rw [← List.length_eq_zero_iff, ← List.countP_eq_length_filter]
  exact none

/-- With the worker gone, every accepted line was written exactly when the queue
is empty. -/
theorem exactly_once_iff_drained {state : State} (consistent : Consistent state)
    (stopped : state.control = .stopped) : ExactlyOnce state ↔ state.queue = [] := by
  have exited := consistent.phase.exited (Or.inr stopped)
  have account : ∀ ticket, ticketCount state.queue ticket + ticketCount state.written ticket =
      (state.submits ticket).promised := by
    intro ticket
    have total := consistent.accounted ticket
    simpa [State.copies, exited, WorkerPoint.batch] using total
  constructor
  · intro exact_once
    by_contra waiting
    obtain ⟨item, rest, queued⟩ := List.exists_cons_of_ne_nil waiting
    have held : item ∈ state.held := by simp [mem_held, queued]
    have accepted := consistent.faithful item held
    have seen := (exact_once item.ticket item.line item.level).1 accepted
    have written : ticketCount state.written item.ticket = 1 := by
      simp [ticketCount, List.countP_eq_length_filter, seen]
    have total := account item.ticket
    simp [queued, accepted, written, SubmitPoint.promised] at total
  · intro empty ticket line level
    have total := account ticket
    rw [empty, ticket_count_nil, Nat.zero_add] at total
    constructor
    · intro accepted
      rw [accepted] at total
      apply filter_eq_singleton total
      rintro item member rfl
      have own := consistent.faithful item (mem_held.mpr (Or.inr (Or.inr member)))
      rw [accepted] at own
      cases item
      simp_all
    · intro refused
      rw [refused] at total
      exact filter_eq_nil total

/-- Once `stop` has returned, the writer was called exactly once for each line
accepted so far and never for a refused one if and only if no line entered the
queue after the drain of `stop`. -/
theorem accepted_lines_written_exactly_once (config : Config) (actions : List Action)
    (state : State) (completed : run (step config) initial actions = some state)
    (stopped : state.control = .stopped) :
    ExactlyOnce state ↔ Along (step config) EnqueuesBeforeDrain initial actions :=
  (exactly_once_iff_drained (reachable_consistent completed) stopped).trans
    (drained_iff_no_late_enqueue completed stopped)

def smallConfig : Config := ⟨4, ⟨.kInfo, []⟩⟩

/-- One line is queued while the dispatcher runs and `stop` drains it. -/
def drainedRun : List Action :=
  [.startExchange, .startSpawn, .submit 0 "boot" .kInfo, .submitEnqueue 0 "boot" .kInfo,
    .stopExchange, .workerTest, .stopNotify, .stopJoin, .stopDrain]

theorem drained_line_written_once :
    ∃ state, run (step smallConfig) initial drainedRun = some state ∧ ExactlyOnce state :=
  ⟨_, rfl, (accepted_lines_written_exactly_once smallConfig drainedRun _ rfl rfl).mpr (by decide)⟩

/-- A logger that kept its dispatcher submits after `stop` has returned. -/
def lateRun : List Action :=
  [.startExchange, .startSpawn, .stopExchange, .workerTest, .stopNotify, .stopJoin, .stopDrain,
    .submit 0 "late" .kInfo, .submitEnqueue 0 "late" .kInfo]

/-- Its `submit` returns true and the writer never sees the line. -/
theorem late_line_accepted_but_lost :
    ¬∀ config actions state, run (step config) initial actions = some state →
      state.control = .stopped → Settled state → ExactlyOnce state := by
  intro claimed
  obtain ⟨state, completed, stopped, accepted, others, unwritten⟩ :
      ∃ state, run (step smallConfig) initial lateRun = some state ∧
        state.control = .stopped ∧ state.submits 0 = .returned "late" .kInfo true ∧
        (∀ ticket, ticket ≠ 0 → state.submits ticket = .idle) ∧ state.written = [] := by
    refine ⟨_, rfl, rfl, rfl, ?_, rfl⟩
    intro ticket other
    exact (Function.update_of_ne other _ _).trans (Function.update_of_ne other _ _)
  have settled : Settled state := by
    intro ticket
    by_cases first : ticket = 0
    · exact Or.inr ⟨"late", .kInfo, true, first ▸ accepted⟩
    · exact Or.inl (others ticket first)
  have exactly_once := claimed smallConfig lateRun state completed stopped settled
  have seen := (exactly_once 0 "late" .kInfo).1 accepted
  simp [unwritten] at seen

end TboxFramework.Log.AsyncDispatcher
