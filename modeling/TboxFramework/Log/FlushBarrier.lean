import TboxFramework.Log.DispatcherAccounting

/-!
# When an empty queue is a barrier

`flush` waits for an empty queue, while the worker moves up to 64 lines out of
the queue before it writes them. The two agree exactly when no line that was
accepted before `flush` is in that private batch at the moment the predicate is
tested. `Logger::fatal` inherits this, because it flushes after its own `submit`.
-/

namespace TboxFramework.Log.AsyncDispatcher

open Interleaving

set_option autoImplicit false

def State.hasWritten (state : State) (ticket : Ticket) : Prop :=
  ∃ item ∈ state.written, item.ticket = ticket

/-- What a caller may expect of a `flush` that its predicate has ended, alone
and inside `Logger::fatal`. -/
structure Barrier (state : State) : Prop where
  lines : ∀ call ticket, state.flushes call = .returned true →
    state.acceptedBefore call ticket = true → state.hasWritten ticket
  fatal : ∀ call ticket flush, state.fatals call = .aborted ticket flush →
    state.flushes flush = .returned true →
      ∃ line, state.submits ticket = .returned line .kFatal true ∧
        ⟨ticket, line, .kFatal⟩ ∈ state.written

/-! ## What a step can do to the parts that matter here -/

theorem written_grows {config : Config} {state next : State} {action : Action}
    (taken : transition config state action = some next) : state.written <+: next.written := by
  cases action <;> simp only [transition, guarded_eq_some] at taken <;>
    obtain ⟨here, rfl⟩ := taken
  case stopDrain | submitWrite | workerWrite => exact List.prefix_append _ _
  all_goals exact List.prefix_refl _

theorem has_written_grows {config : Config} {state next : State} {action : Action}
    {ticket : Ticket} (taken : transition config state action = some next)
    (before : state.hasWritten ticket) : next.hasWritten ticket := by
  obtain ⟨item, member, own⟩ := before
  exact ⟨item, (written_grows taken).subset member, own⟩

/-- The program points that a `submit` call of one ticket can go through. -/
inductive SubmitMove (state : State) (ticket : Ticket) : SubmitPoint → Prop
  | same : SubmitMove state ticket (state.submits ticket)
  | enter (line : String) (level : LogLevel) (idle : state.submits ticket = .idle) :
      SubmitMove state ticket (.entered line level)
  | accept (line : String) (level : LogLevel)
      (pending : state.submits ticket = .entered line level ∨
        state.submits ticket = .unlockedToWrite line level ∨
        state.submits ticket = .unlockedToSleep line level) :
      SubmitMove state ticket (.returned line level true)
  | unlock (line : String) (level : LogLevel)
      (entered : state.submits ticket = .entered line level) :
      SubmitMove state ticket (.unlockedToWrite line level)
  | sleep (line : String) (entered : state.submits ticket = .entered line .kWarn) :
      SubmitMove state ticket (.unlockedToSleep line .kWarn)
  | refuse (line : String) (level : LogLevel)
      (pending : state.submits ticket = .entered line level ∧ ¬isHighPriority level ∨
        state.submits ticket = .unlockedToSleep line level) :
      SubmitMove state ticket (.returned line level false)

theorem submit_move_update {state : State} {moved : Ticket} {point : SubmitPoint}
    (move : SubmitMove state moved point) (ticket : Ticket) :
    SubmitMove state ticket (Function.update state.submits moved point ticket) := by
  by_cases same : ticket = moved
  · subst same
    rwa [Function.update_self]
  · rw [Function.update_of_ne same]
    exact .same

theorem submit_cases {config : Config} {state next : State} {action : Action}
    (taken : transition config state action = some next) (ticket : Ticket) :
    SubmitMove state ticket (next.submits ticket) := by
  cases action <;> simp only [transition, guarded_eq_some] at taken <;>
    obtain ⟨here, rfl⟩ := taken
  case submit => exact submit_move_update (.enter _ _ here) ticket
  case submitEnqueue => exact submit_move_update (.accept _ _ (Or.inl here.1)) ticket
  case submitOverflowHigh => exact submit_move_update (.unlock _ _ here.1) ticket
  case submitOverflowWarn moved line level =>
      obtain ⟨entered, full, rfl⟩ := here
      exact submit_move_update (.sleep _ entered) ticket
  case submitOverflowDrop =>
      exact submit_move_update (.refuse _ _ (Or.inl ⟨here.1, here.2.2.1⟩)) ticket
  case submitWrite => exact submit_move_update (.accept _ _ (Or.inr (Or.inl here))) ticket
  case submitRetryEnqueue =>
      exact submit_move_update (.accept _ _ (Or.inr (Or.inr here.1))) ticket
  case submitRetryDrop => exact submit_move_update (.refuse _ _ (Or.inr here.1)) ticket
  case fatalLog => exact submit_move_update (.enter _ _ here.2.1) ticket
  all_goals exact .same

theorem returned_is_final {config : Config} {state next : State} {action : Action}
    {ticket : Ticket} {line : String} {level : LogLevel} {accepted : Bool}
    (taken : transition config state action = some next)
    (done : state.submits ticket = .returned line level accepted) :
    next.submits ticket = .returned line level accepted := by
  have move := submit_cases taken ticket
  generalize next.submits ticket = point at move ⊢
  cases move <;> simp_all

/-- Only warnings sleep, and a line of high priority is never refused. -/
structure PriorityKept (state : State) : Prop where
  sleeping : ∀ ticket line level,
    state.submits ticket = .unlockedToSleep line level → level = .kWarn
  refused : ∀ ticket line level,
    state.submits ticket = .returned line level false → isHighPriority level = false

theorem transition_priority_kept {config : Config} {state next : State} {action : Action}
    (kept : PriorityKept state) (taken : transition config state action = some next) :
    PriorityKept next := by
  constructor
  · intro ticket line level slept
    have move := submit_cases taken ticket
    rw [slept] at move
    generalize point : SubmitPoint.unlockedToSleep line level = moved at move
    cases move with
    | same => exact kept.sleeping ticket line level point.symm
    | sleep => cases point; rfl
    | enter | accept | unlock | refuse => cases point
  · intro ticket line level returned
    have move := submit_cases taken ticket
    rw [returned] at move
    generalize point : SubmitPoint.returned line level false = moved at move
    cases move with
    | same => exact kept.refused ticket line level point.symm
    | refuse _ _ pending =>
        cases point
        rcases pending with ⟨entered, low⟩ | slept
        · simpa using low
        · rw [kept.sleeping ticket line level slept]
          rfl
    | enter | accept | unlock | sleep => cases point

/-- The ways in which a step can treat one `flush` call. -/
inductive FlushMove (state next : State) (action : Action) (call : Nat) : Prop
  | same (point : next.flushes call = state.flushes call)
      (snapshot : next.acceptedBefore call = state.acceptedBefore call)
  | enter (idle : state.flushes call = .idle) (point : next.flushes call = .waiting)
      (snapshot : next.acceptedBefore call = fun ticket => (state.submits ticket).wasAccepted)
  | leave (predicate : Bool) (waiting : state.flushes call = .waiting)
      (point : next.flushes call = .returned predicate)
      (snapshot : next.acceptedBefore call = state.acceptedBefore call)
      (tested : predicate = true → action = .flushPredicate call ∧ state.queue = [])

theorem enter_flush_move {state next : State} (action : Action) {entered : Nat}
    (idle : state.flushes entered = .idle)
    (points : next.flushes = (state.enterFlush entered).flushes)
    (snapshots : next.acceptedBefore = (state.enterFlush entered).acceptedBefore) (call : Nat) :
    FlushMove state next action call := by
  by_cases same : call = entered
  · subst same
    exact .enter idle (points ▸ Function.update_self ..) (snapshots ▸ Function.update_self ..)
  · exact .same (points ▸ Function.update_of_ne same ..) (snapshots ▸ Function.update_of_ne same ..)

theorem flush_cases {config : Config} {state next : State} {action : Action}
    (taken : transition config state action = some next) (call : Nat) :
    FlushMove state next action call := by
  cases action <;> simp only [transition, guarded_eq_some] at taken <;>
    obtain ⟨here, rfl⟩ := taken
  case flush => exact enter_flush_move _ here rfl rfl call
  case fatalFlush => exact enter_flush_move _ here.2.2 (by rfl) (by rfl) call
  case flushPredicate left =>
      by_cases same : call = left
      · subst same
        exact .leave true here.1 (Function.update_self ..) rfl fun _ => ⟨rfl, here.2⟩
      · exact .same (Function.update_of_ne same ..) rfl
  case flushTimeout left =>
      by_cases same : call = left
      · subst same
        exact .leave false here.1 (Function.update_self ..) rfl (by simp)
      · exact .same (Function.update_of_ne same ..) rfl
  all_goals exact .same rfl rfl

/-- The ways in which a step can treat one `Logger::fatal` call. -/
inductive FatalMove (state next : State) (call : Nat) : Prop
  | same (point : next.fatals call = state.fatals call)
  | log (ticket : Ticket) (line : String) (point : next.fatals call = .logging ticket)
      (submitted : next.submits ticket = .entered line .kFatal)
  | flush (ticket : Ticket) (flush : Nat) (line : String) (accepted : Bool)
      (logging : state.fatals call = .logging ticket)
      (submitted : state.submits ticket = .returned line .kFatal accepted)
      (point : next.fatals call = .flushing ticket flush)
      (entered : next.flushes flush = .waiting)
      (snapshot : next.acceptedBefore flush =
        fun ticket => (state.submits ticket).wasAccepted)
  | abort (ticket : Ticket) (flush : Nat)
      (flushing : state.fatals call = .flushing ticket flush)
      (point : next.fatals call = .aborted ticket flush)

theorem fatal_cases {config : Config} {state next : State} {action : Action}
    (taken : transition config state action = some next) (call : Nat) :
    FatalMove state next call := by
  cases action <;> simp only [transition, guarded_eq_some] at taken <;>
    obtain ⟨here, rfl⟩ := taken
  case fatalLog moved ticket line module =>
      by_cases same : call = moved
      · subst same
        exact .log ticket line (Function.update_self ..) (Function.update_self ..)
      · exact .same (Function.update_of_ne same ..)
  case fatalFlush moved ticket line accepted flush =>
      by_cases same : call = moved
      · subst same
        exact .flush ticket flush line accepted here.1 here.2.1 (Function.update_self ..)
          (Function.update_self ..) (Function.update_self ..)
      · exact .same (Function.update_of_ne same ..)
  case fatalAbort moved ticket flush predicate =>
      by_cases same : call = moved
      · subst same
        exact .abort ticket flush here.1 (Function.update_self ..)
      · exact .same (Function.update_of_ne same ..)
  all_goals exact .same rfl

/-! ## The invariant of runs whose predicate tests see no batched line -/

/-- The line that a `fatal` call has handed to `submit`. -/
def FatalSubmitted (state : State) (ticket : Ticket) : Prop :=
  ∃ line, state.submits ticket = .entered line .kFatal ∨
    state.submits ticket = .unlockedToWrite line .kFatal ∨
    state.submits ticket = .returned line .kFatal true

structure FlushInvariant (state : State) : Prop where
  consistent : Consistent state
  priority : PriorityKept state
  snapshot : ∀ call ticket, state.flushes call ≠ .idle →
    state.acceptedBefore call ticket = true → (state.submits ticket).wasAccepted = true
  logging : ∀ call ticket, state.fatals call = .logging ticket → FatalSubmitted state ticket
  flushing : ∀ call ticket flush,
    state.fatals call = .flushing ticket flush ∨ state.fatals call = .aborted ticket flush →
      state.flushes flush ≠ .idle ∧ state.acceptedBefore flush ticket = true ∧
        ∃ line, state.submits ticket = .returned line .kFatal true
  lines : ∀ call ticket, state.flushes call = .returned true →
    state.acceptedBefore call ticket = true → state.hasWritten ticket

theorem initial_flush_invariant : FlushInvariant initial where
  consistent := initial_consistent
  priority := ⟨by simp [initial], by simp [initial]⟩
  snapshot := by simp [initial]
  logging := by simp [initial]
  flushing := by simp [initial]
  lines := by simp [initial]

theorem was_accepted_iff {point : SubmitPoint} :
    point.wasAccepted = true ↔ ∃ line level, point = .returned line level true := by
  cases point <;> simp [SubmitPoint.wasAccepted]

theorem accepted_is_final {config : Config} {state next : State} {action : Action}
    {ticket : Ticket} (taken : transition config state action = some next)
    (accepted : (state.submits ticket).wasAccepted = true) :
    (next.submits ticket).wasAccepted = true := by
  obtain ⟨line, level, returned⟩ := was_accepted_iff.mp accepted
  exact was_accepted_iff.mpr ⟨line, level, returned_is_final taken returned⟩

theorem fatal_submitted_kept {config : Config} {state next : State} {action : Action}
    {ticket : Ticket} (taken : transition config state action = some next)
    (submitted : FatalSubmitted state ticket) : FatalSubmitted next ticket := by
  obtain ⟨line, here⟩ := submitted
  have move := submit_cases taken ticket
  unfold FatalSubmitted
  generalize next.submits ticket = point at move ⊢
  cases move with
  | same => exact ⟨line, here⟩
  | enter _ _ idle => simp [idle] at here
  | accept other level pending =>
      refine ⟨line, Or.inr (Or.inr ?_)⟩
      rcases here with here | here | here <;> rw [here] at pending <;> simp_all
  | unlock other level entered =>
      refine ⟨line, Or.inr (Or.inl ?_)⟩
      rcases here with here | here | here <;> rw [here] at entered <;> simp_all
  | sleep other entered =>
      -- a fatal line is no warning
      rcases here with here | here | here <;> simp [here] at entered
  | refuse other level pending =>
      rcases here with here | here | here <;> rw [here] at pending <;>
        simp [isHighPriority] at pending
      obtain ⟨⟨rfl, rfl⟩, low⟩ := pending
      simp at low

/-- With an empty queue and a batch that holds nothing accepted before the
flush, the account leaves only the writer. -/
theorem predicate_sees_written_lines {state : State} (invariant : FlushInvariant state)
    {call : Nat} (waiting : state.flushes call = .waiting) (empty : state.queue = [])
    (batch : ∀ item ∈ state.worker.batch, state.acceptedBefore call item.ticket = false)
    {ticket : Ticket} (before : state.acceptedBefore call ticket = true) :
    state.hasWritten ticket := by
  have accepted := invariant.snapshot call ticket (by simp [waiting]) before
  obtain ⟨line, level, returned⟩ := was_accepted_iff.mp accepted
  have total := invariant.consistent.accounted ticket
  have unbatched : ticketCount state.worker.batch ticket = 0 := by
    by_contra carried
    obtain ⟨item, member, own⟩ := ticket_count_pos.mp (Nat.pos_of_ne_zero carried)
    have excluded := batch item member
    rw [own, before] at excluded
    cases excluded
  simp only [State.copies, empty, ticket_count_nil, unbatched, returned,
    SubmitPoint.promised, Nat.zero_add] at total
  exact ticket_count_pos.mp (by omega)

theorem step_flush_invariant {config : Config} {state next : State} {action : Action}
    (invariant : FlushInvariant state) (early : BatchAlreadyWritten state action)
    (stepped : step config state action = some next) : FlushInvariant next := by
  have taken := transition_of_step stepped
  refine ⟨step_consistent invariant.consistent stepped,
    transition_priority_kept invariant.priority taken, ?_, ?_, ?_, ?_⟩
  · intro call ticket entered before
    apply accepted_is_final taken
    cases flush_cases taken call with
    | same point snapshot =>
        exact invariant.snapshot call ticket (point ▸ entered) (snapshot ▸ before)
    | enter idle point snapshot => simpa [snapshot] using before
    | leave predicate waiting point snapshot tested =>
        exact invariant.snapshot call ticket (by simp [waiting]) (snapshot ▸ before)
  · intro call ticket logging
    cases fatal_cases taken call with
    | same point =>
        exact fatal_submitted_kept taken (invariant.logging call ticket (point ▸ logging))
    | log moved line point submitted =>
        rw [point] at logging
        cases logging
        exact ⟨line, Or.inl submitted⟩
    | flush moved flush line accepted was submitted point entered snapshot =>
        rw [point] at logging
        cases logging
    | abort moved flush was point =>
        rw [point] at logging
        cases logging
  · intro call ticket flush late
    have kept : state.fatals call = .flushing ticket flush ∨
        state.fatals call = .aborted ticket flush →
        next.flushes flush ≠ .idle ∧ next.acceptedBefore flush ticket = true ∧
          ∃ line, next.submits ticket = .returned line .kFatal true := by
      intro was
      obtain ⟨entered, before, line, returned⟩ := invariant.flushing call ticket flush was
      refine ⟨?_, ?_, line, returned_is_final taken returned⟩
      · cases flush_cases taken flush with
        | same point snapshot => rwa [point]
        | enter idle point snapshot => simp [point]
        | leave predicate waiting point snapshot tested => simp [point]
      · cases flush_cases taken flush with
        | same point snapshot => rwa [snapshot]
        | enter idle point snapshot => exact absurd idle entered
        | leave predicate waiting point snapshot tested => rwa [snapshot]
    cases fatal_cases taken call with
    | same point => exact kept (by rwa [← point])
    | log moved line point submitted => simp [point] at late
    | flush moved entered line accepted was submitted point waiting snapshot =>
        simp only [point, FatalPoint.flushing.injEq, reduceCtorEq, or_false] at late
        obtain ⟨rfl, rfl⟩ := late
        -- `submit` accepts every fatal line
        have high : accepted = true := by
          cases accepted with
          | true => rfl
          | false =>
              have refused := invariant.priority.refused _ _ _ submitted
              simp [isHighPriority] at refused
        subst high
        refine ⟨by simp [waiting], ?_, line, returned_is_final taken submitted⟩
        simp [snapshot, submitted, SubmitPoint.wasAccepted]
    | abort moved flush' was point =>
        simp only [point, FatalPoint.aborted.injEq, reduceCtorEq, false_or] at late
        obtain ⟨rfl, rfl⟩ := late
        exact kept (Or.inl was)
  · intro call ticket returned before
    cases flush_cases taken call with
    | same point snapshot =>
        exact has_written_grows taken
          (invariant.lines call ticket (point ▸ returned) (snapshot ▸ before))
    | enter idle point snapshot => simp [point] at returned
    | leave predicate waiting point snapshot tested =>
        rw [point, FlushPoint.returned.injEq] at returned
        obtain ⟨rfl, empty⟩ := tested returned
        rw [snapshot] at before
        exact has_written_grows taken
          (predicate_sees_written_lines invariant waiting empty early before)

theorem barrier_of_invariant {state : State} (invariant : FlushInvariant state) :
    Barrier state where
  lines := invariant.lines
  fatal := by
    intro call ticket flush aborted returned
    obtain ⟨-, before, line, accepted⟩ := invariant.flushing call ticket flush (Or.inr aborted)
    obtain ⟨item, member, own⟩ := invariant.lines flush ticket returned before
    have faithful := invariant.consistent.faithful item
      (mem_held.mpr (Or.inr (Or.inr member)))
    rw [own, accepted] at faithful
    refine ⟨line, accepted, ?_⟩
    cases item
    simp_all

/-- A predicate test that ignores a batched line of its own snapshot breaks the
barrier at once, because that line has no second copy with the writer. -/
theorem ignored_batch_breaks_barrier {config : Config} {state next : State} {action : Action}
    (invariant : FlushInvariant state) (late : ¬BatchAlreadyWritten state action)
    (stepped : step config state action = some next) : ¬Barrier next := by
  have taken := transition_of_step stepped
  cases action <;> simp only [BatchAlreadyWritten, not_true_eq_false] at late
  case flushPredicate call =>
      simp only [transition, guarded_eq_some] at taken
      obtain ⟨⟨waiting, empty⟩, rfl⟩ := taken
      push Not at late
      obtain ⟨item, batched, before⟩ := late
      rw [ne_eq, Bool.not_eq_false] at before
      intro barrier
      obtain ⟨copy, written, own⟩ := barrier.lines call item.ticket
        (Function.update_self ..) before
      have total := invariant.consistent.accounted item.ticket
      have first : 0 < ticketCount state.worker.batch item.ticket :=
        ticket_count_pos.mpr ⟨item, batched, rfl⟩
      have second : 0 < ticketCount state.written item.ticket :=
        ticket_count_pos.mpr ⟨copy, written, own⟩
      have promise : (state.submits item.ticket).promised ≤ 1 := by
        unfold SubmitPoint.promised
        split <;> omega
      simp only [State.copies] at total
      omega

/-- `flush` is a barrier in every state of a run, for itself and for the line
that `Logger::fatal` logs before it aborts, if and only if each predicate test
that ends a flush finds no line in the batch of the worker that was accepted
before that flush. -/
theorem flush_is_barrier (config : Config) (actions : List Action) (last : State)
    (completed : run (step config) initial actions = some last) :
    Always (step config) Barrier initial actions ↔
      Along (step config) BatchAlreadyWritten initial actions :=
  always_iff_along (fun _ _ _ => step_flush_invariant) (fun _ => barrier_of_invariant)
    (fun _ _ _ => ignored_batch_breaks_barrier) initial_flush_invariant completed

def barrierConfig : Config := ⟨4, ⟨.kInfo, []⟩⟩

/-- The worker writes the line before the predicate is tested. -/
def writtenFirst : List Action :=
  [.startExchange, .startSpawn, .workerTest, .submit 0 "boot" .kInfo,
    .submitEnqueue 0 "boot" .kInfo, .flush 0, .workerCollect,
    .workerWrite ⟨0, "boot", .kInfo⟩ [], .flushPredicate 0]

theorem flush_waits_for_written_line :
    ∃ last, run (step barrierConfig) initial writtenFirst = some last ∧
      Always (step barrierConfig) Barrier initial writtenFirst :=
  ⟨_, rfl, (flush_is_barrier barrierConfig writtenFirst _ rfl).mpr (by decide)⟩

/-- The worker has taken the fatal line out of the queue and not yet written it
when `Logger::fatal` flushes, sees an empty queue and aborts. -/
def fatalLost : List Action :=
  [.startExchange, .startSpawn, .workerTest, .fatalLog 0 0 "panic" "main",
    .submitEnqueue 0 "panic" .kFatal, .workerCollect, .fatalFlush 0 0 "panic" true 0,
    .flushPredicate 0, .fatalAbort 0 0 0 true]

theorem fatal_line_lost_in_batch :
    ¬∀ config actions last, run (step config) initial actions = some last →
      last.control = .started → Barrier last := by
  intro claimed
  obtain ⟨last, completed, started, aborted, returned, unwritten⟩ :
      ∃ last, run (step barrierConfig) initial fatalLost = some last ∧
        last.control = .started ∧ last.fatals 0 = .aborted 0 0 ∧
        last.flushes 0 = .returned true ∧ last.written = [] :=
    ⟨_, rfl, rfl, rfl, rfl, rfl⟩
  obtain ⟨line, accepted, written⟩ :=
    (claimed barrierConfig fatalLost last completed started).fatal 0 0 0 aborted returned
  simp [unwritten] at written

end TboxFramework.Log.AsyncDispatcher
