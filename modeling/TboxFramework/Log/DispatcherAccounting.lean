import TboxFramework.Log.AsyncDispatcher
import Mathlib.Data.List.Count
import Mathlib.Tactic.SplitIfs

/-!
# Where an accepted line is

Every ticket has as many copies in the queue, in the private batch of the worker
and among the calls of the writer, taken together, as its `submit` has promised:
one after it returned true, none before that and none after it returned false.
-/

namespace TboxFramework.Log.AsyncDispatcher

open Interleaving

set_option autoImplicit false

def ticketCount (items : List QueueItem) (ticket : Ticket) : Nat :=
  items.countP fun item => item.ticket = ticket

def State.copies (state : State) (ticket : Ticket) : Nat :=
  ticketCount state.queue ticket + ticketCount state.worker.batch ticket +
    ticketCount state.written ticket

def SubmitPoint.promised : SubmitPoint → Nat
  | .returned _ _ true => 1
  | _ => 0

def Accounted (state : State) : Prop :=
  ∀ ticket, state.copies ticket = (state.submits ticket).promised

@[simp] theorem ticket_count_nil (ticket : Ticket) : ticketCount [] ticket = 0 := rfl

@[simp] theorem ticket_count_append (front back : List QueueItem) (ticket : Ticket) :
    ticketCount (front ++ back) ticket = ticketCount front ticket + ticketCount back ticket := by
  simp [ticketCount]

@[simp] theorem ticket_count_cons (item : QueueItem) (items : List QueueItem) (ticket : Ticket) :
    ticketCount (item :: items) ticket =
      ticketCount items ticket + if item.ticket = ticket then 1 else 0 := by
  simp [ticketCount, List.countP_cons]

theorem ticket_count_split (items : List QueueItem) (count : Nat) (ticket : Ticket) :
    ticketCount (items.take count) ticket + ticketCount (items.drop count) ticket =
      ticketCount items ticket := by
  rw [← ticket_count_append, List.take_append_drop]

theorem ticket_count_pos {items : List QueueItem} {ticket : Ticket} :
    0 < ticketCount items ticket ↔ ∃ item ∈ items, item.ticket = ticket := by
  simp [ticketCount, List.countP_pos_iff]

/-- A step that moves no line and whose `submit` calls promise what they
promised before keeps the account. -/
theorem accounted_of_same {state next : State} (accounted : Accounted state)
    (copies : ∀ ticket, next.copies ticket = state.copies ticket)
    (promised : ∀ ticket, (next.submits ticket).promised = (state.submits ticket).promised) :
    Accounted next := by
  intro ticket
  rw [copies, promised, accounted]

/-- One more copy of a line whose `submit` has promised none yet, together with
the promise, keeps the account. -/
theorem accounted_of_accept {state next : State} (accounted : Accounted state)
    (ticket : Ticket) (line : String) (level : LogLevel)
    (unpromised : (state.submits ticket).promised = 0)
    (copies : ∀ other, next.copies other =
      state.copies other + if ticket = other then 1 else 0)
    (submits : next.submits = Function.update state.submits ticket (.returned line level true)) :
    Accounted next := by
  intro other
  rw [copies, submits, accounted]
  by_cases same : other = ticket
  · subst other
    rw [unpromised, Function.update_self]
    simp [SubmitPoint.promised]
  · simp [Function.update_of_ne same, Ne.symm same]

theorem promised_update {state : State} {ticket : Ticket} {point : SubmitPoint}
    (same : point.promised = (state.submits ticket).promised) (other : Ticket) :
    (Function.update state.submits ticket point other).promised =
      (state.submits other).promised := by
  by_cases equal : other = ticket
  · subst other
    simpa using same
  · rw [Function.update_of_ne equal]

/-- The worker exists exactly between `start` and the join of `stop`. -/
structure WorkerPhase (state : State) : Prop where
  absent : state.control = .fresh ∨ state.control = .spawning → state.worker = .absent
  exited : state.control = .draining ∨ state.control = .stopped → state.worker = .exited

theorem transition_worker_phase {config : Config} {state next : State} {action : Action}
    (phase : WorkerPhase state) (taken : transition config state action = some next) :
    WorkerPhase next := by
  obtain ⟨absent, exited⟩ := phase
  cases action <;> simp only [transition, guarded_eq_some] at taken
  case workerTest | workerCollect | workerWrite | workerNotify =>
      obtain ⟨here, rfl⟩ := taken
      constructor
      · intro early
        simp [absent early] at here
      · intro late
        simp [exited late] at here
  case startExchange | startSpawn | stopExchange | stopNotify | stopDrain =>
      obtain ⟨here, rfl⟩ := taken
      constructor <;> simp_all
  case stopJoin =>
      obtain ⟨⟨joining, done⟩, rfl⟩ := taken
      constructor <;> simp_all
  all_goals
    obtain ⟨_, rfl⟩ := taken
    exact ⟨absent, exited⟩

theorem transition_accounted {config : Config} {state next : State} {action : Action}
    (accounted : Accounted state) (phase : WorkerPhase state)
    (taken : transition config state action = some next) : Accounted next := by
  cases action <;> simp only [transition, guarded_eq_some] at taken
  case submit ticket line level =>
      obtain ⟨idle, rfl⟩ := taken
      exact accounted_of_same accounted (fun _ => rfl)
        (promised_update (by simp [idle, SubmitPoint.promised]))
  case submitEnqueue ticket line level =>
      obtain ⟨⟨entered, room⟩, rfl⟩ := taken
      refine accounted_of_accept accounted ticket line level
        (by simp [entered, SubmitPoint.promised]) ?_ rfl
      intro other
      simp [State.copies, State.setSubmit, State.enqueue]
      omega
  case submitRetryEnqueue ticket line level =>
      obtain ⟨⟨slept, room⟩, rfl⟩ := taken
      refine accounted_of_accept accounted ticket line level
        (by simp [slept, SubmitPoint.promised]) ?_ rfl
      intro other
      simp [State.copies, State.setSubmit, State.enqueue]
      omega
  case submitWrite ticket line level =>
      obtain ⟨unlocked, rfl⟩ := taken
      refine accounted_of_accept accounted ticket line level
        (by simp [unlocked, SubmitPoint.promised]) ?_ rfl
      intro other
      simp [State.copies, State.setSubmit, State.write]
      omega
  case submitOverflowHigh ticket line level =>
      obtain ⟨⟨entered, full, high⟩, rfl⟩ := taken
      exact accounted_of_same accounted (fun _ => rfl)
        (promised_update (by simp [entered, SubmitPoint.promised]))
  case submitOverflowWarn ticket line level =>
      obtain ⟨⟨entered, full, warn⟩, rfl⟩ := taken
      exact accounted_of_same accounted (fun _ => rfl)
        (promised_update (by simp [entered, SubmitPoint.promised]))
  case submitOverflowDrop ticket line level =>
      obtain ⟨⟨entered, full, low⟩, rfl⟩ := taken
      exact accounted_of_same accounted (fun _ => rfl)
        (promised_update (by simp [entered, SubmitPoint.promised]))
  case submitRetryDrop ticket line level =>
      obtain ⟨⟨slept, full⟩, rfl⟩ := taken
      exact accounted_of_same accounted (fun _ => rfl)
        (promised_update (by simp [slept, SubmitPoint.promised]))
  case startSpawn =>
      obtain ⟨spawning, rfl⟩ := taken
      have absent := phase.absent (Or.inr spawning)
      refine accounted_of_same accounted ?_ (fun _ => rfl)
      intro ticket
      simp [State.copies, absent, WorkerPoint.batch]
  case stopDrain =>
      obtain ⟨draining, rfl⟩ := taken
      refine accounted_of_same accounted ?_ (fun _ => rfl)
      intro ticket
      simp [State.copies]
      omega
  case workerTest =>
      obtain ⟨testing, rfl⟩ := taken
      refine accounted_of_same accounted ?_ (fun _ => rfl)
      intro ticket
      cases running : state.running <;> simp [State.copies, testing, WorkerPoint.batch]
  case workerCollect =>
      obtain ⟨waiting, rfl⟩ := taken
      refine accounted_of_same accounted ?_ (fun _ => rfl)
      intro ticket
      have split := ticket_count_split state.queue batchLimit ticket
      simp [State.copies, waiting, WorkerPoint.batch]
      omega
  case workerWrite item batch =>
      obtain ⟨writing, rfl⟩ := taken
      refine accounted_of_same accounted ?_ (fun _ => rfl)
      intro ticket
      simp [State.copies, State.write, writing, WorkerPoint.batch]
      omega
  case workerNotify =>
      obtain ⟨done, rfl⟩ := taken
      refine accounted_of_same accounted ?_ (fun _ => rfl)
      intro ticket
      simp [State.copies, done, WorkerPoint.batch]
  case fatalLog call ticket line module =>
      obtain ⟨⟨fresh, idle, passes⟩, rfl⟩ := taken
      exact accounted_of_same accounted (fun _ => rfl)
        (promised_update (by simp [idle, SubmitPoint.promised]))
  all_goals
    obtain ⟨_, rfl⟩ := taken
    exact accounted_of_same accounted (fun _ => rfl) (fun _ => rfl)

/-- The three places that hold lines which a `submit` has accepted. -/
def State.held (state : State) : List QueueItem :=
  state.queue ++ state.worker.batch ++ state.written

theorem mem_held {state : State} {item : QueueItem} :
    item ∈ state.held ↔
      item ∈ state.queue ∨ item ∈ state.worker.batch ∨ item ∈ state.written := by
  simp [State.held]

/-- A line is held exactly as its `submit` received it. -/
def Faithful (state : State) : Prop :=
  ∀ item ∈ state.held, state.submits item.ticket = .returned item.line item.level true

theorem faithful_of_same {state next : State} (faithful : Faithful state)
    (held : ∀ item ∈ next.held, item ∈ state.held) (submits : next.submits = state.submits) :
    Faithful next := by
  intro item member
  rw [submits]
  exact faithful item (held item member)

theorem faithful_of_move {state next : State} (faithful : Faithful state)
    (ticket : Ticket) (point : SubmitPoint)
    (unreturned : ∀ line level, state.submits ticket ≠ .returned line level true)
    (held : ∀ item ∈ next.held, item ∈ state.held ∨
      item.ticket = ticket ∧ point = .returned item.line item.level true)
    (submits : next.submits = Function.update state.submits ticket point) :
    Faithful next := by
  intro item member
  rw [submits]
  rcases held item member with old | ⟨rfl, accepted⟩
  · have other : item.ticket ≠ ticket := by
      rintro rfl
      exact unreturned _ _ (faithful item old)
    rw [Function.update_of_ne other]
    exact faithful item old
  · rw [Function.update_self, accepted]

/-- What an accepting step adds to the held lines is the line of its own ticket. -/
theorem held_after_accept {state next : State} {ticket : Ticket} {line : String}
    {level : LogLevel} {item : QueueItem}
    (added : item ∈ next.held → item ∈ state.held ∨ item = ⟨ticket, line, level⟩)
    (member : item ∈ next.held) :
    item ∈ state.held ∨ item.ticket = ticket ∧
      SubmitPoint.returned line level true = .returned item.line item.level true := by
  rcases added member with old | rfl
  · exact Or.inl old
  · exact Or.inr ⟨rfl, rfl⟩

theorem transition_faithful {config : Config} {state next : State} {action : Action}
    (faithful : Faithful state) (phase : WorkerPhase state)
    (taken : transition config state action = some next) : Faithful next := by
  cases action <;> simp only [transition, guarded_eq_some] at taken
  case submit ticket line level =>
      obtain ⟨idle, rfl⟩ := taken
      exact faithful_of_move faithful ticket _ (by simp [idle]) (fun _ => Or.inl) rfl
  case submitEnqueue ticket line level =>
      obtain ⟨⟨entered, room⟩, rfl⟩ := taken
      refine faithful_of_move faithful ticket _ (by simp [entered]) ?_ rfl
      intro item
      apply held_after_accept
      simp only [mem_held, State.setSubmit, State.enqueue, List.mem_append, List.mem_singleton]
      tauto
  case submitRetryEnqueue ticket line level =>
      obtain ⟨⟨slept, room⟩, rfl⟩ := taken
      refine faithful_of_move faithful ticket _ (by simp [slept]) ?_ rfl
      intro item
      apply held_after_accept
      simp only [mem_held, State.setSubmit, State.enqueue, List.mem_append, List.mem_singleton]
      tauto
  case submitWrite ticket line level =>
      obtain ⟨unlocked, rfl⟩ := taken
      refine faithful_of_move faithful ticket _ (by simp [unlocked]) ?_ rfl
      intro item
      apply held_after_accept
      simp only [mem_held, State.setSubmit, State.write, List.mem_append, List.mem_singleton]
      tauto
  case submitOverflowHigh ticket line level =>
      obtain ⟨⟨entered, full, high⟩, rfl⟩ := taken
      exact faithful_of_move faithful ticket _ (by simp [entered]) (fun _ => Or.inl) rfl
  case submitOverflowWarn ticket line level =>
      obtain ⟨⟨entered, full, warn⟩, rfl⟩ := taken
      exact faithful_of_move faithful ticket _ (by simp [entered]) (fun _ => Or.inl) rfl
  case submitOverflowDrop ticket line level =>
      obtain ⟨⟨entered, full, low⟩, rfl⟩ := taken
      exact faithful_of_move faithful ticket _ (by simp [entered]) (fun _ => Or.inl) rfl
  case submitRetryDrop ticket line level =>
      obtain ⟨⟨slept, full⟩, rfl⟩ := taken
      exact faithful_of_move faithful ticket _ (by simp [slept]) (fun _ => Or.inl) rfl
  case startSpawn =>
      obtain ⟨spawning, rfl⟩ := taken
      have absent := phase.absent (Or.inr spawning)
      refine faithful_of_same faithful ?_ rfl
      intro item
      simp [mem_held, absent, WorkerPoint.batch]
  case stopDrain =>
      obtain ⟨draining, rfl⟩ := taken
      refine faithful_of_same faithful ?_ rfl
      intro item
      simp only [mem_held, List.mem_append, List.not_mem_nil, false_or]
      tauto
  case workerTest =>
      obtain ⟨testing, rfl⟩ := taken
      refine faithful_of_same faithful ?_ rfl
      intro item
      cases running : state.running <;> simp [mem_held, testing, WorkerPoint.batch]
  case workerCollect =>
      obtain ⟨waiting, rfl⟩ := taken
      refine faithful_of_same faithful ?_ rfl
      intro item
      rw [mem_held, mem_held]
      rintro (kept | collected | done)
      · exact Or.inl (List.mem_of_mem_drop kept)
      · exact Or.inl (List.mem_of_mem_take collected)
      · exact Or.inr (Or.inr done)
  case workerWrite item batch =>
      obtain ⟨writing, rfl⟩ := taken
      refine faithful_of_same faithful ?_ rfl
      intro other
      simp only [mem_held, State.write, writing, WorkerPoint.batch, List.mem_append,
        List.mem_cons, List.not_mem_nil, or_false]
      tauto
  case workerNotify =>
      obtain ⟨done, rfl⟩ := taken
      refine faithful_of_same faithful ?_ rfl
      intro item
      simp [mem_held, done, WorkerPoint.batch]
  case fatalLog call ticket line module =>
      obtain ⟨⟨fresh, idle, passes⟩, rfl⟩ := taken
      exact faithful_of_move faithful ticket _ (by simp [idle]) (fun _ => Or.inl) rfl
  all_goals
    obtain ⟨_, rfl⟩ := taken
    exact faithful_of_same faithful (fun _ => id) rfl

structure Consistent (state : State) : Prop where
  accounted : Accounted state
  faithful : Faithful state
  phase : WorkerPhase state

theorem initial_consistent : Consistent initial where
  accounted := fun _ => rfl
  faithful := by simp [Faithful, mem_held, initial, WorkerPoint.batch]
  phase := ⟨fun _ => rfl, by simp [initial]⟩

theorem step_consistent {config : Config} {state next : State} {action : Action}
    (consistent : Consistent state) (taken : step config state action = some next) :
    Consistent next :=
  have moved := transition_of_step taken
  ⟨transition_accounted consistent.accounted consistent.phase moved,
    transition_faithful consistent.faithful consistent.phase moved,
    transition_worker_phase consistent.phase moved⟩

theorem reachable_consistent {config : Config} {state : State} {actions : List Action}
    (completed : run (step config) initial actions = some state) : Consistent state :=
  reachable_invariant Consistent (fun _ _ _ => step_consistent) initial_consistent completed

end TboxFramework.Log.AsyncDispatcher
