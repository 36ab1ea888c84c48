import TboxFramework.Log.LineAccounting

/-!
# The order of the lines

A line that was accepted before `submit` was called for another one is written before
it, unless the other one found the queue full and has a level that goes around the
queue. Even such a line passes no more lines than the queue and one batch hold.
-/

namespace TboxFramework.Log.AsyncDispatcher

open Interleaving

set_option autoImplicit false

/-- The line whose `submit` begins with this action. -/
def Action.begins : Action → Option QueueItem
  | .submit ticket line level => some ⟨ticket, line, level⟩
  | .fatalLog _ ticket line _ => some ⟨ticket, line, .kFatal⟩
  | _ => none

def DrainAction.begins : DrainAction → Option QueueItem
  | .other action => action.begins
  | _ => none

/-- The first line had been accepted when `submit` was called for the second one. -/
def AcceptedBefore (config : Config) (actions : List DrainAction) (earlier later : QueueItem) :
    Prop :=
  ∃ front action back state, actions = front ++ action :: back ∧ action.begins = some later ∧
    run (drainStep config) drainInitial front = some state ∧
    state.dispatcher.submits earlier.ticket = .returned earlier.line earlier.level true

/-- The line found the queue full and went around it. -/
def Bypassed (actions : List DrainAction) (item : QueueItem) : Prop :=
  .other (.submitOverflowHigh item.ticket item.line item.level) ∈ actions

/-- The lines that had been accepted before this one and are not written before it. -/
def passedBy (config : Config) (actions : List DrainAction) (written : List QueueItem)
    (later : QueueItem) : Set QueueItem :=
  {earlier | AcceptedBefore config actions earlier later ∧
    ¬ [earlier, later].Sublist written}

structure InCallOrder (config : Config) (actions : List DrainAction) (written : List QueueItem)
    (later : QueueItem) : Prop where
  kept : ¬ Bypassed actions later → passedBy config actions written later = ∅
  high : Bypassed actions later → isHighPriority later.level = true
  few : (passedBy config actions written later).encard ≤ (config.queueSize + batchLimit : Nat)

/-! ## What a step does to the written lines -/

inductive WriteMove (state next : State) : Prop
  | still (written : next.written = state.written)
  | queued (item : QueueItem) (written : next.written = state.written ++ [item])
      (source : item ∈ state.queue ∨ item ∈ state.worker.batch)
  | direct (item : QueueItem) (written : next.written = state.written ++ [item])
      (source : state.submits item.ticket = .unlockedToWrite item.line item.level)

theorem transition_write_move {config : Config} {state next : State} {action : Action}
    (other : action ≠ .stopDrain) (taken : transition config state action = some next) :
    WriteMove state next := by
  cases action <;> simp only [transition, guarded_eq_some] at taken
  case stopDrain => exact absurd rfl other
  case submitWrite ticket line level =>
      obtain ⟨unlocked, rfl⟩ := taken
      exact .direct ⟨ticket, line, level⟩ rfl unlocked
  case workerWrite item batch =>
      obtain ⟨writing, rfl⟩ := taken
      apply WriteMove.queued item rfl
      rw [writing]
      exact .inr (List.mem_cons_self ..)
  all_goals
    obtain ⟨_, rfl⟩ := taken
    exact .still rfl

theorem drain_write_move {config : Config} {state next : DrainState} {action : DrainAction}
    (taken : drainStep config state action = some next) :
    WriteMove state.dispatcher next.dispatcher := by
  cases action with
  | other action =>
      have moved := drain_step_other taken
      exact transition_write_move moved.1 (transition_of_step moved.2.1)
  | drainLock =>
      obtain ⟨_, rfl⟩ := (guarded_eq_some ..).mp taken
      exact .still rfl
  | drainWrite item queue =>
      obtain ⟨⟨_, front, _⟩, rfl⟩ := (guarded_eq_some ..).mp taken
      apply WriteMove.queued item rfl
      rw [front]
      exact .inl (List.mem_cons_self ..)
  | drainUnlock =>
      obtain ⟨_, rfl⟩ := (guarded_eq_some ..).mp taken
      exact .still rfl

theorem WriteMove.written_grows {state next : State} (move : WriteMove state next) :
    state.written <+: next.written := by
  cases move with
  | still written => rw [written]
  | queued item written source | direct item written source =>
      rw [written]
      exact List.prefix_append _ _

/-- What a `submit` has answered stays its answer. -/
theorem drain_returned_is_final {config : Config} {state next : DrainState} {action : DrainAction}
    {item : QueueItem} (taken : drainStep config state action = some next)
    (accepted : state.dispatcher.submits item.ticket = .returned item.line item.level true) :
    next.dispatcher.submits item.ticket = .returned item.line item.level true := by
  cases action with
  | other action =>
      have moved := drain_step_other taken
      exact returned_is_final (transition_of_step moved.2.1) accepted
  | drainLock | drainWrite | drainUnlock =>
      obtain ⟨_, rfl⟩ := (guarded_eq_some ..).mp taken
      exact accepted

theorem run_written_grows {config : Config} {state last : DrainState}
    {actions : List DrainAction} (completed : run (drainStep config) state actions = some last) :
    state.dispatcher.written <+: last.dispatcher.written := by
  apply reachable_invariant
    (fun middle => state.dispatcher.written <+: middle.dispatcher.written) _
    (List.prefix_refl _) completed
  intro middle action next grown taken
  exact grown.trans (drain_write_move taken).written_grows

theorem run_returned_is_final {config : Config} {state last : DrainState}
    {actions : List DrainAction} {item : QueueItem}
    (completed : run (drainStep config) state actions = some last)
    (accepted : state.dispatcher.submits item.ticket = .returned item.line item.level true) :
    last.dispatcher.submits item.ticket = .returned item.line item.level true := by
  apply reachable_invariant
    (fun middle : DrainState =>
      middle.dispatcher.submits item.ticket = .returned item.line item.level true) _
    accepted completed
  intro middle action next holds taken
  exact drain_returned_is_final taken holds

/-! ## How a line came where it is -/

structure Routed (past : List DrainAction) (state : State) : Prop where
  unlocked : ∀ item : QueueItem,
    state.submits item.ticket = .unlockedToWrite item.line item.level → Bypassed past item
  written : ∀ item ∈ state.written, item ∈ enqueued past ∨ Bypassed past item
  batch : state.worker.batch.length ≤ batchLimit

theorem unlocked_cases {config : Config} {state next : State} {action : Action} {item : QueueItem}
    (taken : transition config state action = some next)
    (unlocked : next.submits item.ticket = .unlockedToWrite item.line item.level) :
    state.submits item.ticket = .unlockedToWrite item.line item.level ∨
      action = .submitOverflowHigh item.ticket item.line item.level := by
  cases action <;> simp only [transition, guarded_eq_some] at taken <;>
    obtain ⟨here, rfl⟩ := taken
  case submit ticket _ _ | submitEnqueue ticket _ _ | submitOverflowHigh ticket _ _ |
      submitOverflowWarn ticket _ _ | submitOverflowDrop ticket _ _ | submitWrite ticket _ _ |
      submitRetryEnqueue ticket _ _ | submitRetryDrop ticket _ _ | fatalLog _ ticket _ _ =>
      by_cases same : item.ticket = ticket
      · simp_all [State.setSubmit, State.enqueue, State.write, State.setFatal]
      · left
        simpa [State.setSubmit, State.enqueue, State.write, State.setFatal, same] using unlocked
  all_goals exact .inl unlocked

theorem batch_bounded {config : Config} {state next : State} {action : Action}
    (bounded : state.worker.batch.length ≤ batchLimit)
    (taken : transition config state action = some next) :
    next.worker.batch.length ≤ batchLimit := by
  cases action <;> simp only [transition, guarded_eq_some] at taken <;>
    obtain ⟨here, rfl⟩ := taken
  case startSpawn => exact Nat.zero_le _
  case workerTest =>
      cases running : state.running <;> exact Nat.zero_le _
  case workerCollect => exact List.length_take_le _ _
  case workerWrite item batch =>
      rw [here] at bounded
      exact Nat.le_of_succ_le bounded
  case workerNotify => exact Nat.zero_le _
  all_goals exact bounded

theorem Bypassed.extended {past : List DrainAction} {item : QueueItem}
    (bypassed : Bypassed past item) (more : List DrainAction) : Bypassed (past ++ more) item :=
  List.mem_append_left more bypassed

theorem enqueued_append (front back : List DrainAction) :
    enqueued (front ++ back) = enqueued front ++ enqueued back :=
  List.flatMap_append

theorem InOrder.sources_queued {lines : List QueueItem} {state : State}
    (ordered : InOrder lines state) {item : QueueItem}
    (source : item ∈ state.queue ∨ item ∈ state.worker.batch) : item ∈ lines := by
  rw [← ordered]
  simp only [List.mem_append]
  cases source with
  | inl queued => exact .inr queued
  | inr batched => exact .inl (.inr batched)

theorem drain_step_routed {config : Config} {past : List DrainAction} {state next : DrainState}
    {action : DrainAction} (routed : Routed past state.dispatcher)
    (ordered : InOrder (enqueued past) state.dispatcher)
    (taken : drainStep config state action = some next) :
    Routed (past ++ [action]) next.dispatcher := by
  constructor
  · intro item unlocked
    cases action with
    | other action =>
        have moved := drain_step_other taken
        cases unlocked_cases (transition_of_step moved.2.1) unlocked with
        | inl before => exact (routed.unlocked item before).extended _
        | inr now =>
            unfold Bypassed
            simp [now]
    | drainLock | drainWrite | drainUnlock =>
        obtain ⟨_, rfl⟩ := (guarded_eq_some ..).mp taken
        exact (routed.unlocked item unlocked).extended _
  · have older : ∀ item ∈ state.dispatcher.written,
        item ∈ enqueued (past ++ [action]) ∨ Bypassed (past ++ [action]) item := by
      intro item member
      rw [enqueued_append, List.mem_append]
      cases routed.written item member with
      | inl queued => exact .inl (.inl queued)
      | inr bypassed => exact .inr (bypassed.extended _)
    intro item member
    cases drain_write_move taken with
    | still written =>
        rw [written] at member
        exact older item member
    | queued added written source =>
        rw [written, List.mem_append, List.mem_singleton] at member
        cases member with
        | inl old => exact older item old
        | inr new =>
            rw [new, enqueued_append, List.mem_append]
            exact .inl (.inl (ordered.sources_queued source))
    | direct added written source =>
        rw [written, List.mem_append, List.mem_singleton] at member
        cases member with
        | inl old => exact older item old
        | inr new =>
            rw [new]
            exact .inr ((routed.unlocked added source).extended _)
  · cases action with
    | other action =>
        have moved := drain_step_other taken
        exact batch_bounded routed.batch (transition_of_step moved.2.1)
    | drainLock | drainWrite | drainUnlock =>
        obtain ⟨_, rfl⟩ := (guarded_eq_some ..).mp taken
        exact routed.batch

theorem initial_routed : Routed [] initial where
  unlocked := by simp [initial]
  written := by simp [initial]
  batch := Nat.zero_le _

theorem reachable_routed {config : Config} {actions : List DrainAction} {state : DrainState}
    (completed : run (drainStep config) drainInitial actions = some state) :
    Routed actions state.dispatcher := by
  have both : DrainTallied config (enqueued actions) state ∧ Routed actions state.dispatcher := by
    apply traced_invariant
      (fun past state => DrainTallied config (enqueued past) state ∧ Routed past state.dispatcher)
      _ ⟨reachable_tallied rfl, initial_routed⟩
      (along_of_forall (fun _ _ => trivial) drainInitial) completed
    intro past state action next holds _ taken
    constructor
    · rw [enqueued, List.flatMap_append, List.flatMap_singleton]
      exact drain_step_tallied holds.1 taken
    · exact drain_step_routed holds.2 holds.1.tallied.ordered taken
  exact both.2

/-! ## Held lines -/

theorem Consistent.held_of_accepted {state : State} (consistent : Consistent state)
    {item : QueueItem}
    (accepted : state.submits item.ticket = .returned item.line item.level true) :
    item ∈ state.held := by
  have total := consistent.accounted item.ticket
  rw [accepted, State.copies, ← ticket_count_append, ← ticket_count_append] at total
  have positive : 0 < ticketCount state.held item.ticket := by
    rw [State.held, total]
    exact Nat.one_pos
  obtain ⟨other, member, same⟩ := ticket_count_pos.mp positive
  have own := own_of_past consistent.faithful (.inr ⟨true, accepted⟩) other member same
  exact own ▸ member

/-- Before its `submit` begins, a line is nowhere. -/
theorem unheld_of_begins {config : Config} {state next : DrainState} {action : DrainAction}
    {item : QueueItem} (faithful : Faithful state.dispatcher) (begins : action.begins = some item)
    (taken : drainStep config state action = some next) : item ∉ state.dispatcher.held := by
  apply faithful.not_held
  cases action with
  | other action =>
      have moved := transition_of_step (drain_step_other taken).2.1
      cases action <;> simp only [DrainAction.begins, Action.begins, reduceCtorEq,
        Option.some.injEq] at begins
      case submit ticket line level =>
          rw [← begins]
          simp only [transition, guarded_eq_some] at moved
          simp [moved.1]
      case fatalLog call ticket line module =>
          rw [← begins]
          simp only [transition, guarded_eq_some] at moved
          simp [moved.1.2.1]
  | drainLock | drainWrite | drainUnlock => cases begins

/-- The action that begins a `submit` writes nothing. -/
theorem begins_writes_nothing {config : Config} {state next : DrainState} {action : DrainAction}
    {item : QueueItem} (begins : action.begins = some item)
    (taken : drainStep config state action = some next) :
    next.dispatcher.written = state.dispatcher.written := by
  cases action with
  | other action =>
      have moved := transition_of_step (drain_step_other taken).2.1
      cases action <;> simp only [DrainAction.begins, Action.begins, reduceCtorEq] at begins
      case submit | fatalLog =>
          simp only [transition, guarded_eq_some] at moved
          obtain ⟨_, same⟩ := moved
          rw [← same]
          rfl
  | drainLock | drainWrite | drainUnlock => cases begins

/-! ## The moment of the write -/

/-- A line that is written by the end of a run was written by one of its steps. -/
theorem exists_write {config : Config} {item : QueueItem} {actions : List DrainAction}
    {state last : DrainState} (completed : run (drainStep config) state actions = some last)
    (absent : item ∉ state.dispatcher.written) (written : item ∈ last.dispatcher.written) :
    ∃ front action back before after, actions = front ++ action :: back ∧
      run (drainStep config) state front = some before ∧
      drainStep config before action = some after ∧
      run (drainStep config) after back = some last ∧
      after.dispatcher.written = before.dispatcher.written ++ [item] := by
  induction actions generalizing state with
  | nil =>
      cases completed
      exact absurd written absent
  | cons action rest induction =>
      obtain ⟨next, taken, remaining⟩ := run_cons_eq_some.mp completed
      by_cases now : item ∈ next.dispatcher.written
      · have here : next.dispatcher.written = state.dispatcher.written ++ [item] := by
          cases drain_write_move taken with
          | still same =>
              rw [same] at now
              exact absurd now absent
          | queued added same source | direct added same source =>
              rw [same, List.mem_append, List.mem_singleton] at now
              cases now with
              | inl old => exact absurd old absent
              | inr equal => rw [same, equal]
        exact ⟨[], action, rest, state, next, rfl, rfl, taken, remaining, here⟩
      · obtain ⟨front, later, back, before, after, split, prior, stepped, rest, wrote⟩ :=
          induction remaining now
        exact ⟨action :: front, later, back, before, after, by simp [split],
          run_cons_eq_some.mpr ⟨next, taken, prior⟩, stepped, rest, wrote⟩

/-- What was queued is written in the order of the queue. -/
theorem written_in_queue_order {config : Config} {actions : List DrainAction} {state : DrainState}
    (completed : run (drainStep config) drainInitial actions = some state) :
    state.dispatcher.written.filter (fun item => item ∈ enqueued actions) <+: enqueued actions := by
  have ordered := (reachable_tallied completed).tallied.ordered
  unfold InOrder at ordered
  rw [List.append_assoc] at ordered
  exact ⟨_, ordered⟩

theorem pair_in_front {Line : Type} {front back items : List Line} {first second : Line}
    (begins : items <+: front ++ back) (inFront : first ∈ front) (inItems : second ∈ items)
    (notInFront : second ∉ front) : [first, second].Sublist items := by
  cases List.prefix_or_prefix_of_prefix begins (List.prefix_append front back) with
  | inl short => exact absurd (short.subset inItems) notInFront
  | inr long =>
      obtain ⟨rest, rfl⟩ := long
      have inRest : second ∈ rest := by
        rw [List.mem_append] at inItems
        exact inItems.resolve_left notInFront
      have pair : [first, second] = [first] ++ [second] := rfl
      rw [pair]
      exact (List.singleton_sublist.mpr inFront).append (List.singleton_sublist.mpr inRest)

variable {config : Config} {actions : List DrainAction} {state : DrainState}
  {earlier later : QueueItem}

/-- A line that goes through the queue passes no line that was accepted before. -/
theorem queued_in_order (completed : run (drainStep config) drainInitial actions = some state)
    (before : AcceptedBefore config actions earlier later)
    (written : later ∈ state.dispatcher.written) (queued : later ∈ enqueued actions) :
    [earlier, later].Sublist state.dispatcher.written := by
  obtain ⟨front, action, back, middle, split, begins, prior, accepted⟩ := before
  have whole := completed
  rw [split] at completed
  obtain ⟨here, reached, remaining⟩ := run_append_eq_some.mp completed
  obtain rfl : middle = here := Option.some.inj (prior.symm.trans reached)
  obtain ⟨next, taken, rest⟩ := run_cons_eq_some.mp remaining
  have consistent := (reachable_tallied prior).tallied.consistent
  have ordered := (reachable_tallied prior).tallied.ordered
  have held := consistent.held_of_accepted accepted
  have unheld := unheld_of_begins consistent.faithful begins taken
  have unqueued : later ∉ enqueued front := fun member => unheld (ordered.lines_held member)
  rw [mem_held] at held
  by_cases done : earlier ∈ middle.dispatcher.written
  · obtain ⟨more, grown⟩ := run_written_grows remaining
    have absent : later ∉ middle.dispatcher.written := fun member =>
      unheld (mem_held.mpr (.inr (.inr member)))
    apply @pair_in_front _ _ more _ _ _ _ done written absent
    rw [grown]
  · have queuedFirst : earlier ∈ enqueued front := by
      apply ordered.sources_queued
      tauto
    have queuedLater : later ∈ state.dispatcher.written.filter
        (fun item => item ∈ enqueued actions) := by
      rw [List.mem_filter]
      exact ⟨written, by simpa using queued⟩
    have sorted := written_in_queue_order whole
    have parts : enqueued actions = enqueued front ++ enqueued (action :: back) := by
      rw [split, enqueued_append]
    rw [parts] at sorted
    rw [parts] at queuedLater
    exact (pair_in_front sorted queuedFirst queuedLater unqueued).trans List.filter_sublist

/-- The begin of a `submit` comes before the write of its line. -/
theorem accepted_before_write {front back : List DrainAction} {action : DrainAction}
    {before after : DrainState} (prior : run (drainStep config) drainInitial front = some before)
    (taken : drainStep config before action = some after)
    (remaining : run (drainStep config) after back = some state)
    (wrote : after.dispatcher.written = before.dispatcher.written ++ [later])
    (accepted : AcceptedBefore config (front ++ action :: back) earlier later) :
    AcceptedBefore config front earlier later := by
  obtain ⟨head, beginning, tail, middle, split, begins, reached, returned⟩ := accepted
  have unmoved : action ≠ beginning := by
    intro same
    rw [same] at taken
    have still := begins_writes_nothing begins taken
    rw [wrote] at still
    simp at still
  cases List.append_eq_append_iff.mp split with
  | inl longer =>
      obtain ⟨between, headSplit, rest⟩ := longer
      cases between with
      | nil =>
          rw [List.nil_append, List.cons.injEq] at rest
          exact absurd rest.1 unmoved
      | cons first between =>
          -- the line would be written before its `submit` begins
          rw [List.cons_append, List.cons.injEq] at rest
          obtain ⟨rfl, backSplit⟩ := rest
          have written : later ∈ middle.dispatcher.written := by
            rw [headSplit, run_append, prior, Option.bind_some, run_cons, taken,
              Option.bind_some] at reached
            apply (run_written_grows reached).subset
            rw [wrote]
            exact List.mem_append_right _ (List.mem_singleton_self _)
          have proceeds : ∃ next, drainStep config middle beginning = some next := by
            rw [headSplit, run_append, prior, Option.bind_some, run_cons, taken,
              Option.bind_some] at reached
            rw [backSplit, run_append, reached, Option.bind_some] at remaining
            obtain ⟨next, started, _⟩ := run_cons_eq_some.mp remaining
            exact ⟨next, started⟩
          obtain ⟨next, started⟩ := proceeds
          have faithful := (reachable_tallied reached).tallied.consistent.faithful
          exact absurd (mem_held.mpr (.inr (.inr written)))
            (unheld_of_begins faithful begins started)
  | inr shorter =>
      obtain ⟨between, frontSplit, rest⟩ := shorter
      cases between with
      | nil =>
          rw [List.nil_append, List.cons.injEq] at rest
          exact absurd rest.1.symm unmoved
      | cons first between =>
          rw [List.cons_append, List.cons.injEq] at rest
          obtain ⟨rfl, -⟩ := rest
          exact ⟨head, beginning, between, middle, frontSplit, begins, reached, returned⟩

/-- Whoever is passed waits in the queue or in the batch of the worker. -/
theorem passed_by_waits {front back : List DrainAction} {action : DrainAction}
    {before after : DrainState} (prior : run (drainStep config) drainInitial front = some before)
    (taken : drainStep config before action = some after)
    (remaining : run (drainStep config) after back = some state)
    (wrote : after.dispatcher.written = before.dispatcher.written ++ [later])
    (passed : earlier ∈ passedBy config (front ++ action :: back) state.dispatcher.written later) :
    earlier ∈ before.dispatcher.queue ++ before.dispatcher.worker.batch := by
  obtain ⟨accepted, disordered⟩ := passed
  obtain ⟨head, beginning, tail, middle, split, begins, reached, returned⟩ :=
    accepted_before_write prior taken remaining wrote accepted
  have stays : before.dispatcher.submits earlier.ticket =
      .returned earlier.line earlier.level true := by
    rw [split, run_append, reached, Option.bind_some] at prior
    exact run_returned_is_final prior returned
  have held := (reachable_tallied prior).tallied.consistent.held_of_accepted stays
  have unwritten : earlier ∉ before.dispatcher.written := by
    intro member
    apply disordered
    have pair : [earlier, later].Sublist (before.dispatcher.written ++ [later]) :=
      (List.singleton_sublist.mpr member).append (List.Sublist.refl [later])
    rw [← wrote] at pair
    exact pair.trans (run_written_grows remaining).sublist
  rw [List.mem_append]
  rw [mem_held] at held
  tauto

theorem encard_le_length (items : List QueueItem) :
    {item | item ∈ items}.encard ≤ (items.length : Nat) := by
  have same : {item | item ∈ items} = (items.toFinset : Set QueueItem) := by
    ext item
    simp
  rw [same, Set.encard_coe_eq_coe_finsetCard]
  exact_mod_cast List.toFinset_card_le items

theorem passed_by_few (completed : run (drainStep config) drainInitial actions = some state)
    (written : later ∈ state.dispatcher.written) :
    (passedBy config actions state.dispatcher.written later).encard ≤
      (config.queueSize + batchLimit : Nat) := by
  obtain ⟨front, action, back, before, after, rfl, prior, taken, remaining, wrote⟩ :=
    exists_write completed (by simp [drainInitial, initial]) written
  have waiting : passedBy config (front ++ action :: back) state.dispatcher.written later ⊆
      {item | item ∈ before.dispatcher.queue ++ before.dispatcher.worker.batch} := by
    intro earlier passed
    exact passed_by_waits prior taken remaining wrote passed
  have room := (reachable_tallied prior).tallied.bounded
  have batch := (reachable_routed prior).batch
  calc (passedBy config (front ++ action :: back) state.dispatcher.written later).encard
      ≤ {item | item ∈ before.dispatcher.queue ++ before.dispatcher.worker.batch}.encard :=
        Set.encard_le_encard waiting
    _ ≤ ((before.dispatcher.queue ++ before.dispatcher.worker.batch).length : Nat) :=
        encard_le_length _
    _ ≤ (config.queueSize + batchLimit : Nat) := by
        rw [List.length_append]
        exact_mod_cast Nat.add_le_add room batch

theorem bypassed_is_high (completed : run (drainStep config) drainInitial actions = some state)
    (bypassed : Bypassed actions later) : isHighPriority later.level = true := by
  obtain ⟨front, back, rfl⟩ := List.append_of_mem bypassed
  obtain ⟨before, _, remaining⟩ := run_append_eq_some.mp completed
  obtain ⟨next, taken, _⟩ := run_cons_eq_some.mp remaining
  have moved := transition_of_step (drain_step_other taken).2.1
  simp only [transition, guarded_eq_some] at moved
  exact moved.1.2.2

/-- Whatever the threads do, only an error that found the queue full is written before
lines that were accepted earlier, and only before as many as were then waiting. -/
theorem dispatcher_keeps_call_order (config : Config) (actions : List DrainAction)
    (state : DrainState) (completed : run (drainStep config) drainInitial actions = some state)
    (later : QueueItem) (written : later ∈ state.dispatcher.written) :
    InCallOrder config actions state.dispatcher.written later where
  kept := by
    intro through
    rw [Set.eq_empty_iff_forall_notMem]
    intro earlier passed
    have queued := ((reachable_routed completed).written later written).resolve_right through
    exact passed.2 (queued_in_order completed passed.1 written queued)
  high := bypassed_is_high completed
  few := passed_by_few completed written

/-- The error finds the queue full and is written before the line that fills it. -/
def overtakingRun : List DrainAction :=
  [.other .startExchange, .other .startSpawn, .other (.submit 0 "boot" .kInfo),
    .other (.submitEnqueue 0 "boot" .kInfo), .other (.submit 1 "fault" .kError),
    .other (.submitOverflowHigh 1 "fault" .kError),
    .other (.submitWrite 1 "fault" .kError), .other .workerTest, .other .workerCollect,
    .other (.workerWrite ⟨0, "boot", .kInfo⟩ [])]

theorem overtaking_error_in_call_order :
    ∃ state, run (drainStep ⟨1, ⟨.kInfo, []⟩⟩) drainInitial overtakingRun = some state ∧
      InCallOrder ⟨1, ⟨.kInfo, []⟩⟩ overtakingRun state.dispatcher.written ⟨1, "fault", .kError⟩ :=
  ⟨_, rfl, dispatcher_keeps_call_order ⟨1, ⟨.kInfo, []⟩⟩ overtakingRun _ rfl
    ⟨1, "fault", .kError⟩ (by decide)⟩

end TboxFramework.Log.AsyncDispatcher
