import Mathlib.Logic.Function.Basic
import Mathlib.Data.List.Basic
import Mathlib.Data.Option.Basic

/-!
# Runs of interleaved atomic actions

A system is a partial step function: an action names the thread that moves and
every choice the environment makes, so one list of actions is one interleaving.
`Along` restricts the steps of a run, `Always` speaks about every state that the
run visits.
-/

namespace Interleaving

set_option autoImplicit false

variable {State Action : Type}

/-- One branch of a step function: it may be taken only under its guard. -/
def guarded (guard : Prop) [Decidable guard] (next : State) : Option State :=
  if guard then some next else none

@[simp] theorem guarded_eq_some (guard : Prop) [Decidable guard] (next after : State) :
    guarded guard next = some after ↔ guard ∧ next = after := by
  simp [guarded]

theorem guarded_of (guard : Prop) [Decidable guard] (next : State) (holds : guard) :
    guarded guard next = some next := by
  simp [guarded, holds]

def run (step : State → Action → Option State) : State → List Action → Option State
  | state, [] => some state
  | state, action :: rest => (step state action).bind fun next => run step next rest

/-- Every step of the run is taken in a state that meets `condition`. -/
def Along (step : State → Action → Option State) (condition : State → Action → Prop) :
    State → List Action → Prop
  | _, [] => True
  | state, action :: rest =>
      condition state action ∧ ∀ next ∈ step state action, Along step condition next rest

/-- Every state of the run, the first one included, has `property`. -/
def Always (step : State → Action → Option State) (property : State → Prop) :
    State → List Action → Prop
  | state, [] => property state
  | state, action :: rest =>
      property state ∧ ∀ next ∈ step state action, Always step property next rest

instance decidableAlong (step : State → Action → Option State)
    (condition : State → Action → Prop) [∀ state action, Decidable (condition state action)] :
    ∀ state actions, Decidable (Along step condition state actions)
  | _, [] => isTrue trivial
  | state, action :: rest =>
      have := fun next => decidableAlong step condition next rest
      inferInstanceAs (Decidable (condition state action ∧
        ∀ next ∈ step state action, Along step condition next rest))

variable {step : State → Action → Option State} {condition : State → Action → Prop}

@[simp] theorem run_nil (state : State) : run step state [] = some state := rfl

theorem run_cons (state : State) (action : Action) (rest : List Action) :
    run step state (action :: rest) =
      (step state action).bind fun next => run step next rest := rfl

theorem run_cons_eq_some {state last : State} {action : Action} {rest : List Action} :
    run step state (action :: rest) = some last ↔
      ∃ next, step state action = some next ∧ run step next rest = some last := by
  simp [run_cons, Option.bind_eq_some_iff]

theorem run_append (state : State) (front back : List Action) :
    run step state (front ++ back) =
      (run step state front).bind fun middle => run step middle back := by
  induction front generalizing state with
  | nil => rfl
  | cons action front ih =>
      rw [List.cons_append, run_cons, run_cons, Option.bind_assoc]
      exact congrArg (Option.bind (step state action)) (funext ih)

theorem run_append_eq_some {state last : State} {front back : List Action} :
    run step state (front ++ back) = some last ↔
      ∃ middle, run step state front = some middle ∧ run step middle back = some last := by
  rw [run_append, Option.bind_eq_some_iff]

/-- The rule of invariance: what every permitted step preserves holds wherever
a run of permitted steps arrives. -/
theorem run_invariant (invariant : State → Prop)
    (preserved : ∀ state action next, invariant state → condition state action →
      step state action = some next → invariant next)
    {state last : State} {actions : List Action} (start : invariant state)
    (permitted : Along step condition state actions)
    (completed : run step state actions = some last) : invariant last := by
  induction actions generalizing state with
  | nil =>
      cases completed
      exact start
  | cons action rest ih =>
      obtain ⟨next, taken, remaining⟩ := run_cons_eq_some.mp completed
      exact ih (preserved state action next start permitted.1 taken)
        (permitted.2 next taken) remaining

/-- Two conditions on the steps of one run may be checked together. -/
theorem along_and {first second : State → Action → Prop} {state : State}
    {actions : List Action} (left : Along step first state actions)
    (right : Along step second state actions) :
    Along step (fun state action => first state action ∧ second state action)
      state actions := by
  induction actions generalizing state with
  | nil => trivial
  | cons action rest ih =>
      exact ⟨⟨left.1, right.1⟩, fun next taken => ih (left.2 next taken) (right.2 next taken)⟩

/-- A condition that does not look at the state is one on the actions. -/
theorem along_of_forall {allowed : Action → Prop} {actions : List Action}
    (each : ∀ action ∈ actions, allowed action) (state : State) :
    Along step (fun _ action => allowed action) state actions := by
  induction actions generalizing state with
  | nil => trivial
  | cons action rest ih =>
      exact ⟨each action (List.mem_cons_self ..), fun next _ =>
        ih (fun other member => each other (List.mem_cons_of_mem _ member)) next⟩

/-- The rule of invariance for a system whose steps need no further condition. -/
theorem reachable_invariant (invariant : State → Prop)
    (preserved : ∀ state action next, invariant state →
      step state action = some next → invariant next)
    {state last : State} {actions : List Action} (start : invariant state)
    (completed : run step state actions = some last) : invariant last := by
  have permitted : Along step (fun _ _ => True) state actions :=
    along_of_forall (fun _ _ => trivial) state
  apply run_invariant invariant _ start permitted completed
  intro state action next holds _ taken
  exact preserved state action next holds taken

/-- What follows from an invariant and the condition of a step holds along the run. -/
theorem along_of_invariant {property : State → Action → Prop} (invariant : State → Prop)
    (preserved : ∀ state action next, invariant state → condition state action →
      step state action = some next → invariant next)
    (sufficient : ∀ state action, invariant state → condition state action → property state action)
    {state : State} {actions : List Action} (start : invariant state)
    (permitted : Along step condition state actions) : Along step property state actions := by
  induction actions generalizing state with
  | nil => trivial
  | cons action rest ih =>
      refine ⟨sufficient state action start permitted.1, fun next taken => ?_⟩
      exact ih (preserved state action next start permitted.1 taken) (permitted.2 next taken)

/-- Two conditions that agree under an invariant permit the same runs, where the steps
that one of them permits preserve the invariant. -/
theorem along_iff_of_kept {first second : State → Action → Prop} (invariant : State → Prop)
    (preserved : ∀ state action next, invariant state → first state action →
      step state action = some next → invariant next)
    (agree : ∀ state action, invariant state → (first state action ↔ second state action))
    {state : State} (start : invariant state) (actions : List Action) :
    Along step first state actions ↔ Along step second state actions := by
  induction actions generalizing state with
  | nil => exact Iff.rfl
  | cons action rest ih =>
      constructor
      · intro permitted
        refine ⟨(agree state action start).mp permitted.1, fun next taken => ?_⟩
        apply (ih (preserved state action next start permitted.1 taken)).mp
        exact permitted.2 next taken
      · intro permitted
        have allowed := (agree state action start).mpr permitted.1
        refine ⟨allowed, fun next taken => ?_⟩
        apply (ih (preserved state action next start allowed taken)).mpr
        exact permitted.2 next taken

/-- Two conditions that agree wherever an invariant holds permit the same runs. -/
theorem along_iff_of_invariant {first second : State → Action → Prop}
    (invariant : State → Prop)
    (preserved : ∀ state action next, invariant state →
      step state action = some next → invariant next)
    (agree : ∀ state action, invariant state → (first state action ↔ second state action))
    {state : State} (start : invariant state) (actions : List Action) :
    Along step first state actions ↔ Along step second state actions :=
  along_iff_of_kept invariant (fun state action next holds _ => preserved state action next holds)
    agree start actions

/-- A completed run that does not respect `condition` takes a first step
against it somewhere in its middle. -/
theorem exists_violation {state last : State} {actions : List Action}
    (completed : run step state actions = some last)
    (violated : ¬Along step condition state actions) :
    ∃ front action back before after, actions = front ++ action :: back ∧
      run step state front = some before ∧ ¬condition before action ∧
      step before action = some after ∧ run step after back = some last := by
  induction actions generalizing state with
  | nil => exact absurd trivial violated
  | cons action rest ih =>
      obtain ⟨next, taken, remaining⟩ := run_cons_eq_some.mp completed
      by_cases allowed : condition state action
      · have later : ¬Along step condition next rest := by
          intro holds
          refine violated ⟨allowed, ?_⟩
          intro other same
          rw [Option.mem_def, taken, Option.some.injEq] at same
          exact same ▸ holds
        obtain ⟨front, bad, back, before, after, split, prior, broken, stepped, rest⟩ :=
          ih remaining later
        exact ⟨action :: front, bad, back, before, after, by simp [split],
          run_cons_eq_some.mpr ⟨next, taken, prior⟩, broken, stepped, rest⟩
      · exact ⟨[], action, rest, state, next, rfl, rfl, allowed, taken, remaining⟩

/-! ## Observers -/

section Observers

variable {History : Type} {note : State → Action → History → History}

/-- What an observer of the run has noted when it ends. -/
def observe (step : State → Action → Option State)
    (note : State → Action → History → History) : State → History → List Action → History
  | _, history, [] => history
  | state, history, action :: rest =>
      match step state action with
      | some next => observe step note next (note state action history) rest
      | none => history


/-- The rule of invariance for a system and an observer that cannot disturb it. -/
theorem observed_invariant (invariant : History → State → Prop)
    (preserved : ∀ history state action next, invariant history state → condition state action →
      step state action = some next → invariant (note state action history) next)
    {history : History} {state last : State} {actions : List Action}
    (start : invariant history state) (permitted : Along step condition state actions)
    (completed : run step state actions = some last) :
    invariant (observe step note state history actions) last := by
  induction actions generalizing state history with
  | nil =>
      cases completed
      exact start
  | cons action rest ih =>
      obtain ⟨next, taken, remaining⟩ := run_cons_eq_some.mp completed
      rw [observe, taken]
      exact ih (preserved history state action next start permitted.1 taken)
        (permitted.2 next taken) remaining

/-- A system and its observer as one system. -/
def observing (step : State → Action → Option State)
    (note : State → Action → History → History) :
    History × State → Action → Option (History × State)
  | (history, state), action =>
      (step state action).map fun next => (note state action history, next)

@[simp] theorem observing_eq_some {history : History} {state : State} {action : Action}
    {after : History × State} :
    observing step note (history, state) action = some after ↔
      ∃ next, step state action = some next ∧ (note state action history, next) = after := by
  simp [observing]

/-- The system runs as it does without its observer. -/
theorem run_observing (history : History) (state : State) (actions : List Action) :
    run (observing step note) (history, state) actions =
      (run step state actions).map fun last =>
        (observe step note state history actions, last) := by
  induction actions generalizing history state with
  | nil => rfl
  | cons action rest ih =>
      rw [run_cons, run_cons]
      cases taken : step state action with
      | none => simp [observing, taken]
      | some next =>
          have moved : observing step note (history, state) action =
              some (note state action history, next) :=
            observing_eq_some.mpr ⟨next, taken, rfl⟩
          rw [moved, Option.bind_some, Option.bind_some, ih, observe, taken]

/-- A condition on the steps of the system is one on those of both. -/
theorem along_observing {history : History} {state : State} {actions : List Action}
    (permitted : Along step condition state actions) :
    Along (observing step note) (fun noted action => condition noted.2 action) (history, state)
      actions := by
  induction actions generalizing history state with
  | nil => trivial
  | cons action rest ih =>
      refine ⟨permitted.1, ?_⟩
      intro after taken
      obtain ⟨next, stepped, rfl⟩ := observing_eq_some.mp taken
      exact ih (permitted.2 next stepped)

/-- The rule of invariance with the actions so far in view. -/
theorem traced_invariant (invariant : List Action → State → Prop)
    (preserved : ∀ past state action next, invariant past state → condition state action →
      step state action = some next → invariant (past ++ [action]) next)
    {state last : State} {actions : List Action} (start : invariant [] state)
    (permitted : Along step condition state actions)
    (completed : run step state actions = some last) : invariant actions last := by
  have general : ∀ (rest past : List Action) (state : State), invariant past state →
      Along step condition state rest → run step state rest = some last →
      invariant (past ++ rest) last := by
    intro rest
    induction rest with
    | nil =>
        intro past state holds _ completed
        cases completed
        rw [List.append_nil]
        exact holds
    | cons action rest ih =>
        intro past state holds permitted completed
        obtain ⟨next, taken, remaining⟩ := run_cons_eq_some.mp completed
        have later := ih (past ++ [action]) next
          (preserved past state action next holds permitted.1 taken)
          (permitted.2 next taken) remaining
        rw [List.append_assoc] at later
        exact later
  exact general actions [] state start permitted completed

end Observers

/-! ## Conditions on runs -/

theorem always_of_invariant {invariant property : State → Prop}
    (preserved : ∀ state action next, invariant state → condition state action →
      step state action = some next → invariant next)
    (sufficient : ∀ state, invariant state → property state)
    {state : State} {actions : List Action} (start : invariant state)
    (permitted : Along step condition state actions) :
    Always step property state actions := by
  induction actions generalizing state with
  | nil => exact sufficient state start
  | cons action rest ih =>
      exact ⟨sufficient state start, fun next taken =>
        ih (preserved state action next start permitted.1 taken) (permitted.2 next taken)⟩

/-- An exact condition for runs that meet an assumption: permitted steps preserve an
invariant that gives the property, and any other step from it loses the property
at once. -/
theorem always_iff_along_of {invariant property : State → Prop} {assumed : State → Action → Prop}
    (preserved : ∀ state action next, invariant state → assumed state action →
      condition state action → step state action = some next → invariant next)
    (sufficient : ∀ state, invariant state → property state)
    (broken : ∀ state action next, invariant state → ¬condition state action →
      step state action = some next → ¬property next)
    {state last : State} {actions : List Action} (start : invariant state)
    (granted : Along step assumed state actions) (completed : run step state actions = some last) :
    Always step property state actions ↔ Along step condition state actions := by
  constructor
  · intro always
    induction actions generalizing state with
    | nil => trivial
    | cons action rest ih =>
        obtain ⟨next, taken, remaining⟩ := run_cons_eq_some.mp completed
        have visited := always.2 next taken
        have holds : property next := by
          cases rest with
          | nil => exact visited
          | cons _ _ => exact visited.1
        have allowed : condition state action := by
          by_contra refused
          exact broken state action next start refused taken holds
        refine ⟨allowed, ?_⟩
        intro other same
        rw [Option.mem_def, taken, Option.some.injEq] at same
        exact same ▸ ih (preserved state action next start granted.1 allowed taken)
          (granted.2 next taken) remaining visited
  · intro permitted
    exact always_of_invariant
      (fun state action next holds both => preserved state action next holds both.1 both.2)
      sufficient start (along_and granted permitted)

theorem always_iff_along {invariant property : State → Prop}
    (preserved : ∀ state action next, invariant state → condition state action →
      step state action = some next → invariant next)
    (sufficient : ∀ state, invariant state → property state)
    (broken : ∀ state action next, invariant state → ¬condition state action →
      step state action = some next → ¬property next)
    {state last : State} {actions : List Action} (start : invariant state)
    (completed : run step state actions = some last) :
    Always step property state actions ↔ Along step condition state actions :=
  always_iff_along_of
    (fun state action next holds (_ : True) => preserved state action next holds)
    sufficient broken start (along_of_forall (fun _ _ => trivial) state) completed

end Interleaving
