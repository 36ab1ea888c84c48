import TboxFramework.Library.ScopeStack
import TboxFramework.Log.Enricher

/-!
# Contexts that follow the scopes

A `ContextScope` puts its context into force for its thread and puts the one before it
back when it is destroyed. Objects may be destroyed by any thread and in any order. A
record takes the context that the thread's pointer leads to.
-/

namespace TboxFramework.Log.ContextScope

open Interleaving
open ScopeStack (State Nested Sound)
open TboxFramework.Store (Bytes text)

set_option autoImplicit false

variable {Thread Address : Type}

/-- The arguments of a record, the context apart. -/
structure RecordCall where
  enricher : Enricher
  moment : Moment
  fields : List Field
  level : LogLevel
  module : Bytes
  event : Bytes
  message : Bytes

def RecordCall.enriched (call : RecordCall) (context : Option LogContext) : List Field :=
  call.enricher.enrich call.moment call.fields call.level call.module call.event call.message
    context

inductive ThreadEvent (Thread Address : Type)
  | construct (thread : Thread) (scope : Address) (context : LogContext)
  | destruct (thread : Thread) (scope : Address)
  | log (thread : Thread) (call : RecordCall)

/-- The scopes in memory, `t_context` of every thread, and the records made so far. -/
structure LogThreads (Thread Address : Type) where
  scopes : State Thread Address LogContext
  records : List (Thread × List Field)

def initial : LogThreads Thread Address := ⟨ScopeStack.initial, []⟩

/-- What `t_context` of a thread leads to. -/
def current (threads : LogThreads Thread Address) (thread : Thread) : Option LogContext :=
  threads.scopes.read thread

/-- The contexts of the blocks that each thread is in, innermost first: what scopes are for. -/
structure Blocks (Thread : Type) where
  contexts : Thread → List LogContext
  records : List (Thread × List Field)

def Blocks.initial : Blocks Thread := ⟨fun _ => [], []⟩

/-- The scopes stand for the blocks. -/
structure Follows (threads : LogThreads Thread Address) (blocks : Blocks Thread) : Prop where
  sound : Sound threads.scopes
  contexts : ∀ thread, blocks.contexts thread = (threads.scopes.live thread).map Prod.snd
  records : threads.records = blocks.records

theorem Follows.current_eq {threads : LogThreads Thread Address} {blocks : Blocks Thread}
    (follows : Follows threads blocks) (thread : Thread) :
    current threads thread = (blocks.contexts thread).head? := by
  unfold current
  rw [follows.sound.2.read_eq, follows.contexts, List.head?_map]
  rfl

variable [DecidableEq Thread]

namespace Blocks

def step (blocks : Blocks Thread) : ThreadEvent Thread Address → Blocks Thread
  | .construct thread _ context =>
      { blocks with
        contexts := Function.update blocks.contexts thread (context :: blocks.contexts thread) }
  | .destruct thread _ =>
      { blocks with
        contexts := Function.update blocks.contexts thread (blocks.contexts thread).tail }
  | .log thread call =>
      { blocks with
        records := blocks.records ++ [(thread, call.enriched (blocks.contexts thread).head?)] }

def run (events : List (ThreadEvent Thread Address)) : Blocks Thread :=
  events.foldl step initial

end Blocks

variable [DecidableEq Address]

def step (threads : LogThreads Thread Address) :
    ThreadEvent Thread Address → Option (LogThreads Thread Address)
  | .construct thread scope context =>
      (ScopeStack.step threads.scopes (.enter thread scope context)).map fun scopes =>
        { threads with scopes := scopes }
  | .destruct thread scope =>
      (ScopeStack.step threads.scopes (.leave thread scope)).map fun scopes =>
        { threads with scopes := scopes }
  | .log thread call =>
      some { threads with
        records := threads.records ++ [(thread, call.enriched (current threads thread))] }

/-- A scope is destroyed by the thread that made it, and before the scopes around it. -/
def Lexical (threads : LogThreads Thread Address) : ThreadEvent Thread Address → Prop
  | .construct _ _ _ => True
  | .destruct thread scope => Nested threads.scopes (.leave thread scope)
  | .log _ _ => True

instance (threads : LogThreads Thread Address) (event : ThreadEvent Thread Address) :
    Decidable (Lexical threads event) :=
  match event with
  | .construct _ _ _ | .log _ _ => isTrue trivial
  | .destruct thread scope =>
      inferInstanceAs (Decidable (Nested threads.scopes (.leave thread scope)))

variable {threads next : LogThreads Thread Address} {blocks : Blocks Thread}
  {event : ThreadEvent Thread Address}

theorem step_keeps_sound (sound : Sound threads.scopes) (lexical : Lexical threads event)
    (taken : step threads event = some next) : Sound next.scopes := by
  cases event with
  | construct thread scope context =>
      obtain ⟨scopes, entered, rfl⟩ := Option.map_eq_some_iff.mp taken
      have nested : Nested threads.scopes (.enter thread scope context) := trivial
      exact ScopeStack.step_sound sound nested entered
  | destruct thread scope =>
      obtain ⟨scopes, left, rfl⟩ := Option.map_eq_some_iff.mp taken
      have nested : Nested threads.scopes (.leave thread scope) := lexical
      exact ScopeStack.step_sound sound nested left
  | log thread call =>
      cases taken
      exact sound

theorem step_follows (follows : Follows threads blocks) (lexical : Lexical threads event)
    (taken : step threads event = some next) : Follows next (blocks.step event) := by
  have sound := step_keeps_sound follows.sound lexical taken
  cases event with
  | construct thread scope context =>
      obtain ⟨scopes, entered, rfl⟩ := Option.map_eq_some_iff.mp taken
      refine ⟨sound, ?_, follows.records⟩
      intro other
      have made := ScopeStack.enter_eq entered
      simp only [Blocks.step, made, State.enter]
      by_cases same : other = thread
      · simp [same, follows.contexts]
      · simp [Function.update_of_ne same, follows.contexts]
  | destruct thread scope =>
      obtain ⟨scopes, left, rfl⟩ := Option.map_eq_some_iff.mp taken
      have nested : Nested threads.scopes (.leave thread scope) := lexical
      obtain ⟨cell, _, rfl⟩ := Option.map_eq_some_iff.mp left
      refine ⟨sound, ?_, follows.records⟩
      intro other
      rw [ScopeStack.leave_live follows.sound.1 cell.previous nested]
      simp only [Blocks.step]
      by_cases same : other = thread
      · simp [same, follows.contexts, List.map_tail]
      · simp [Function.update_of_ne same, follows.contexts]
  | log thread call =>
      cases taken
      refine ⟨follows.sound, follows.contexts, ?_⟩
      simp only [Blocks.step]
      rw [follows.records, follows.current_eq]

theorem lexical_follows {state : LogThreads Thread Address}
    {events : List (ThreadEvent Thread Address)}
    (lexical : Along step Lexical initial events)
    (completed : run step initial events = some state) : Follows state (Blocks.run events) := by
  refine traced_invariant (fun past threads => Follows threads (Blocks.run past)) ?_
    ⟨ScopeStack.initial_sound, fun _ => rfl, rfl⟩ lexical completed
  intro past threads event next follows lexical taken
  unfold Blocks.run
  rw [List.foldl_append]
  exact step_follows follows lexical taken

theorem crossed_astray (sound : Sound threads.scopes) (crossed : ¬ Lexical threads event)
    (taken : step threads event = some next) : ¬ next.scopes.Led := by
  cases event with
  | construct thread scope context => exact absurd trivial crossed
  | destruct thread scope =>
      obtain ⟨scopes, left, rfl⟩ := Option.map_eq_some_iff.mp taken
      have outer : ¬ Nested threads.scopes (.leave thread scope) := crossed
      exact ScopeStack.step_astray sound.1 sound.2 outer left
  | log thread call => exact absurd trivial crossed

/-- The pointers of all threads lead through their scopes all the time exactly when all
scopes are lexical, and then every record has the context of the block that it is in. -/
theorem scopes_are_blocks_iff (events : List (ThreadEvent Thread Address))
    (state : LogThreads Thread Address) (completed : run step initial events = some state) :
    (Always step (fun threads => threads.scopes.Led) initial events ↔
        Along step Lexical initial events) ∧
      (Along step Lexical initial events → state.records = (Blocks.run events).records) := by
  constructor
  · refine @always_iff_along _ _ step Lexical (fun threads => Sound threads.scopes) _
      ?_ ?_ ?_ initial state events ScopeStack.initial_sound completed
    · intro threads event next sound lexical taken
      exact step_keeps_sound sound lexical taken
    · intro threads sound
      exact sound.2
    · intro threads event next sound crossed taken
      exact crossed_astray sound crossed taken
  · intro lexical
    exact (lexical_follows lexical completed).records

def bootRecord : RecordCall :=
  ⟨⟨text "tbox"⟩, ⟨⟨125, 0, 1, 0, 0, 0⟩, 0, 0, 0, 1, 1⟩, [], .kInfo, text "core", text "boot", []⟩

/-- Two threads, each with a scope inside of another one. -/
def nestedScopes : List (ThreadEvent Nat Nat) :=
  [.construct 0 1 ⟨text "trace", [], []⟩, .construct 1 2 ⟨[], text "request", []⟩,
    .construct 0 3 ⟨text "inner", [], []⟩, .construct 1 4 ⟨[], [], text "session"⟩,
    .log 1 bootRecord, .destruct 0 3, .log 0 bootRecord]

/-- The second thread destroys its outer scope first. -/
def crossedScopes : List (ThreadEvent Nat Nat) := nestedScopes ++ [.destruct 1 2, .log 1 bootRecord]

theorem crossed_scope_loses_context :
    (∃ state, run step initial nestedScopes = some state ∧
      Always step (fun threads => threads.scopes.Led) initial nestedScopes ∧
      state.records = [(1, bootRecord.enriched (some ⟨[], [], text "session"⟩)),
        (0, bootRecord.enriched (some ⟨text "trace", [], []⟩))]) ∧
    ∃ state, run step initial crossedScopes = some state ∧
      ¬ Always step (fun threads => threads.scopes.Led) initial crossedScopes ∧
      (state.scopes.live 1).map Prod.fst = [4] ∧ current state 1 = none := by
  constructor
  · have blocks := scopes_are_blocks_iff nestedScopes _ rfl
    have lexical : Along step Lexical initial nestedScopes := by decide
    exact ⟨_, rfl, blocks.1.mpr lexical, blocks.2 lexical⟩
  · have crossed : ¬ Along step Lexical initial crossedScopes := by decide
    exact ⟨_, rfl, mt (scopes_are_blocks_iff crossedScopes _ rfl).1.mp crossed, rfl, rfl⟩

end TboxFramework.Log.ContextScope
