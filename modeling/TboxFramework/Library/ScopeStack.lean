import TboxFramework.Library.Interleaving
import Mathlib.Data.List.Nodup
import Mathlib.Logic.Function.Basic

/-!
# Scopes that are linked through their predecessors

Each thread has a pointer to its innermost scope, and a scope remembers what the pointer
was when it was entered; leaving a scope puts that back. Nothing ties a scope to the
thread that leaves it or to the order of leaving. The pointers of all threads lead
through their scopes as long as every scope is left by its own thread, innermost first,
and no longer.
-/

namespace ScopeStack

open Interleaving

set_option autoImplicit false

variable {Thread Scope Value : Type}

structure Cell (Scope Value : Type) where
  value : Value
  previous : Option Scope

structure State (Thread Scope Value : Type) where
  /-- The scopes in memory. -/
  cells : Scope → Option (Cell Scope Value)
  /-- The pointer of each thread. -/
  top : Thread → Option Scope
  /-- What each thread has entered and nobody has left, innermost first. -/
  live : Thread → List (Scope × Value)

inductive Action (Thread Scope Value : Type)
  | enter (thread : Thread) (scope : Scope) (value : Value)
  | leave (thread : Thread) (scope : Scope)

def initial : State Thread Scope Value where
  cells := fun _ => none
  top := fun _ => none
  live := fun _ => []

/-- What a pointer leads to. -/
def State.read (state : State Thread Scope Value) (thread : Thread) : Option Value :=
  ((state.top thread).bind state.cells).map Cell.value

/-- What the innermost scope of a thread holds. -/
def State.innermost (state : State Thread Scope Value) (thread : Thread) : Option Value :=
  (state.live thread).head?.map Prod.snd

/-- The pointers lead through these scopes to the end. -/
def Chain (cells : Scope → Option (Cell Scope Value)) :
    Option Scope → List (Scope × Value) → Prop
  | top, [] => top = none
  | top, (scope, value) :: rest =>
      top = some scope ∧ ∃ previous, cells scope = some ⟨value, previous⟩ ∧
        Chain cells previous rest

/-- Every thread is led through its scopes. -/
def State.Led (state : State Thread Scope Value) : Prop :=
  ∀ thread, Chain state.cells (state.top thread) (state.live thread)

/-- No scope is entered twice, and the entered ones are those in memory. -/
structure Owned (state : State Thread Scope Value) : Prop where
  once : ∀ thread, ((state.live thread).map Prod.fst).Nodup
  one : ∀ scope first second, scope ∈ (state.live first).map Prod.fst →
    scope ∈ (state.live second).map Prod.fst → first = second
  allocated : ∀ scope, state.cells scope ≠ none ↔
    ∃ thread, scope ∈ (state.live thread).map Prod.fst

theorem initial_owned : Owned (initial : State Thread Scope Value) where
  once := fun _ => List.nodup_nil
  one := by
    intro scope first second member
    cases member
  allocated := by simp [initial]

theorem initial_led : (initial : State Thread Scope Value).Led := fun _ => rfl

def Sound (state : State Thread Scope Value) : Prop := Owned state ∧ state.Led

theorem initial_sound : Sound (initial : State Thread Scope Value) :=
  ⟨initial_owned, initial_led⟩

/-- Behind every scope the chain goes on. -/
theorem Chain.behind {cells : Scope → Option (Cell Scope Value)} {top : Option Scope}
    {front back : List (Scope × Value)} {entry : Scope × Value}
    (chain : Chain cells top (front ++ entry :: back)) :
    ∃ previous, cells entry.1 = some ⟨entry.2, previous⟩ ∧ Chain cells previous back := by
  induction front generalizing top with
  | nil =>
      obtain ⟨_, previous, found, later⟩ := chain
      exact ⟨previous, found, later⟩
  | cons first rest induction =>
      obtain ⟨_, previous, _, later⟩ := chain
      exact induction later

/-- A thread that is led reads its innermost scope. -/
theorem State.Led.read_eq {state : State Thread Scope Value} (led : state.Led) (thread : Thread) :
    state.read thread = state.innermost thread := by
  have chain := led thread
  unfold State.read State.innermost
  cases entered : state.live thread with
  | nil =>
      rw [entered] at chain
      rw [show state.top thread = none from chain]
      rfl
  | cons entry rest =>
      rw [entered] at chain
      obtain ⟨pointed, previous, found, _⟩ := chain
      rw [pointed, Option.bind_some, found]
      rfl

def removed [DecidableEq Scope] (scope : Scope) (live : List (Scope × Value)) :
    List (Scope × Value) :=
  live.filter fun entry => entry.1 ≠ scope

variable [DecidableEq Thread] [DecidableEq Scope]

def State.enter (state : State Thread Scope Value) (thread : Thread) (scope : Scope)
    (value : Value) : State Thread Scope Value where
  cells := Function.update state.cells scope (some ⟨value, state.top thread⟩)
  top := Function.update state.top thread (some scope)
  live := Function.update state.live thread ((scope, value) :: state.live thread)

def State.leave (state : State Thread Scope Value) (thread : Thread) (scope : Scope)
    (previous : Option Scope) : State Thread Scope Value where
  cells := Function.update state.cells scope none
  top := Function.update state.top thread previous
  live := fun other => removed scope (state.live other)

def step (state : State Thread Scope Value) :
    Action Thread Scope Value → Option (State Thread Scope Value)
  | .enter thread scope value =>
      match state.cells scope with
      | none => some (state.enter thread scope value)
      | some _ => none
  | .leave thread scope =>
      (state.cells scope).map fun cell => state.leave thread scope cell.previous

/-- Only the innermost scope is left, and by its own thread. -/
def Nested (state : State Thread Scope Value) : Action Thread Scope Value → Prop
  | .enter _ _ _ => True
  | .leave thread scope => (state.live thread).head?.map Prod.fst = some scope

omit [DecidableEq Thread] in
instance (state : State Thread Scope Value) (action : Action Thread Scope Value) :
    Decidable (Nested state action) :=
  match action with
  | .enter _ _ _ => isTrue trivial
  | .leave _ _ => inferInstanceAs (Decidable (_ = _))

/-! ## Chains -/

variable {cells : Scope → Option (Cell Scope Value)} {top : Option Scope}
  {scope : Scope} {live : List (Scope × Value)}

/-- A chain does not look at other scopes. -/
theorem Chain.update (chain : Chain cells top live) (apart : scope ∉ live.map Prod.fst)
    (cell : Option (Cell Scope Value)) : Chain (Function.update cells scope cell) top live := by
  induction live generalizing top with
  | nil => exact chain
  | cons entry rest induction =>
      obtain ⟨pointed, previous, found, later⟩ := chain
      rw [List.map_cons, List.mem_cons, not_or] at apart
      refine ⟨pointed, previous, ?_, induction later apart.2⟩
      rw [Function.update_of_ne (Ne.symm apart.1)]
      exact found

theorem removed_absent (absent : scope ∉ live.map Prod.fst) : removed scope live = live := by
  unfold removed
  rw [List.filter_eq_self]
  intro entry member
  have other : entry.1 ≠ scope := fun same => absent (same ▸ List.mem_map_of_mem member)
  simpa using other

/-- A scope that is there once is taken out of its place. -/
theorem removed_split {front back : List (Scope × Value)} {value : Value}
    (once : ((front ++ (scope, value) :: back).map Prod.fst).Nodup) :
    removed scope (front ++ (scope, value) :: back) = front ++ back := by
  rw [List.map_append, List.map_cons, List.nodup_append, List.nodup_cons] at once
  have inFront : scope ∉ front.map Prod.fst := by
    intro member
    exact once.2.2 scope member scope (List.mem_cons_self ..) rfl
  have front_kept := removed_absent inFront
  have back_kept := removed_absent once.2.1.1
  unfold removed at front_kept back_kept ⊢
  rw [List.filter_append, front_kept, List.filter_cons_of_neg (by simp), back_kept]

theorem mem_removed {other : Scope} :
    other ∈ (removed scope live).map Prod.fst ↔ other ∈ live.map Prod.fst ∧ other ≠ scope := by
  unfold removed
  simp only [List.mem_map, List.mem_filter, decide_eq_true_eq]
  constructor
  · intro member
    obtain ⟨entry, ⟨inside, apart⟩, rfl⟩ := member
    exact ⟨⟨entry, inside, rfl⟩, apart⟩
  · intro member
    obtain ⟨⟨entry, inside, rfl⟩, apart⟩ := member
    exact ⟨entry, ⟨inside, apart⟩, rfl⟩

/-! ## What every step preserves -/

variable {state next : State Thread Scope Value} {action : Action Thread Scope Value}

theorem step_owned (owned : Owned state) (taken : step state action = some next) :
    Owned next := by
  cases action with
  | enter thread scope value =>
      unfold step at taken
      cases free : state.cells scope with
      | some cell => simp [free] at taken
      | none =>
          simp only [free, Option.some.injEq] at taken
          rw [← taken]
          have fresh : ∀ other, scope ∉ (state.live other).map Prod.fst := by
            intro other member
            exact (owned.allocated scope).mpr ⟨other, member⟩ free
          have entered : ∀ other name, name ∈ ((state.enter thread scope value).live other).map
              Prod.fst ↔ (other = thread ∧ name = scope) ∨
                name ∈ (state.live other).map Prod.fst := by
            intro other name
            unfold State.enter
            by_cases same : other = thread
            · rw [same]
              simp
            · simp [same]
          refine ⟨?_, ?_, ?_⟩
          · intro other
            unfold State.enter
            by_cases same : other = thread
            · rw [same]
              simp only [Function.update_self, List.map_cons, List.nodup_cons]
              exact ⟨fresh thread, owned.once thread⟩
            · simp only [Function.update_of_ne same]
              exact owned.once other
          · intro name first second inFirst inSecond
            rw [entered] at inFirst inSecond
            rcases inFirst with ⟨rfl, rfl⟩ | before
            · rcases inSecond with ⟨rfl, _⟩ | later
              · rfl
              · exact absurd later (fresh second)
            · rcases inSecond with ⟨rfl, rfl⟩ | later
              · exact absurd before (fresh first)
              · exact owned.one name first second before later
          · intro name
            simp only [entered]
            by_cases same : name = scope
            · rw [same]
              simp [State.enter]
            · have kept := owned.allocated name
              simp only [State.enter, Function.update_of_ne same, same, and_false, false_or]
              exact kept
  | leave thread scope =>
      unfold step at taken
      obtain ⟨cell, found, rfl⟩ := Option.map_eq_some_iff.mp taken
      refine ⟨?_, ?_, ?_⟩
      · intro other
        unfold State.leave removed
        exact (owned.once other).sublist (List.filter_sublist.map Prod.fst)
      · intro name first second inFirst inSecond
        exact owned.one name first second (mem_removed.mp inFirst).1 (mem_removed.mp inSecond).1
      · intro name
        by_cases same : name = scope
        · rw [same]
          simp [State.leave, mem_removed]
        · have kept := owned.allocated name
          simp only [State.leave, Function.update_of_ne same, mem_removed, same, ne_eq,
            not_false_eq_true, and_true]
          exact kept

/-! ## Nested steps and others -/

theorem enter_eq {thread : Thread} {value : Value}
    (taken : step state (.enter thread scope value) = some next) :
    next = state.enter thread scope value := by
  unfold step at taken
  cases free : state.cells scope with
  | some cell => simp [free] at taken
  | none =>
      simp only [free, Option.some.injEq] at taken
      exact taken.symm

theorem enter_led {thread : Thread} {value : Value} (owned : Owned state) (led : state.Led)
    (free : state.cells scope = none) : (state.enter thread scope value).Led := by
  have fresh : ∀ other, scope ∉ (state.live other).map Prod.fst := by
    intro other member
    exact (owned.allocated scope).mpr ⟨other, member⟩ free
  intro other
  have framed := (led other).update (fresh other) (some ⟨value, state.top thread⟩)
  unfold State.enter
  by_cases same : other = thread
  · rw [same] at framed ⊢
    simp only [Function.update_self]
    exact ⟨rfl, state.top thread, Function.update_self .., framed⟩
  · simp only [Function.update_of_ne same]
    exact framed

/-- Leaving the innermost scope of a thread changes nothing for the others. -/
theorem leave_live {thread : Thread} (owned : Owned state) (previous : Option Scope)
    (innermost : (state.live thread).head?.map Prod.fst = some scope) :
    (state.leave thread scope previous).live =
      Function.update state.live thread (state.live thread).tail := by
  obtain ⟨entry, first, rfl⟩ := Option.map_eq_some_iff.mp innermost
  obtain ⟨rest, whole⟩ := List.head?_eq_some_iff.mp first
  have once := owned.once thread
  funext other
  unfold State.leave
  by_cases same : other = thread
  · rw [whole] at once
    have left : removed entry.1 ([] ++ entry :: rest) = [] ++ rest := removed_split once
    rw [List.nil_append, List.nil_append] at left
    simp only [same, Function.update_self, whole, left, List.tail_cons]
  · have apart : entry.1 ∉ (state.live other).map Prod.fst := by
      intro member
      apply same
      apply owned.one entry.1 other thread member
      rw [whole]
      exact List.mem_cons_self ..
    simp only [Function.update_of_ne same, removed_absent apart]

theorem leave_led {thread : Thread} {cell : Cell Scope Value} (owned : Owned state)
    (led : state.Led) (found : state.cells scope = some cell)
    (innermost : (state.live thread).head?.map Prod.fst = some scope) :
    (state.leave thread scope cell.previous).Led := by
  have live := leave_live owned cell.previous innermost
  obtain ⟨entry, first, rfl⟩ := Option.map_eq_some_iff.mp innermost
  obtain ⟨rest, whole⟩ := List.head?_eq_some_iff.mp first
  have once := owned.once thread
  rw [whole, List.map_cons, List.nodup_cons] at once
  intro other
  rw [live]
  unfold State.leave
  by_cases same : other = thread
  · have chain := led thread
    rw [whole] at chain
    obtain ⟨_, previous, read, later⟩ := chain
    rw [found, Option.some.injEq] at read
    simp only [same, Function.update_self, whole, List.tail_cons, read]
    exact later.update once.1 none
  · have apart : entry.1 ∉ (state.live other).map Prod.fst := by
      intro member
      apply same
      apply owned.one entry.1 other thread member
      rw [whole]
      exact List.mem_cons_self ..
    simp only [Function.update_of_ne same]
    exact (led other).update apart none

/-- The pointer behind the scope that was left, or the one of its thread, leads astray. -/
theorem leave_astray {thread : Thread} {cell : Cell Scope Value} (owned : Owned state)
    (led : state.Led) (found : state.cells scope = some cell)
    (outer : ¬ (state.live thread).head?.map Prod.fst = some scope) :
    ¬ (state.leave thread scope cell.previous).Led := by
  intro after
  obtain ⟨owner, member⟩ := (owned.allocated scope).mp (by simp [found])
  obtain ⟨entry, inside, rfl⟩ := List.mem_map.mp member
  obtain ⟨front, back, split⟩ := List.append_of_mem inside
  have once := owned.once owner
  rw [split] at once
  have chain := after owner
  have left : removed entry.1 (front ++ entry :: back) = front ++ back := removed_split once
  unfold State.leave at chain
  simp only [split, left] at chain
  have old := led owner
  rw [split] at old
  have astray : ∀ cells, ¬ Chain cells (some entry.1) back := by
    intro cells wrong
    cases back with
    | nil => cases wrong
    | cons second rest =>
        rw [List.map_append, List.nodup_append, List.map_cons, List.nodup_cons] at once
        have same := wrong.1
        rw [Option.some.injEq] at same
        exact once.2.1.1 (by rw [same]; exact List.mem_cons_self ..)
  cases List.eq_nil_or_concat' front with
  | inl empty =>
      rw [empty] at chain old split
      have foreign : owner ≠ thread := by
        intro same
        apply outer
        rw [← same, split]
        rfl
      rw [Function.update_of_ne foreign, old.1] at chain
      exact astray _ chain
  | inr behind =>
      obtain ⟨rest, before, rfl⟩ := behind
      rw [List.append_assoc, List.singleton_append] at old chain
      obtain ⟨previous, read, pointed⟩ := old.behind
      obtain ⟨other, reread, wrong⟩ := chain.behind
      have apart : before.1 ≠ entry.1 := by
        intro same
        rw [List.map_append, List.nodup_append] at once
        apply once.2.2 before.1 _ entry.1 (List.mem_cons_self ..) same
        simp
      rw [Function.update_of_ne apart, read] at reread
      cases reread
      rw [pointed.1] at wrong
      exact astray _ wrong

theorem step_led (owned : Owned state) (led : state.Led) (nested : Nested state action)
    (taken : step state action = some next) : next.Led := by
  cases action with
  | enter thread scope value =>
      unfold step at taken
      cases free : state.cells scope with
      | some cell => simp [free] at taken
      | none =>
          simp only [free, Option.some.injEq] at taken
          rw [← taken]
          exact enter_led owned led free
  | leave thread scope =>
      obtain ⟨cell, found, rfl⟩ := Option.map_eq_some_iff.mp taken
      exact leave_led owned led found nested

theorem step_astray (owned : Owned state) (led : state.Led) (crossed : ¬ Nested state action)
    (taken : step state action = some next) : ¬ next.Led := by
  cases action with
  | enter thread scope value => exact absurd trivial crossed
  | leave thread scope =>
      obtain ⟨cell, found, rfl⟩ := Option.map_eq_some_iff.mp taken
      exact leave_astray owned led found crossed

theorem step_sound (sound : Sound state) (nested : Nested state action)
    (taken : step state action = some next) : Sound next :=
  ⟨step_owned sound.1 taken, step_led sound.1 sound.2 nested taken⟩

end ScopeStack
