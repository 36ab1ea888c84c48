import TboxFramework.Log.LoggerRegistry
import TboxFramework.Library.Interleaving

/-!
# Loggers and the components they point to

A Logger keeps raw pointers, and an `init` after a `shutdown` replaces what they
point to. The state counts the inits that took effect and remembers for each
Logger how many there had been when it was obtained.
-/

namespace TboxFramework.Log

open TboxFramework.Store (Bytes text)
open Interleaving

set_option autoImplicit false

inductive Component
  | enricher
  | redactor
  | levelFilter
  | dispatcher
  | sinkManager
  deriving DecidableEq

inductive LogAction
  | init (service : Bytes) (config : LogConfig) (opens : Bool)
  | shutdown
  | get (module : Bytes)
  | log (logger : Nat) (level : LogLevel)
  | flush (logger : Nat)

structure LogState where
  registry : LoggerRegistry
  /-- The configuration of the last init that took effect. -/
  config : Option LogConfig
  inits : Nat
  /-- The Loggers obtained so far, each with the count of inits at that moment. -/
  loggers : List (Logger × Nat)

def LogState.start : LogState := ⟨LoggerRegistry.fresh, none, 0, []⟩

namespace LoggerRegistry

/-- The object behind a pointer, unless it has been replaced. -/
def dereference {Object : Type} (owner : Option (Owned Object)) (pointer : Nat) : Option Object :=
  match owner with
  | some owned => if owned.identity = pointer then some owned.object else none
  | none => none

def owner (registry : LoggerRegistry) : Component → Option Nat
  | .enricher => registry.enricher.map (·.identity)
  | .redactor => registry.redactor.map (·.identity)
  | .levelFilter => registry.levelFilter.map (·.identity)
  | .dispatcher => registry.dispatcher.map (·.identity)
  | .sinkManager => registry.sinkManager.map (·.identity)

/-- A component lives until the registry replaces it. -/
def Alive (registry : LoggerRegistry) (use : Component × Nat) : Prop :=
  registry.owner use.1 = some use.2

def Running (registry : LoggerRegistry) (pointer : Nat) : Prop :=
  ∃ dispatcher ∈ registry.dispatcher, dispatcher.identity = pointer ∧
    dispatcher.object.running = true

end LoggerRegistry

namespace LoggerImpl

/-- Where `log` hands the line over: a null dispatcher means the sinks. -/
def target (impl : LoggerImpl) : Component × Nat :=
  match impl.dispatcher with
  | some dispatcher => (.dispatcher, dispatcher)
  | none => (.sinkManager, impl.sinkManager)

/-- The components that `log` uses. A filter that is gone decides nothing. -/
def logUses (impl : LoggerImpl) (registry : LoggerRegistry) (level : LogLevel) :
    List (Component × Nat) :=
  (.levelFilter, impl.levelFilter) ::
    match LoggerRegistry.dereference registry.levelFilter impl.levelFilter with
    | none => []
    | some filter =>
        if filter.shouldLog level (moduleName impl.module) then
          [(.enricher, impl.enricher), (.redactor, impl.redactor), impl.target]
        else []

def flushUses (impl : LoggerImpl) : List (Component × Nat) :=
  (impl.dispatcher.map fun dispatcher => (Component.dispatcher, dispatcher)).toList ++
    [(.sinkManager, impl.sinkManager)]

end LoggerImpl

def LogState.step (state : LogState) : LogAction → Option LogState
  | .init service config opens =>
      let after := (state.registry.init service config opens).2
      some (if state.registry.initialized then { state with registry := after }
        else { state with registry := after, config := some config, inits := state.inits + 1 })
  | .shutdown => some { state with registry := state.registry.shutdown }
  | .get module =>
      some { state with
        loggers := state.loggers ++ [(state.registry.getLogger module, state.inits)] }
  | .log logger _ => guarded (logger < state.loggers.length) state
  | .flush logger => guarded (logger < state.loggers.length) state

/-- The uses are of live components, and a dispatcher among them runs if the registry
is initialised with the asynchronous mode on. -/
def LiveUses (state : LogState) (uses : List (Component × Nat)) : Prop :=
  (∀ use ∈ uses, state.registry.Alive use) ∧
    ∀ pointer, (Component.dispatcher, pointer) ∈ uses → state.registry.initialized = true →
      (∀ config ∈ state.config, config.asyncConfig.enabled = true) →
      state.registry.Running pointer

/-- The call on the Logger with this number, if it has an implementation. -/
def OnLogger (state : LogState) (logger : Nat) (property : LoggerImpl → Nat → Prop) : Prop :=
  ∀ impl obtained, state.loggers[logger]? = some (some impl, obtained) → property impl obtained

def UsesLive (state : LogState) : LogAction → Prop
  | .log logger level =>
      OnLogger state logger fun impl _ => LiveUses state (impl.logUses state.registry level)
  | .flush logger => OnLogger state logger fun impl _ => LiveUses state impl.flushUses
  | _ => True

/-- Since the Logger was obtained, no init has replaced the components. -/
def UsesCurrent (state : LogState) : LogAction → Prop
  | .log logger _ => OnLogger state logger fun _ obtained => obtained = state.inits
  | .flush logger => OnLogger state logger fun _ obtained => obtained = state.inits
  | _ => True

/-! ## The invariant -/

/-- The pointers of a Logger are the current components. -/
structure Points (registry : LoggerRegistry) (impl : LoggerImpl) : Prop where
  enricher : registry.owner .enricher = some impl.enricher
  redactor : registry.owner .redactor = some impl.redactor
  levelFilter : registry.owner .levelFilter = some impl.levelFilter
  dispatcher : registry.owner .dispatcher = impl.dispatcher
  sinkManager : registry.owner .sinkManager = some impl.sinkManager

/-- The two components that every call of a Logger uses have been replaced. -/
structure Stale (registry : LoggerRegistry) (impl : LoggerImpl) : Prop where
  levelFilter : registry.owner .levelFilter ≠ some impl.levelFilter
  sinkManager : registry.owner .sinkManager ≠ some impl.sinkManager

structure LifetimeInvariant (state : LogState) : Prop where
  /-- Identities are never used again. -/
  older : ∀ component identity, state.registry.owner component = some identity →
    identity < state.registry.created
  kept : ∀ impl obtained, (some impl, obtained) ∈ state.loggers →
    impl.levelFilter < state.registry.created ∧ impl.sinkManager < state.registry.created
  current : ∀ impl, (some impl, state.inits) ∈ state.loggers → Points state.registry impl
  replaced : ∀ impl obtained, (some impl, obtained) ∈ state.loggers → obtained ≠ state.inits →
    Stale state.registry impl
  past : ∀ logger obtained, (logger, obtained) ∈ state.loggers → obtained ≤ state.inits
  running : state.registry.initialized = true → ∀ dispatcher ∈ state.registry.dispatcher,
    dispatcher.object.running = true

theorem lifetime_invariant_start : LifetimeInvariant LogState.start := by
  constructor <;> simp [LogState.start, LoggerRegistry.fresh, LoggerRegistry.owner]
  intro component
  cases component <;> simp

theorem get_logger_points {registry : LoggerRegistry} {module : Bytes} {impl : LoggerImpl}
    (obtained : registry.getLogger module = some impl) : Points registry impl := by
  unfold LoggerRegistry.getLogger at obtained
  split at obtained
  · split at obtained
    · next enricher redactor levelFilter sinkManager =>
        cases obtained
        constructor <;> simp [LoggerRegistry.owner, *]
    · cases obtained
  · cases obtained

theorem owner_shutdown (registry : LoggerRegistry) (component : Component) :
    registry.shutdown.owner component = registry.owner component := by
  cases component <;> simp [LoggerRegistry.owner, LoggerRegistry.shutdown, LoggerRegistry.stopped,
    Function.comp_def]

/-- An init that takes effect owns new objects only. -/
theorem owner_init {registry : LoggerRegistry} (idle : registry.initialized = false)
    (service : Bytes) (config : LogConfig) (opens : Bool) :
    let after := (registry.init service config opens).2
    after.created = registry.created + 5 ∧
      ∀ component identity, after.owner component = some identity →
        registry.created ≤ identity ∧ identity < registry.created + 5 := by
  simp only [LoggerRegistry.init, idle, Bool.false_eq_true, if_false, true_and]
  intro component identity owned
  cases component <;> simp only [LoggerRegistry.owner, Option.map_some, Option.some.injEq] at owned
  case dispatcher =>
    split at owned
    · simp only [Option.map_some, Option.some.injEq] at owned
      omega
    · cases owned
  all_goals omega

theorem init_invariant {state : LogState} (holds : LifetimeInvariant state)
    (idle : state.registry.initialized = false) (service : Bytes) (config : LogConfig)
    (opens : Bool) :
    LifetimeInvariant { state with
      registry := (state.registry.init service config opens).2
      config := some config
      inits := state.inits + 1 } := by
  obtain ⟨created, fresh⟩ := owner_init idle service config opens
  refine ⟨?_, ?_, ?_, ?_, ?_, ?_⟩
  · intro component identity owned
    exact created ▸ (fresh component identity owned).2
  · intro impl obtained member
    have bounds := holds.kept impl obtained member
    simp only [created]
    omega
  · intro impl member
    have bound : state.inits + 1 ≤ state.inits := holds.past _ _ member
    omega
  · -- Every Logger obtained so far points below the new identities.
    intro impl obtained member _
    have bounds := holds.kept impl obtained member
    constructor
    · intro owned
      have above := (fresh .levelFilter _ owned).1
      omega
    · intro owned
      have above := (fresh .sinkManager _ owned).1
      omega
  · intro logger obtained member
    exact Nat.le_succ_of_le (holds.past logger obtained member)
  · intro _ dispatcher owned
    simp only [LoggerRegistry.init, idle, Bool.false_eq_true, if_false] at owned
    split at owned
    · cases owned
      rfl
    · cases owned

theorem shutdown_invariant {state : LogState} (holds : LifetimeInvariant state) :
    LifetimeInvariant { state with registry := state.registry.shutdown } := by
  refine ⟨?_, holds.kept, ?_, ?_, holds.past, ?_⟩
  · intro component identity owned
    exact holds.older component identity ((owner_shutdown ..).symm.trans owned)
  · intro impl member
    have points := holds.current impl member
    constructor <;> rw [owner_shutdown]
    exacts [points.enricher, points.redactor, points.levelFilter, points.dispatcher,
      points.sinkManager]
  · intro impl obtained member differs
    have stale := holds.replaced impl obtained member differs
    constructor <;> rw [owner_shutdown]
    exacts [stale.levelFilter, stale.sinkManager]
  · rintro ⟨⟩

theorem get_invariant {state : LogState} (holds : LifetimeInvariant state) (module : Bytes) :
    LifetimeInvariant { state with
      loggers := state.loggers ++ [(state.registry.getLogger module, state.inits)] } := by
  have new : ∀ {impl obtained}, (some impl, obtained) ∈
      state.loggers ++ [(state.registry.getLogger module, state.inits)] →
      (some impl, obtained) ∈ state.loggers ∨
        obtained = state.inits ∧ Points state.registry impl := by
    intro impl obtained member
    refine (List.mem_append.mp member).imp id fun last => ?_
    obtain ⟨same, rfl⟩ := Prod.mk.inj (List.mem_singleton.mp last)
    exact ⟨rfl, get_logger_points same.symm⟩
  refine ⟨holds.older, ?_, ?_, ?_, ?_, holds.running⟩
  · intro impl obtained member
    rcases new member with old | ⟨-, points⟩
    · exact holds.kept impl obtained old
    · exact ⟨holds.older _ _ points.levelFilter, holds.older _ _ points.sinkManager⟩
  · intro impl member
    rcases new member with old | ⟨-, points⟩
    · exact holds.current impl old
    · exact points
  · intro impl obtained member differs
    rcases new member with old | ⟨same, -⟩
    · exact holds.replaced impl obtained old differs
    · exact absurd same differs
  · intro logger obtained member
    rcases List.mem_append.mp member with old | last
    · exact holds.past logger obtained old
    · obtain ⟨-, rfl⟩ := Prod.mk.inj (List.mem_singleton.mp last)
      exact Nat.le_refl _

theorem lifetime_invariant_step (state : LogState) (action : LogAction) (next : LogState)
    (holds : LifetimeInvariant state) (taken : state.step action = some next) :
    LifetimeInvariant next := by
  cases action with
  | init service config opens =>
      cases taken
      cases idle : state.registry.initialized with
      | false => exact init_invariant holds idle service config opens
      | true => simpa [LoggerRegistry.init, idle] using holds
  | shutdown =>
      cases taken
      exact shutdown_invariant holds
  | get module =>
      cases taken
      exact get_invariant holds module
  | log logger level =>
      obtain ⟨-, rfl⟩ := (guarded_eq_some _ _ _).mp taken
      exact holds
  | flush logger =>
      obtain ⟨-, rfl⟩ := (guarded_eq_some _ _ _).mp taken
      exact holds

/-! ## Live uses are uses of current components -/

/-- A Logger that points to the current components makes live uses only. -/
theorem live_of_points {state : LogState} (holds : LifetimeInvariant state) {impl : LoggerImpl}
    (points : Points state.registry impl) {uses : List (Component × Nat)}
    (own : ∀ use ∈ uses, use ∈ [(Component.levelFilter, impl.levelFilter),
      (.enricher, impl.enricher), (.redactor, impl.redactor), (.sinkManager, impl.sinkManager)] ∨
      ∃ pointer, impl.dispatcher = some pointer ∧ use = (.dispatcher, pointer)) :
    LiveUses state uses := by
  constructor
  · intro use member
    rcases own use member with fixed | ⟨pointer, dispatcher, rfl⟩
    · simp only [List.mem_cons, List.not_mem_nil, or_false] at fixed
      rcases fixed with rfl | rfl | rfl | rfl
      exacts [points.levelFilter, points.enricher, points.redactor, points.sinkManager]
    · exact points.dispatcher.trans dispatcher
  · intro pointer member initialized _
    rcases own _ member with fixed | ⟨_, dispatcher, ⟨⟩⟩
    · simp at fixed
    · have owned := points.dispatcher.trans dispatcher
      obtain ⟨current, present, same⟩ := Option.map_eq_some_iff.mp owned
      exact ⟨current, present, same, holds.running initialized current present⟩

theorem log_uses_own (impl : LoggerImpl) (registry : LoggerRegistry) (level : LogLevel) :
    ∀ use ∈ impl.logUses registry level, use ∈ [(Component.levelFilter, impl.levelFilter),
      (.enricher, impl.enricher), (.redactor, impl.redactor), (.sinkManager, impl.sinkManager)] ∨
      ∃ pointer, impl.dispatcher = some pointer ∧ use = (.dispatcher, pointer) := by
  have handed : impl.target = (.sinkManager, impl.sinkManager) ∨
      ∃ pointer, impl.dispatcher = some pointer ∧ impl.target = (.dispatcher, pointer) := by
    unfold LoggerImpl.target
    cases impl.dispatcher with
    | none => exact .inl rfl
    | some pointer => exact .inr ⟨pointer, rfl, rfl⟩
  intro use member
  unfold LoggerImpl.logUses at member
  rcases List.mem_cons.mp member with rfl | later
  · simp
  · split at later
    · cases later
    · split at later
      · simp only [List.mem_cons, List.not_mem_nil, or_false] at later
        rcases later with rfl | rfl | rfl
        · simp
        · simp
        · rcases handed with same | there
          · simp [same]
          · exact .inr there
      · cases later

theorem uses_live_iff (state : LogState) (action : LogAction) (holds : LifetimeInvariant state) :
    UsesLive state action ↔ UsesCurrent state action := by
  have either : ∀ (impl : LoggerImpl) (obtained logger : Nat),
      state.loggers[logger]? = some (some impl, obtained) →
      obtained = state.inits ∧ Points state.registry impl ∨
        obtained ≠ state.inits ∧ Stale state.registry impl := by
    intro impl obtained logger placed
    have member := List.mem_of_getElem? placed
    by_cases same : obtained = state.inits
    · exact .inl ⟨same, holds.current impl (same ▸ member)⟩
    · exact .inr ⟨same, holds.replaced impl obtained member same⟩
  cases action with
  | init service config opens => exact Iff.rfl
  | shutdown => exact Iff.rfl
  | get module => exact Iff.rfl
  | log logger level =>
      refine forall_congr' fun impl => forall_congr' fun obtained => forall_congr' fun placed => ?_
      rcases either impl obtained logger placed with ⟨same, points⟩ | ⟨differs, stale⟩
      · exact iff_of_true (live_of_points holds points (log_uses_own impl _ level)) same
      · refine iff_of_false (fun live => ?_) differs
        exact stale.levelFilter (live.1 _ (List.mem_cons_self ..))
  | flush logger =>
      refine forall_congr' fun impl => forall_congr' fun obtained => forall_congr' fun placed => ?_
      rcases either impl obtained logger placed with ⟨same, points⟩ | ⟨differs, stale⟩
      · refine iff_of_true (live_of_points holds points fun use member => ?_) same
        rcases List.mem_append.mp member with dispatcher | sinks
        · obtain ⟨pointer, present, rfl⟩ := by simpa using dispatcher
          exact .inr ⟨pointer, present, rfl⟩
        · simp [List.mem_singleton.mp sinks]
      · refine iff_of_false (fun live => ?_) differs
        have sinks : (Component.sinkManager, impl.sinkManager) ∈ impl.flushUses :=
          List.mem_append_right _ (List.mem_singleton_self _)
        exact stale.sinkManager (live.1 _ sinks)

/-- In every run, all uses are live exactly when no Logger is used after an init has
replaced its components. -/
theorem loggers_use_live_components_iff (actions : List LogAction) :
    Along LogState.step UsesLive LogState.start actions ↔
      Along LogState.step UsesCurrent LogState.start actions :=
  along_iff_of_invariant LifetimeInvariant lifetime_invariant_step uses_live_iff
    lifetime_invariant_start actions

/-- A Logger kept from before a shutdown is used after the next init. -/
def keptLogger : List LogAction :=
  [.init (text "diag") {} true, .get (text "ipc"), .shutdown, .init (text "diag") {} true,
    .log 0 .kError]

theorem kept_logger_uses_replaced_filter :
    ¬∀ actions, Along LogState.step UsesLive LogState.start actions := by
  intro all
  have live := ((((all keptLogger).2 _ rfl).2 _ rfl).2 _ rfl).2 _ rfl
  have filter : some 7 = some 2 := (live.1 _ _ rfl).1 _ (List.mem_cons_self ..)
  cases filter

end TboxFramework.Log
