import TboxFramework.Application.LifeCycle

/-!
# What signals can do to a run

Whenever signals arrive, the thread of `run` does what it does without them: they set the
flag that it reads once, or they end the process. From the call of `initialize` on only
the fatal signals and those that no list names can do that.
-/

namespace TboxFramework.Application

open Interleaving
open TboxFramework.Store (Bytes text)

set_option autoImplicit false

def Registration.entry (registration : Registration) : Int32 × SigAction :=
  (registration.signal, registration.action)

/-- What is installed when all calls were taken. -/
def SignalLists.entries (lists : SignalLists) : List (Int32 × SigAction) :=
  lists.registrations.map Registration.entry

def SignalLists.Valid (lists : SignalLists) : Prop :=
  validateSignalSets lists.gracefulSignals lists.fatalSignals lists.ignoredSignals = []

/-- All dispositions are in place. -/
structure Complete (app : App) (state : AppState) : Prop where
  valid : app.lists.Valid
  entries : state.installed = app.lists.entries

def AppState.HasInitialized (state : AppState) : Prop :=
  .called .initialization ∈ state.events

/-- What can be said of the dispositions at any time. -/
structure Installing (app : App) (state : AppState) : Prop where
  begun : state.installed <+: app.lists.entries
  valid : state.installed ≠ [] → app.lists.Valid
  complete : state.HasInitialized → Complete app state

/-- How far the calls of `sigaction` have come in each phase. -/
def AppState.InPhase (app : App) (state : AppState) : Phase → Prop
  | .loading | .settingUpLog | .validating => state.installed = [] ∧ ¬ state.HasInitialized
  | .registering left =>
      app.lists.Valid ∧ state.installed ++ left.map Registration.entry = app.lists.entries ∧
        ¬ state.HasInitialized
  | .initializing | .executing | .cleaning _ | .finishing _ => Complete app state
  | .ended _ | .dead _ => Installing app state

variable {app : App} {terminates : Int32 → Bool} {state next : AppState}

theorem installing_of_empty (empty : state.installed = []) (uncalled : ¬ state.HasInitialized) :
    Installing app state where
  begun := empty ▸ List.nil_prefix
  valid := fun some => absurd empty some
  complete := fun called => absurd called uncalled

theorem installing_of_complete (complete : Complete app state) : Installing app state where
  begun := complete.entries ▸ List.prefix_refl _
  valid := fun _ => complete.valid
  complete := fun _ => complete

theorem AppState.InPhase.installing (inPhase : state.InPhase app state.phase) :
    Installing app state := by
  cases here : state.phase <;> rw [here] at inPhase
  case loading | settingUpLog | validating => exact installing_of_empty inPhase.1 inPhase.2
  case registering left =>
      exact ⟨⟨_, inPhase.2.1⟩, fun _ => inPhase.1, fun called => absurd called inPhase.2.2⟩
  case initializing | executing | cleaning | finishing => exact installing_of_complete inPhase
  case ended | dead => exact inPhase

/-- Signals and requests change neither the dispositions nor the events. -/
theorem Installing.transfer (installing : Installing app state)
    (installed : next.installed = state.installed) (events : next.events = state.events) :
    Installing app next := by
  obtain ⟨begun, valid, complete⟩ := installing
  constructor
  · rwa [installed]
  · rwa [installed]
  · intro called
    unfold AppState.HasInitialized at called
    rw [events] at called
    exact ⟨(complete called).valid, installed.trans (complete called).entries⟩

theorem AppState.InPhase.transfer (inPhase : state.InPhase app state.phase)
    (installed : next.installed = state.installed) (events : next.events = state.events)
    (phase : next.phase = state.phase ∨ ∃ death, next.phase = .dead death) :
    next.InPhase app next.phase := by
  rcases phase with same | ⟨death, dead⟩
  · rw [same]
    cases here : state.phase <;> rw [here] at inPhase <;>
      simp only [InPhase, HasInitialized, installed, events] at inPhase ⊢ <;>
      first
      | exact inPhase
      | exact ⟨inPhase.valid, installed.trans inPhase.entries⟩
      | exact inPhase.transfer installed events
  · rw [dead]
    exact inPhase.installing.transfer installed events

/-- A phase before the registration that ends or goes on to the next such phase. -/
theorem in_phase_early (early : state.installed = [] ∧ ¬ state.HasInitialized)
    {stage : Stage} {answer : CallEnd Bool} {passed : List RunEvent} {later : Phase}
    {failed : List RunEvent} (other : stage ≠ .initialization)
    (plain : ∀ stage, .called stage ∉ passed ++ failed)
    (continues : later = .settingUpLog ∨ later = .validating)
    (same : next = { state with
      phase := (Phase.afterCall stage answer fun value =>
        if value then (passed, later) else (failed, .ended failure)).2
      events := state.events ++ (Phase.afterCall stage answer fun value =>
        if value then (passed, later) else (failed, .ended failure)).1 }) :
    next.InPhase app next.phase := by
  have uncalled : ¬ next.HasInitialized := by
    have neither := plain .initialization
    rw [List.mem_append, not_or] at neither
    unfold AppState.HasInitialized at early ⊢
    rw [same]
    cases answer with
    | returned value =>
        cases value <;>
          simp [Phase.afterCall, early.2, neither.1, neither.2, Ne.symm other]
    | threw what => simp [Phase.afterCall, early.2, Ne.symm other]
    | threwOther => simp [Phase.afterCall, early.2, Ne.symm other]
  have empty : next.installed = [] := by
    rw [same]
    exact early.1
  have installing : Installing app next := installing_of_empty empty uncalled
  cases answer with
  | returned value =>
      cases value with
      | true =>
          have phase : next.phase = later := by rw [same]; rfl
          rw [phase]
          cases continues with
          | inl setting => rw [setting]; exact ⟨empty, uncalled⟩
          | inr validating => rw [validating]; exact ⟨empty, uncalled⟩
      | false =>
          have phase : next.phase = .ended failure := by rw [same]; rfl
          rw [phase]
          exact installing
  | threw what =>
      have phase : next.phase = .ended failure := by rw [same]; rfl
      rw [phase]
      exact installing
  | threwOther =>
      have phase : next.phase = .ended .escaped := by rw [same]; rfl
      rw [phase]
      exact installing

/-- After the registration every phase is complete or the end. -/
theorem in_phase_late (complete : Complete app state) (installed : next.installed = state.installed)
    (phase : next.phase = .executing ∨ (∃ result, next.phase = .cleaning result) ∨
      (∃ result, next.phase = .finishing result) ∨ ∃ outcome, next.phase = .ended outcome) :
    next.InPhase app next.phase := by
  have still : Complete app next := ⟨complete.valid, installed.trans complete.entries⟩
  rcases phase with later | ⟨result, later⟩ | ⟨result, later⟩ | ⟨outcome, later⟩
  · rw [later]
    exact still
  · rw [later]
    exact still
  · rw [later]
    exact still
  · rw [later]
    exact installing_of_complete still

theorem proceed_in_phase (inPhase : state.InPhase app state.phase)
    (taken : app.proceed state state.phase = some next) : next.InPhase app next.phase := by
  cases here : state.phase <;> rw [here] at taken inPhase
  case loading =>
      have same := Option.some.inj taken
      refine in_phase_early inPhase ?_ ?_ (.inl rfl) same.symm
      · decide
      · simp
  case settingUpLog =>
      have same := Option.some.inj taken
      refine in_phase_early inPhase ?_ ?_ (.inr rfl) same.symm
      · decide
      · simp [App.loaded]
  case validating =>
      have uncalled := inPhase.2
      simp only [App.proceed] at taken
      split at taken
      · cases taken
        refine installing_of_empty inPhase.1 ?_
        unfold AppState.HasInitialized at uncalled ⊢
        simp [uncalled, App.installFailed]
      · next valid =>
          cases taken
          refine ⟨not_not.mp valid, ?_, uncalled⟩
          simp only [inPhase.1, List.nil_append]
          rfl
  case registering left =>
      obtain ⟨valid, whole, uncalled⟩ := inPhase
      cases left with
      | nil =>
          cases taken
          exact ⟨valid, by simpa using whole⟩
      | cons registration left =>
          simp only [App.proceed] at taken
          split at taken
          · cases taken
            refine ⟨valid, ?_, uncalled⟩
            simp only [List.append_assoc]
            exact whole
          · cases taken
            refine ⟨⟨_, whole⟩, fun _ => valid, fun called => ?_⟩
            unfold AppState.HasInitialized at uncalled called
            simp [uncalled, App.installFailed] at called
  case initializing =>
      have same := Option.some.inj taken
      refine in_phase_late inPhase (by rw [← same]) ?_
      rw [← same]
      cases app.initialization with
      | returned value => cases value <;> simp
      | threw what => simp
      | threwOther => simp
  case executing =>
      have same := Option.some.inj taken
      refine in_phase_late inPhase (by rw [← same]) ?_
      rw [← same]
      cases app.execute <;> simp
  case cleaning result =>
      have same := Option.some.inj taken
      refine in_phase_late inPhase (by rw [← same]) ?_
      rw [← same]
      cases app.cleanup <;> simp
  case finishing result =>
      have same := Option.some.inj taken
      refine in_phase_late inPhase (by rw [← same]) ?_
      rw [← same]
      simp
  case ended | dead => cases taken

/-! ## Steps of signals and requests -/

theorem deliver_cases (signal : Int32) :
    (state.deliver terminates signal).installed = state.installed ∧
      (state.deliver terminates signal).events = state.events ∧
      (state.deliver terminates signal).shutdownRequested = state.shutdownRequested ∧
      ((state.deliver terminates signal).phase = state.phase ∨
        (state.deliver terminates signal).phase = .dead (.exited (128 + signal.toInt)) ∧
          state.disposition signal = some .fatalSignalHandler ∨
        (state.deliver terminates signal).phase = .dead (.signaled signal) ∧
          state.disposition signal = none ∧ terminates signal = true) := by
  unfold AppState.deliver
  split
  · exact ⟨rfl, rfl, rfl, .inl rfl⟩
  · next fatal => exact ⟨rfl, rfl, rfl, .inr (.inl ⟨rfl, fatal⟩)⟩
  · exact ⟨rfl, rfl, rfl, .inl rfl⟩
  · next default =>
      split
      · next ends => exact ⟨rfl, rfl, rfl, .inr (.inr ⟨rfl, default, ends⟩)⟩
      · exact ⟨rfl, rfl, rfl, .inl rfl⟩

theorem life_step_in_phase {action : LifeAction} (inPhase : state.InPhase app state.phase)
    (taken : lifeStep app terminates state action = some next) : next.InPhase app next.phase := by
  cases action with
  | proceed => exact proceed_in_phase inPhase taken
  | deliver signal =>
      obtain ⟨_, rfl⟩ := (guarded_eq_some ..).mp taken
      obtain ⟨installed, events, _, phase⟩ := @deliver_cases terminates state signal
      apply inPhase.transfer installed events
      rcases phase with same | ⟨dead, _⟩ | ⟨dead, _⟩
      · exact .inl same
      · exact .inr ⟨_, dead⟩
      · exact .inr ⟨_, dead⟩
  | store | requestShutdown =>
      obtain ⟨_, rfl⟩ := (guarded_eq_some ..).mp taken
      exact inPhase.transfer rfl rfl (.inl rfl)

theorem initial_in_phase (app : App) : AppState.initial.InPhase app .loading :=
  ⟨rfl, by simp [AppState.HasInitialized, AppState.initial]⟩

/-! ## Dispositions -/

theorem disposition_installed {signal : Int32} {handler : Handler}
    (found : state.disposition signal = some handler) :
    ∃ action, (signal, action) ∈ state.installed ∧ action.handler = handler := by
  obtain ⟨action, looked, rfl⟩ := Option.map_eq_some_iff.mp found
  obtain ⟨front, back, split, _⟩ := List.lookup_eq_some_iff.mp looked
  refine ⟨action, ?_, rfl⟩
  rw [← List.mem_reverse, split]
  simp

theorem disposition_none {signal : Int32} (absent : state.disposition signal = none) :
    signal ∉ state.installed.map Prod.fst := by
  have looked := Option.map_eq_none_iff.mp absent
  rw [List.lookup_eq_none_iff] at looked
  intro member
  obtain ⟨entry, inside, rfl⟩ := List.mem_map.mp member
  have differs := looked entry (List.mem_reverse.mpr inside)
  simp at differs

theorem mem_entries {lists : SignalLists} {signal : Int32} {action : SigAction} :
    (signal, action) ∈ lists.entries ↔
      (signal ∈ lists.gracefulSignals ∧ action = gracefulAction) ∨
        (signal ∈ lists.fatalSignals ∧ action = fatalAction) ∨
          signal ∈ lists.ignoredSignals ∧ action = ignoredAction := by
  unfold SignalLists.entries SignalLists.registrations registrationsOf
  simp only [List.map_append, List.map_map, List.mem_append, List.mem_map, Function.comp_apply,
    Registration.entry, Prod.mk.injEq]
  constructor
  · intro member
    rcases member with ⟨_, inside, rfl, rfl⟩ | ⟨_, inside, rfl, rfl⟩ | ⟨_, inside, rfl, rfl⟩
    · exact .inl ⟨inside, rfl⟩
    · exact .inr (.inl ⟨inside, rfl⟩)
    · exact .inr (.inr ⟨inside, rfl⟩)
  · intro member
    rcases member with ⟨inside, rfl⟩ | ⟨inside, rfl⟩ | ⟨inside, rfl⟩
    · exact .inl ⟨signal, inside, rfl, rfl⟩
    · exact .inr (.inl ⟨signal, inside, rfl, rfl⟩)
    · exact .inr (.inr ⟨signal, inside, rfl, rfl⟩)

/-- Only a signal of the fatal list gets the handler that ends the process. -/
theorem fatal_disposition (installing : Installing app state) {signal : Int32}
    (found : state.disposition signal = some .fatalSignalHandler) :
    signal ∈ app.lists.fatalSignals ∧ signal ∉ app.lists.gracefulSignals ∧
      signal ∉ app.lists.ignoredSignals := by
  obtain ⟨action, inside, handler⟩ := disposition_installed found
  have listed : signal ∈ app.lists.fatalSignals := by
    rcases mem_entries.mp (installing.begun.subset inside) with ⟨_, rfl⟩ | ⟨member, _⟩ | ⟨_, rfl⟩
    · cases handler
    · exact member
    · cases handler
  have consistent := (validate_iff _ _ _).mp (installing.valid (List.ne_nil_of_mem inside))
  exact ⟨listed, fun member => consistent.disjoint.1 member listed,
    fun member => consistent.disjoint.2.2 listed member⟩

def SignalLists.Names (lists : SignalLists) (signal : Int32) : Prop :=
  signal ∈ lists.gracefulSignals ∨ signal ∈ lists.fatalSignals ∨ signal ∈ lists.ignoredSignals

/-- Once `initialize` has been called, only signals of no list are left to the system. -/
theorem default_disposition (installing : Installing app state) {signal : Int32}
    (absent : state.disposition signal = none) (called : state.HasInitialized) :
    ¬ app.lists.Names signal := by
  intro named
  apply disposition_none absent
  rw [(installing.complete called).entries, List.mem_map]
  rcases named with graceful | fatal | ignored
  · exact ⟨(signal, gracefulAction), mem_entries.mpr (.inl ⟨graceful, rfl⟩), rfl⟩
  · exact ⟨(signal, fatalAction), mem_entries.mpr (.inr (.inl ⟨fatal, rfl⟩)), rfl⟩
  · exact ⟨(signal, ignoredAction), mem_entries.mpr (.inr (.inr ⟨ignored, rfl⟩)), rfl⟩

/-! ## The story of a run -/

/-- Whether the flag was set by these actions. -/
def Requested (actions : List LifeAction) : Prop :=
  .store ∈ actions ∨ .requestShutdown ∈ actions

instance (actions : List LifeAction) : Decidable (Requested actions) :=
  inferInstanceAs (Decidable (_ ∨ _))

/-- How a signal may have ended the process. -/
def Killed (app : App) (terminates : Int32 → Bool) (state : AppState) (signal : Int32)
    (death : Death) : Prop :=
  (death = .exited (128 + signal.toInt) ∧ signal ∈ app.lists.fatalSignals ∧
      signal ∉ app.lists.gracefulSignals ∧ signal ∉ app.lists.ignoredSignals) ∨
    (death = .signaled signal ∧ terminates signal = true ∧
      (state.HasInitialized → ¬ app.lists.Names signal))

structure LifeStory (app : App) (terminates : Int32 → Bool) (past : List LifeAction)
    (state : AppState) : Prop where
  /-- Interrupted or not, the thread does what it would do alone. -/
  begun : ∃ requested, state.events <+: (app.run requested).1
  /-- The flag counts as it is when the thread reads it. -/
  ended : ∀ outcome, state.phase = .ended outcome →
    ∃ front back, past = front ++ .proceed :: back ∧ .proceed ∉ back ∧
      app.run (decide (Requested front)) = (state.events, outcome)
  dead : ∀ death, state.phase = .dead death →
    ∃ front signal, past = front ++ [.deliver signal] ∧ Killed app terminates state signal death
  flag : state.shutdownRequested = true ↔ Requested past
  stores : state.notices.count gracefulNotice = past.count .store + state.storing

/-- Neither over nor dead. -/
def Phase.isRunning : Phase → Prop
  | .ended _ => False
  | .dead _ => False
  | _ => True

/-- What is left of the run, whatever the flag will be. -/
structure LifeTold (app : App) (terminates : Int32 → Bool) (past : List LifeAction)
    (state : AppState) : Prop where
  story : LifeStory app terminates past state
  running : state.phase.isRunning → ∀ requested, app.run requested =
    after state.events (app.continueFrom requested state.installed state.phase)

theorem proceed_phase (taken : app.proceed state state.phase = some next) :
    state.phase.isRunning ∧ (next.phase.isRunning ∨ ∃ outcome, next.phase = .ended outcome) ∧
      ((∃ result, state.phase = .finishing result) → ∃ outcome, next.phase = .ended outcome) := by
  cases here : state.phase <;> rw [here] at taken
  case loading =>
      rw [← Option.some.inj taken]
      cases app.loadConfig with
      | returned value => cases value <;> simp [Phase.isRunning]
      | threw what => simp [Phase.isRunning]
      | threwOther => simp [Phase.isRunning]
  case settingUpLog =>
      rw [← Option.some.inj taken]
      cases app.setupLogging with
      | returned value => cases value <;> simp [Phase.isRunning]
      | threw what => simp [Phase.isRunning]
      | threwOther => simp [Phase.isRunning]
  case validating =>
      simp only [App.proceed] at taken
      split at taken <;> cases taken <;> simp [Phase.isRunning]
  case registering left =>
      cases left with
      | nil =>
          cases taken
          simp [Phase.isRunning]
      | cons registration left =>
          simp only [App.proceed] at taken
          split at taken <;> cases taken <;> simp [Phase.isRunning]
  case initializing =>
      rw [← Option.some.inj taken]
      cases app.initialization with
      | returned value => cases value <;> simp [Phase.isRunning]
      | threw what => simp [Phase.isRunning]
      | threwOther => simp [Phase.isRunning]
  case executing =>
      rw [← Option.some.inj taken]
      cases app.execute <;> simp [Phase.isRunning]
  case cleaning result =>
      rw [← Option.some.inj taken]
      cases app.cleanup <;> simp [Phase.isRunning]
  case finishing result =>
      rw [← Option.some.inj taken]
      simp [Phase.isRunning]
  case ended | dead => cases taken

theorem proceed_told {past : List LifeAction} (told : LifeTold app terminates past state)
    (inPhase : state.InPhase app state.phase)
    (taken : app.proceed state state.phase = some next) :
    LifeTold app terminates (past ++ [.proceed]) next := by
  obtain ⟨alive, phase, finishing⟩ := proceed_phase taken
  have fresh : state.phase = .validating → state.installed = [] := by
    intro here
    rw [here] at inPhase
    exact inPhase.1
  have same := (proceed_continues taken fresh fun _ _ => rfl).2
  have whole : app.run state.shutdownRequested =
      after next.events (app.continueFrom state.shutdownRequested next.installed next.phase) :=
    (told.running alive _).trans (proceed_continues taken fresh fun _ _ => rfl).1
  have flag : decide (Requested past) = state.shutdownRequested := by
    rw [Bool.eq_iff_iff, decide_eq_true_eq]
    exact told.story.flag.symm
  refine ⟨⟨?_, ?_, ?_, ?_, ?_⟩, ?_⟩
  · refine ⟨state.shutdownRequested, ?_⟩
    rw [whole]
    exact List.prefix_append _ _
  · intro outcome ending
    refine ⟨past, [], rfl, List.not_mem_nil, ?_⟩
    rw [flag, whole, ending]
    exact after_ended _ _
  · intro death dead
    rcases phase with running | ⟨outcome, ending⟩
    · rw [dead] at running
      exact running.elim
    · rw [ending] at dead
      cases dead
  · rw [same.flag, told.story.flag]
    simp [Requested]
  · rw [same.notices, same.storing, told.story.stores, List.count_append]
    rfl
  · intro running requested
    refine (told.running alive requested).trans (proceed_continues taken fresh ?_).1
    intro result here
    obtain ⟨outcome, ending⟩ := finishing ⟨result, here⟩
    rw [ending] at running
    exact running.elim

/-- A step that the thread does not notice. -/
theorem LifeTold.unnoticed {past : List LifeAction} {action : LifeAction}
    (told : LifeTold app terminates past state) (other : action ≠ .proceed)
    (events : next.events = state.events) (installed : next.installed = state.installed)
    (phase : next.phase = state.phase ∨ ∃ death, next.phase = .dead death)
    (dead : ∀ death, next.phase = .dead death →
      ∃ front signal, past ++ [action] = front ++ [.deliver signal] ∧
        Killed app terminates next signal death)
    (flag : next.shutdownRequested = true ↔ Requested (past ++ [action]))
    (stores : next.notices.count gracefulNotice =
      (past ++ [action]).count .store + next.storing) :
    LifeTold app terminates (past ++ [action]) next := by
  refine ⟨⟨?_, ?_, dead, flag, stores⟩, ?_⟩
  · rw [events]
    exact told.story.begun
  · intro outcome ending
    rcases phase with same | ⟨death, died⟩
    · rw [same] at ending
      obtain ⟨front, back, split, silent, record⟩ := told.story.ended outcome ending
      refine ⟨front, back ++ [action], ?_, ?_, ?_⟩
      · rw [split, List.append_assoc, List.cons_append]
      · rw [List.mem_append, List.mem_singleton, not_or]
        exact ⟨silent, Ne.symm other⟩
      · rw [events]
        exact record
    · rw [died] at ending
      cases ending
  · intro running requested
    rcases phase with same | ⟨death, died⟩
    · rw [same] at running ⊢
      rw [events, installed]
      exact told.running running requested
    · rw [died] at running
      exact running.elim

/-- Each graceful handler leaves one notice and owes one store. -/
theorem deliver_stores (signal : Int32) :
    (state.deliver terminates signal).notices.count gracefulNotice + state.storing =
      state.notices.count gracefulNotice + (state.deliver terminates signal).storing := by
  have other : [fatalNotice].count gracefulNotice = 0 := by decide
  have own : [gracefulNotice].count gracefulNotice = 1 := by decide
  unfold AppState.deliver
  split
  · simp only [List.count_append, own]
    omega
  · simp only [List.count_append, other]
    omega
  · rfl
  · split <;> rfl

theorem deliver_told {past : List LifeAction} (told : LifeTold app terminates past state)
    (inPhase : state.InPhase app state.phase) (alive : state.isDead = false) (signal : Int32) :
    LifeTold app terminates (past ++ [.deliver signal]) (state.deliver terminates signal) := by
  obtain ⟨installed, events, flag, phase⟩ := @deliver_cases terminates state signal
  have installing := inPhase.installing
  apply told.unnoticed (by simp) events installed
  · rcases phase with same | ⟨died, _⟩ | ⟨died, _⟩
    · exact .inl same
    · exact .inr ⟨_, died⟩
    · exact .inr ⟨_, died⟩
  · intro death dead
    refine ⟨past, signal, rfl, ?_⟩
    rcases phase with same | ⟨died, fatal⟩ | ⟨died, absent, ends⟩
    · rw [same] at dead
      unfold AppState.isDead at alive
      rw [dead] at alive
      cases alive
    · rw [died] at dead
      cases dead
      exact .inl ⟨rfl, fatal_disposition installing fatal⟩
    · rw [died] at dead
      cases dead
      refine .inr ⟨rfl, ends, ?_⟩
      intro called
      unfold AppState.HasInitialized at called
      rw [events] at called
      exact default_disposition installing absent called
  · rw [flag, told.story.flag]
    simp [Requested]
  · have owed := @deliver_stores terminates state signal
    have before := told.story.stores
    rw [List.count_append]
    have none : [LifeAction.deliver signal].count .store = 0 := by
      rw [List.count_eq_zero]
      simp
    omega

theorem alive_not_dead (alive : state.isDead = false) (death : Death) :
    state.phase ≠ .dead death := by
  intro dead
  unfold AppState.isDead at alive
  rw [dead] at alive
  cases alive

theorem life_step_told {past : List LifeAction} {action : LifeAction}
    (told : LifeTold app terminates past state) (inPhase : state.InPhase app state.phase)
    (taken : lifeStep app terminates state action = some next) :
    LifeTold app terminates (past ++ [action]) next := by
  cases action with
  | proceed => exact proceed_told told inPhase taken
  | deliver signal =>
      obtain ⟨alive, rfl⟩ := (guarded_eq_some ..).mp taken
      exact deliver_told told inPhase alive signal
  | store =>
      obtain ⟨⟨alive, owed⟩, rfl⟩ := (guarded_eq_some ..).mp taken
      refine told.unnoticed (by simp) rfl rfl (.inl rfl) ?_ ?_ ?_
      · intro death dead
        exact absurd dead (alive_not_dead alive death)
      · simp [Requested]
      · have before := told.story.stores
        rw [List.count_append, List.count_singleton_self]
        simp only
        omega
  | requestShutdown =>
      obtain ⟨alive, rfl⟩ := (guarded_eq_some ..).mp taken
      refine told.unnoticed (by simp) rfl rfl (.inl rfl) ?_ ?_ ?_
      · intro death dead
        exact absurd dead (alive_not_dead alive death)
      · simp [Requested]
      · have before := told.story.stores
        rw [List.count_append]
        exact before

theorem initial_told (app : App) (terminates : Int32 → Bool) :
    LifeTold app terminates [] .initial where
  story :=
    { begun := ⟨false, List.nil_prefix⟩
      ended := by
        intro outcome ending
        cases ending
      dead := by
        intro death dead
        cases dead
      flag := by simp [AppState.initial, Requested]
      stores := rfl }
  running := fun _ _ => rfl

theorem reachable_life {actions : List LifeAction}
    (completed : run (lifeStep app terminates) .initial actions = some state) :
    LifeTold app terminates actions state ∧ state.InPhase app state.phase := by
  refine traced_invariant
    (fun past (state : AppState) => LifeTold app terminates past state ∧
      state.InPhase app state.phase) ?_
    ⟨initial_told app terminates, initial_in_phase app⟩
    (along_of_forall (fun _ _ => trivial) _) completed
  intro past state action next holds _ taken
  exact ⟨life_step_told holds.1 holds.2 taken, life_step_in_phase holds.2 taken⟩

/-! ## The clean-up -/

/-- `cleanup` is called at most once, and in a run that is over exactly when `execute` was
called and nothing but a `std::exception` left it. -/
structure CleansOnce (app : App) (state : AppState) : Prop where
  once : state.events.count (.called .cleanup) ≤ 1
  exact : ∀ outcome, state.phase = .ended outcome →
    (.called .cleanup ∈ state.events ↔
      .called .execute ∈ state.events ∧ app.execute ≠ .threwOther)

theorem finish_calls_nothing (requested : Bool) (result : Int32) (stage : Stage) :
    .called stage ∉ (App.runFinish requested result).1 := by
  cases requested <;> simp [App.runFinish]

theorem cleanup_cleans (app : App) (requested : Bool) (result : Int32) :
    (app.runCleanup requested result).1.count (.called .cleanup) = 1 ∧
      .called .execute ∉ (app.runCleanup requested result).1 := by
  have silent := finish_calls_nothing requested result
  unfold App.runCleanup calling
  cases app.cleanup with
  | returned value =>
      have none := List.count_eq_zero.mpr (silent .cleanup)
      simp [after, none, silent]
  | threw what => simp
  | threwOther => simp

/-- The record of `execute` and of what follows it. -/
theorem execute_cleans (app : App) (requested : Bool) :
    (app.runExecute requested).1.count (.called .cleanup) ≤ 1 ∧
      .called .execute ∈ (app.runExecute requested).1 ∧
      (.called .cleanup ∈ (app.runExecute requested).1 ↔ app.execute ≠ .threwOther) := by
  have cleans := cleanup_cleans app requested
  unfold App.runExecute
  cases app.execute with
  | returned result =>
      have called := List.one_le_count_iff.mp (cleans result).1.ge
      simp [after, (cleans result).1, called]
  | threw what =>
      have called := List.one_le_count_iff.mp (cleans (-1)).1.ge
      simp [after, (cleans (-1)).1, called]
  | threwOther => simp

/-- What holds of the calls in a record, whatever else is in it. -/
structure Cleans (app : App) (record : RunRecord) : Prop where
  once : record.1.count (.called .cleanup) ≤ 1
  exact : .called .cleanup ∈ record.1 ↔
    .called .execute ∈ record.1 ∧ app.execute ≠ .threwOther

/-- Events that call neither `execute` nor `cleanup`. -/
def Idle (events : List RunEvent) : Prop :=
  .called .execute ∉ events ∧ .called .cleanup ∉ events

theorem Cleans.of_idle {record : RunRecord} (idle : Idle record.1) : Cleans app record where
  once := by
    rw [List.count_eq_zero.mpr idle.2]
    exact Nat.zero_le _
  exact := ⟨fun called => absurd called idle.2, fun called => absurd called.1 idle.1⟩

theorem Cleans.after {events : List RunEvent} {record : RunRecord} (idle : Idle events)
    (cleans : Cleans app record) : Cleans app (after events record) := by
  constructor
  · unfold Application.after
    rw [List.count_append, List.count_eq_zero.mpr idle.2, Nat.zero_add]
    exact cleans.once
  · unfold Application.after
    rw [List.mem_append, List.mem_append, or_iff_right idle.2, or_iff_right idle.1]
    exact cleans.exact

theorem Cleans.calling {Value : Type} {stage : Stage} {answer : CallEnd Value}
    {rest : Value → RunRecord} (idle : Idle [.called stage])
    (cleans : ∀ value, Cleans app (rest value)) : Cleans app (calling stage answer rest) := by
  cases answer with
  | returned value => exact .after idle (cleans value)
  | threw what =>
      apply Cleans.of_idle
      simpa [Application.calling, Idle] using idle
  | threwOther => exact .of_idle idle

theorem initialize_cleans (app : App) (requested : Bool) :
    Cleans app (app.runInitialize requested) := by
  have executed := execute_cleans app requested
  apply Cleans.calling (by simp [Idle])
  intro initialized
  cases initialized with
  | true =>
      apply Cleans.after (by simp [Idle, App.started])
      exact ⟨executed.1, by simp only [executed.2.1, executed.2.2, true_and]⟩
  | false => exact .of_idle (by simp [Idle, App.initializeFailed])

theorem signals_cleans (app : App) (requested : Bool) :
    Cleans app (app.runSignals requested) := by
  change Cleans app (if (setupSignalHandlers app.lists app.sigaction ⟨[], []⟩).registered then
    after [App.installed] (app.runInitialize requested) else _)
  split
  · exact (initialize_cleans app requested).after (by simp [Idle, App.installed])
  · exact .of_idle (by simp [Idle, App.installFailed])

theorem run_cleans (app : App) (requested : Bool) : Cleans app (app.run requested) := by
  apply Cleans.calling (by simp [Idle])
  intro loaded
  cases loaded with
  | true =>
      apply Cleans.calling (by simp [Idle])
      intro ready
      cases ready with
      | true => exact (signals_cleans app requested).after (by simp [Idle, App.loaded])
      | false => exact .of_idle (by simp [Idle])
  | false => exact .of_idle (by simp [Idle])

/-- Whenever signals and requests come, the thread calls and logs what it would alone, with
the flag as it is when it reads it; and from the call of `initialize` on, only a fatal
signal or one that no list names ends the process. -/
theorem signals_only_request_or_kill (app : App) (terminates : Int32 → Bool)
    (actions : List LifeAction) (state : AppState)
    (completed : run (lifeStep app terminates) .initial actions = some state) :
    LifeStory app terminates actions state ∧ CleansOnce app state := by
  have story := (reachable_life completed).1.story
  refine ⟨story, ?_, ?_⟩
  · obtain ⟨requested, begun⟩ := story.begun
    exact (begun.sublist.count_le _).trans (run_cleans app requested).once
  · intro outcome ending
    obtain ⟨front, back, _, _, record⟩ := story.ended outcome ending
    have cleans := (run_cleans app (decide (Requested front))).exact
    rw [record] at cleans
    exact cleans

/-- SIGTERM while the dispositions are installed, read at the end of the run. -/
theorem early_sigterm_is_read :
    let app : App := ⟨⟨[2, 15], [11, 6], [13]⟩, .returned true, .returned true,
      fun _ _ _ => true, .returned true, .returned 0, .returned ()⟩
    let actions : List LifeAction := [.proceed, .proceed, .proceed, .proceed, .proceed,
      .deliver 15, .proceed, .proceed, .proceed, .proceed, .proceed, .store, .proceed,
      .proceed, .proceed]
    ∃ state, run (lifeStep app fun _ => true) .initial actions = some state ∧
      state.phase = .ended (.returned 0) ∧ state.shutdownRequested = true ∧
      LifeStory app (fun _ => true) actions state ∧ CleansOnce app state :=
  ⟨_, rfl, rfl, rfl, signals_only_request_or_kill _ (fun _ => true) _ _ rfl⟩

end TboxFramework.Application
