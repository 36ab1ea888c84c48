import TboxFramework.Library.Interleaving
import TboxFramework.Log.Levels
import TboxFramework.Application.SignalSets

/-!
# The life cycle of an application

`Application::run` as a program of six stages, and as a thread that signals may interrupt
between any two of its steps. How the virtual functions and the calls of `sigaction` end
is the caller's choice, and so is which signals the system ends a process for.
-/

namespace TboxFramework.Application

open Interleaving
open TboxFramework.Log (LogLevel)
open TboxFramework.Store (Bytes text)

set_option autoImplicit false

/-- How a call ends; only a `std::exception` has a text. -/
inductive CallEnd (Value : Type)
  | returned (value : Value)
  | threw (what : Bytes)
  | threwOther

inductive Stage
  | loadConfig
  | setupLogging
  | initialization
  | execute
  | cleanup
  deriving DecidableEq

/-- What the thread of `run` does that others can see. -/
inductive RunEvent
  | called (stage : Stage)
  | logged (level : LogLevel) (event message : Bytes)
  | flushed
  | printed (message : Bytes)
  deriving DecidableEq

inductive RunEnd
  | returned (result : Int32)
  | escaped
  deriving DecidableEq

abbrev RunRecord := List RunEvent × RunEnd

/-- A class derived from `Application`, as far as `run` can see it. -/
structure App where
  lists : SignalLists
  loadConfig : CallEnd Bool
  setupLogging : CallEnd Bool
  sigaction : Sigaction
  /-- `initialize`. -/
  initialization : CallEnd Bool
  execute : CallEnd Int32
  cleanup : CallEnd Unit

def failure : RunEnd := .returned (-1)

/-- Events before the rest of a run. -/
def after (events : List RunEvent) (rest : RunRecord) : RunRecord := (events ++ rest.1, rest.2)

/-- `EmergencyWriter::write` in the catch block of `run`. -/
def fatalText (what : Bytes) : Bytes := text "application fatal: " ++ what ++ text "\n"

/-- A call inside of the outer try block. -/
def calling {Value : Type} (stage : Stage) (answer : CallEnd Value) (next : Value → RunRecord) :
    RunRecord :=
  match answer with
  | .returned value => after [.called stage] (next value)
  | .threw what => ([.called stage, .printed (fatalText what)], failure)
  | .threwOther => ([.called stage], .escaped)

namespace App

/-- What follows `cleanup`. -/
def runFinish (requested : Bool) (result : Int32) : RunRecord :=
  ((if requested then [.logged .kInfo (text "application.shutdown.requested")
        (text "shutdown requested")] else []) ++
      [.logged .kInfo (text "application.stopped") (text "application stopped"), .flushed],
    .returned result)

def runCleanup (app : App) (requested : Bool) (result : Int32) : RunRecord :=
  calling .cleanup app.cleanup fun _ => runFinish requested result

/-- A `std::exception` is caught inside, so that `cleanup` is still called. -/
def runExecute (app : App) (requested : Bool) : RunRecord :=
  match app.execute with
  | .returned result => after [.called .execute] (app.runCleanup requested result)
  | .threw what =>
      after [.called .execute, .logged .kError (text "application.execute.exception") what]
        (app.runCleanup requested (-1))
  | .threwOther => ([.called .execute], .escaped)

def initializeFailed : List RunEvent :=
  [.logged .kError (text "application.initialize.failed") (text "initialize returned false"),
    .flushed]

def started : RunEvent := .logged .kInfo (text "application.started") (text "application started")

def runInitialize (app : App) (requested : Bool) : RunRecord :=
  calling .initialization app.initialization fun initialized =>
    if initialized then after [started] (app.runExecute requested)
    else (initializeFailed, failure)

def installFailed : List RunEvent :=
  [.logged .kError (text "application.signal.install.failed")
      (text "signal handler registration failed"), .flushed]

def installed : RunEvent :=
  .logged .kInfo (text "application.signals.installed") (text "signal handlers installed")

def runSignals (app : App) (requested : Bool) : RunRecord :=
  let outcome := setupSignalHandlers app.lists app.sigaction ⟨[], []⟩
  if outcome.registered then after [installed] (app.runInitialize requested)
  else (.printed outcome.process.stderr :: installFailed, failure)

def loaded : List RunEvent :=
  [.logged .kInfo (text "application.config.loaded") (text "config loaded"),
    .logged .kInfo (text "application.logging.initialized") (text "logging initialized")]

def runLogging (app : App) (requested : Bool) : RunRecord :=
  calling .setupLogging app.setupLogging fun ready =>
    if ready then after loaded (app.runSignals requested) else ([], failure)

/-- `Application::run`; the flag is read when `cleanup` is over. -/
def run (app : App) (requested : Bool) : RunRecord :=
  calling .loadConfig app.loadConfig fun loaded =>
    if loaded then app.runLogging requested
    else ([.printed (text "application config load failed, aborting\n")], failure)

end App

/-! ## The thread that signals interrupt -/

/-- A call of `sigaction` that is still to be made. -/
structure Registration where
  kind : Bytes
  action : SigAction
  signal : Int32

def registrationsOf (kind : Bytes) (action : SigAction) (signals : List Int32) :
    List Registration :=
  signals.map fun signal => ⟨kind, action, signal⟩

def gracefulAction : SigAction := ⟨.gracefulSignalHandler, [], SA_RESTART⟩

def fatalAction : SigAction := ⟨.fatalSignalHandler, [], SA_RESETHAND⟩

def ignoredAction : SigAction := ⟨.sigIgn, [], 0⟩

def SignalLists.registrations (lists : SignalLists) : List Registration :=
  registrationsOf (text "graceful") gracefulAction lists.gracefulSignals ++
    (registrationsOf (text "fatal") fatalAction lists.fatalSignals ++
      registrationsOf (text "ignored") ignoredAction lists.ignoredSignals)

/-- How a signal ended the process. -/
inductive Death
  /-- `_exit` in the handler of the fatal signals. -/
  | exited (status : Int)
  /-- The default action. -/
  | signaled (signal : Int32)
  deriving DecidableEq

inductive Phase
  | loading
  | settingUpLog
  | validating
  | registering (left : List Registration)
  | initializing
  | executing
  | cleaning (result : Int32)
  | finishing (result : Int32)
  | ended (outcome : RunEnd)
  | dead (death : Death)

structure AppState where
  phase : Phase
  installed : List (Int32 × SigAction)
  shutdownRequested : Bool
  /-- Graceful handlers between their `write` and their store. -/
  storing : Nat
  events : List RunEvent
  /-- What the handlers wrote. -/
  notices : List Bytes

inductive LifeAction
  /-- The next step of the thread of `run`. -/
  | proceed
  | deliver (signal : Int32)
  /-- A graceful handler stores the flag. -/
  | store
  | requestShutdown
  deriving DecidableEq

def AppState.initial : AppState := ⟨.loading, [], false, 0, [], []⟩

/-- The phase after a call inside of the outer try block, and its events. -/
def Phase.afterCall {Value : Type} (stage : Stage) (answer : CallEnd Value)
    (next : Value → List RunEvent × Phase) : List RunEvent × Phase :=
  match answer with
  | .returned value => (.called stage :: (next value).1, (next value).2)
  | .threw what => ([.called stage, .printed (fatalText what)], .ended failure)
  | .threwOther => ([.called stage], .ended .escaped)

namespace App

def refusalText (registration : Registration) : Bytes :=
  text "register " ++ registration.kind ++ text " signal " ++ signalText registration.signal ++
    text " failed\n"

def validationText (err : Bytes) : Bytes :=
  text "signal set validation failed: " ++ err ++ text "\n"

/-- One step of the thread of `run`; its calls of virtual functions are one step each. -/
def proceed (app : App) (state : AppState) : Phase → Option AppState
  | .loading =>
      let (events, phase) := Phase.afterCall .loadConfig app.loadConfig fun loaded =>
        if loaded then ([], .settingUpLog)
        else ([.printed (text "application config load failed, aborting\n")], .ended failure)
      some { state with phase := phase, events := state.events ++ events }
  | .settingUpLog =>
      let (events, phase) := Phase.afterCall .setupLogging app.setupLogging fun ready =>
        if ready then (loaded, .validating) else ([], .ended failure)
      some { state with phase := phase, events := state.events ++ events }
  | .validating =>
      let err := validateSignalSets app.lists.gracefulSignals app.lists.fatalSignals
        app.lists.ignoredSignals
      if err ≠ [] then
        some { state with
          phase := .ended failure
          events := state.events ++ .printed (validationText err) :: installFailed }
      else some { state with phase := .registering app.lists.registrations }
  | .registering [] =>
      some { state with phase := .initializing, events := state.events ++ [installed] }
  | .registering (registration :: left) =>
      if app.sigaction state.installed registration.signal registration.action then
        some { state with
          phase := .registering left
          installed := state.installed ++ [(registration.signal, registration.action)] }
      else
        some { state with
          phase := .ended failure
          events := state.events ++ .printed (refusalText registration) :: installFailed }
  | .initializing =>
      let (events, phase) := Phase.afterCall .initialization app.initialization fun initialized =>
        if initialized then ([started], .executing) else (initializeFailed, .ended failure)
      some { state with phase := phase, events := state.events ++ events }
  | .executing =>
      let (events, phase) : List RunEvent × Phase :=
        match app.execute with
        | .returned result => ([.called .execute], .cleaning result)
        | .threw what =>
            ([.called .execute, .logged .kError (text "application.execute.exception") what],
              .cleaning (-1))
        | .threwOther => ([.called .execute], .ended .escaped)
      some { state with phase := phase, events := state.events ++ events }
  | .cleaning result =>
      let (events, phase) := Phase.afterCall .cleanup app.cleanup fun _ => ([], .finishing result)
      some { state with phase := phase, events := state.events ++ events }
  | .finishing result =>
      let last := runFinish state.shutdownRequested result
      some { state with phase := .ended last.2, events := state.events ++ last.1 }
  | .ended _ => none
  | .dead _ => none

end App

def gracefulNotice : Bytes := text "received graceful shutdown signal\n"

def fatalNotice : Bytes := text "fatal signal received, terminating\n"

/-- The disposition of a signal is what was installed for it last. -/
def AppState.disposition (state : AppState) (signal : Int32) : Option Handler :=
  (state.installed.reverse.lookup signal).map SigAction.handler

def AppState.deliver (terminates : Int32 → Bool) (state : AppState) (signal : Int32) : AppState :=
  match state.disposition signal with
  | some .gracefulSignalHandler =>
      { state with storing := state.storing + 1, notices := state.notices ++ [gracefulNotice] }
  | some .fatalSignalHandler =>
      { state with
        phase := .dead (.exited (128 + signal.toInt))
        notices := state.notices ++ [fatalNotice] }
  | some .sigIgn => state
  | none => if terminates signal then { state with phase := .dead (.signaled signal) } else state

def AppState.isDead (state : AppState) : Bool :=
  match state.phase with
  | .dead _ => true
  | _ => false

def lifeStep (app : App) (terminates : Int32 → Bool) (state : AppState) :
    LifeAction → Option AppState
  | .proceed => app.proceed state state.phase
  | .deliver signal => guarded (state.isDead = false) (state.deliver terminates signal)
  | .store =>
      guarded (state.isDead = false ∧ 0 < state.storing)
        { state with storing := state.storing - 1, shutdownRequested := true }
  | .requestShutdown =>
      guarded (state.isDead = false) { state with shutdownRequested := true }

/-! ## What is left of a run -/

/-- The calls of `sigaction` one after the other, up to the first refusal. -/
def registerAll (sigaction : Sigaction) : List Registration → Process → Outcome
  | [], process => ⟨true, process⟩
  | registration :: left, process =>
      if sigaction process.installed registration.signal registration.action then
        registerAll sigaction left
          { process with
            installed := process.installed ++ [(registration.signal, registration.action)] }
      else
        ⟨false, { process with stderr := process.stderr ++ App.refusalText registration }⟩

theorem register_eq_all (sigaction : Sigaction) (kind : Bytes) (action : SigAction)
    (signals : List Int32) (process : Process) :
    register sigaction kind action signals process =
      registerAll sigaction (registrationsOf kind action signals) process := by
  induction signals generalizing process with
  | nil => rfl
  | cons signal rest induction =>
      unfold register
      change _ = registerAll sigaction
        (⟨kind, action, signal⟩ :: registrationsOf kind action rest) process
      unfold registerAll
      by_cases taken : sigaction process.installed signal action = true
      · rw [if_pos taken, if_pos taken, induction]
      · rw [if_neg taken, if_neg taken]
        unfold App.refusalText
        simp only [List.append_assoc]

theorem register_all_append (sigaction : Sigaction) (front back : List Registration)
    (process : Process) :
    registerAll sigaction (front ++ back) process =
      (registerAll sigaction front process).unlessRefused (registerAll sigaction back) := by
  induction front generalizing process with
  | nil => rfl
  | cons registration rest induction =>
      rw [List.cons_append]
      unfold registerAll
      by_cases taken : sigaction process.installed registration.signal registration.action = true
      · rw [if_pos taken, if_pos taken, induction]
      · rw [if_neg taken, if_neg taken]
        rfl

theorem unless_refused_assoc (outcome : Outcome) (first second : Process → Outcome) :
    (outcome.unlessRefused first).unlessRefused second =
      outcome.unlessRefused fun process => (first process).unlessRefused second := by
  obtain ⟨registered, process⟩ := outcome
  cases registered with
  | true => rfl
  | false => rfl

theorem setup_eq_all (lists : SignalLists) (sigaction : Sigaction) (process : Process)
    (valid : validateSignalSets lists.gracefulSignals lists.fatalSignals
      lists.ignoredSignals = []) :
    setupSignalHandlers lists sigaction process =
      registerAll sigaction lists.registrations process := by
  have loops : setupSignalHandlers lists sigaction process =
      ((register sigaction (text "graceful") gracefulAction lists.gracefulSignals
        process).unlessRefused
        (register sigaction (text "fatal") fatalAction lists.fatalSignals)).unlessRefused
        (register sigaction (text "ignored") ignoredAction lists.ignoredSignals) := by
    unfold setupSignalHandlers
    simp only [valid, ne_eq, not_true_eq_false, if_false]
    rfl
  have second : registerAll sigaction (registrationsOf (text "fatal") fatalAction
        lists.fatalSignals ++ registrationsOf (text "ignored") ignoredAction lists.ignoredSignals) =
      fun process => (register sigaction (text "fatal") fatalAction lists.fatalSignals
        process).unlessRefused
          (register sigaction (text "ignored") ignoredAction lists.ignoredSignals) := by
    funext process
    rw [register_all_append, register_eq_all]
    congr 1
    funext process
    rw [register_eq_all]
  rw [loops, unless_refused_assoc, SignalLists.registrations, register_all_append, second,
    register_eq_all]

namespace App

/-- What the run of this phase still adds, when the flag reads so in the end. -/
def continueFrom (app : App) (requested : Bool) (installed : List (Int32 × SigAction)) :
    Phase → RunRecord
  | .loading => app.run requested
  | .settingUpLog => app.runLogging requested
  | .validating => app.runSignals requested
  | .registering left =>
      let outcome := registerAll app.sigaction left ⟨installed, []⟩
      if outcome.registered then after [App.installed] (app.runInitialize requested)
      else (.printed outcome.process.stderr :: installFailed, failure)
  | .initializing => app.runInitialize requested
  | .executing => app.runExecute requested
  | .cleaning result => app.runCleanup requested result
  | .finishing result => runFinish requested result
  | .ended outcome => ([], outcome)
  | .dead _ => ([], .escaped)

end App

theorem after_append (front back : List RunEvent) (rest : RunRecord) :
    after (front ++ back) rest = after front (after back rest) := by
  unfold after
  rw [List.append_assoc]

theorem after_ended (events : List RunEvent) (outcome : RunEnd) :
    after events ([], outcome) = (events, outcome) := by
  unfold after
  rw [List.append_nil]

/-- A call adds to the events what its phase continues with. -/
theorem calling_eq {Value : Type} {stage : Stage} {answer : CallEnd Value}
    {next : Value → List RunEvent × Phase} {rest : Value → RunRecord} {continued : Phase → RunRecord}
    (ends : ∀ outcome, continued (.ended outcome) = ([], outcome))
    (steps : ∀ value, rest value = after (next value).1 (continued (next value).2)) :
    calling stage answer rest =
      after (Phase.afterCall stage answer next).1
        (continued (Phase.afterCall stage answer next).2) := by
  cases answer with
  | returned value =>
      simp only [calling, Phase.afterCall, steps]
      rw [← after_append]
      rfl
  | threw what =>
      simp only [calling, Phase.afterCall, ends]
      rfl
  | threwOther =>
      simp only [calling, Phase.afterCall, ends]
      rfl

variable {app : App} {terminates : Int32 → Bool} {state next : AppState} {requested : Bool}

/-- What a step of the thread of `run` leaves alone. -/
structure SameRequests (state next : AppState) : Prop where
  flag : next.shutdownRequested = state.shutdownRequested
  storing : next.storing = state.storing
  notices : next.notices = state.notices

/-- The events so far and what is left make the same run before and after a step. -/
theorem proceed_continues (taken : app.proceed state state.phase = some next)
    (fresh : state.phase = .validating → state.installed = [])
    (read : ∀ result, state.phase = .finishing result → requested = state.shutdownRequested) :
    after state.events (app.continueFrom requested state.installed state.phase) =
        after next.events (app.continueFrom requested next.installed next.phase) ∧
      SameRequests state next := by
  have ends : ∀ outcome,
      app.continueFrom requested state.installed (.ended outcome) = ([], outcome) := fun _ => rfl
  cases here : state.phase with
  | loading =>
      rw [here] at taken
      cases taken
      refine ⟨?_, rfl, rfl, rfl⟩
      rw [after_append]
      congr 1
      apply calling_eq ends
      intro value
      cases value with
      | true => rfl
      | false => rfl
  | settingUpLog =>
      rw [here] at taken
      cases taken
      refine ⟨?_, rfl, rfl, rfl⟩
      rw [after_append]
      congr 1
      apply calling_eq ends
      intro value
      cases value with
      | true => rfl
      | false => rfl
  | validating =>
      rw [here] at taken
      unfold App.proceed at taken
      simp only at taken
      split at taken
      · next invalid =>
          cases taken
          refine ⟨?_, rfl, rfl, rfl⟩
          rw [after_append]
          congr 1
          change app.runSignals requested = _
          unfold App.runSignals setupSignalHandlers
          simp only [invalid, ne_eq, not_false_eq_true, if_true]
          exact (after_ended _ _).symm
      · next valid =>
          rw [not_not] at valid
          cases taken
          refine ⟨?_, rfl, rfl, rfl⟩
          congr 1
          change app.runSignals requested = _
          unfold App.runSignals App.continueFrom
          simp only [setup_eq_all app.lists app.sigaction ⟨[], []⟩ valid, fresh here]
  | registering left =>
      cases left with
      | nil =>
          rw [here] at taken
          cases taken
          refine ⟨?_, rfl, rfl, rfl⟩
          rw [after_append]
          rfl
      | cons registration left =>
          rw [here] at taken
          simp only [App.proceed] at taken
          split at taken
          · next accepted =>
              cases taken
              refine ⟨?_, rfl, rfl, rfl⟩
              simp only [App.continueFrom, registerAll, if_pos accepted]
          · next refused =>
              cases taken
              refine ⟨?_, rfl, rfl, rfl⟩
              rw [after_append]
              congr 1
              simp only [App.continueFrom, registerAll, if_neg refused]
              exact (after_ended _ _).symm
  | initializing =>
      rw [here] at taken
      cases taken
      refine ⟨?_, rfl, rfl, rfl⟩
      rw [after_append]
      congr 1
      apply calling_eq ends
      intro value
      cases value with
      | true => rfl
      | false => rfl
  | executing =>
      rw [here] at taken
      cases taken
      refine ⟨?_, rfl, rfl, rfl⟩
      rw [after_append]
      congr 1
      change app.runExecute requested = _
      unfold App.runExecute
      cases app.execute with
      | returned result => rfl
      | threw what => rfl
      | threwOther => rfl
  | cleaning result =>
      rw [here] at taken
      cases taken
      refine ⟨?_, rfl, rfl, rfl⟩
      rw [after_append]
      congr 1
      apply calling_eq ends
      intro value
      rfl
  | finishing result =>
      rw [here] at taken
      cases taken
      refine ⟨?_, rfl, rfl, rfl⟩
      rw [after_append, read result here]
      congr 1
      exact (after_ended _ _).symm
  | ended outcome =>
      rw [here] at taken
      cases taken
  | dead death =>
      rw [here] at taken
      cases taken

end TboxFramework.Application
