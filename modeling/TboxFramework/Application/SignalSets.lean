import TboxFramework.Store.Paths
import TboxFramework.Library.Decimal
import Mathlib.Data.List.Perm.Basic
import Mathlib.Data.List.Nodup

/-!
# The application's signal sets

The check of the three lists of signals, in six passes over them, and the installation of
their handlers. The numbers of the signals are those of Linux, and `sigaction` is that of the
system: it may refuse any signal.
-/

namespace TboxFramework.Application

open Decimal (signedNumeral)
open TboxFramework.Store (Bytes text)

set_option autoImplicit false

def SIGKILL : Int32 := 9

def SIGSTOP : Int32 := 19

/-- `std::to_string` of a signal. -/
def signalText (signal : Int32) : Bytes := signedNumeral signal.toInt

/-! ## The check -/

/-- The loop of `checkSet`; `seen` holds the signals before. -/
def checkSet (name : Bytes) (seen : List Int32) : List Int32 → Except Bytes Unit
  | [] => .ok ()
  | signal :: rest =>
      if signal = SIGKILL ∨ signal = SIGSTOP then
        .error (name ++ text " contains SIGKILL/SIGSTOP which cannot be caught")
      else if signal < 1 then .error (name ++ text " contains invalid signal value")
      else if signal ∈ seen then
        .error (name ++ text " contains duplicate signal " ++ signalText signal)
      else checkSet name (signal :: seen) rest

/-- The loop of `checkConflict`, with the signals of all lists so far. -/
def checkConflict (all : List Int32) : List Int32 → Except Bytes (List Int32)
  | [] => .ok all
  | signal :: rest =>
      if signal ∈ all then
        .error (text "signal " ++ signalText signal ++ text " appears in multiple sets")
      else checkConflict (signal :: all) rest

def checkSets (graceful fatal ignored : List Int32) : Except Bytes Unit := do
  checkSet (text "graceful") [] graceful
  checkSet (text "fatal") [] fatal
  checkSet (text "ignored") [] ignored
  let all ← checkConflict [] graceful
  let all ← checkConflict all fatal
  let _ ← checkConflict all ignored
  return ()

def validateSignalSets (graceful fatal ignored : List Int32) : Bytes :=
  match checkSets graceful fatal ignored with
  | .error err => err
  | .ok () => []

/-! ## The installation -/

inductive Handler
  | gracefulSignalHandler
  | fatalSignalHandler
  | sigIgn
  deriving DecidableEq

/-- `struct sigaction`: the mask is empty in all three of them. -/
structure SigAction where
  handler : Handler
  mask : List Int32
  flags : UInt32
  deriving DecidableEq

def SA_RESTART : UInt32 := 0x10000000

def SA_RESETHAND : UInt32 := 0x80000000

/-- What the calls of `sigaction` have installed, in their order, and what was printed. -/
structure Process where
  installed : List (Int32 × SigAction)
  stderr : Bytes

/-- Whether all calls so far were taken, and the process after them. -/
structure Outcome where
  registered : Bool
  process : Process

/-- A refusal returns at once. -/
def Outcome.unlessRefused (outcome : Outcome) (next : Process → Outcome) : Outcome :=
  if outcome.registered then next outcome.process else outcome

/-- Whether the system takes a disposition after those that it took. -/
abbrev Sigaction := List (Int32 × SigAction) → Int32 → SigAction → Bool

/-- One of the three loops; the first refusal ends it. -/
def register (sigaction : Sigaction) (kind : Bytes) (action : SigAction) :
    List Int32 → Process → Outcome
  | [], process => ⟨true, process⟩
  | signal :: rest, process =>
      if sigaction process.installed signal action then
        register sigaction kind action rest
          { process with installed := process.installed ++ [(signal, action)] }
      else
        ⟨false, { process with
          stderr := process.stderr ++ text "register " ++ kind ++ text " signal " ++
            signalText signal ++ text " failed\n" }⟩

/-- The lists of an application, which its class may override. -/
structure SignalLists where
  gracefulSignals : List Int32 := [2, 15]
  fatalSignals : List Int32 := [11, 6]
  ignoredSignals : List Int32 := [13]

def setupSignalHandlers (lists : SignalLists) (sigaction : Sigaction) (process : Process) :
    Outcome :=
  let err := validateSignalSets lists.gracefulSignals lists.fatalSignals lists.ignoredSignals
  if err ≠ [] then
    ⟨false, { process with
      stderr := process.stderr ++ text "signal set validation failed: " ++ err ++ text "\n" }⟩
  else
    ((register sigaction (text "graceful") ⟨.gracefulSignalHandler, [], SA_RESTART⟩
        lists.gracefulSignals process).unlessRefused
      (register sigaction (text "fatal") ⟨.fatalSignalHandler, [], SA_RESETHAND⟩
        lists.fatalSignals)).unlessRefused
      (register sigaction (text "ignored") ⟨.sigIgn, [], 0⟩ lists.ignoredSignals)

/-! ## One pass -/

/-- A signal that can be caught. -/
def Catchable (signal : Int32) : Prop := signal ≠ SIGKILL ∧ signal ≠ SIGSTOP ∧ ¬signal < 1

theorem forall_cons_nodup {signal : Int32} {rest seen : List Int32} (fresh : signal ∉ seen) :
    (rest.Nodup ∧ ∀ other ∈ rest, other ∉ signal :: seen) ↔
      (signal :: rest).Nodup ∧ ∀ other ∈ signal :: rest, other ∉ seen := by
  rw [List.nodup_cons, List.forall_mem_cons]
  constructor
  · intro later
    refine ⟨⟨?_, later.1⟩, fresh, ?_⟩
    · intro again
      exact later.2 signal again List.mem_cons_self
    · intro other member known
      exact later.2 other member (List.mem_cons_of_mem _ known)
  · intro whole
    refine ⟨whole.1.2, ?_⟩
    intro other member known
    cases List.mem_cons.mp known with
    | inl same =>
        rw [same] at member
        exact whole.1.1 member
    | inr old => exact whole.2.2 other member old

/-- The invariant of the pass: what it has seen is what the rest must avoid. -/
theorem check_set_iff (name : Bytes) (signals : List Int32) : ∀ seen,
    checkSet name seen signals = .ok () ↔
      (∀ signal ∈ signals, Catchable signal) ∧
        signals.Nodup ∧ ∀ signal ∈ signals, signal ∉ seen := by
  induction signals with
  | nil => simp [checkSet]
  | cons signal rest induction =>
      intro seen
      unfold checkSet
      rw [List.forall_mem_cons]
      by_cases uncaught : signal = SIGKILL ∨ signal = SIGSTOP
      · rw [if_pos uncaught]
        unfold Catchable
        rw [or_iff_not_and_not] at uncaught
        tauto
      · rw [if_neg uncaught]
        by_cases low : signal < 1
        · rw [if_pos low]
          unfold Catchable
          tauto
        · rw [if_neg low]
          have catchable : Catchable signal := by
            rw [not_or] at uncaught
            exact ⟨uncaught.1, uncaught.2, low⟩
          by_cases known : signal ∈ seen
          · rw [if_pos known]
            constructor
            · intro refused
              cases refused
            · intro whole
              exact absurd known (whole.2.2 signal List.mem_cons_self)
          · rw [if_neg known, induction, forall_cons_nodup known]
            constructor
            · intro later
              exact ⟨⟨catchable, later.1⟩, later.2⟩
            · intro whole
              exact ⟨whole.1.2, whole.2⟩

theorem check_conflict_iff (signals : List Int32) : ∀ all result,
    checkConflict all signals = .ok result ↔
      result = signals.reverse ++ all ∧ signals.Nodup ∧ ∀ signal ∈ signals, signal ∉ all := by
  induction signals with
  | nil =>
      intro all result
      simp [checkConflict, eq_comm]
  | cons signal rest induction =>
      intro all result
      unfold checkConflict
      by_cases known : signal ∈ all
      · rw [if_pos known]
        constructor
        · intro refused
          cases refused
        · intro whole
          exact absurd known (whole.2.2 signal List.mem_cons_self)
      · rw [if_neg known, induction, forall_cons_nodup known, List.reverse_cons, List.append_assoc]
        rfl

/-! ## The check -/

/-- Every error is a text. -/
def Spoken {Value : Type} (outcome : Except Bytes Value) : Prop :=
  ∀ err, outcome = .error err → err ≠ []

theorem Spoken.bind {First Second : Type} {first : Except Bytes First}
    {next : First → Except Bytes Second} (spoken : Spoken first)
    (later : ∀ value, Spoken (next value)) : Spoken (first >>= next) := by
  cases first with
  | error err =>
      intro other same
      exact spoken other (by cases same; rfl)
  | ok value => exact later value

theorem spoken_error {Value : Type} {err : Bytes} (some : err ≠ []) :
    Spoken (.error err : Except Bytes Value) := by
  intro other same
  cases same
  exact some

theorem check_set_spoken (name : Bytes) (signals : List Int32) : ∀ seen,
    Spoken (checkSet name seen signals) := by
  induction signals with
  | nil =>
      intro seen err same
      cases same
  | cons signal rest induction =>
      intro seen
      unfold checkSet
      split
      · exact spoken_error (List.append_ne_nil_of_right_ne_nil _ (by decide))
      · split
        · exact spoken_error (List.append_ne_nil_of_right_ne_nil _ (by decide))
        · split
          · rw [List.append_assoc]
            exact spoken_error (List.append_ne_nil_of_right_ne_nil _
              (List.append_ne_nil_of_left_ne_nil (by decide) _))
          · exact induction _

theorem check_conflict_spoken (signals : List Int32) : ∀ all,
    Spoken (checkConflict all signals) := by
  induction signals with
  | nil =>
      intro all err same
      cases same
  | cons signal rest induction =>
      intro all
      unfold checkConflict
      split
      · exact spoken_error (List.append_ne_nil_of_right_ne_nil _ (by decide))
      · exact induction _

theorem check_sets_spoken (graceful fatal ignored : List Int32) :
    Spoken (checkSets graceful fatal ignored) := by
  apply Spoken.bind (check_set_spoken _ _ _)
  intro _
  apply Spoken.bind (check_set_spoken _ _ _)
  intro _
  apply Spoken.bind (check_set_spoken _ _ _)
  intro _
  apply Spoken.bind (check_conflict_spoken _ _)
  intro all
  apply Spoken.bind (check_conflict_spoken _ _)
  intro all
  apply Spoken.bind (check_conflict_spoken _ _)
  intro _ err same
  cases same

theorem check_bind_ok {First Second : Type} {first : Except Bytes First}
    {next : First → Except Bytes Second} {result : Second} :
    (first >>= next) = .ok result ↔ ∃ value, first = .ok value ∧ next value = .ok result := by
  cases first with
  | error err => simp [Bind.bind, Except.bind]
  | ok value => simp [Bind.bind, Except.bind]

structure Consistent (graceful fatal ignored : List Int32) : Prop where
  catchable : (∀ signal ∈ graceful, Catchable signal) ∧ (∀ signal ∈ fatal, Catchable signal) ∧
    ∀ signal ∈ ignored, Catchable signal
  distinct : graceful.Nodup ∧ fatal.Nodup ∧ ignored.Nodup
  disjoint : graceful.Disjoint fatal ∧ graceful.Disjoint ignored ∧ fatal.Disjoint ignored

/-- The lists are consistent as one list without repetitions. -/
theorem consistent_iff (graceful fatal ignored : List Int32) :
    Consistent graceful fatal ignored ↔
      (∀ signal ∈ graceful ++ (fatal ++ ignored), Catchable signal) ∧
        (graceful ++ (fatal ++ ignored)).Nodup := by
  rw [List.nodup_append', List.nodup_append', List.disjoint_append_right, List.forall_mem_append,
    List.forall_mem_append]
  constructor
  · intro consistent
    have distinct := consistent.distinct
    have disjoint := consistent.disjoint
    exact ⟨consistent.catchable, distinct.1, ⟨distinct.2.1, distinct.2.2, disjoint.2.2⟩,
      disjoint.1, disjoint.2.1⟩
  · intro whole
    obtain ⟨catchable, graceful, ⟨fatal, ignored, last⟩, first, second⟩ := whole
    exact ⟨catchable, ⟨graceful, fatal, ignored⟩, first, second, last⟩

theorem check_sets_iff (graceful fatal ignored : List Int32) :
    checkSets graceful fatal ignored = .ok () ↔ Consistent graceful fatal ignored := by
  have passed : ∀ (name : Bytes) (signals : List Int32) (result : Unit),
      checkSet name [] signals = .ok result ↔
        (∀ signal ∈ signals, Catchable signal) ∧ signals.Nodup := by
    intro name signals result
    have free : ∀ signal ∈ signals, signal ∉ ([] : List Int32) :=
      fun _ _ => List.not_mem_nil
    rw [check_set_iff name signals []]
    exact and_congr_right' (and_iff_left free)
  unfold checkSets
  simp only [check_bind_ok, passed, check_conflict_iff, exists_const, and_assoc, exists_eq_left,
    List.append_nil, List.mem_append, List.mem_reverse, not_or]
  constructor
  · intro checked
    obtain ⟨graceful_caught, first, fatal_caught, second, ignored_caught, third, _, _, _, apart, _,
      last, _⟩ := checked
    refine ⟨⟨graceful_caught, fatal_caught, ignored_caught⟩, ⟨first, second, third⟩, ?_, ?_, ?_⟩
    · exact fun signal inGraceful inFatal => apart signal inFatal inGraceful
    · exact fun signal inGraceful inIgnored => (last signal inIgnored).2 inGraceful
    · exact fun signal inFatal inIgnored => (last signal inIgnored).1 inFatal
  · intro consistent
    obtain ⟨⟨graceful_caught, fatal_caught, ignored_caught⟩, ⟨first, second, third⟩, apart, beyond,
      behind⟩ := consistent
    refine ⟨graceful_caught, first, fatal_caught, second, ignored_caught, third, first, ?_, second,
      ?_, third, ?_, rfl⟩
    · exact fun _ _ => List.not_mem_nil
    · exact fun signal inFatal inGraceful => apart inGraceful inFatal
    · exact fun signal inIgnored =>
        ⟨fun inFatal => behind inFatal inIgnored, fun inGraceful => beyond inGraceful inIgnored⟩

theorem validate_iff (graceful fatal ignored : List Int32) :
    validateSignalSets graceful fatal ignored = [] ↔ Consistent graceful fatal ignored := by
  rw [← check_sets_iff]
  unfold validateSignalSets
  cases checked : checkSets graceful fatal ignored with
  | error err => simpa using check_sets_spoken graceful fatal ignored err checked
  | ok _ => simp

/-- The order within the lists and between them does not matter. -/
theorem consistent_perm {graceful fatal ignored graceful' fatal' ignored' : List Int32}
    (same : (graceful' ++ (fatal' ++ ignored')).Perm (graceful ++ (fatal ++ ignored))) :
    Consistent graceful' fatal' ignored' ↔ Consistent graceful fatal ignored := by
  rw [consistent_iff, consistent_iff, same.nodup_iff]
  apply and_congr_left'
  constructor
  · exact fun all signal member => all signal (same.mem_iff.mpr member)
  · exact fun all signal member => all signal (same.mem_iff.mp member)

/-! ## What is installed -/

/-- The signals are installed in their order, up to the first refusal. -/
def Installs (signals : List Int32) (process : Process) (outcome : Outcome) : Prop :=
  ∃ front, front <+: signals ∧
    outcome.process.installed.map Prod.fst = process.installed.map Prod.fst ++ front ∧
    (outcome.registered = true → front = signals)

theorem register_installs (sigaction : Sigaction) (kind : Bytes) (action : SigAction)
    (signals : List Int32) : ∀ process,
      Installs signals process (register sigaction kind action signals process) := by
  induction signals with
  | nil =>
      intro process
      exact ⟨[], List.nil_prefix, (List.append_nil _).symm, fun _ => rfl⟩
  | cons signal rest induction =>
      intro process
      unfold register
      by_cases taken : sigaction process.installed signal action = true
      · rw [if_pos taken]
        obtain ⟨front, begins, installed, complete⟩ := induction
          { process with installed := process.installed ++ [(signal, action)] }
        refine ⟨signal :: front, List.cons_prefix_cons.mpr ⟨rfl, begins⟩, ?_, ?_⟩
        · rw [installed, List.map_append, List.append_assoc]
          rfl
        · intro whole
          rw [complete whole]
      · rw [if_neg taken]
        refine ⟨[], List.nil_prefix, (List.append_nil _).symm, ?_⟩
        intro whole
        cases whole

/-- The next loop goes on where the one before has installed all of its signals. -/
theorem Installs.unless_refused {first second : List Int32} {process : Process} {outcome : Outcome}
    {next : Process → Outcome} (installs : Installs first process outcome)
    (later : ∀ process, Installs second process (next process)) :
    Installs (first ++ second) process (outcome.unlessRefused next) := by
  obtain ⟨front, begins, installed, complete⟩ := installs
  unfold Outcome.unlessRefused
  by_cases registered : outcome.registered = true
  · obtain ⟨behind, continues, added, finished⟩ := later outcome.process
    rw [complete registered] at installed
    rw [if_pos registered]
    refine ⟨first ++ behind, (List.prefix_append_right_inj first).mpr continues, ?_, ?_⟩
    · rw [added, installed, List.append_assoc]
    · intro whole
      rw [finished whole]
  · rw [if_neg registered]
    refine ⟨front, begins.trans (List.prefix_append _ _), installed, ?_⟩
    intro whole
    exact absurd whole registered

/-- The signals that get a disposition are a front of the three lists. -/
theorem setup_installs (lists : SignalLists) (sigaction : Sigaction) (process : Process) :
    Installs (lists.gracefulSignals ++ lists.fatalSignals ++ lists.ignoredSignals) process
      (setupSignalHandlers lists sigaction process) := by
  unfold setupSignalHandlers
  simp only
  split
  · refine ⟨[], List.nil_prefix, (List.append_nil _).symm, ?_⟩
    intro whole
    cases whole
  · apply Installs.unless_refused
    · apply Installs.unless_refused
      · exact register_installs _ _ _ _ process
      · exact register_installs _ _ _ _
    · exact register_installs _ _ _ _

/-- The check accepts the sets that are consistent, so that neither the order of a list nor
the roles of the lists matter; with accepted sets, no signal gets two dispositions. -/
theorem signal_sets_verdict (graceful fatal ignored : List Int32) :
    (validateSignalSets graceful fatal ignored = [] ↔ Consistent graceful fatal ignored) ∧
    (∀ graceful' fatal' ignored', graceful'.Perm graceful → fatal'.Perm fatal →
      ignored'.Perm ignored →
      (validateSignalSets graceful' fatal' ignored' = [] ↔
        validateSignalSets graceful fatal ignored = [])) ∧
    (∀ graceful' fatal' ignored',
      [graceful', fatal', ignored'].Perm [graceful, fatal, ignored] →
      (validateSignalSets graceful' fatal' ignored' = [] ↔
        validateSignalSets graceful fatal ignored = [])) ∧
    (validateSignalSets graceful fatal ignored = [] → ∀ sigaction stderr,
      ((setupSignalHandlers ⟨graceful, fatal, ignored⟩ sigaction ⟨[], stderr⟩).process.installed.map
        Prod.fst).Nodup) := by
  constructor
  · exact validate_iff graceful fatal ignored
  constructor
  · intro graceful' fatal' ignored' first second third
    rw [validate_iff, validate_iff]
    exact consistent_perm (first.append (second.append third))
  constructor
  · intro graceful' fatal' ignored' exchanged
    rw [validate_iff, validate_iff]
    have whole := exchanged.flatMap_right id
    simp only [List.flatMap_cons, List.flatMap_nil, List.append_nil, id_eq] at whole
    exact consistent_perm whole
  · intro accepted sigaction stderr
    rw [validate_iff, consistent_iff] at accepted
    obtain ⟨front, begins, installed, _⟩ :=
      setup_installs ⟨graceful, fatal, ignored⟩ sigaction ⟨[], stderr⟩
    rw [installed]
    rw [← List.append_assoc] at accepted
    exact accepted.2.sublist begins.sublist

/-- The lists that no class has overridden are accepted. -/
example : validateSignalSets [2, 15] [11, 6] [13] = [] := by decide

end TboxFramework.Application
