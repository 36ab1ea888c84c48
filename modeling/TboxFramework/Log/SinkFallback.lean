import TboxFramework.Library.Interleaving
import TboxFramework.Log.SinkManager

/-!
# When the sinks fall back to stderr

The console sink stays unavailable after its first short write. The file sink is worth
nothing after a short write or after a rotation that could not open the next file, and
no later call brings it back. Only the second loss is noticed as a fallback, three
writes later, since it leaves a sink that calls itself available.
-/

namespace TboxFramework.Log.Sinks

open Interleaving (run run_cons_eq_some run_append_eq_some traced_invariant along_of_forall)
open TboxFramework.Store (Bytes text)
open RollingFileSink (output maxSizeBytes openNewFile)

set_option autoImplicit false

instance (bytes : Bytes) : Decidable (Numbered bytes) := inferInstanceAs (Decidable (_ ∧ _))

instance (serviceName : Bytes) (names : List Bytes) : Decidable (AllNumbered serviceName names) :=
  inferInstanceAs (Decidable (∀ name ∈ names, _ → _))

/-- The write stores its line and closes the file, and the next one does not open. -/
structure LosesFile (sink : RollingFileSink) (directory : LogDirectory) (line : Bytes)
    (outcomes : FileOutcomes) : Prop where
  available : sink.available = true
  opened : sink.file ≠ none
  whole : outcomes.shortWrite = none
  full : maxSizeBytes sink.config ≤ sink.currentSize + (output line).length
  scanned : sink.config.maxFiles.toNat ≤ sink.countFiles directory outcomes →
    outcomes.lists = true → AllNumbered sink.serviceName directory.names
  refused : outcomes.opens = false

/-! ## The health of the file sink -/

/-- What has become of the file sink; a lost one counts the writes since. -/
inductive FileHealth
  | absent
  | closed
  | working
  | cut
  | lost (writes : Nat)

/-- What a manager with a file sink of this health looks like. -/
def FileHealth.Represents (manager : SinkManager) : FileHealth → Prop
  | .absent =>
      manager.fileSink = none ∧ manager.consecutiveFailures = 0 ∧ manager.stderrFallback = false
  | .closed =>
      (∃ sink, manager.fileSink = some sink ∧ sink.available = false) ∧
        manager.consecutiveFailures = 0 ∧ manager.stderrFallback = false
  | .working =>
      (∃ sink, manager.fileSink = some sink ∧ sink.available = true ∧ sink.file ≠ none) ∧
        manager.consecutiveFailures = 0 ∧ manager.stderrFallback = false
  | .cut =>
      (∃ sink, manager.fileSink = some sink ∧ sink.available = false) ∧
        manager.stderrFallback = false
  | .lost writes =>
      (∃ sink, manager.fileSink = some sink ∧ sink.available = true ∧ sink.file = none) ∧
        manager.consecutiveFailures = writes ∧ manager.stderrFallback = decide (3 ≤ writes)

/-- What a write does to a file sink that works. -/
inductive FileMove (sink : RollingFileSink) (directory : LogDirectory) (number : Nat)
    (line : Bytes) (outcomes : FileOutcomes) : Prop
  | cut (short : outcomes.shortWrite ≠ none)
      (answer : (sink.write directory number line outcomes).1 = .ok false)
      (unavailable : (sink.write directory number line outcomes).2.1.available = false)
  | kept (whole : outcomes.shortWrite = none) (keeps : ¬ LosesFile sink directory line outcomes)
      (answer : (sink.write directory number line outcomes).1 ≠ .ok false)
      (available : (sink.write directory number line outcomes).2.1.available = true)
      (opened : (sink.write directory number line outcomes).2.1.file ≠ none)
  | lost (loses : LosesFile sink directory line outcomes)
      (answer : (sink.write directory number line outcomes).1 = .ok true)
      (available : (sink.write directory number line outcomes).2.1.available = true)
      (closed : (sink.write directory number line outcomes).2.1.file = none)

variable {sink : RollingFileSink} {directory : LogDirectory} {number : Nat} {line : Bytes}
  {outcomes : FileOutcomes}

/-- The sink when the whole line is in its file. -/
def grown (sink : RollingFileSink) (line : Bytes) : RollingFileSink :=
  { sink with currentSize := sink.currentSize + (output line).length }

theorem write_whole {name : Bytes} (available : sink.available = true)
    (opened : sink.file = some name) (whole : outcomes.shortWrite = none) :
    sink.write directory number line outcomes =
      let rotated := (grown sink line).rotateIfNeeded
        (directory.append name ⟨number, output line⟩) outcomes
      (rotated.1.map fun _ => true, rotated.2) := by
  have stored := @SinkProcess.writing_stored ⟨sink, directory, number⟩ line outcomes name
    available opened whole
  exact stored

theorem room_found_iff {name : Bytes} (chunk : Chunk) :
    (∃ after, (grown sink line).makeRoom (directory.append name chunk) outcomes = .ok after) ↔
      (sink.config.maxFiles.toNat ≤ sink.countFiles directory outcomes →
        outcomes.lists = true → AllNumbered sink.serviceName directory.names) := by
  rw [RollingFileSink.make_room_answers_iff]
  unfold RollingFileSink.countFiles grown
  rw [RollingFileSink.names_of_append]

/-- A write that fills the file moves as its rotation does. -/
theorem file_move_full {name : Bytes} (available : sink.available = true)
    (named : sink.file = some name) (whole : outcomes.shortWrite = none)
    (full : maxSizeBytes sink.config ≤ sink.currentSize + (output line).length) :
    FileMove sink directory number line outcomes := by
  have opened : sink.file ≠ none := by simp [named]
  have written := @write_whole sink directory number line outcomes name available named whole
  have closes : ¬ (grown sink line).currentSize < maxSizeBytes (grown sink line).config :=
    Nat.not_lt.mpr full
  have found := @room_found_iff sink directory line outcomes name ⟨number, output line⟩
  unfold RollingFileSink.rotateIfNeeded at written
  rw [if_neg closes] at written
  cases room : (grown sink line).makeRoom (directory.append name ⟨number, output line⟩)
      outcomes with
  | error problem =>
      rw [room] at written
      apply FileMove.kept whole
      · intro loses
        obtain ⟨after, same⟩ := found.mpr loses.scanned
        rw [room] at same
        cases same
      · simp [written, Except.map]
      · rw [written]
        exact available
      · rw [written]
        exact opened
  | ok remaining =>
      rw [room] at written
      cases opens : outcomes.opens with
      | true =>
          apply FileMove.kept whole
          · intro loses
            rw [loses.refused] at opens
            cases opens
          · simp [written, Except.map]
          · simp [written, openNewFile, opens, grown, available]
          · simp [written, openNewFile, opens]
      | false =>
          apply FileMove.lost
          · exact ⟨available, opened, whole, full, found.mp ⟨remaining, room⟩, opens⟩
          · simp [written, Except.map]
          · simp [written, openNewFile, opens, grown, available]
          · simp [written, openNewFile, opens]

/-- The cases are those of `write`: a part of the line is stored, or all of it with or
without a rotation. -/
theorem file_move (available : sink.available = true) (opened : sink.file ≠ none) :
    FileMove sink directory number line outcomes := by
  obtain ⟨name, named⟩ := Option.ne_none_iff_exists'.mp opened
  cases short : outcomes.shortWrite with
  | some count =>
      have written : sink.write directory number line outcomes =
          (.ok false, { sink with available := false },
            directory.append name ⟨number, (output line).take count⟩) := by
        unfold RollingFileSink.write
        rw [available, named]
        simp [short]
      apply FileMove.cut
      · rw [short]
        exact Option.some_ne_none count
      · rw [written]
      · rw [written]
  | none =>
      by_cases full : maxSizeBytes sink.config ≤ sink.currentSize + (output line).length
      · exact file_move_full available named short full
      · have written := @write_whole sink directory number line outcomes name available named short
        have idle := @RollingFileSink.rotate_idle (grown sink line)
          (directory.append name ⟨number, output line⟩) outcomes full
        rw [idle] at written
        apply FileMove.kept short
        · intro loses
          exact full loses.full
        · simp [written, Except.map]
        · rw [written]
          exact available
        · rw [written]
          exact opened

/-! ## What a write does to the manager -/

/-- The file sink of the manager loses its file in this write. -/
def SinkManager.LosesFile (manager : SinkManager) (directory : LogDirectory) (line : Bytes)
    (outcomes : FileOutcomes) : Prop :=
  ∃ sink, manager.fileSink = some sink ∧ Sinks.LosesFile sink directory line outcomes

/-- What one write can make of the health, when its `fwrite` is short or its rotation
loses the file. -/
inductive FileHealth.Next (short loses : Prop) : FileHealth → FileHealth → Prop
  | absent : Next short loses .absent .absent
  | closed : Next short loses .closed .closed
  | stays (whole : ¬ short) (keeps : ¬ loses) : Next short loses .working .working
  | cuts (cut : short) : Next short loses .working .cut
  | loses (whole : ¬ short) (lost : loses) : Next short loses .working (.lost 0)
  | cut : Next short loses .cut .cut
  | later (writes : Nat) : Next short loses (.lost writes) (.lost (writes + 1))

/-- The file takes the line. -/
def FileHealth.Takes (health : FileHealth) (outcomes : FileOutcomes) : Prop :=
  health = .working ∧ outcomes.shortWrite = none

variable {manager : SinkManager} {outputs : Outputs} {health : FileHealth} {level : LogLevel}
  {choices : WriteOutcomes}

/-- A file sink that is not available is left alone. -/
theorem write_file_unavailable (found : manager.fileSink = some sink)
    (unavailable : sink.available = false) :
    manager.writeFile outputs number line choices = (.ok false, manager, outputs) := by
  unfold SinkManager.writeFile
  rw [found]
  simp [unavailable]

theorem write_file_lost (found : manager.fileSink = some sink) (available : sink.available = true)
    (closed : sink.file = none) :
    manager.writeFile outputs number line choices = (.ok false, manager.countFailure, outputs) := by
  have refused : sink.write outputs.directory number line choices.file =
      (.ok false, sink, outputs.directory) := by
    unfold RollingFileSink.write
    rw [closed, available]
  unfold SinkManager.writeFile SinkManager.settle
  rw [found]
  simp only [available, if_true, refused, ← found]

theorem write_file_working (found : manager.fileSink = some sink)
    (available : sink.available = true) (opened : sink.file ≠ none)
    (failures : manager.consecutiveFailures = 0) (quiet : manager.stderrFallback = false) :
    ∃ next, FileHealth.Next (choices.file.shortWrite ≠ none)
        (manager.LosesFile outputs.directory line choices.file) .working next ∧
      next.Represents (manager.writeFile outputs number line choices).2.1 ∧
      ((manager.writeFile outputs number line choices).1 = .ok false ↔
        choices.file.shortWrite ≠ none) := by
  have loses_iff : manager.LosesFile outputs.directory line choices.file ↔
      LosesFile sink outputs.directory line choices.file := by
    unfold SinkManager.LosesFile
    simp [found]
  have written : manager.writeFile outputs number line choices =
      manager.settle outputs (sink.write outputs.directory number line choices.file) := by
    unfold SinkManager.writeFile
    rw [found]
    simp [available]
  rw [loses_iff, written]
  unfold SinkManager.settle
  cases @file_move sink outputs.directory number line choices.file available opened with
  | cut short answer unavailable =>
      refine ⟨.cut, .cuts short, ?_, ?_⟩
      · rw [answer]
        exact ⟨⟨_, rfl, unavailable⟩, by simp [SinkManager.countFailure, failures, quiet]⟩
      · rw [answer]
        exact iff_of_true rfl short
  | kept whole keeps answer available opened =>
      refine ⟨.working, .stays (not_not.mpr whole) keeps, ?_, ?_⟩
      · cases answered : (sink.write outputs.directory number line choices.file).1 with
        | error problem => exact ⟨⟨_, rfl, available, opened⟩, failures, quiet⟩
        | ok stored =>
            cases stored with
            | true => exact ⟨⟨_, rfl, available, opened⟩, rfl, quiet⟩
            | false => exact absurd answered answer
      · cases answered : (sink.write outputs.directory number line choices.file).1 with
        | error problem => simp [whole]
        | ok stored =>
            cases stored with
            | true => simp [whole]
            | false => exact absurd answered answer
  | lost loses answer available closed =>
      refine ⟨.lost 0, .loses (not_not.mpr loses.whole) loses, ?_, ?_⟩
      · rw [answer]
        exact ⟨⟨_, rfl, available, closed⟩, rfl, quiet⟩
      · rw [answer]
        simp [loses.whole]

theorem write_file_health (represents : health.Represents manager) :
    ∃ next, FileHealth.Next (choices.file.shortWrite ≠ none)
        (manager.LosesFile outputs.directory line choices.file) health next ∧
      next.Represents (manager.writeFile outputs number line choices).2.1 ∧
      ((manager.writeFile outputs number line choices).1 = .ok false ↔
        ¬ health.Takes choices.file) := by
  cases health with
  | absent =>
      have untouched : manager.writeFile outputs number line choices =
          (.ok false, manager, outputs) := by
        unfold SinkManager.writeFile
        rw [represents.1]
      rw [untouched]
      exact ⟨.absent, .absent, represents, by simp [FileHealth.Takes]⟩
  | closed =>
      obtain ⟨sink, found, unavailable⟩ := represents.1
      rw [write_file_unavailable found unavailable]
      exact ⟨.closed, .closed, represents, by simp [FileHealth.Takes]⟩
  | working =>
      obtain ⟨sink, found, available, opened⟩ := represents.1
      obtain ⟨next, moves, after, answer⟩ := @write_file_working sink number line manager outputs
        choices found available opened represents.2.1 represents.2.2
      exact ⟨next, moves, after, by simp [FileHealth.Takes, answer]⟩
  | cut =>
      obtain ⟨sink, found, unavailable⟩ := represents.1
      rw [write_file_unavailable found unavailable]
      exact ⟨.cut, .cut, represents, by simp [FileHealth.Takes]⟩
  | lost writes =>
      obtain ⟨sink, found, available, closed⟩ := represents.1
      rw [write_file_lost found available closed]
      refine ⟨.lost (writes + 1), .later writes, ?_, by simp [FileHealth.Takes]⟩
      refine ⟨⟨sink, found, available, closed⟩, ?_, ?_⟩
      · simp [SinkManager.countFailure, represents.2.1]
      · simp only [SinkManager.countFailure, represents.2.1, represents.2.2]
        rw [← Bool.decide_or]
        congr 1
        simp only [eq_iff_iff]
        omega

end TboxFramework.Log.Sinks
