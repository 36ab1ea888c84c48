import TboxFramework.Library.Interleaving
import TboxFramework.Log.RotationRefinement

/-!
# Survival of the rolling file sink

Other tools leave files in the log directory whenever they like, and every file
operation may fail. A write survives when it answers and the sink that it leaves has
an open file whenever it calls itself available. Only a rotation puts this at risk: the
search for the oldest file parses the names that it finds, and the next file may not
open.
-/

namespace TboxFramework.Log

open Interleaving (Along along_iff_of_kept)
open TboxFramework.Decimal
open TboxFramework.Store (Bytes text)
open RollingFileSink (output maxSizeBytes openNewFile)

set_option autoImplicit false

/-- The digits that `std::stoul` reads. -/
def leadingDigits (bytes : Bytes) : Bytes :=
  (readSign (bytes.dropWhile isSpace)).2.takeWhile fun byte => decide (IsDigit byte)

/-- The text begins, blanks and a sign apart, with a number of 64 bits. -/
def Numbered (bytes : Bytes) : Prop :=
  leadingDigits bytes ≠ [] ∧ value (leadingDigits bytes) < UInt64.size

theorem stoul_answers_iff (bytes : Bytes) :
    (∃ number, stoul bytes = .ok number) ↔ Numbered bytes := by
  have read : stoul bytes =
      if leadingDigits bytes = [] then .error .invalidArgument
      else if UInt64.size ≤ value (leadingDigits bytes) then .error .outOfRange
      else if (readSign (bytes.dropWhile isSpace)).1 then
        .ok ((UInt64.size - value (leadingDigits bytes)) % UInt64.size)
      else .ok (value (leadingDigits bytes)) := rfl
  unfold Numbered
  rw [read]
  by_cases digits : leadingDigits bytes = []
  · simp [digits]
  · by_cases large : UInt64.size ≤ value (leadingDigits bytes)
    · simp [digits, large]
    · rw [if_neg digits, if_neg large]
      have small := Nat.not_le.mp large
      constructor
      · intro _
        exact ⟨digits, small⟩
      · intro _
        split
        · exact ⟨_, rfl⟩
        · exact ⟨_, rfl⟩

/-- An index can be read from every name that the scan looks at. -/
def AllNumbered (serviceName : Bytes) (names : List Bytes) : Prop :=
  ∀ name ∈ names, isLogName serviceName name = true → Numbered (indexText serviceName name)

theorem name_index_answers_iff (serviceName name : Bytes) :
    (∃ index, nameIndex serviceName name = .ok index) ↔
      Numbered (indexText serviceName name) := by
  rw [← stoul_answers_iff]
  unfold nameIndex
  cases stoul (indexText serviceName name) with
  | error problem => simp [Except.map]
  | ok number => simp [Except.map]

theorem scan_name_answers_iff (serviceName : Bytes) (best : UInt32 × Option Bytes)
    (name : Bytes) :
    (∃ next, RollingFileSink.scanName serviceName best name = .ok next) ↔
      (isLogName serviceName name = true → Numbered (indexText serviceName name)) := by
  rw [← name_index_answers_iff]
  unfold RollingFileSink.scanName
  by_cases matching : isLogName serviceName name = true
  · rw [if_pos matching]
    cases nameIndex serviceName name with
    | error problem => simp [Except.map, matching]
    | ok index => simp [Except.map]
  · simp [matching]

/-- The induction is on the names that are left. -/
theorem scan_answers_iff (serviceName : Bytes) (names : List Bytes) :
    ∀ best : UInt32 × Option Bytes,
      (∃ last, names.foldlM (RollingFileSink.scanName serviceName) best = .ok last) ↔
        AllNumbered serviceName names := by
  unfold AllNumbered
  induction names with
  | nil =>
      intro best
      simp [pure, Except.pure]
  | cons name rest induction =>
      intro best
      have here := scan_name_answers_iff serviceName best name
      rw [List.foldlM_cons, List.forall_mem_cons, ← here]
      cases scanned : RollingFileSink.scanName serviceName best name with
      | error problem => simp [bind, Except.bind]
      | ok next =>
          have later := induction next
          simpa [bind, Except.bind] using later

theorem oldest_file_answers_iff (serviceName : Bytes) (names : List Bytes) :
    (∃ oldest, RollingFileSink.oldestFile serviceName names = .ok oldest) ↔
      AllNumbered serviceName names := by
  rw [← scan_answers_iff serviceName names (4294967295, none)]
  unfold RollingFileSink.oldestFile
  cases names.foldlM (RollingFileSink.scanName serviceName) (4294967295, none) with
  | error problem => simp [Except.map]
  | ok last => simp [Except.map]

/-- A process with its sink, and the directory as it stands. -/
structure SinkProcess where
  sink : RollingFileSink
  directory : LogDirectory
  /-- The number of writes so far. -/
  written : Nat

inductive SinkEvent
  | write (line : Bytes) (outcomes : FileOutcomes)
  /-- Other tools leave the directory so. -/
  | tools (directory : LogDirectory)

namespace SinkProcess

def start (config : FileConfig) (serviceName : Bytes) (directory : LogDirectory)
    (outcomes : FileOutcomes) : SinkProcess :=
  let made := RollingFileSink.make config serviceName directory outcomes
  { sink := made.1, directory := made.2, written := 0 }

/-- What a write answers, and the sink and the directory that it leaves. -/
def writing (process : SinkProcess) (line : Bytes) (outcomes : FileOutcomes) :
    Except StoulError Bool × RollingFileSink × LogDirectory :=
  process.sink.write process.directory process.written line outcomes

def step (process : SinkProcess) : SinkEvent → Option SinkProcess
  | .write line outcomes =>
      let after := process.writing line outcomes
      some { sink := after.2.1, directory := after.2.2, written := process.written + 1 }
  | .tools directory => some { process with directory := directory }

end SinkProcess

/-- `isAvailable()` implies that there is a file to write to. -/
def RollingFileSink.Usable (sink : RollingFileSink) : Prop :=
  sink.available = true → sink.file ≠ none

namespace SinkProcess

/-- The call returns a value, and the sink is then as available as it says. -/
def Survives (process : SinkProcess) : SinkEvent → Prop
  | .write line outcomes =>
      (∃ answer, (process.writing line outcomes).1 = .ok answer) ∧
        (process.writing line outcomes).2.1.Usable
  | .tools _ => True

/-- The write stores its line and fills the file. -/
def Fills (process : SinkProcess) (line : Bytes) (outcomes : FileOutcomes) : Prop :=
  process.sink.available = true ∧ outcomes.shortWrite = none ∧
    maxSizeBytes process.sink.config ≤ process.sink.currentSize + (output line).length

/-- The directory is listed for its oldest file. -/
def Searches (process : SinkProcess) (outcomes : FileOutcomes) : Prop :=
  process.sink.config.maxFiles.toNat ≤ process.sink.countFiles process.directory outcomes ∧
    outcomes.lists = true

/-- Where the write rotates, the next file opens, and an index can be read from every
name that is searched. -/
def RotatesSafely (process : SinkProcess) : SinkEvent → Prop
  | .write line outcomes =>
      process.Fills line outcomes →
        outcomes.opens = true ∧
          (process.Searches outcomes →
            AllNumbered process.sink.serviceName process.directory.names)
  | .tools _ => True

end SinkProcess

namespace RollingFileSink

variable {sink : RollingFileSink} {directory : LogDirectory} {outcomes : FileOutcomes}

theorem names_of_append (directory : LogDirectory) (name : Bytes) (chunk : Chunk) :
    (directory.append name chunk).names = directory.names := by
  unfold LogDirectory.names LogDirectory.append
  rw [List.map_map]
  apply List.map_congr_left
  intro file _
  simp only [Function.comp_apply]
  split
  · rfl
  · rfl

theorem remove_answers_iff (sink : RollingFileSink) (directory : LogDirectory)
    (outcomes : FileOutcomes) :
    (∃ after, sink.removeOldestFile directory outcomes = .ok after) ↔
      (outcomes.lists = true → AllNumbered sink.serviceName directory.names) := by
  rw [← oldest_file_answers_iff]
  unfold removeOldestFile
  by_cases listed : outcomes.lists = true
  · rw [if_pos listed]
    cases oldestFile sink.serviceName directory.names with
    | error problem => simp [Except.map, listed]
    | ok oldest => simp [Except.map]
  · simp [listed]

theorem make_room_answers_iff (sink : RollingFileSink) (directory : LogDirectory)
    (outcomes : FileOutcomes) :
    (∃ after, sink.makeRoom directory outcomes = .ok after) ↔
      (sink.config.maxFiles.toNat ≤ sink.countFiles directory outcomes →
        outcomes.lists = true → AllNumbered sink.serviceName directory.names) := by
  rw [← remove_answers_iff]
  unfold makeRoom
  by_cases crowded : sink.config.maxFiles.toNat ≤ sink.countFiles directory outcomes
  · simp [crowded]
  · simp [crowded]

theorem open_usable_iff (available : sink.available = true) :
    (openNewFile sink directory outcomes).2.1.Usable ↔ outcomes.opens = true := by
  unfold Usable openNewFile
  by_cases opened : outcomes.opens = true
  · simp [opened]
  · simp [opened, available]

/-- A rotation answers and leaves an open file exactly when the names can be parsed and
the next file opens. -/
theorem rotate_survives_iff (available : sink.available = true)
    (full : maxSizeBytes sink.config ≤ sink.currentSize) :
    ((∃ answer, (sink.rotateIfNeeded directory outcomes).1 = .ok answer) ∧
        (sink.rotateIfNeeded directory outcomes).2.1.Usable) ↔
      (outcomes.opens = true ∧ ∃ after, sink.makeRoom directory outcomes = .ok after) := by
  unfold rotateIfNeeded
  rw [if_neg (Nat.not_lt.mpr full)]
  cases sink.makeRoom directory outcomes with
  | error problem => simp
  | ok remaining =>
      have opened := @open_usable_iff { sink with currentIndex := sink.currentIndex + 1 }
        remaining outcomes available
      simp [opened]

theorem rotate_idle (directory : LogDirectory) (outcomes : FileOutcomes)
    (room : ¬ maxSizeBytes sink.config ≤ sink.currentSize) :
    sink.rotateIfNeeded directory outcomes = (.ok (), sink, directory) := by
  unfold rotateIfNeeded
  rw [if_pos (Nat.not_le.mp room)]

end RollingFileSink

namespace SinkProcess

variable {process : SinkProcess} {line : Bytes} {outcomes : FileOutcomes}

/-- The sink when the whole line is in its file. -/
def grown (process : SinkProcess) (line : Bytes) : RollingFileSink :=
  { process.sink with currentSize := process.sink.currentSize + (output line).length }

/-- A write of the whole line to an open file answers as its rotation does. -/
theorem writing_stored {name : Bytes} (available : process.sink.available = true)
    (opened : process.sink.file = some name) (whole : outcomes.shortWrite = none) :
    process.writing line outcomes =
      let rotated := (process.grown line).rotateIfNeeded
        (process.directory.append name ⟨process.written, output line⟩) outcomes
      (rotated.1.map fun _ => true, rotated.2) := by
  obtain ⟨sink, directory, written⟩ := process
  obtain ⟨config, serviceName, file, size, index, state⟩ := sink
  cases available
  cases opened
  unfold writing RollingFileSink.write
  simp only [whole]
  rfl

theorem map_answers_iff (result : Except StoulError Unit) :
    (∃ answer, (result.map fun _ => true) = .ok answer) ↔ ∃ answer, result = .ok answer := by
  cases result with
  | error problem => simp [Except.map]
  | ok answer => simp [Except.map]

theorem stored_survives_iff (usable : process.sink.Usable)
    (available : process.sink.available = true) (whole : outcomes.shortWrite = none) :
    process.Survives (.write line outcomes) ↔ process.RotatesSafely (.write line outcomes) := by
  obtain ⟨name, opened⟩ := Option.ne_none_iff_exists'.mp (usable available)
  unfold Survives RotatesSafely Fills Searches
  simp only [writing_stored available opened whole, map_answers_iff]
  by_cases full : maxSizeBytes process.sink.config ≤
      process.sink.currentSize + (output line).length
  · have rotation := @RollingFileSink.rotate_survives_iff (process.grown line)
      (process.directory.append name ⟨process.written, output line⟩) outcomes available full
    rw [rotation, RollingFileSink.make_room_answers_iff]
    unfold RollingFileSink.countFiles grown
    rw [RollingFileSink.names_of_append]
    simp only [available, whole, full, and_self, true_implies, and_imp]
  · have idle := @RollingFileSink.rotate_idle (process.grown line)
      (process.directory.append name ⟨process.written, output line⟩) outcomes full
    simp only [idle, full, and_false, false_implies, iff_true]
    constructor
    · exact ⟨(), trivial⟩
    · exact usable

/-- The cases are those of `write`: it refuses, stores a part of the line, or all of it. -/
theorem survives_iff (usable : process.sink.Usable) (event : SinkEvent) :
    process.Survives event ↔ process.RotatesSafely event := by
  cases event with
  | tools directory => exact Iff.rfl
  | write line outcomes =>
      cases available : process.sink.available with
      | false =>
          have refused : process.writing line outcomes =
              (.ok false, process.sink, process.directory) := by
            unfold writing RollingFileSink.write
            rw [available]
          unfold Survives RotatesSafely Fills
          simp [refused, available, usable]
      | true =>
          cases short : outcomes.shortWrite with
          | none => exact stored_survives_iff usable available short
          | some accepted =>
              obtain ⟨name, opened⟩ := Option.ne_none_iff_exists'.mp (usable available)
              unfold Survives RotatesSafely Fills writing RollingFileSink.write
              rw [available, opened]
              simp [short, RollingFileSink.Usable]

theorem start_usable (config : FileConfig) (serviceName : Bytes) (directory : LogDirectory)
    (outcomes : FileOutcomes) : (start config serviceName directory outcomes).sink.Usable := by
  unfold start RollingFileSink.make openNewFile RollingFileSink.Usable
  by_cases opened : outcomes.opens = true
  · simp [opened]
  · simp [opened]

theorem survivor_usable {event : SinkEvent} {next : SinkProcess} (usable : process.sink.Usable)
    (survives : process.Survives event) (taken : process.step event = some next) :
    next.sink.Usable := by
  cases event with
  | tools directory =>
      cases taken
      exact usable
  | write line outcomes =>
      cases taken
      exact survives.2

/-- Whatever the directory holds, what other tools do to it and which operations fail,
every write survives exactly when every rotation finds parsable names and opens its file. -/
theorem writes_survive_iff (config : FileConfig) (serviceName : Bytes)
    (directory : LogDirectory) (outcomes : FileOutcomes) (events : List SinkEvent) :
    Along step Survives (start config serviceName directory outcomes) events ↔
      Along step RotatesSafely (start config serviceName directory outcomes) events := by
  apply along_iff_of_kept (fun process => process.sink.Usable)
  · intro process event next usable survives taken
    exact survivor_usable usable survives taken
  · intro process event usable
    exact survives_iff usable event
  · exact start_usable config serviceName directory outcomes

/-! ## Rotations that do not survive -/

def oneFileConfig : FileConfig :=
  { enabled := true, maxFileSizeMb := 1, maxFiles := 1, totalBudgetMb := 1 }

/-- A line of one megabyte. -/
def megabyte : Bytes := List.replicate 1048576 97

/-- A log that someone has set aside under a name of the service. -/
def setAside : LogDirectory := [⟨text "tbox_old.log", []⟩]

theorem megabyte_fills (directory : LogDirectory) {outcomes : FileOutcomes}
    (whole : outcomes.shortWrite = none) :
    (start oneFileConfig (text "tbox") directory .success).Fills megabyte outcomes := by
  refine ⟨rfl, whole, ?_⟩
  apply Nat.le_add_left_of_le
  unfold output megabyte
  rw [List.length_append, List.length_replicate]
  change maxSizeBytes oneFileConfig ≤ _
  decide

/-- The first rotation over a file that was set aside throws; without such a file, a next
file that does not open leaves a sink that calls itself available. -/
theorem rotation_fails :
    ¬ Along step Survives (start oneFileConfig (text "tbox") setAside .success)
        [.write megabyte .success] ∧
      ¬ Along step Survives (start oneFileConfig (text "tbox") [] .success)
        [.write megabyte { FileOutcomes.success with opens := false }] := by
  constructor
  · intro survived
    have safe := (survives_iff (start_usable _ _ _ _) _).mp survived.1 (megabyte_fills _ rfl)
    have numbered := safe.2 ⟨by decide, rfl⟩ (text "tbox_old.log") (by decide) (by decide)
    exact absurd numbered.1 (by decide)
  · intro survived
    have safe := (survives_iff (start_usable _ _ _ _) _).mp survived.1 (megabyte_fills _ rfl)
    exact absurd safe.1 (by decide)

end SinkProcess

end TboxFramework.Log
