import TboxFramework.Store.CallFrames

/-!
# Where a write stops

The answers of the kernel decide at which step `AtomicWriter::write` stops, and the
step decides what is then found under the two names.
-/

namespace TboxFramework.Store

open DurableDirectory

set_option autoImplicit false

inductive WriteStage
  | openingTemp
  | writingTemp
  | syncingTemp
  | renamingTemp
  | syncingDirectory
  | complete
  deriving DecidableEq, Repr

/-- The step whose failure ends the call. -/
def WriteAnswers.stage (answers : WriteAnswers) (data : Bytes) : WriteStage :=
  if answers.openTemp = false then .openingTemp
  else if answers.written ≠ some data.length then .writingTemp
  else if (answers.openSync && answers.fsyncTemp) = false then .syncingTemp
  else if answers.renameTemp = false then .renamingTemp
  else if (answers.openDirectory && answers.fsyncDirectory) = false then .syncingDirectory
  else .complete

namespace WriteStage

/-- The content of the final file after the call. -/
def finalFile (stage : WriteStage) (before : Option Bytes) (data : Bytes) : Option Bytes :=
  match stage with
  | .syncingDirectory | .complete => some data
  | _ => before

/-- Whether a temporary file is there after the call. -/
def tempLeft (stage : WriteStage) (before : Option Bytes) : Bool :=
  match stage with
  | .openingTemp => before.isSome
  | .writingTemp => true
  | _ => false

end WriteStage

/-- What the answers were when the call stops at a stage. -/
def WriteAnswers.StoppedAt (answers : WriteAnswers) (data : Bytes) : WriteStage → Prop
  | .openingTemp => answers.openTemp = false
  | .writingTemp | .syncingTemp => answers.openTemp = true
  | .renamingTemp => answers.renameTemp = false
  | .syncingDirectory | .complete =>
      answers.openTemp = true ∧ answers.written = some data.length ∧ answers.renameTemp = true

theorem stopped_at_stage (answers : WriteAnswers) (data : Bytes) :
    answers.StoppedAt data (answers.stage data) := by
  unfold WriteAnswers.stage
  split_ifs <;> simp_all [WriteAnswers.StoppedAt]

variable {Name : Type} [DecidableEq Name]

theorem read_open_truncate_self (disk : Disk Name UInt8) (name : Name) :
    (disk.openTruncate name).read name = some [] := by
  rw [Disk.read_of_view (disk.view_open_truncate_self name), disk.files_open_truncate_self]

theorem read_write_self {disk : Disk Name UInt8} {name : Name} {inode : Inode}
    (named : disk.view name = some inode) (empty : (disk.files inode).content = [])
    (bytes : Bytes) : (disk.write inode bytes).read name = some bytes := by
  have still : (disk.write inode bytes).view name = some inode := named
  rw [Disk.read_of_view still, disk.write_empty_file bytes empty]

/-! ## The steps -/

section Steps

variable {locate : Bytes → Name} {answers : WriteAnswers} {kernel : Kernel Name} {path data : Bytes}

theorem write_temp_refused (refused : answers.openTemp = false) :
    AtomicWriter.writeTempFile locate answers kernel path data =
      (false, kernel.touch (locate path)) := by
  simp [AtomicWriter.writeTempFile, refused]

theorem write_temp_answer (opened : answers.openTemp = true) :
    (AtomicWriter.writeTempFile locate answers kernel path data).1 =
      decide (answers.written = some data.length) := by
  cases written : answers.written <;> simp [AtomicWriter.writeTempFile, opened, written]

/-- Once opened, the temporary file is there, with as much of the data as was written. -/
theorem write_temp_read (opened : answers.openTemp = true) :
    (AtomicWriter.writeTempFile locate answers kernel path data).2.disk.read (locate path) =
      some (data.take (answers.written.getD 0)) := by
  have empty := kernel.disk.files_open_truncate_self (locate path)
  have named := kernel.disk.view_open_truncate_self (locate path)
  cases written : answers.written with
  | none =>
      simp only [AtomicWriter.writeTempFile, opened, written, if_true, Kernel.disk_on_disk]
      exact read_open_truncate_self kernel.disk (locate path)
  | some count =>
      simp only [AtomicWriter.writeTempFile, opened, written, if_true, Kernel.disk_on_disk]
      exact read_write_self named (congrArg File.content empty) (data.take count)

theorem view_of_read {disk : Disk Name UInt8} {name : Name} (present : disk.read name ≠ none) :
    ∃ inode, disk.view name = some inode := by
  unfold Disk.read at present
  cases found : disk.view name with
  | none => simp [found] at present
  | some inode => exact ⟨inode, rfl⟩

theorem sync_file_answer (present : kernel.disk.read (locate path) ≠ none) :
    (AtomicWriter.syncFile locate answers kernel path).1 =
      (answers.openSync && answers.fsyncTemp) := by
  obtain ⟨inode, named⟩ := view_of_read present
  cases opened : answers.openSync <;> simp [AtomicWriter.syncFile, opened, named]

theorem sync_file_read (name : Name) :
    (AtomicWriter.syncFile locate answers kernel path).2.disk.read name =
      kernel.disk.read name := by
  unfold AtomicWriter.syncFile
  simp only
  split
  · cases answers.fsyncTemp with
    | false => rfl
    | true => exact kernel.disk.read_fsync _ name
  · rfl

theorem rename_answer {source target : Bytes} (present : kernel.disk.read (locate source) ≠ none) :
    (AtomicWriter.atomicRename locate answers kernel source target).1 = answers.renameTemp := by
  obtain ⟨inode, named⟩ := view_of_read present
  have renamed : ∃ disk, kernel.disk.rename (locate source) (locate target) = some disk := by
    by_cases same : locate source = locate target
    · refine ⟨kernel.disk, ?_⟩
      unfold Disk.rename
      split
      · rename_i missing
        rw [named] at missing
        cases missing
      · exact if_pos same
    · exact ⟨_, (Disk.rename_eq_some same).mpr ⟨inode, named, rfl⟩⟩
  obtain ⟨disk, renamed⟩ := renamed
  cases ok : answers.renameTemp <;> simp [AtomicWriter.atomicRename, ok, renamed]

theorem rename_read {source target : Bytes} (apart : locate source ≠ locate target)
    (present : kernel.disk.read (locate source) ≠ none) (ok : answers.renameTemp = true) :
    (AtomicWriter.atomicRename locate answers kernel source target).2.disk.read (locate target) =
        kernel.disk.read (locate source) ∧
      (AtomicWriter.atomicRename locate answers kernel source target).2.disk.read
        (locate source) = none := by
  obtain ⟨inode, named⟩ := view_of_read present
  have renamed := (Disk.rename_eq_some apart).mpr ⟨inode, named, rfl⟩
  simp only [AtomicWriter.atomicRename, ok, Kernel.disk_touch, renamed, Kernel.disk_on_disk]
  constructor
  · exact kernel.disk.read_rename_named _ _ inode named
  · simp [Disk.read, Disk.view_rename_named, apart]

theorem rename_refused {source target : Bytes} (refused : answers.renameTemp = false) :
    AtomicWriter.atomicRename locate answers kernel source target =
      (false, (kernel.touch (locate source)).touch (locate target)) := by
  simp [AtomicWriter.atomicRename, refused]

theorem remove_file_gone (kernel : Kernel Name) (path : Bytes) :
    (removeFile locate true kernel path).2.disk.read (locate path) = none := by
  unfold removeFile
  by_cases present : kernel.disk.view (locate path) = none
  · simp [present, Disk.read, Kernel.touch]
  · simp [present, Kernel.onDisk, Disk.read, Disk.view_unlink]

theorem sync_directory_answer :
    (AtomicWriter.syncDirectory locate answers kernel path).1 =
      (answers.openDirectory && answers.fsyncDirectory) := by
  unfold AtomicWriter.syncDirectory
  cases answers.openDirectory <;> cases answers.fsyncDirectory <;> rfl

theorem sync_directory_read (name : Name) :
    (AtomicWriter.syncDirectory locate answers kernel path).2.disk.read name =
      kernel.disk.read name := by
  unfold AtomicWriter.syncDirectory
  simp only
  split <;> rfl

end Steps

/-! ## The whole write -/

theorem attempt_passed {result : Bool × Kernel Name}
    {failed next : Kernel Name → Bool × Kernel Name} (passed : result.1 = true) :
    AtomicWriter.attempt result failed next = next result.2 := by
  simp [AtomicWriter.attempt, passed]

theorem attempt_failed {result : Bool × Kernel Name}
    {failed next : Kernel Name → Bool × Kernel Name} (stopped : result.1 = false) :
    AtomicWriter.attempt result failed next = failed result.2 := by
  simp [AtomicWriter.attempt, stopped]

section Whole

variable (locate : Bytes → Name) (resolver : PathResolver) (answers : WriteAnswers)
  (kernel : Kernel Name) (key data : Bytes)

def stagedKernel : Kernel Name :=
  (AtomicWriter.writeTempFile locate answers kernel (resolver.getTempPath key) data).2

def syncedKernel : Kernel Name :=
  (AtomicWriter.syncFile locate answers (stagedKernel locate resolver answers kernel key data)
    (resolver.getTempPath key)).2

def placedKernel : Kernel Name :=
  (AtomicWriter.atomicRename locate answers (syncedKernel locate resolver answers kernel key data)
    (resolver.getTempPath key) (resolver.getKeyPath key)).2

/-- The kernel that the call leaves when it stops at a stage. -/
def stoppedKernel : WriteStage → Kernel Name
  | .openingTemp | .writingTemp => stagedKernel locate resolver answers kernel key data
  | .syncingTemp => (removeFile locate answers.removeTemp
      (syncedKernel locate resolver answers kernel key data) (resolver.getTempPath key)).2
  | .renamingTemp => (removeFile locate answers.removeTemp
      (placedKernel locate resolver answers kernel key data) (resolver.getTempPath key)).2
  | .syncingDirectory | .complete => (AtomicWriter.syncDirectory locate answers
      (placedKernel locate resolver answers kernel key data) resolver.getStorePath).2

theorem synced_kernel_read (name : Name) :
    (syncedKernel locate resolver answers kernel key data).disk.read name =
      (stagedKernel locate resolver answers kernel key data).disk.read name :=
  sync_file_read name

/-- The call as a function of the stage at which its answers stop it. -/
theorem write_eq_stopped :
    AtomicWriter.write locate resolver answers kernel key data =
      (decide (answers.stage data = .complete),
        stoppedKernel locate resolver answers kernel key data (answers.stage data)) := by
  unfold AtomicWriter.write
  simp only
  cases opened : answers.openTemp with
  | false =>
      have stage : answers.stage data = .openingTemp := by
        simp [WriteAnswers.stage, opened]
      rw [stage]
      exact attempt_failed (congrArg Prod.fst (write_temp_refused opened))
  | true =>
      have wrote := @write_temp_answer Name _ locate _ kernel (resolver.getTempPath key) data opened
      have read := @write_temp_read Name _ locate _ kernel (resolver.getTempPath key) data opened
      have staged : (stagedKernel locate resolver answers kernel key data).disk.read
          (locate (resolver.getTempPath key)) ≠ none := by
        rw [stagedKernel, read]
        nofun
      by_cases whole : answers.written = some data.length
      · refine (attempt_passed (wrote.trans (decide_eq_true whole))).trans ?_
        have flush := @sync_file_answer Name _ locate answers _ _ staged
        cases flushed : answers.openSync && answers.fsyncTemp with
        | false =>
            have stage : answers.stage data = .syncingTemp := by
              simp only [WriteAnswers.stage, opened, whole, flushed]
              simp
            rw [stage]
            exact attempt_failed (flush.trans flushed)
        | true =>
            refine (attempt_passed (flush.trans flushed)).trans ?_
            have synced : (syncedKernel locate resolver answers kernel key data).disk.read
                (locate (resolver.getTempPath key)) ≠ none := by
              rwa [synced_kernel_read]
            have move := @rename_answer Name _ locate answers _ _ (resolver.getKeyPath key) synced
            cases renamed : answers.renameTemp with
            | false =>
                have stage : answers.stage data = .renamingTemp := by
                  simp only [WriteAnswers.stage, opened, whole, flushed, renamed]
                  simp
                rw [stage]
                exact attempt_failed (move.trans renamed)
            | true =>
                refine (attempt_passed (move.trans renamed)).trans ?_
                have answer := @sync_directory_answer Name _ locate answers
                  (placedKernel locate resolver answers kernel key data) resolver.getStorePath
                cases durable : answers.openDirectory && answers.fsyncDirectory with
                | false =>
                    have stage : answers.stage data = .syncingDirectory := by
                      simp only [WriteAnswers.stage, opened, whole, flushed, renamed, durable]
                      simp
                    rw [stage]
                    exact Prod.ext (answer.trans durable) rfl
                | true =>
                    have stage : answers.stage data = .complete := by
                      simp only [WriteAnswers.stage, opened, whole, flushed, renamed, durable]
                      simp
                    rw [stage]
                    exact Prod.ext (answer.trans durable) rfl
      · have stage : answers.stage data = .writingTemp := by
          simp [WriteAnswers.stage, opened, whole]
        rw [stage]
        exact attempt_failed (wrote.trans (decide_eq_false whole))

variable {locate resolver answers kernel key data}

theorem staged_kernel_read {name : Name} (other : name ≠ locate (resolver.getTempPath key)) :
    (stagedKernel locate resolver answers kernel key data).disk.read name =
      kernel.disk.read name :=
  (write_temp_within locate answers kernel _ data).read name (by simpa using other)

theorem cleaned_kernel_read {failed : Kernel Name} {temp final : Name}
    (apart : temp ≠ final) (cleaned : answers.removeTemp = true) {path : Bytes}
    (named : locate path = temp) :
    (removeFile locate answers.removeTemp failed path).2.disk.read final =
        failed.disk.read final ∧
      (removeFile locate answers.removeTemp failed path).2.disk.read temp = none := by
  subst named
  constructor
  · exact (remove_file_within locate answers.removeTemp failed path).read final
      (by simpa using apart.symm)
  · rw [cleaned]
    exact remove_file_gone failed path

/-- Once renamed, the data stand under the final name only. -/
theorem placed_kernel_read
    (apart : locate (resolver.getTempPath key) ≠ locate (resolver.getKeyPath key))
    (opened : answers.openTemp = true) (whole : answers.written = some data.length)
    (renamed : answers.renameTemp = true) :
    (placedKernel locate resolver answers kernel key data).disk.read
        (locate (resolver.getKeyPath key)) = some data ∧
      (placedKernel locate resolver answers kernel key data).disk.read
        (locate (resolver.getTempPath key)) = none := by
  have staged := @write_temp_read Name _ locate _ kernel (resolver.getTempPath key) data opened
  rw [whole, Option.getD_some, List.take_length] at staged
  have synced : (syncedKernel locate resolver answers kernel key data).disk.read
      (locate (resolver.getTempPath key)) = some data :=
    (synced_kernel_read locate resolver answers kernel key data _).trans staged
  have moved := @rename_read Name _ locate answers
    (syncedKernel locate resolver answers kernel key data) _ (resolver.getKeyPath key) apart
    (by rw [synced]; nofun) renamed
  rw [synced] at moved
  exact moved

/-- A write that stops at the rename has changed the temporary file only. -/
theorem unplaced_kernel_read (refused : answers.renameTemp = false) (name : Name) :
    (placedKernel locate resolver answers kernel key data).disk.read name =
      (stagedKernel locate resolver answers kernel key data).disk.read name := by
  rw [placedKernel, rename_refused refused]
  exact synced_kernel_read locate resolver answers kernel key data name

/-- What the names of a key hold after a write whose clean-up succeeds. -/
theorem stopped_kernel_read
    (apart : locate (resolver.getTempPath key) ≠ locate (resolver.getKeyPath key))
    (cleaned : answers.removeTemp = true) :
    (stoppedKernel locate resolver answers kernel key data (answers.stage data)).disk.read
        (locate (resolver.getKeyPath key)) =
      (answers.stage data).finalFile (kernel.disk.read (locate (resolver.getKeyPath key))) data ∧
    ((stoppedKernel locate resolver answers kernel key data (answers.stage data)).disk.read
        (locate (resolver.getTempPath key))).isSome =
      (answers.stage data).tempLeft (kernel.disk.read (locate (resolver.getTempPath key))) := by
  have staged : (stagedKernel locate resolver answers kernel key data).disk.read
      (locate (resolver.getKeyPath key)) = kernel.disk.read (locate (resolver.getKeyPath key)) :=
    staged_kernel_read apart.symm
  have facts := stopped_at_stage answers data
  cases stage : answers.stage data <;>
    simp only [stage, WriteAnswers.StoppedAt, stoppedKernel, WriteStage.finalFile,
      WriteStage.tempLeft] at facts ⊢
  case openingTemp =>
      rw [stagedKernel, write_temp_refused facts]
      exact ⟨rfl, rfl⟩
  case writingTemp =>
      refine ⟨staged, ?_⟩
      rw [stagedKernel, write_temp_read facts]
      rfl
  case syncingTemp =>
      obtain ⟨kept, gone⟩ := @cleaned_kernel_read Name _ locate answers
        (syncedKernel locate resolver answers kernel key data) _ _ apart cleaned _ rfl
      rw [kept, gone, synced_kernel_read]
      exact ⟨staged, rfl⟩
  case renamingTemp =>
      obtain ⟨kept, gone⟩ := @cleaned_kernel_read Name _ locate answers
        (placedKernel locate resolver answers kernel key data) _ _ apart cleaned _ rfl
      rw [kept, gone, unplaced_kernel_read facts]
      exact ⟨staged, rfl⟩
  all_goals
    obtain ⟨opened, whole, renamed⟩ := facts
    obtain ⟨placed, gone⟩ := @placed_kernel_read Name _ locate resolver _ kernel key _ apart opened
      whole renamed
    rw [sync_directory_read, sync_directory_read, placed, gone]
    exact ⟨rfl, rfl⟩

end Whole

end TboxFramework.Store
