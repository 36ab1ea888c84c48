import TboxFramework.Store.WriteStages

/-!
# What a failed write leaves behind

The header promises that a failure keeps the original file. It does so up to the
rename, except that a short write leaves its temporary file; past the rename a
failed sync of the directory is reported over a file that is already the new one.
-/

namespace TboxFramework.Store

open DurableDirectory

set_option autoImplicit false

/-- The state of the store directory. -/
abbrev DirectoryState := StoreState Bytes

def emptyDirectory : DirectoryState := ⟨⟨.empty, []⟩, fun _ => false⟩

/-- The removals that clean up succeed. -/
def SaveAnswers.Cleans (answers : SaveAnswers) : Prop :=
  answers.write.removeTemp = true ∧ answers.unlinkLock = true

namespace TypedStore

variable {Value : Type} (store : TypedStore Value)

/-- `save` over the entries of the store directory. -/
def saveEntry (answers : SaveAnswers) (state : DirectoryState) (key : Bytes) (value : Value) :
    Option StoreError × DirectoryState :=
  store.save store.pathResolver.entry answers state key value

/-- What `acquire` leaves to the `write` of the same `save`. -/
def lockedEntry (answers : SaveAnswers) (state : DirectoryState) (key : Bytes) : DirectoryState :=
  (FileLock.acquire store.pathResolver.entry store.pathResolver answers.lock state key).2

/-- The `write` inside `save`. -/
def writeEntry (answers : SaveAnswers) (state : DirectoryState) (key : Bytes) (value : Value) :
    Bool × Kernel Bytes :=
  AtomicWriter.write store.pathResolver.entry store.pathResolver answers.write
    (store.lockedEntry answers state key).kernel key (store.codec.serialize value)

/-- `save` gets as far as its write. -/
structure ReachesWrite (answers : SaveAnswers) (state : DirectoryState) (key : Bytes)
    (value : Value) : Prop where
  ready : store.ready = true
  locked : state.lockFds key = true ∨ answers.lock.granted = true
  serialized : ¬(store.codec.serialize value = [] ∧ store.codec.isString value = false)

/-- The three things that a failure shall not change. -/
structure Untouched (before after : DirectoryState) (key : Bytes) : Prop where
  dat : after.kernel.disk.read (store.pathResolver.keyEntry key) =
    before.kernel.disk.read (store.pathResolver.keyEntry key)
  tmp : after.kernel.disk.read (store.pathResolver.tempEntry key) = none
  lock : after.lockFds key = false

/-- If `write` returns false, `save` throws and nothing has changed. -/
def FailsCleanly (answers : SaveAnswers) (state : DirectoryState) (key : Bytes) (value : Value) :
    Prop :=
  (store.writeEntry answers state key value).1 = false →
    (store.saveEntry answers state key value).1 = some .kAtomicWriteFailed ∧
      store.Untouched state (store.saveEntry answers state key value).2 key

/-- The step that fails comes before the write of the temporary file or between that
write and the rename; a failure after the rename is harmless only when the new content
is the old one. With a NUL in the key all three paths name one file, which `release`
then removes. -/
def StopsHarmlessly (answers : SaveAnswers) (state : DirectoryState) (key : Bytes)
    (value : Value) : Prop :=
  let data := store.codec.serialize value
  if 0 ∈ key then
    answers.write.stage data = .complete ∨
      state.kernel.disk.read (store.pathResolver.keyEntry key) = none
  else
    match answers.write.stage data with
    | .openingTemp => state.kernel.disk.read (store.pathResolver.tempEntry key) = none
    | .writingTemp => False
    | .syncingTemp | .renamingTemp | .complete => True
    | .syncingDirectory =>
        state.kernel.disk.read (store.pathResolver.keyEntry key) = some data

variable {store} {answers : SaveAnswers} {state : DirectoryState} {key : Bytes} {value : Value}

theorem acquire_reached (reached : store.ReachesWrite answers state key value) :
    FileLock.acquire store.pathResolver.entry store.pathResolver answers.lock state key =
        (true, store.lockedEntry answers state key) ∧
      (store.lockedEntry answers state key).lockFds = Function.update state.lockFds key true :=
  acquire_locked _ _ key reached.locked

/-- `save` is its write between `acquire` and `release`. -/
theorem save_entry_eq (reached : store.ReachesWrite answers state key value) :
    store.saveEntry answers state key value =
      (if (store.writeEntry answers state key value).1 then none else some .kAtomicWriteFailed,
        FileLock.release store.pathResolver.entry store.pathResolver answers.unlinkLock
          ⟨(store.writeEntry answers state key value).2,
            (store.lockedEntry answers state key).lockFds⟩ key) := by
  unfold saveEntry save
  rw [if_pos reached.ready, (acquire_reached reached).1]
  simp only
  rw [if_neg reached.serialized]
  split
  · rename_i failed wrote
    rw [show store.writeEntry answers state key value = (false, failed) from wrote]
    rfl
  · rename_i done wrote
    rw [show store.writeEntry answers state key value = (true, done) from wrote]
    rfl

theorem write_entry_eq :
    store.writeEntry answers state key value =
      (decide (answers.write.stage (store.codec.serialize value) = .complete),
        stoppedKernel store.pathResolver.entry store.pathResolver answers.write
          (store.lockedEntry answers state key).kernel key (store.codec.serialize value)
          (answers.write.stage (store.codec.serialize value))) :=
  write_eq_stopped _ _ _ _ _ _

theorem save_entry_lock_fds (reached : store.ReachesWrite answers state key value) :
    (store.saveEntry answers state key value).2.lockFds =
      Function.update state.lockFds key false := by
  rw [save_entry_eq reached]
  exact release_locked _ _ _ (acquire_reached reached).2

/-- With a NUL in the key `release` removes the one file that all paths name. -/
theorem nul_key_removed (nul : 0 ∈ key) (cleans : answers.Cleans)
    (reached : store.ReachesWrite answers state key value) :
    (store.saveEntry answers state key value).2.kernel.disk.read
      (store.pathResolver.keyEntry key) = none := by
  have locked : (store.lockedEntry answers state key).lockFds key = true := by
    rw [(acquire_reached reached).2, Function.update_self]
  rw [save_entry_eq reached]
  simp only [FileLock.release, locked, if_true, cleans.2]
  have same : store.pathResolver.keyEntry key =
      store.pathResolver.entry (store.pathResolver.getLockFilePath key) :=
    (entries_of_nul store.pathResolver nul).2.symm
  rw [same]
  exact remove_file_gone _ _

/-- The lock file apart, `save` leaves what its write leaves. -/
theorem save_entry_read {name : Bytes} (reached : store.ReachesWrite answers state key value)
    (other : name ≠ store.pathResolver.lockEntry key) :
    (store.saveEntry answers state key value).2.kernel.disk.read name =
      (store.writeEntry answers state key value).2.disk.read name := by
  rw [save_entry_eq reached]
  exact (release_within store.pathResolver.entry store.pathResolver answers.unlinkLock
    ⟨(store.writeEntry answers state key value).2, (store.lockedEntry answers state key).lockFds⟩
    key).read name (fun member => other (List.mem_singleton.mp member))

theorem locked_entry_read {name : Bytes} (other : name ≠ store.pathResolver.lockEntry key) :
    (store.lockedEntry answers state key).kernel.disk.read name = state.kernel.disk.read name :=
  (acquire_within store.pathResolver.entry store.pathResolver answers.lock state key).read name
    (fun member => other (List.mem_singleton.mp member))

/-- Without one, the stage of the write decides about both files. -/
theorem clean_key_read (clean : 0 ∉ key) (cleans : answers.Cleans)
    (reached : store.ReachesWrite answers state key value) :
    (store.saveEntry answers state key value).2.kernel.disk.read
        (store.pathResolver.keyEntry key) =
      (answers.write.stage (store.codec.serialize value)).finalFile
        (state.kernel.disk.read (store.pathResolver.keyEntry key))
        (store.codec.serialize value) ∧
    ((store.saveEntry answers state key value).2.kernel.disk.read
        (store.pathResolver.tempEntry key)).isSome =
      (answers.write.stage (store.codec.serialize value)).tempLeft
        (state.kernel.disk.read (store.pathResolver.tempEntry key)) := by
  have datLock := key_entry_ne_lock store.pathResolver clean clean
  have tmpLock := temp_entry_ne_lock store.pathResolver clean clean
  have written := @stopped_kernel_read Bytes _ store.pathResolver.entry store.pathResolver
    answers.write (store.lockedEntry answers state key).kernel key (store.codec.serialize value)
    (key_entry_ne_temp store.pathResolver clean clean).symm cleans.1
  rw [save_entry_read reached datLock, save_entry_read reached tmpLock, write_entry_eq,
    ← @locked_entry_read _ store answers state key _ datLock,
    ← @locked_entry_read _ store answers state key _ tmpLock]
  exact written

/-- A failed write changes nothing exactly when it stops harmlessly. -/
theorem failed_write_changes_nothing (store : TypedStore Value) (answers : SaveAnswers)
    (state : DirectoryState) (key : Bytes) (value : Value) (cleans : answers.Cleans)
    (reached : store.ReachesWrite answers state key value) :
    store.FailsCleanly answers state key value ↔
      store.StopsHarmlessly answers state key value := by
  have answer : (store.writeEntry answers state key value).1 = false ↔
      answers.write.stage (store.codec.serialize value) ≠ .complete := by
    rw [write_entry_eq, decide_eq_false_iff_not]
  have thrown : (store.writeEntry answers state key value).1 = false →
      (store.saveEntry answers state key value).1 = some .kAtomicWriteFailed := by
    intro failed
    rw [save_entry_eq reached, failed]
    rfl
  have unlocked : (store.saveEntry answers state key value).2.lockFds key = false := by
    rw [save_entry_lock_fds reached, Function.update_self]
  unfold StopsHarmlessly FailsCleanly
  by_cases nul : 0 ∈ key
  · have removed := nul_key_removed nul cleans reached
    have sameTemp := (entries_of_nul store.pathResolver nul).1
    rw [if_pos nul, answer]
    constructor
    · intro harmless
      by_cases complete : answers.write.stage (store.codec.serialize value) = .complete
      · exact Or.inl complete
      · exact Or.inr ((harmless complete).2.dat.symm.trans removed)
    · intro harmless stopped
      have absent := harmless.resolve_left stopped
      exact ⟨thrown (answer.mpr stopped), removed.trans absent.symm, by rw [sameTemp, removed],
        unlocked⟩
  · obtain ⟨dat, tmp⟩ := clean_key_read nul cleans reached
    rw [if_neg nul, answer]
    constructor
    · intro harmless
      by_cases complete : answers.write.stage (store.codec.serialize value) = .complete
      · rw [complete]
        trivial
      · have untouched := (harmless complete).2
        have same := untouched.dat
        have gone := untouched.tmp
        rw [dat] at same
        rw [gone] at tmp
        cases stage : answers.write.stage (store.codec.serialize value) <;>
          simp_all [WriteStage.finalFile, WriteStage.tempLeft]
    · intro harmless stopped
      refine ⟨thrown (answer.mpr stopped), ?_, ?_, unlocked⟩
      · rw [dat]
        cases stage : answers.write.stage (store.codec.serialize value) <;>
          simp_all [WriteStage.finalFile]
      · rw [← Option.not_isSome_iff_eq_none, Bool.not_eq_true, tmp]
        cases stage : answers.write.stage (store.codec.serialize value) <;>
          simp_all [WriteStage.tempLeft]

/-- A store of strings under `/s/`. -/
def strings : TypedStore Bytes := ⟨.ofRoot, .string, true⟩

/-- The key `k` holds one byte. -/
def savedOnce : DirectoryState :=
  (strings.saveEntry (.granted 1) emptyDirectory [107] [1]).2

/-- Everything but the sync of the directory succeeds. -/
def unsyncedDirectory : SaveAnswers :=
  { SaveAnswers.granted 1 with write := { WriteAnswers.granted 1 with fsyncDirectory := false } }

/-- Nothing but the sync of the temporary file fails. -/
def unsyncedTemp : SaveAnswers :=
  { SaveAnswers.granted 1 with write := { WriteAnswers.granted 1 with fsyncTemp := false } }

theorem unsynced_temp_changes_nothing :
    strings.FailsCleanly unsyncedTemp savedOnce [107] [2] :=
  (failed_write_changes_nothing strings unsyncedTemp savedOnce [107] [2] ⟨rfl, rfl⟩
    ⟨rfl, Or.inr rfl, by decide⟩).mpr trivial

/-- The failure is reported over the new content. -/
theorem unsynced_directory_changes_the_file :
    ¬∀ (Value : Type) (store : TypedStore Value) (answers : SaveAnswers) (state : DirectoryState)
      (key : Bytes) (value : Value), answers.Cleans → store.ReachesWrite answers state key value →
        store.FailsCleanly answers state key value := by
  intro claimed
  have clean := claimed Bytes strings unsyncedDirectory savedOnce [107] [2] ⟨rfl, rfl⟩
    ⟨rfl, Or.inr rfl, by decide⟩ rfl
  have kept := clean.2.dat
  exact absurd kept (by decide)

end TypedStore

end TboxFramework.Store
