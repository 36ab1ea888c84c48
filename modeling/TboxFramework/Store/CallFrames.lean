import TboxFramework.Store.StoreCalls

/-!
# Which files a call can reach

System call by system call: the names that the kernel was given, and the files that
read as before. A call on a key stays within the three files of the key.
-/

namespace TboxFramework.Store

open DurableDirectory

set_option autoImplicit false

variable {Name : Type} [DecidableEq Name] (locate : Bytes → Name)

/-- System calls were given these names only, and only their files changed. -/
structure Within (names : List Name) (before after : Kernel Name) : Prop where
  touched : ∀ name ∈ after.touched, name ∈ before.touched ∨ name ∈ names
  read : ∀ name, name ∉ names → after.disk.read name = before.disk.read name

namespace Within

variable {names : List Name} {before middle after : Kernel Name}

theorem refl (names : List Name) (kernel : Kernel Name) : Within names kernel kernel :=
  ⟨fun _ member => Or.inl member, fun _ _ => rfl⟩

theorem trans (first : Within names before middle) (second : Within names middle after) :
    Within names before after where
  touched := by
    intro name member
    rcases second.touched name member with earlier | named
    · exact first.touched name earlier
    · exact Or.inr named
  read := by
    intro name unnamed
    rw [second.read name unnamed, first.read name unnamed]

theorem mono (within : Within names before after) (more : List Name)
    (included : ∀ name ∈ names, name ∈ more) : Within more before after where
  touched := fun name member => (within.touched name member).imp_right (included name)
  read := fun name unnamed => within.read name fun member => unnamed (included name member)

/-- One system call on one name. -/
theorem of_touch {kernel : Kernel Name} {name : Name} {disk : Disk Name UInt8}
    (read : ∀ other, other ≠ name → disk.read other = kernel.disk.read other) :
    Within [name] kernel ((kernel.touch name).onDisk disk) where
  touched := fun _ member => List.mem_append.mp member
  read := fun other unnamed => read other (by simpa using unnamed)

theorem touch (kernel : Kernel Name) (name : Name) : Within [name] kernel (kernel.touch name) :=
  of_touch fun _ _ => rfl

end Within

theorem remove_file_within (ok : Bool) (kernel : Kernel Name) (path : Bytes) :
    Within [locate path] kernel (removeFile locate ok kernel path).2 := by
  unfold removeFile
  simp only
  split
  · exact Within.of_touch fun other different => kernel.disk.read_unlink_of_ne different
  · exact Within.touch kernel _

theorem write_temp_within (answers : WriteAnswers) (kernel : Kernel Name)
    (tempPath data : Bytes) : Within [locate tempPath] kernel
      (AtomicWriter.writeTempFile locate answers kernel tempPath data).2 := by
  unfold AtomicWriter.writeTempFile
  split
  · cases answers.written with
    | none =>
        exact Within.of_touch fun other different =>
          kernel.disk.read_open_truncate_of_ne different
    | some count =>
        apply Within.of_touch
        intro other different
        have opened := kernel.disk.view_open_truncate_self (locate tempPath)
        rw [Disk.read_write_of_ne opened different, kernel.disk.read_open_truncate_of_ne different]
  · exact Within.touch kernel _

theorem sync_file_within (answers : WriteAnswers) (kernel : Kernel Name) (filePath : Bytes) :
    Within [locate filePath] kernel (AtomicWriter.syncFile locate answers kernel filePath).2 := by
  unfold AtomicWriter.syncFile
  simp only
  split
  · apply Within.of_touch
    intro other different
    split
    · exact kernel.disk.read_fsync _ other
    · rfl
  · exact Within.touch kernel _

theorem read_rename_of_ne {disk after : Disk Name UInt8} {source target other : Name}
    (renamed : disk.rename source target = some after) (from_ : other ≠ source)
    (to_ : other ≠ target) : after.read other = disk.read other := by
  by_cases same : source = target
  · unfold Disk.rename at renamed
    split at renamed
    · cases renamed
    · rw [if_pos same, Option.some.injEq] at renamed
      rw [renamed]
  · obtain ⟨inode, named, rfl⟩ := (Disk.rename_eq_some same).mp renamed
    refine Disk.read_congr ?_ (fun _ _ => rfl)
    rw [Disk.view_rename_named, Function.update_of_ne to_, Function.update_of_ne from_]

theorem rename_within (answers : WriteAnswers) (kernel : Kernel Name) (source target : Bytes) :
    Within [locate source, locate target] kernel
      (AtomicWriter.atomicRename locate answers kernel source target).2 := by
  have touched : ∀ name ∈ kernel.touched ++ [locate source] ++ [locate target],
      name ∈ kernel.touched ∨ name ∈ [locate source, locate target] := by
    intro name member
    rwa [List.append_assoc, List.mem_append] at member
  unfold AtomicWriter.atomicRename
  simp only
  split
  · rename_i disk ok renamed
    refine ⟨touched, ?_⟩
    intro name unnamed
    rw [List.mem_cons, List.mem_singleton, not_or] at unnamed
    exact read_rename_of_ne renamed unnamed.1 unnamed.2
  · exact ⟨touched, fun _ _ => rfl⟩

theorem sync_directory_within (answers : WriteAnswers) (kernel : Kernel Name) (dirPath : Bytes) :
    Within [locate dirPath] kernel
      (AtomicWriter.syncDirectory locate answers kernel dirPath).2 := by
  unfold AtomicWriter.syncDirectory
  simp only
  split
  · exact Within.of_touch fun _ _ => rfl
  · exact Within.touch kernel _

/-- The names of the three files of a key and of the store directory. -/
def keyNames (resolver : PathResolver) (key : Bytes) : List Name :=
  [locate (resolver.getKeyPath key), locate (resolver.getTempPath key),
    locate (resolver.getLockFilePath key), locate resolver.getStorePath]

theorem attempt_within {names : List Name} {before : Kernel Name} {result : Bool × Kernel Name}
    {failed next : Kernel Name → Bool × Kernel Name} (first : Within names before result.2)
    (after : ∀ kernel, Within names kernel (next kernel).2)
    (otherwise : ∀ kernel, Within names kernel (failed kernel).2) :
    Within names before (AtomicWriter.attempt result failed next).2 := by
  unfold AtomicWriter.attempt
  split
  · exact first.trans (after result.2)
  · exact first.trans (otherwise result.2)

theorem write_within (resolver : PathResolver) (answers : WriteAnswers) (kernel : Kernel Name)
    (key data : Bytes) : Within (keyNames locate resolver key) kernel
      (AtomicWriter.write locate resolver answers kernel key data).2 := by
  have cleanUp : ∀ failed : Kernel Name, Within (keyNames locate resolver key) failed
      (removeFile locate answers.removeTemp failed (resolver.getTempPath key)).2 := by
    intro failed
    exact (remove_file_within locate answers.removeTemp failed _).mono _ (by simp [keyNames])
  unfold AtomicWriter.write
  apply attempt_within
  · exact (write_temp_within locate answers kernel _ data).mono _ (by simp [keyNames])
  · intro staged
    apply attempt_within
    · exact (sync_file_within locate answers staged _).mono _ (by simp [keyNames])
    · intro synced
      apply attempt_within
      · exact (rename_within locate answers synced _ _).mono _ (by simp [keyNames])
      · intro placed
        exact (sync_directory_within locate answers placed _).mono _ (by simp [keyNames])
      · exact cleanUp
    · exact cleanUp
  · exact fun failed => Within.refl _ failed

theorem acquire_within (resolver : PathResolver) (answers : LockAnswers)
    (state : StoreState Name) (key : Bytes) :
    Within [locate (resolver.getLockFilePath key)] state.kernel
      (FileLock.acquire locate resolver answers state key).2.kernel := by
  have created : Within [locate (resolver.getLockFilePath key)] state.kernel
      ((state.kernel.touch (locate (resolver.getLockFilePath key))).onDisk
        (state.kernel.disk.openCreate (locate (resolver.getLockFilePath key)))) :=
    Within.of_touch fun other different => state.kernel.disk.read_open_create_of_ne different
  unfold FileLock.acquire
  simp only
  split
  · exact Within.refl _ _
  · split
    · exact created
    · split
      · exact created
      · exact Within.touch _ _

theorem release_within (resolver : PathResolver) (unlinked : Bool) (state : StoreState Name)
    (key : Bytes) : Within [locate (resolver.getLockFilePath key)] state.kernel
      (FileLock.release locate resolver unlinked state key).kernel := by
  unfold FileLock.release
  split
  · exact remove_file_within locate unlinked state.kernel _
  · exact Within.refl _ _

theorem acquire_within_key (resolver : PathResolver) (answers : LockAnswers)
    (state : StoreState Name) (key : Bytes) : Within (keyNames locate resolver key) state.kernel
      (FileLock.acquire locate resolver answers state key).2.kernel :=
  (acquire_within locate resolver answers state key).mono _ (by simp [keyNames])

theorem release_within_key (resolver : PathResolver) (unlinked : Bool) (state : StoreState Name)
    (key : Bytes) : Within (keyNames locate resolver key) state.kernel
      (FileLock.release locate resolver unlinked state key).kernel :=
  (release_within locate resolver unlinked state key).mono _ (by simp [keyNames])

/-- A lock that is free or held already by this instance is granted. -/
theorem acquire_locked (resolver : PathResolver) {answers : LockAnswers} {state : StoreState Name}
    (key : Bytes) (locked : state.lockFds key = true ∨ answers.granted = true) :
    FileLock.acquire locate resolver answers state key =
        (true, (FileLock.acquire locate resolver answers state key).2) ∧
      (FileLock.acquire locate resolver answers state key).2.lockFds =
        Function.update state.lockFds key true := by
  unfold FileLock.acquire
  by_cases held : state.lockFds key = true
  · simp [held]
  · simp [held, locked.resolve_left held]

theorem release_locked (resolver : PathResolver) (unlinked : Bool) {state : StoreState Name}
    {key : Bytes} {lockFds : Bytes → Bool}
    (locked : state.lockFds = Function.update lockFds key true) :
    (FileLock.release locate resolver unlinked state key).lockFds =
      Function.update lockFds key false := by
  simp [FileLock.release, locked]

namespace TypedStore

variable {Value : Type} (store : TypedStore Value)

theorem save_within (answers : SaveAnswers) (state : StoreState Name) (key : Bytes)
    (value : Value) : Within (keyNames locate store.pathResolver key) state.kernel
      (store.save locate answers state key value).2.kernel := by
  have locking := acquire_within_key locate store.pathResolver answers.lock state key
  unfold save
  split
  · split
    · rename_i refused locked
      rw [locked] at locking
      exact locking
    · rename_i held locked
      rw [locked] at locking
      have writing := write_within locate store.pathResolver answers.write held.kernel key
        (store.codec.serialize value)
      simp only
      split
      · exact locking.trans (release_within_key locate _ _ _ _)
      · split
        · rename_i failed wrote
          rw [wrote] at writing
          exact (locking.trans writing).trans
            (release_within_key locate _ _ { held with kernel := failed } _)
        · rename_i done wrote
          rw [wrote] at writing
          exact (locking.trans writing).trans
            (release_within_key locate _ _ { held with kernel := done } _)
  · exact Within.refl _ _

theorem load_within (answers : LoadAnswers) (state : StoreState Name) (key : Bytes) :
    Within (keyNames locate store.pathResolver key) state.kernel
      (store.load locate answers state key).2.kernel := by
  have looked : Within (keyNames locate store.pathResolver key) state.kernel
      (state.kernel.touch (locate (store.pathResolver.getKeyPath key))) :=
    (Within.touch _ _).mono _ (by simp [keyNames])
  have opened : Within (keyNames locate store.pathResolver key) state.kernel
      ((state.kernel.touch (locate (store.pathResolver.getKeyPath key))).touch
        (locate (store.pathResolver.getKeyPath key))) :=
    looked.trans ((Within.touch _ _).mono _ (by simp [keyNames]))
  unfold load AtomicWriter.isPresent
  split
  · split
    · rename_i kernel found
      obtain ⟨-, rfl⟩ := Prod.mk.inj found
      exact looked
    · rename_i kernel found
      obtain ⟨-, rfl⟩ := Prod.mk.inj found
      simp only
      split
      · split
        · exact opened
        · exact opened
      · exact opened
  · exact Within.refl _ _

theorem loadOr_within (answers : LoadAnswers) (state : StoreState Name) (key : Bytes)
    (defaultValue : Value) : Within (keyNames locate store.pathResolver key) state.kernel
      (store.loadOr locate answers state key defaultValue).2.kernel := by
  have loading := store.load_within locate answers state key
  unfold loadOr
  split
  · rename_i missing
    rw [missing] at loading
    exact loading
  · exact loading

theorem has_within (ok : Bool) (state : StoreState Name) (key : Bytes) :
    Within (keyNames locate store.pathResolver key) state.kernel
      (store.has locate ok state key).2.kernel := by
  unfold has AtomicWriter.isPresent
  split
  · exact (Within.touch _ _).mono _ (by simp [keyNames])
  · exact Within.refl _ _

theorem remove_within (answers : RemoveAnswers) (state : StoreState Name) (key : Bytes) :
    Within (keyNames locate store.pathResolver key) state.kernel
      (store.remove locate answers state key).2.kernel := by
  have locking := acquire_within_key locate store.pathResolver answers.lock state key
  unfold remove
  split
  · split
    · rename_i refused locked
      rw [locked] at locking
      exact locking
    · rename_i held locked
      rw [locked] at locking
      have removing := (remove_file_within locate answers.unlinkData held.kernel
        (store.pathResolver.getKeyPath key)).mono
        (keyNames locate store.pathResolver key) (by simp [keyNames])
      exact (locking.trans removing).trans (release_within_key locate _ _ ⟨_, held.lockFds⟩ _)
  · exact Within.refl _ _

end TypedStore

end TboxFramework.Store
