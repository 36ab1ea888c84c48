import Mathlib.Data.List.Dedup
import TboxFramework.Store.TypedMap

/-!
# What is in the store directory

Between two calls whose file operations succeed the directory holds the data files of the
saved keys and nothing else. Every name in it has been given to a system call, so the
names that `readdir` lists can be found among these.
-/

namespace TboxFramework.Store

open DurableDirectory

set_option autoImplicit false

/-! ## Names that system calls were given -/

section Touched

variable {Name : Type} [DecidableEq Name] {locate : Bytes → Name}

theorem touch_touched (kernel : Kernel Name) (name : Name) :
    kernel.touched ⊆ (kernel.touch name).touched :=
  List.subset_append_left _ _

theorem remove_file_touched (ok : Bool) (kernel : Kernel Name) (path : Bytes) :
    kernel.touched ⊆ (removeFile locate ok kernel path).2.touched := by
  unfold removeFile
  simp only
  split
  · exact touch_touched kernel _
  · exact touch_touched kernel _

theorem write_temp_touched (answers : WriteAnswers) (kernel : Kernel Name) (path data : Bytes) :
    kernel.touched ⊆ (AtomicWriter.writeTempFile locate answers kernel path data).2.touched := by
  unfold AtomicWriter.writeTempFile
  simp only
  split
  · split
    · exact touch_touched kernel _
    · exact touch_touched kernel _
  · exact touch_touched kernel _

theorem sync_file_touched (answers : WriteAnswers) (kernel : Kernel Name) (path : Bytes) :
    kernel.touched ⊆ (AtomicWriter.syncFile locate answers kernel path).2.touched := by
  unfold AtomicWriter.syncFile
  simp only
  split
  · exact touch_touched kernel _
  · exact touch_touched kernel _

theorem rename_touched (answers : WriteAnswers) (kernel : Kernel Name) (source target : Bytes) :
    (AtomicWriter.atomicRename locate answers kernel source target).2.touched =
      kernel.touched ++ [locate source] ++ [locate target] := by
  unfold AtomicWriter.atomicRename
  simp only
  split
  · rfl
  · rfl

theorem sync_directory_touched (answers : WriteAnswers) (kernel : Kernel Name) (path : Bytes) :
    kernel.touched ⊆ (AtomicWriter.syncDirectory locate answers kernel path).2.touched := by
  unfold AtomicWriter.syncDirectory
  simp only
  split
  · exact touch_touched kernel _
  · exact touch_touched kernel _

theorem acquire_touched (resolver : PathResolver) (answers : LockAnswers)
    (state : StoreState Name) (key : Bytes) :
    state.kernel.touched ⊆
      (FileLock.acquire locate resolver answers state key).2.kernel.touched := by
  unfold FileLock.acquire
  simp only
  split
  · exact List.Subset.refl _
  · split
    · exact touch_touched state.kernel _
    · split
      · exact touch_touched state.kernel _
      · exact touch_touched state.kernel _

theorem release_touched (resolver : PathResolver) (unlinked : Bool) (state : StoreState Name)
    (key : Bytes) :
    state.kernel.touched ⊆
      (FileLock.release locate resolver unlinked state key).kernel.touched := by
  unfold FileLock.release
  split
  · exact remove_file_touched _ _ _
  · exact List.Subset.refl _

/-- A write that comes as far as the rename has given it the name of the data file. -/
theorem placed_kernel_touched (locate : Bytes → Name) (resolver : PathResolver) (answers : WriteAnswers)
    (kernel : Kernel Name) (key data : Bytes) :
    kernel.touched ⊆ (placedKernel locate resolver answers kernel key data).touched ∧
      locate (resolver.getKeyPath key) ∈
        (placedKernel locate resolver answers kernel key data).touched := by
  unfold placedKernel
  rw [rename_touched]
  constructor
  · apply List.Subset.trans _ (List.subset_append_left _ _)
    apply List.Subset.trans _ (List.subset_append_left _ _)
    exact List.Subset.trans (write_temp_touched _ _ _ _) (sync_file_touched _ _ _)
  · exact List.mem_append_right _ List.mem_cons_self

end Touched

/-! ## The names of a directory -/

/-- What `readdir` lists, without the two dots. -/
def listing (kernel : Kernel Bytes) : List Bytes :=
  (kernel.touched.filter fun name => kernel.disk.view name ≠ none).dedup

variable {resolver : PathResolver} {map : TypedMap} {state before after : DirectoryState}

theorem view_eq_none {disk : Disk Bytes UInt8} {name : Bytes} :
    disk.view name = none ↔ disk.read name = none := by
  unfold Disk.read
  rw [Option.map_eq_none_iff]

theorem mem_listing {kernel : Kernel Bytes} {name : Bytes} :
    name ∈ listing kernel ↔ name ∈ kernel.touched ∧ kernel.disk.read name ≠ none := by
  unfold listing
  rw [List.mem_dedup, List.mem_filter, decide_eq_true_eq, ne_eq, view_eq_none]

/-- The directory is that of the map, and all of it is listed. -/
structure Tidy (resolver : PathResolver) (map : TypedMap) (state : DirectoryState) : Prop
    extends Represents resolver map state where
  onlyData : ∀ name, state.kernel.disk.read name ≠ none →
    ∃ key, Plain key ∧ name = resolver.keyEntry key
  listed : ∀ name, state.kernel.disk.read name ≠ none → name ∈ state.kernel.touched

theorem tidy_empty (resolver : PathResolver) : Tidy resolver (fun _ => none) emptyDirectory where
  toRepresents := represents_empty
  onlyData := fun _ present => absurd rfl present
  listed := fun _ present => absurd rfl present

/-- What a call on one key does to the directory. -/
structure KeyCall (resolver : PathResolver) (key : Bytes) (before after : DirectoryState) :
    Prop where
  touched : before.kernel.touched ⊆ after.kernel.touched
  present : after.kernel.disk.read (resolver.keyEntry key) ≠ none →
    resolver.keyEntry key ∈ after.kernel.touched
  others : ∀ name, name ≠ resolver.keyEntry key → after.kernel.disk.read name ≠ none →
    before.kernel.disk.read name ≠ none

theorem Tidy.call {key : Bytes} {later : TypedMap} (tidy : Tidy resolver map before)
    (plain : Plain key) (call : KeyCall resolver key before after)
    (represents : Represents resolver later after) : Tidy resolver later after where
  toRepresents := represents
  onlyData := by
    intro name present
    by_cases own : name = resolver.keyEntry key
    · exact ⟨key, plain, own⟩
    · exact tidy.onlyData name (call.others name own present)
  listed := by
    intro name present
    by_cases own : name = resolver.keyEntry key
    · rw [own] at present ⊢
      exact call.present present
    · exact call.touched (tidy.listed name (call.others name own present))

/-- A lock is taken and given back without a trace. -/
theorem lock_released {key name : Bytes} (locked : state.lockFds key = true)
    (present : (FileLock.release resolver.entry resolver true state key).kernel.disk.read
      name ≠ none) :
    name ≠ resolver.lockEntry key ∧ state.kernel.disk.read name ≠ none := by
  have other : name ≠ resolver.lockEntry key := by
    rintro rfl
    apply present
    unfold FileLock.release
    rw [if_pos locked]
    exact remove_file_gone _ _
  refine ⟨other, ?_⟩
  rwa [(release_within resolver.entry resolver true state key).read name
    (fun member => other (List.mem_singleton.mp member))] at present

/-- The write of a `save` of which every system call succeeds. -/
theorem write_entry_granted (resolver : PathResolver) (state : DirectoryState) (key : Bytes)
    (typed : TypedValue) :
    ((readyStore resolver typed.type).writeEntry (.granted typed.bytes.length) state key
        typed.value).2 =
      (AtomicWriter.syncDirectory resolver.entry (.granted typed.bytes.length)
        (placedKernel resolver.entry resolver (.granted typed.bytes.length)
          ((readyStore resolver typed.type).lockedEntry (.granted typed.bytes.length) state
            key).kernel key typed.bytes) resolver.getStorePath).2 := by
  have written := @TypedStore.write_entry_eq _ (readyStore resolver typed.type)
    (.granted typed.bytes.length) state key typed.value
  have stage : (SaveAnswers.granted typed.bytes.length).write.stage
      ((readyStore resolver typed.type).codec.serialize typed.value) = .complete :=
    granted_stage typed.bytes
  rw [written, stage]
  rfl

theorem placed_kernel_others {answers : WriteAnswers} {kernel : Kernel Bytes} {key data : Bytes}
    (plain : Plain key) (opened : answers.openTemp = true)
    (whole : answers.written = some data.length) (renamed : answers.renameTemp = true)
    {name : Bytes} (other : name ≠ resolver.keyEntry key)
    (present : (placedKernel resolver.entry resolver answers kernel key data).disk.read name ≠
      none) :
    kernel.disk.read name ≠ none := by
  have apart := (key_entry_ne_temp resolver plain.1 plain.1).symm
  have unstaged : name ≠ resolver.entry (resolver.getTempPath key) := by
    rintro rfl
    exact present (placed_kernel_read apart opened whole renamed).2
  have moved : (placedKernel resolver.entry resolver answers kernel key data).disk.read name =
      (syncedKernel resolver.entry resolver answers kernel key data).disk.read name := by
    apply (rename_within resolver.entry answers _ _ _).read name
    simp only [List.mem_cons, List.not_mem_nil, or_false, not_or]
    exact ⟨unstaged, other⟩
  rwa [moved, synced_kernel_read, staged_kernel_read unstaged] at present

/-- A call that ends with the release of its lock. -/
theorem KeyCall.of_release {key : Bytes} {held : DirectoryState}
    (locked : held.lockFds key = true)
    (touched : before.kernel.touched ⊆ held.kernel.touched)
    (present : held.kernel.disk.read (resolver.keyEntry key) ≠ none →
      resolver.keyEntry key ∈ held.kernel.touched)
    (others : ∀ name, name ≠ resolver.keyEntry key → name ≠ resolver.lockEntry key →
      held.kernel.disk.read name ≠ none → before.kernel.disk.read name ≠ none) :
    KeyCall resolver key before (FileLock.release resolver.entry resolver true held key) where
  touched := List.Subset.trans touched (release_touched resolver true held key)
  present := by
    intro present'
    apply release_touched resolver true held key
    exact present (lock_released locked present').2
  others := by
    intro name other present
    obtain ⟨unlocked, left⟩ := lock_released locked present
    exact others name other unlocked left

theorem save_key_call (resolver : PathResolver) (state : DirectoryState) {key : Bytes}
    (plain : Plain key) (typed : TypedValue) :
    KeyCall resolver key state (saveAll resolver state key typed).2 := by
  have reached := save_reaches_write resolver state key typed
  have locked := (TypedStore.acquire_reached reached).2
  have placed := placed_kernel_touched resolver.entry resolver (.granted typed.bytes.length)
    ((readyStore resolver typed.type).lockedEntry (.granted typed.bytes.length) state key).kernel
    key typed.bytes
  have saved : (saveAll resolver state key typed).2 =
      FileLock.release resolver.entry resolver true
        ⟨((readyStore resolver typed.type).writeEntry (.granted typed.bytes.length) state key
          typed.value).2, ((readyStore resolver typed.type).lockedEntry
            (.granted typed.bytes.length) state key).lockFds⟩ key :=
    congrArg Prod.snd (TypedStore.save_entry_eq reached)
  rw [saved, write_entry_granted]
  apply KeyCall.of_release
  · rw [locked, Function.update_self]
  · apply List.Subset.trans (acquire_touched resolver ⟨true, true⟩ state key)
    exact List.Subset.trans placed.1 (sync_directory_touched _ _ _)
  · intro _
    exact sync_directory_touched _ _ _ placed.2
  · intro name other unlocked present
    simp only at present
    rw [sync_directory_read] at present
    have before := placed_kernel_others plain rfl rfl rfl other present
    rwa [TypedStore.locked_entry_read unlocked] at before

theorem remove_key_call (resolver : PathResolver) (state : DirectoryState) (key : Bytes) :
    KeyCall resolver key state (removeAll resolver state key).2 := by
  have acquired := @acquire_touched Bytes _ resolver.entry resolver ⟨true, true⟩ state key
  have within := acquire_within resolver.entry resolver ⟨true, true⟩ state key
  obtain ⟨granted, locked⟩ := @acquire_locked Bytes _ resolver.entry resolver ⟨true, true⟩
    state key (Or.inr rfl)
  unfold removeAll TypedStore.remove
  simp only [readyStore, RemoveAnswers.granted, if_true]
  rw [granted]
  apply KeyCall.of_release
  · rw [locked, Function.update_self]
  · exact List.Subset.trans acquired (remove_file_touched _ _ _)
  · intro present
    exact absurd (remove_file_gone _ _) present
  · intro name other unlocked present
    have removed := (remove_file_within resolver.entry true (FileLock.acquire resolver.entry
      resolver ⟨true, true⟩ state key).2.kernel (resolver.getKeyPath key)).read name
      (fun member => other (List.mem_singleton.mp member))
    rw [AtomicWriter.remove, removed,
      within.read name (fun member => unlocked (List.mem_singleton.mp member))] at present
    exact present

theorem remove_file_refused (kernel : Kernel Bytes) (path name : Bytes) :
    (removeFile resolver.entry false kernel path).2.disk.read name = kernel.disk.read name := by
  unfold removeFile
  simp

/-- A `remove` whose `unlink` of the data file is refused. -/
def removeRefused (resolver : PathResolver) (state : DirectoryState) (key : Bytes) :
    Option StoreError × DirectoryState :=
  (readyStore resolver .string).remove resolver.entry
    { RemoveAnswers.granted with unlinkData := false } state key

/-- Nothing but the names of its lock and its data file is asked for, and no file is lost. -/
theorem remove_refused_spec (resolver : PathResolver) (state : DirectoryState) {key : Bytes}
    (plain : Plain key) :
    (removeRefused resolver state key).1 = none ∧
      (removeRefused resolver state key).2.lockFds = Function.update state.lockFds key false ∧
      (∀ other, Plain other →
        (removeRefused resolver state key).2.kernel.disk.read (resolver.keyEntry other) =
          state.kernel.disk.read (resolver.keyEntry other)) ∧
      KeyCall resolver key state (removeRefused resolver state key).2 := by
  have acquired := @acquire_touched Bytes _ resolver.entry resolver ⟨true, true⟩ state key
  have within := acquire_within resolver.entry resolver ⟨true, true⟩ state key
  obtain ⟨granted, locked⟩ := @acquire_locked Bytes _ resolver.entry resolver ⟨true, true⟩
    state key (Or.inr rfl)
  unfold removeRefused TypedStore.remove
  simp only [readyStore, RemoveAnswers.granted, if_true]
  rw [granted]
  refine ⟨rfl, release_locked _ _ _ locked, ?_, ?_⟩
  · intro other clean
    have apart : resolver.keyEntry other ∉ [resolver.entry (resolver.getLockFilePath key)] :=
      fun member => key_entry_ne_lock resolver clean.1 plain.1 (List.mem_singleton.mp member)
    rw [(release_within resolver.entry resolver true _ key).read _ apart]
    exact (remove_file_refused _ _ _).trans (within.read _ apart)
  · apply KeyCall.of_release
    · rw [locked, Function.update_self]
    · exact List.Subset.trans acquired (remove_file_touched _ _ _)
    · intro _
      exact List.mem_append_right _ List.mem_cons_self
    · intro name _ unlocked present
      rw [AtomicWriter.remove, remove_file_refused,
        within.read name (fun member => unlocked (List.mem_singleton.mp member))] at present
      exact present

theorem Tidy.refused (tidy : Tidy resolver map state) {key : Bytes} (plain : Plain key) :
    Tidy resolver map (removeRefused resolver state key).2 := by
  obtain ⟨-, lockFds, read, call⟩ := remove_refused_spec resolver state plain
  refine tidy.call plain call ⟨?_, ?_⟩
  · intro other clean
    rw [read other clean]
    exact tidy.read other clean
  · intro other
    rw [lockFds]
    by_cases own : other = key
    · rw [own, Function.update_self]
    · rw [Function.update_of_ne own]
      exact tidy.unlocked other

theorem load_touched (state : DirectoryState) (key : Bytes) (type : ValueType) :
    state.kernel.touched ⊆ (loadAll resolver state key type).2.kernel.touched := by
  have present : state.kernel.touched ⊆
      (AtomicWriter.isPresent resolver.entry resolver true state.kernel key).2.touched :=
    touch_touched state.kernel _
  unfold loadAll TypedStore.load
  simp only [readyStore, LoadAnswers.granted, if_true]
  split
  · next kernel found =>
      rw [found] at present
      exact present
  · next kernel found =>
      rw [found] at present
      have opened := List.Subset.trans present
        (touch_touched kernel (resolver.entry (resolver.getKeyPath key)))
      split
      · split
        · exact opened
        · exact opened
      · exact opened

theorem load_or_touched (state : DirectoryState) (key : Bytes) (defaultValue : TypedValue) :
    state.kernel.touched ⊆ (loadOrAll resolver state key defaultValue).2.kernel.touched := by
  have looked := @load_touched resolver state key defaultValue.type
  unfold loadAll at looked
  unfold loadOrAll TypedStore.loadOr
  split
  · next missed =>
      rw [missed] at looked
      exact looked
  · exact looked

theorem Tidy.looked (tidy : Tidy resolver map before) (looked : OnlyLooked before after)
    (touched : before.kernel.touched ⊆ after.kernel.touched) : Tidy resolver map after where
  toRepresents := tidy.toRepresents.looked looked
  onlyData := by
    rw [looked.disk]
    exact tidy.onlyData
  listed := by
    rw [looked.disk]
    exact fun name present => touched (tidy.listed name present)

theorem tidy_step (tidy : Tidy resolver map state) {op : StoreOp} (named : Plain op.key) :
    Tidy resolver (map.apply op) (perform resolver state op) := by
  have represents := represents_step tidy.toRepresents named
  cases op with
  | save key typed => exact tidy.call named (save_key_call resolver state named typed) represents
  | remove key => exact tidy.call named (remove_key_call resolver state key) represents
  | load key type => exact tidy.looked (load_only_looks state key type) (load_touched state key type)
  | loadOr key defaultValue =>
      exact tidy.looked (load_or_only_looks state key defaultValue)
        (load_or_touched state key defaultValue)
  | has key => exact tidy.looked ⟨rfl, rfl⟩ (touch_touched state.kernel _)

/-! ## Removing what is listed -/

/-- The loop of `cleanup` over the listed names; which removals succeed is free. -/
def removeListed (resolver : PathResolver) (removes : Bytes → Bool) (kernel : Kernel Bytes) :
    List Bytes → Kernel Bytes
  | [] => kernel
  | name :: rest =>
      removeListed resolver removes
        (removeFile resolver.entry (removes name) kernel (resolver.getStorePath ++ name)).2 rest

theorem entry_of_name (resolver : PathResolver) {name : Bytes} (clean : 0 ∉ name) :
    resolver.entry (resolver.getStorePath ++ name) = name := by
  unfold PathResolver.entry
  rw [List.drop_left]
  exact c_string_eq_self clean

theorem remove_listed_read (removes : Bytes → Bool) (names : List Bytes) (kernel : Kernel Bytes)
    (clean : ∀ name ∈ names, 0 ∉ name) (entry : Bytes) :
    (removeListed resolver removes kernel names).disk.read entry =
      if entry ∈ names ∧ removes entry = true then none else kernel.disk.read entry := by
  induction names generalizing kernel with
  | nil => simp [removeListed]
  | cons name rest ih =>
      rw [List.forall_mem_cons] at clean
      have named := entry_of_name resolver clean.1
      unfold removeListed
      rw [ih _ clean.2]
      by_cases listed : entry ∈ rest ∧ removes entry = true
      · rw [if_pos listed, if_pos ⟨List.mem_cons_of_mem _ listed.1, listed.2⟩]
      · rw [if_neg listed]
        by_cases own : entry = name
        · rw [own] at listed ⊢
          cases removed : removes name with
          | true =>
              rw [if_pos ⟨List.mem_cons_self, rfl⟩]
              have gone := @remove_file_gone Bytes _ resolver.entry kernel
                (resolver.getStorePath ++ name)
              rwa [named] at gone
          | false =>
              rw [if_neg (by simp)]
              exact remove_file_refused kernel _ _
        · have kept := (remove_file_within resolver.entry (removes name) kernel
            (resolver.getStorePath ++ name)).read entry
          rw [named] at kept
          rw [kept (by simpa using own), if_neg]
          rw [List.mem_cons, or_iff_right own]
          exact listed

theorem remove_listed_touched (removes : Bytes → Bool) (names : List Bytes)
    (kernel : Kernel Bytes) :
    kernel.touched ⊆ (removeListed resolver removes kernel names).touched := by
  induction names generalizing kernel with
  | nil => exact List.Subset.refl _
  | cons name rest ih => exact List.Subset.trans (remove_file_touched _ _ _) (ih _)

/-- The map after a clean-up. -/
def TypedMap.without (map : TypedMap) (resolver : PathResolver) (removes : Bytes → Bool) :
    TypedMap :=
  fun key => if removes (resolver.keyEntry key) then none else map key

theorem Tidy.clean {name : Bytes} (tidy : Tidy resolver map state)
    (present : state.kernel.disk.read name ≠ none) : 0 ∉ name := by
  obtain ⟨key, plain, rfl⟩ := tidy.onlyData name present
  rw [key_entry_eq resolver plain.1]
  simp [plain.1, datSuffix, ascii]

theorem tidy_removed (tidy : Tidy resolver map state) (removes : Bytes → Bool) :
    Tidy resolver (map.without resolver removes)
      ⟨removeListed resolver removes state.kernel (listing state.kernel), state.lockFds⟩ := by
  have read := fun entry => @remove_listed_read resolver removes (listing state.kernel)
    state.kernel (fun name listed => tidy.clean (mem_listing.mp listed).2) entry
  have kept : ∀ name, (removeListed resolver removes state.kernel
      (listing state.kernel)).disk.read name ≠ none → state.kernel.disk.read name ≠ none := by
    intro name present
    rw [read] at present
    split at present
    · exact absurd rfl present
    · exact present
  constructor
  · constructor
    · intro key plain
      simp only
      rw [read]
      have held := tidy.read key plain
      unfold TypedMap.without
      cases removed : removes (resolver.keyEntry key) with
      | false => simpa using held
      | true =>
          simp only [and_true, if_true, Option.map_none]
          split
          · rfl
          · next unlisted =>
              by_contra present
              exact unlisted (mem_listing.mpr ⟨tidy.listed _ present, present⟩)
    · exact tidy.unlocked
  · exact fun name present => tidy.onlyData name (kept name present)
  · intro name present
    exact remove_listed_touched removes _ _ (tidy.listed name (kept name present))

/-- Nothing is listed exactly when no key has a value. -/
theorem listing_eq_nil (tidy : Tidy resolver map state) :
    listing state.kernel = [] ↔ ∀ key, Plain key → map key = none := by
  constructor
  · intro empty key plain
    have held := tidy.read key plain
    by_contra some
    have present : state.kernel.disk.read (resolver.keyEntry key) ≠ none := by
      rw [held]
      simpa using some
    have listed := mem_listing.mpr ⟨tidy.listed _ present, present⟩
    rw [empty] at listed
    cases listed
  · intro unmapped
    rw [List.eq_nil_iff_forall_not_mem]
    intro name listed
    obtain ⟨_, present⟩ := mem_listing.mp listed
    obtain ⟨key, plain, rfl⟩ := tidy.onlyData name present
    rw [tidy.read key plain, unmapped key plain] at present
    exact present rfl

end TboxFramework.Store
