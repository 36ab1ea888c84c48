import TboxFramework.Store.PowerLoss

/-!
# One store, several threads

`FileLock::acquire` answers true to every thread of an instance that holds the
key, so it does not keep two saves of the key apart. What is left of the promise
holds as long as no save opens the temporary file between another save's open of
that file and its rename.
-/

namespace TboxFramework.Store

open Interleaving DurableDirectory

set_option autoImplicit false

variable {Value : Type}

variable (store : StoreImpl Value)

/-- After the first rename the `.dat` file has the bytes of one of the saves. -/
def Untorn (key : Bytes) (state : State Value) : Prop :=
  state.renamed key → ∃ record ∈ state.history, record.call.key = key ∧
    state.disk.read (store.pathResolver.keyEntry key) = some (store.bytes record.call)

instance (key : Bytes) (state : State Value) : Decidable (Untorn store key state) :=
  inferInstanceAs (Decidable (_ → _))

/-- No save ends with an exception that it would not end with when run alone. -/
def ReturnsNormally (state : State Value) : Prop :=
  ∀ id call error, store.ready → ¬store.Unserialized call →
    state.calls id ≠ .finished call (some error)

/-- What a save relies on while others run. -/
def Staged (disk : Disk Bytes UInt8) : SavePoint Value → Prop
  | .writingTemp call inode =>
      disk.view (store.tmpEntry call) = some inode ∧ (disk.files inode).content = []
  | .closingTemp call inode complete => complete ∧ Prepared store disk call inode
  | .syncingTemp call inode => Prepared store disk call inode
  | .openingSync call | .renamingTemp call => ∃ inode, Prepared store disk call inode
  | .closingSync call synced => synced ∧ ∃ inode, Prepared store disk call inode
  | .removingTemp _ => False
  | .closingDirectory _ synced => synced
  | .releasing call error | .finished call error =>
      error ≠ none → store.ready → store.Unserialized call
  | _ => True

structure Orderly (key : Bytes) (state : State Value) : Prop where
  listed : ∀ id call, (state.calls id).owner = some call →
    call.key = key ∧ ⟨id, call⟩ ∈ state.history
  single : ∀ id other, (state.calls id).staging → (state.calls other).staging → id = other
  staged : ∀ id, Staged store state.disk (state.calls id)
  untorn : Untorn store key state

variable {store}

theorem initially_orderly (key : Bytes) (disk : Disk Bytes UInt8) :
    Orderly store key (initial disk) where
  listed := nofun
  single := nofun
  staged := fun _ => trivial
  untorn := nofun

/-- Outside the temporary file's time a point does not depend on the disk. -/
theorem Staged.of_not_staging {disk after : Disk Bytes UInt8} {point : SavePoint Value}
    (facts : Staged store disk point) (outside : point.staging = false) :
    Staged store after point := by
  cases point <;> first | exact facts | cases outside

theorem staging_of_unowned {point : SavePoint Value} (unowned : point.owner = none) :
    point.staging = false := by
  cases point <;> first | rfl | cases unowned

theorem Prepared.keep {disk after : Disk Bytes UInt8} {call : SaveCall Value} {inode : Inode}
    (prepared : Prepared store disk call inode)
    (named : after.view (store.tmpEntry call) = disk.view (store.tmpEntry call))
    (content : (after.files inode).content = (disk.files inode).content) :
    Prepared store after call inode :=
  ⟨named.trans prepared.1, content.trans prepared.2⟩

/-- A save is not disturbed by changes to other files than its temporary one. -/
theorem Staged.keep {disk after : Disk Bytes UInt8} {point : SavePoint Value}
    {call : SaveCall Value} (owned : point.owner = some call) (facts : Staged store disk point)
    (named : after.view (store.tmpEntry call) = disk.view (store.tmpEntry call))
    (content : ∀ inode, disk.view (store.tmpEntry call) = some inode →
      (after.files inode).content = (disk.files inode).content) :
    Staged store after point := by
  have keep : ∀ inode, Prepared store disk call inode → Prepared store after call inode :=
    fun inode prepared => prepared.keep named (content inode prepared.1)
  cases point with
  | writingTemp _ inode =>
      cases owned
      exact ⟨named.trans facts.1, (content inode facts.1).trans facts.2⟩
  | closingTemp _ inode complete =>
      cases owned
      exact ⟨facts.1, keep inode facts.2⟩
  | syncingTemp _ inode =>
      cases owned
      exact keep inode facts
  | openingSync =>
      cases owned
      exact facts.imp keep
  | renamingTemp =>
      cases owned
      exact facts.imp keep
  | closingSync =>
      cases owned
      exact ⟨facts.1, facts.2.imp keep⟩
  | _ => exact facts

/-! ## One step of one save -/

namespace Orderly

variable {state next : State Value} {id : Nat} {key : Bytes} {call : SaveCall Value}
  {point : SavePoint Value}

/-- While one save stages its file, no other does. -/
theorem sole_staging (orderly : Orderly store key state) (mine : (state.calls id).staging = true)
    {other : Nat} (different : other ≠ id) : (state.calls other).staging = false := by
  cases also : (state.calls other).staging with
  | false => rfl
  | true => exact absurd (orderly.single other id also mine) different

/-- A new save joins the others. -/
theorem begin_save (orderly : Orderly store key state)
    (same : call.key = key) (history : next.history = state.history ++ [⟨id, call⟩])
    (calls : next.calls = Function.update state.calls id point) (disk : next.disk = state.disk)
    (renamed : next.renamed = state.renamed) (owned : point.owner = some call)
    (outside : point.staging = false) (facts : Staged store state.disk point) :
    Orderly store key next := by
  constructor
  · intro other second owner
    rw [history, List.mem_append, List.mem_singleton]
    by_cases mover : other = id
    · rw [calls, mover, Function.update_self, owned, Option.some.injEq] at owner
      subst owner
      exact ⟨same, Or.inr (by rw [mover])⟩
    · rw [calls, Function.update_of_ne mover] at owner
      exact (orderly.listed other second owner).imp_right Or.inl
  · have older : ∀ other, (next.calls other).staging = true →
        (state.calls other).staging = true := by
      intro other staging
      by_cases mover : other = id
      · rw [calls, mover, Function.update_self, outside] at staging
        cases staging
      · rwa [calls, Function.update_of_ne mover] at staging
    exact fun first second left right =>
      orderly.single first second (older first left) (older second right)
  · intro other
    rw [disk, calls]
    by_cases mover : other = id
    · rw [mover, Function.update_self]
      exact facts
    · rw [Function.update_of_ne mover]
      exact orderly.staged other
  · intro done
    rw [renamed] at done
    obtain ⟨record, member, content⟩ := orderly.untorn done
    rw [history, disk]
    exact ⟨record, List.mem_append_left _ member, content⟩

theorem advance (orderly : Orderly store key state) (moved : Advances state next id point)
    (under : (state.calls id).owner = some call) (owned : point.owner = some call)
    (alone : point.staging = true → ∀ other, other ≠ id → (state.calls other).staging = false)
    (facts : Staged store next.disk point)
    (others : ∀ other, other ≠ id → Staged store next.disk (state.calls other))
    (untorn : Untorn store key next) : Orderly store key next := by
  constructor
  · intro other second owner
    rw [moved.history]
    by_cases mover : other = id
    · rw [mover, moved.self, owned, Option.some.injEq] at owner
      subst owner
      exact mover ▸ orderly.listed id call under
    · rw [moved.of_ne mover] at owner
      exact orderly.listed other second owner
  · intro first second left right
    by_cases one : first = id <;> by_cases two : second = id
    · exact one.trans two.symm
    · rw [one, moved.self] at left
      rw [moved.of_ne two, alone left second two] at right
      cases right
    · rw [two, moved.self] at right
      rw [moved.of_ne one, alone right first one] at left
      cases left
    · rw [moved.of_ne one] at left
      rw [moved.of_ne two] at right
      exact orderly.single first second left right
  · intro other
    by_cases mover : other = id
    · rw [mover, moved.self]
      exact facts
    · rw [moved.of_ne mover]
      exact others other mover
  · exact untorn

/-- The `.dat` file is untouched by a step that leaves its content alone. -/
theorem untorn_of_read (orderly : Orderly store key state) (history : next.history = state.history)
    (renamed : next.renamed = state.renamed)
    (read : next.disk.read (store.pathResolver.keyEntry key) =
      state.disk.read (store.pathResolver.keyEntry key)) : Untorn store key next := by
  intro done
  rw [renamed] at done
  rw [history, read]
  exact orderly.untorn done

theorem staged_at (orderly : Orderly store key state) {before : SavePoint Value}
    (here : state.calls id = before) : Staged store state.disk before := by
  rw [← here]
  exact orderly.staged id

/-- A step of a save that is staging its file, between two steps of no other. -/
theorem advance_staging (orderly : Orderly store key state) (moved : Advances state next id point)
    {before : SavePoint Value} (here : state.calls id = before)
    (under : (state.calls id).owner = some call) (mine : before.staging = true)
    (owned : point.owner = some call) (facts : Staged store next.disk point)
    (untorn : Untorn store key next) : Orderly store key next := by
  have alone : ∀ other, other ≠ id → (state.calls other).staging = false := by
    intro other different
    rw [← here] at mine
    exact orderly.sole_staging mine different
  apply orderly.advance moved under owned (fun _ => alone) facts _ untorn
  intro other different
  exact (orderly.staged other).of_not_staging (alone other different)

/-- A step outside the time of the temporary file, which may run beside a save
that is staging it. -/
theorem advance_outside (orderly : Orderly store key state) (moved : Advances state next id point)
    (under : (state.calls id).owner = some call) (owned : point.owner = some call)
    (outside : point.staging = false) (facts : Staged store next.disk point)
    (named : next.disk.view (store.pathResolver.tempEntry key) =
      state.disk.view (store.pathResolver.tempEntry key))
    (content : ∀ inode, inode < state.disk.nextInode →
      (next.disk.files inode).content = (state.disk.files inode).content)
    (untorn : Untorn store key next) : Orderly store key next := by
  refine orderly.advance moved under owned ?_ facts ?_ untorn
  · intro staging
    rw [outside] at staging
    cases staging
  · intro other different
    cases owner : (state.calls other).owner with
    | none =>
        exact (orderly.staged other).of_not_staging (staging_of_unowned owner)
    | some second =>
        have same := (orderly.listed other second owner).1
        apply (orderly.staged other).keep owner
        · rw [StoreImpl.tmpEntry, same]
          exact named
        · exact fun inode held => content inode (Disk.view_lt held)

/-- A step outside the time of the temporary file that leaves the disk alone. -/
theorem advance_idle (orderly : Orderly store key state) (moved : Advances state next id point)
    (under : (state.calls id).owner = some call) (owned : point.owner = some call)
    (outside : point.staging = false) (facts : Staged store state.disk point)
    (disk : next.disk = state.disk) (renamed : next.renamed = state.renamed) :
    Orderly store key next := by
  refine orderly.advance_outside moved under owned outside (disk ▸ facts) (by rw [disk]) ?_
    (orderly.untorn_of_read moved.history renamed (by rw [disk]))
  intro inode _
  rw [disk]

/-- A step that opens or removes the lock file. -/
theorem advance_lock (orderly : Orderly store key state) (clean : 0 ∉ key)
    (moved : Advances state next id point) (under : (state.calls id).owner = some call)
    (owned : point.owner = some call) (outside : point.staging = false)
    (facts : Staged store next.disk point) (renamed : next.renamed = state.renamed)
    (disk : next.disk = state.disk.openCreate (store.lockEntry call) ∨
      ∃ ok, next.disk = removeEntry state.disk (store.lockEntry call) ok) :
    Orderly store key next := by
  have same : call.key = key := (orderly.listed id call under).1
  have tmp : store.pathResolver.tempEntry key ≠ store.lockEntry call :=
    temp_entry_ne_lock store.pathResolver clean (same ▸ clean)
  have dat : store.pathResolver.keyEntry key ≠ store.lockEntry call :=
    key_entry_ne_lock store.pathResolver clean (same ▸ clean)
  have kept : next.disk.view (store.pathResolver.tempEntry key) =
        state.disk.view (store.pathResolver.tempEntry key) ∧
      (∀ inode, inode < state.disk.nextInode →
        (next.disk.files inode).content = (state.disk.files inode).content) ∧
      next.disk.read (store.pathResolver.keyEntry key) =
        state.disk.read (store.pathResolver.keyEntry key) := by
    rcases disk with opened | ⟨ok, removed⟩
    · rw [opened]
      refine ⟨state.disk.view_open_create_of_ne tmp, ?_, state.disk.read_open_create_of_ne dat⟩
      intro inode old
      rw [state.disk.files_open_create _ old]
    · rw [removed]
      unfold removeEntry
      split
      · exact ⟨state.disk.view_unlink_of_ne tmp, fun _ _ => rfl, state.disk.read_unlink_of_ne dat⟩
      · exact ⟨rfl, fun _ _ => rfl, rfl⟩
  exact orderly.advance_outside moved under owned outside facts kept.1 kept.2.1
    (orderly.untorn_of_read moved.history renamed kept.2.2)

end Orderly

theorem owner_at {state : State Value} {id : Nat} {call : SaveCall Value}
    {before : SavePoint Value} (here : state.calls id = before)
    (under : before.owner = some call) : (state.calls id).owner = some call := by
  rw [here]
  exact under

/-- What a call has once it holds the lock. -/
theorem locked_staged (disk : Disk Bytes UInt8) (call : SaveCall Value) :
    (store.locked call).owner = some call ∧ (store.locked call).staging = false ∧
      Staged store disk (store.locked call) := by
  unfold StoreImpl.locked
  split
  · rename_i failed
    exact ⟨rfl, rfl, fun _ _ => failed⟩
  · exact ⟨rfl, rfl, trivial⟩

variable [DecidableEq Value] {state next : State Value} {key : Bytes}

/-- Every step of saves that do not share the temporary file keeps the invariant. -/
theorem orderly_step {action : Action Value} (clean : 0 ∉ key)
    (orderly : Orderly store key state) (free : SavesFreely store key state action)
    (unshared : TempUnshared state action) (taken : step store state action = some next) :
    Orderly store key next := by
  cases action with
  | save id call =>
      obtain ⟨-, rfl⟩ := (guarded_eq_some ..).mp taken
      by_cases ready : store.ready
      · have point : (if store.ready then SavePoint.acquiring call
            else .finished call (some .kPathUnavailable)) = .acquiring call := if_pos ready
        rw [point]
        exact orderly.begin_save free rfl rfl rfl rfl rfl rfl trivial
      · have point : (if store.ready then SavePoint.acquiring call
            else .finished call (some .kPathUnavailable)) =
              .finished call (some .kPathUnavailable) := if_neg ready
        rw [point]
        exact orderly.begin_save free rfl rfl rfl rfl rfl rfl
          (fun _ holds => absurd holds ready)
  | acquireHeld id call =>
      obtain ⟨⟨here, -⟩, rfl⟩ := (guarded_eq_some ..).mp taken
      have under := owner_at here rfl
      obtain ⟨owned, outside, facts⟩ : (store.locked call).owner = some call ∧ _ ∧ _ :=
        locked_staged state.disk call
      exact orderly.advance_idle ⟨rfl, rfl⟩ under owned outside facts rfl rfl
  | acquireGranted id call =>
      obtain ⟨⟨here, -⟩, rfl⟩ := (guarded_eq_some ..).mp taken
      have under := owner_at here rfl
      obtain ⟨owned, outside, facts⟩ :=
        locked_staged (state.disk.openCreate (store.lockEntry call)) call
      exact orderly.advance_lock clean ⟨rfl, rfl⟩ under owned outside facts rfl (Or.inl rfl)
  | acquireRefused => cases free
  | openTemp id call ok =>
      obtain ⟨here, rfl⟩ := (guarded_eq_some ..).mp taken
      have under := owner_at here rfl
      have same : call.key = key := (orderly.listed id call under).1
      have alone : ∀ other, (state.calls other).staging = false := by
        intro other
        cases owner : (state.calls other).owner with
        | none => exact staging_of_unowned owner
        | some second => exact unshared _ (orderly.listed other second owner).2
      cases free
      refine orderly.advance ⟨rfl, rfl⟩ under rfl (fun _ other _ => alone other) ⟨?_, ?_⟩
        (fun other _ => (orderly.staged other).of_not_staging (alone other))
        (orderly.untorn_of_read rfl rfl ?_)
      · exact state.disk.view_open_truncate_self _
      · exact congrArg File.content (state.disk.files_open_truncate_self _)
      · exact state.disk.read_open_truncate_of_ne
          (key_entry_ne_temp store.pathResolver clean (same ▸ clean))
  | writeTemp id call inode written =>
      cases free
      obtain ⟨⟨here, -⟩, rfl⟩ := (guarded_eq_some ..).mp taken
      have under := owner_at here rfl
      have facts := orderly.staged_at here
      obtain ⟨named, empty⟩ := facts
      have same : call.key = key := (orderly.listed id call under).1
      refine orderly.advance_staging ⟨rfl, rfl⟩ here under rfl rfl ⟨decide_eq_true rfl, named, ?_⟩
        (orderly.untorn_of_read rfl rfl ?_)
      · rw [List.take_length]
        exact congrArg File.content (state.disk.write_empty_file _ empty)
      · exact Disk.read_write_of_ne named
          (key_entry_ne_temp store.pathResolver clean (same ▸ clean)) _
  | closeTemp id call inode complete =>
      obtain ⟨here, rfl⟩ := (guarded_eq_some ..).mp taken
      have under := owner_at here rfl
      have facts := orderly.staged_at here
      obtain ⟨rfl, prepared⟩ := facts
      exact orderly.advance_staging ⟨rfl, rfl⟩ here under rfl rfl ⟨inode, prepared⟩
        (orderly.untorn_of_read rfl rfl rfl)
  | openSync id call ok =>
      obtain ⟨here, rfl⟩ := (guarded_eq_some ..).mp taken
      have under := owner_at here rfl
      have facts := orderly.staged_at here
      obtain ⟨inode, prepared⟩ := facts
      cases free
      simp only [prepared.1]
      exact orderly.advance_staging ⟨rfl, rfl⟩ here under rfl rfl prepared
        (orderly.untorn_of_read rfl rfl rfl)
  | fsyncTemp id call inode ok =>
      obtain ⟨here, rfl⟩ := (guarded_eq_some ..).mp taken
      have under := owner_at here rfl
      have facts := orderly.staged_at here
      cases free
      refine orderly.advance_staging ⟨rfl, rfl⟩ here under rfl rfl ⟨rfl, inode, ?_⟩
        (orderly.untorn_of_read rfl rfl (state.disk.read_fsync inode _))
      exact Prepared.keep facts rfl (state.disk.content_fsync inode inode)
  | closeSync id call synced =>
      obtain ⟨here, rfl⟩ := (guarded_eq_some ..).mp taken
      have under := owner_at here rfl
      have facts := orderly.staged_at here
      obtain ⟨rfl, prepared⟩ := facts
      exact orderly.advance_staging ⟨rfl, rfl⟩ here under rfl rfl prepared
        (orderly.untorn_of_read rfl rfl rfl)
  | renameTemp id call ok =>
      obtain ⟨here, rfl⟩ := (guarded_eq_some ..).mp taken
      have under := owner_at here rfl
      have facts := orderly.staged_at here
      obtain ⟨inode, named, bytes⟩ := facts
      obtain ⟨same, member⟩ := orderly.listed id call under
      have apart : store.tmpEntry call ≠ store.datEntry call :=
        (key_entry_ne_temp store.pathResolver (same ▸ clean) (same ▸ clean)).symm
      have renamed := (Disk.rename_eq_some apart).mpr ⟨inode, named, rfl⟩
      cases free
      simp only [renamed]
      refine orderly.advance_staging ⟨rfl, rfl⟩ here under rfl rfl trivial ?_
      intro _
      refine ⟨⟨id, call⟩, member, same, ?_⟩
      rw [← same, ← bytes]
      exact (state.disk.read_rename_named _ _ inode named).trans (Disk.read_of_view named)
  | removeTemp id call ok =>
      obtain ⟨here, rfl⟩ := (guarded_eq_some ..).mp taken
      have facts := orderly.staged_at here
      cases facts
  | openDirectory id call ok =>
      obtain ⟨here, rfl⟩ := (guarded_eq_some ..).mp taken
      have under := owner_at here rfl
      cases free
      exact orderly.advance_idle ⟨rfl, rfl⟩ under rfl rfl trivial rfl rfl
  | fsyncDirectory id call ok =>
      obtain ⟨here, rfl⟩ := (guarded_eq_some ..).mp taken
      have under := owner_at here rfl
      cases free
      exact orderly.advance_outside ⟨rfl, rfl⟩ under rfl rfl rfl rfl (fun _ _ => rfl)
        (orderly.untorn_of_read rfl rfl rfl)
  | closeDirectory id call synced =>
      obtain ⟨here, rfl⟩ := (guarded_eq_some ..).mp taken
      have under := owner_at here rfl
      have facts := orderly.staged_at here
      cases facts
      exact orderly.advance_idle ⟨rfl, rfl⟩ under rfl rfl (fun failed => absurd rfl failed) rfl rfl
  | release id call error unlinked =>
      obtain ⟨here, rfl⟩ := (guarded_eq_some ..).mp taken
      have under := owner_at here rfl
      have facts := orderly.staged_at here
      split
      · exact orderly.advance_lock clean ⟨rfl, rfl⟩ under rfl rfl facts rfl (Or.inr ⟨unlinked, rfl⟩)
      · exact orderly.advance_idle ⟨rfl, rfl⟩ under rfl rfl facts rfl rfl

/-- Saves of one key that never share the temporary file keep what the guide
promises to threads: no torn value, and no failure that is not their own. -/
theorem unshared_saves_stay_whole (store : StoreImpl Value) (key : Bytes) (clean : 0 ∉ key)
    (disk : Disk Bytes UInt8) (actions : List (Action Value))
    (free : Along (step store) (SavesFreely store key) (initial disk) actions)
    (unshared : Along (step store) TempUnshared (initial disk) actions) :
    Always (step store) (fun state => Untorn store key state ∧ ReturnsNormally store state)
      (initial disk) actions := by
  have start : Orderly store key (initial disk) := initially_orderly key disk
  refine always_of_invariant ?_ ?_ start (along_and free unshared)
  · intro state action next orderly allowed taken
    exact orderly_step clean orderly allowed.1 allowed.2 taken
  · intro state orderly
    refine ⟨orderly.untorn, ?_⟩
    intro id call error ready serialized ended
    have facts := orderly.staged id
    rw [ended] at facts
    exact serialized (facts nofun ready)

/-- The first thread has synced its temporary file when the second one, let
through by `acquire`, truncates it. -/
def tornSaves : List (Action Bytes) :=
  [.save 0 ⟨[107], [1]⟩, .save 1 ⟨[107], [2]⟩, .acquireGranted 0 ⟨[107], [1]⟩,
    .acquireHeld 1 ⟨[107], [2]⟩, .openTemp 0 ⟨[107], [1]⟩ true,
    .writeTemp 0 ⟨[107], [1]⟩ 1 (some 1), .closeTemp 0 ⟨[107], [1]⟩ 1 true,
    .openSync 0 ⟨[107], [1]⟩ true, .fsyncTemp 0 ⟨[107], [1]⟩ 1 true,
    .closeSync 0 ⟨[107], [1]⟩ true, .openTemp 1 ⟨[107], [2]⟩ true,
    .renameTemp 0 ⟨[107], [1]⟩ true]

/-- The second thread goes on and finds its temporary file gone. -/
def robbedSave : List (Action Bytes) :=
  [.writeTemp 1 ⟨[107], [2]⟩ 1 (some 1), .closeTemp 1 ⟨[107], [2]⟩ 1 true,
    .openSync 1 ⟨[107], [2]⟩ true, .removeTemp 1 ⟨[107], [2]⟩ true,
    .release 1 ⟨[107], [2]⟩ (some .kAtomicWriteFailed) true]

theorem shared_temp_tears_the_file :
    Along (step .ofStrings) (SavesFreely .ofStrings [107]) (initial .empty)
      (tornSaves ++ robbedSave) ∧
    ∃ torn, run (step .ofStrings) (initial .empty) tornSaves = some torn ∧
      ¬Untorn .ofStrings [107] torn ∧
      ∃ failed, run (step .ofStrings) torn robbedSave = some failed ∧
        ¬ReturnsNormally .ofStrings failed := by
  refine ⟨by decide, _, rfl, by decide, _, rfl, ?_⟩
  intro returns
  exact returns 1 ⟨[107], [2]⟩ .kAtomicWriteFailed rfl (by decide) rfl

/-- Two saves in the order that the lock was meant to give them. -/
def successiveSaves : List (Action Bytes) :=
  renamedSave ⟨[107], [1]⟩ ++ [.openDirectory 0 ⟨[107], [1]⟩ true,
    .fsyncDirectory 0 ⟨[107], [1]⟩ true, .closeDirectory 0 ⟨[107], [1]⟩ true,
    .release 0 ⟨[107], [1]⟩ none true, .save 1 ⟨[107], [2]⟩, .acquireGranted 1 ⟨[107], [2]⟩,
    .openTemp 1 ⟨[107], [2]⟩ true]

theorem successive_saves_stay_whole :
    Always (step .ofStrings)
      (fun state => Untorn .ofStrings [107] state ∧ ReturnsNormally .ofStrings state)
      (initial .empty) successiveSaves :=
  unshared_saves_stay_whole .ofStrings [107] (by decide) .empty successiveSaves (by decide)
    (by decide)

end TboxFramework.Store
