import TboxFramework.Store.SaveMachine

/-!
# The steps of one save

What one system call of a `save` does: to the disk, to the point where the call
stands, and to the facts on which the call relies there. The cases of the step
function are taken apart once here, for every invariant of a run.
-/

namespace TboxFramework.Store

open Interleaving DurableDirectory

set_option autoImplicit false

variable {Value : Type}

namespace SavePoint

/-- The call that a point belongs to, finished or not. -/
def owner : SavePoint Value → Option (SaveCall Value)
  | .finished call _ => some call
  | point => point.active

end SavePoint

theorem owner_of_active {point : SavePoint Value} {call : SaveCall Value}
    (under : point.active = some call) : point.owner = some call := by
  cases point <;> first | exact under | cases under

section Facts

variable (store : StoreImpl Value)

/-- The temporary file of the call holds its bytes. -/
def Prepared (disk : Disk Bytes UInt8) (call : SaveCall Value) (inode : Inode) : Prop :=
  disk.view (store.tmpEntry call) = some inode ∧
    (disk.files inode).content = store.bytes call

/-- Nothing but the file of this call can be found under its key. -/
def Settled (disk : Disk Bytes UInt8) (call : SaveCall Value) : Prop :=
  ∃ inode, (disk.files inode).content = store.bytes call ∧
    ∀ value, disk.MayHold (store.datEntry call) value → value = some inode

/-- What the call under way relies on at each of its points. -/
def PointSound (disk : Disk Bytes UInt8) : SavePoint Value → Prop
  | .writingTemp call inode =>
      disk.view (store.tmpEntry call) = some inode ∧ (disk.files inode).content = []
  | .closingTemp call inode complete => complete → Prepared store disk call inode
  | .openingSync call => ∃ inode, Prepared store disk call inode
  | .syncingTemp call inode => Prepared store disk call inode
  | .closingSync call synced =>
      synced → ∃ inode, Prepared store disk call inode ∧ (disk.files inode).synced
  | .renamingTemp call => ∃ inode, Prepared store disk call inode ∧ (disk.files inode).synced
  | .openingDirectory call | .syncingDirectory call =>
      ∃ inode, disk.view (store.datEntry call) = some inode ∧
        (disk.files inode).content = store.bytes call
  | .closingDirectory call synced => synced → Settled store disk call
  | .releasing call none => Settled store disk call
  | _ => True

theorem point_sound_of_inactive (disk : Disk Bytes UInt8) {point : SavePoint Value}
    (inactive : point.active = none) : PointSound store disk point := by
  cases point <;> trivial

end Facts

variable {store : StoreImpl Value} {state next : State Value} {id : Nat} {call : SaveCall Value}
  {before point : SavePoint Value}

/-- Removing another entry keeps the file of the call settled. -/
theorem Settled.remove {disk : Disk Bytes UInt8} (settled : Settled store disk call)
    {name : Bytes} (other : store.datEntry call ≠ name) (ok : Bool) :
    Settled store (removeEntry disk name ok) call := by
  unfold removeEntry
  split
  · obtain ⟨inode, bytes, only⟩ := settled
    exact ⟨inode, bytes, fun value may => only value (Disk.may_hold_unlink_of_ne other may)⟩
  · exact settled

/-! ## The steps -/

/-- One step of the call `id`: to another of its points, over another disk. -/
structure Advances (state next : State Value) (id : Nat) (point : SavePoint Value) : Prop where
  history : next.history = state.history
  calls : next.calls = Function.update state.calls id point

theorem Advances.of_ne (moved : Advances state next id point) {other : Nat}
    (different : other ≠ id) : next.calls other = state.calls other := by
  rw [moved.calls, Function.update_of_ne different]

theorem Advances.self (moved : Advances state next id point) : next.calls id = point := by
  rw [moved.calls, Function.update_self]

theorem active_at (here : state.calls id = before) (under : before.active = some call) :
    (state.calls id).active = some call := by
  rw [here]
  exact under

/-- What one system call of a save does to the disk. -/
inductive DiskMove (store : StoreImpl Value) (call : SaveCall Value) (disk : Disk Bytes UInt8) :
    SavePoint Value → Disk Bytes UInt8 → Prop
  | still (before : SavePoint Value) : DiskMove store call disk before disk
  | openLock (before : SavePoint Value) :
      DiskMove store call disk before (disk.openCreate (store.lockEntry call))
  | openTemp (before : SavePoint Value) :
      DiskMove store call disk before (disk.openTruncate (store.tmpEntry call))
  | write (inode : Inode) (bytes : Bytes) :
      DiskMove store call disk (.writingTemp call inode) (disk.write inode bytes)
  | fsync (before : SavePoint Value) (inode : Inode) :
      DiskMove store call disk before (disk.fsync inode)
  | rename {after : Disk Bytes UInt8}
      (moved : disk.rename (store.tmpEntry call) (store.datEntry call) = some after) :
      DiskMove store call disk (.renamingTemp call) after
  | removeTemp (before : SavePoint Value) (ok : Bool) :
      DiskMove store call disk before (removeEntry disk (store.tmpEntry call) ok)
  | removeLock (before : SavePoint Value) (ok : Bool) :
      DiskMove store call disk before (removeEntry disk (store.lockEntry call) ok)
  | syncDirectory (before : SavePoint Value) :
      DiskMove store call disk before disk.syncDirectory

/-- The call `id` goes on to another of its points and keeps what it relies on. -/
structure CallMoves (store : StoreImpl Value) (state next : State Value) (id : Nat)
    (call : SaveCall Value) (before point : SavePoint Value) : Prop
    extends Advances state next id point where
  here : state.calls id = before
  under : before.active = some call
  owned : point.owner = some call
  disk : DiskMove store call state.disk before next.disk
  sound : Plain call.key → PointSound store state.disk before → PointSound store next.disk point
  settled : Plain call.key → PointSound store state.disk before →
    ∀ done, point = .finished done none → Settled store next.disk call

namespace CallMoves

theorem active (moves : CallMoves store state next id call before point) :
    (state.calls id).active = some call := active_at moves.here moves.under

/-- A step to a point where the call is still under way. -/
theorem goes_on (moved : Advances state next id point) (here : state.calls id = before)
    (under : before.active = some call) (active : point.active = some call)
    (disk : DiskMove store call state.disk before next.disk)
    (sound : Plain call.key → PointSound store state.disk before →
      PointSound store next.disk point) : CallMoves store state next id call before point where
  toAdvances := moved
  here := here
  under := under
  owned := owner_of_active active
  disk := disk
  sound := sound
  settled := by
    intro _ _ done finished
    rw [finished] at active
    cases active

/-- A step to a point where the call relies on nothing. -/
theorem lets_go (moved : Advances state next id point) (here : state.calls id = before)
    (under : before.active = some call) (owned : point.owner = some call)
    (quiet : ∀ done, point ≠ .finished done none)
    (disk : DiskMove store call state.disk before next.disk)
    (sound : ∀ disk, PointSound store disk point) :
    CallMoves store state next id call before point where
  toAdvances := moved
  here := here
  under := under
  owned := owned
  disk := disk
  sound := fun _ _ => sound next.disk
  settled := fun _ _ done finished => absurd finished (quiet done)

end CallMoves

/-- What a call has as soon as it has begun. -/
theorem begun_facts (store : StoreImpl Value) (call : SaveCall Value) :
    (if store.ready then SavePoint.acquiring call
      else .finished call (some .kPathUnavailable)).owner = some call ∧
    (∀ disk, PointSound store disk (if store.ready then SavePoint.acquiring call
      else .finished call (some .kPathUnavailable))) ∧
    ∀ done, (if store.ready then SavePoint.acquiring call
      else .finished call (some .kPathUnavailable)) ≠ .finished done none := by
  split
  · exact ⟨rfl, fun _ => trivial, fun _ => nofun⟩
  · exact ⟨rfl, fun _ => trivial, fun _ => nofun⟩

/-- What a call has once it holds the lock. -/
theorem locked_facts (store : StoreImpl Value) (call : SaveCall Value) :
    (store.locked call).owner = some call ∧ (∀ disk, PointSound store disk (store.locked call)) ∧
      ∀ done, store.locked call ≠ .finished done none := by
  unfold StoreImpl.locked
  split
  · exact ⟨rfl, fun _ => trivial, fun _ => nofun⟩
  · exact ⟨rfl, fun _ => trivial, fun _ => nofun⟩

theorem tmp_ne_dat (store : StoreImpl Value) {call : SaveCall Value} (plain : Plain call.key) :
    store.tmpEntry call ≠ store.datEntry call :=
  (key_entry_ne_temp store.pathResolver plain.1 plain.1).symm

theorem dat_ne_lock (store : StoreImpl Value) {call : SaveCall Value} (plain : Plain call.key) :
    store.datEntry call ≠ store.lockEntry call :=
  key_entry_ne_lock store.pathResolver plain.1 plain.1

/-- The key whose `save` an action starts. -/
def Action.started : Action Value → Option Bytes
  | .save _ call => some call.key
  | _ => none

variable [DecidableEq Value]

/-- A step that starts no save is one system call of a save under way. -/
theorem step_moves {action : Action Value} (later : action.started = none)
    (taken : step store state action = some next) :
    ∃ id call before point, CallMoves store state next id call before point := by
  cases action with
  | save => cases later
  | acquireHeld id call =>
      obtain ⟨⟨here, -⟩, rfl⟩ := (guarded_eq_some ..).mp taken
      obtain ⟨owned, facts, quiet⟩ := locked_facts store call
      exact ⟨id, call, _, _, .lets_go ⟨rfl, rfl⟩ here rfl owned quiet (.still _) facts⟩
  | acquireGranted id call =>
      obtain ⟨⟨here, -⟩, rfl⟩ := (guarded_eq_some ..).mp taken
      obtain ⟨owned, facts, quiet⟩ := locked_facts store call
      exact ⟨id, call, _, _, .lets_go ⟨rfl, rfl⟩ here rfl owned quiet (.openLock _) facts⟩
  | acquireRefused id call created =>
      obtain ⟨⟨here, -⟩, rfl⟩ := (guarded_eq_some ..).mp taken
      refine ⟨id, call, _, _, .lets_go ⟨rfl, rfl⟩ here rfl rfl (fun _ => nofun) ?_
        fun _ => trivial⟩
      cases created with
      | false => exact .still _
      | true => exact .openLock _
  | openTemp id call ok =>
      obtain ⟨here, rfl⟩ := (guarded_eq_some ..).mp taken
      cases ok with
      | false => exact ⟨id, call, _, _, .goes_on ⟨rfl, rfl⟩ here rfl rfl (.still _)
          fun _ _ => trivial⟩
      | true =>
          refine ⟨id, call, _, _, .goes_on ⟨rfl, rfl⟩ here rfl rfl (.openTemp _) ?_⟩
          intro _ _
          exact ⟨state.disk.view_open_truncate_self _,
            congrArg File.content (state.disk.files_open_truncate_self _)⟩
  | writeTemp id call inode written =>
      cases written with
      | none =>
          obtain ⟨here, rfl⟩ := (guarded_eq_some ..).mp taken
          exact ⟨id, call, _, _, .goes_on ⟨rfl, rfl⟩ here rfl rfl (.still _) fun _ _ => nofun⟩
      | some count =>
          obtain ⟨⟨here, -⟩, rfl⟩ := (guarded_eq_some ..).mp taken
          refine ⟨id, call, _, _, .goes_on ⟨rfl, rfl⟩ here rfl rfl (.write inode _) ?_⟩
          intro _ facts complete
          refine ⟨facts.1, ?_⟩
          have whole : count = (store.bytes call).length := by simpa using complete
          rw [whole, List.take_length]
          exact congrArg File.content (state.disk.write_empty_file _ facts.2)
  | closeTemp id call inode complete =>
      obtain ⟨here, rfl⟩ := (guarded_eq_some ..).mp taken
      cases complete with
      | false => exact ⟨id, call, _, _, .goes_on ⟨rfl, rfl⟩ here rfl rfl (.still _)
          fun _ _ => trivial⟩
      | true => exact ⟨id, call, _, _, .goes_on ⟨rfl, rfl⟩ here rfl rfl (.still _)
          fun _ facts => ⟨inode, facts rfl⟩⟩
  | openSync id call ok =>
      obtain ⟨here, rfl⟩ := (guarded_eq_some ..).mp taken
      split
      · rename_i inode named
        refine ⟨id, call, _, _, .goes_on ⟨rfl, rfl⟩ here rfl rfl (.still _) ?_⟩
        intro _ facts
        obtain ⟨held, prepared⟩ := facts
        cases Option.some.inj (named.symm.trans prepared.1)
        exact prepared
      · exact ⟨id, call, _, _, .goes_on ⟨rfl, rfl⟩ here rfl rfl (.still _) fun _ _ => trivial⟩
  | fsyncTemp id call inode ok =>
      obtain ⟨here, rfl⟩ := (guarded_eq_some ..).mp taken
      cases ok with
      | false => exact ⟨id, call, _, _, .goes_on ⟨rfl, rfl⟩ here rfl rfl (.still _)
          fun _ _ => nofun⟩
      | true =>
          refine ⟨id, call, _, _, .goes_on ⟨rfl, rfl⟩ here rfl rfl (.fsync _ inode) ?_⟩
          intro _ facts _
          refine ⟨inode, ⟨facts.1, (state.disk.content_fsync ..).trans facts.2⟩, ?_⟩
          exact congrArg File.synced (Disk.files_set_file_self ..)
  | closeSync id call synced =>
      obtain ⟨here, rfl⟩ := (guarded_eq_some ..).mp taken
      cases synced with
      | false => exact ⟨id, call, _, _, .goes_on ⟨rfl, rfl⟩ here rfl rfl (.still _)
          fun _ _ => trivial⟩
      | true => exact ⟨id, call, _, _, .goes_on ⟨rfl, rfl⟩ here rfl rfl (.still _)
          fun _ facts => facts rfl⟩
  | renameTemp id call ok =>
      obtain ⟨here, rfl⟩ := (guarded_eq_some ..).mp taken
      split
      · rename_i disk renamed
        refine ⟨id, call, _, _, .goes_on ⟨rfl, rfl⟩ here rfl rfl (.rename renamed) ?_⟩
        intro plain facts
        obtain ⟨inode, source, rfl⟩ := (Disk.rename_eq_some (tmp_ne_dat store plain)).mp renamed
        obtain ⟨held, ⟨named, bytes⟩, -⟩ := facts
        cases Option.some.inj (source.symm.trans named)
        exact ⟨inode, state.disk.view_rename_named_self _ _ inode source, bytes⟩
      · exact ⟨id, call, _, _, .goes_on ⟨rfl, rfl⟩ here rfl rfl (.still _) fun _ _ => trivial⟩
  | removeTemp id call ok =>
      obtain ⟨here, rfl⟩ := (guarded_eq_some ..).mp taken
      exact ⟨id, call, _, _, .goes_on ⟨rfl, rfl⟩ here rfl rfl (.removeTemp _ ok)
        fun _ _ => trivial⟩
  | openDirectory id call ok =>
      obtain ⟨here, rfl⟩ := (guarded_eq_some ..).mp taken
      cases ok with
      | false => exact ⟨id, call, _, _, .goes_on ⟨rfl, rfl⟩ here rfl rfl (.still _)
          fun _ _ => trivial⟩
      | true => exact ⟨id, call, _, _, .goes_on ⟨rfl, rfl⟩ here rfl rfl (.still _)
          fun _ facts => facts⟩
  | fsyncDirectory id call ok =>
      obtain ⟨here, rfl⟩ := (guarded_eq_some ..).mp taken
      cases ok with
      | false => exact ⟨id, call, _, _, .goes_on ⟨rfl, rfl⟩ here rfl rfl (.still _)
          fun _ _ => nofun⟩
      | true =>
          refine ⟨id, call, _, _, .goes_on ⟨rfl, rfl⟩ here rfl rfl (.syncDirectory _) ?_⟩
          intro _ facts _
          obtain ⟨inode, named, bytes⟩ := facts
          refine ⟨inode, bytes, fun value may => ?_⟩
          exact (Disk.may_hold_sync_directory.mp may).trans named
  | closeDirectory id call synced =>
      obtain ⟨here, rfl⟩ := (guarded_eq_some ..).mp taken
      cases synced with
      | false => exact ⟨id, call, _, _, .goes_on ⟨rfl, rfl⟩ here rfl rfl (.still _)
          fun _ _ => trivial⟩
      | true => exact ⟨id, call, _, _, .goes_on ⟨rfl, rfl⟩ here rfl rfl (.still _)
          fun _ facts => facts rfl⟩
  | release id call error unlinked =>
      obtain ⟨here, rfl⟩ := (guarded_eq_some ..).mp taken
      split
      · refine ⟨id, call, _, _, ⟨⟨rfl, rfl⟩, here, rfl, rfl, .removeLock _ unlinked,
          fun _ _ => trivial, ?_⟩⟩
        intro plain facts done finished
        cases finished
        exact Settled.remove facts (dat_ne_lock store plain) unlinked
      · refine ⟨id, call, _, _, ⟨⟨rfl, rfl⟩, here, rfl, rfl, .still _, fun _ _ => trivial, ?_⟩⟩
        intro plain facts done finished
        cases finished
        exact facts

end TboxFramework.Store
