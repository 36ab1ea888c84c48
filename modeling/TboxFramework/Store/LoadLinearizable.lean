import TboxFramework.Library.OpenFiles
import TboxFramework.Store.CallFrames
import TboxFramework.Store.LoadMachine

/-!
# Loads take effect at one moment

Every data file is a whole save, renamed into place, so a load that has opened one
reads what the key held at that moment. A load that finds no file by its stat takes
effect there. Only a removal between the stat and the open has no such moment.
-/

namespace TboxFramework.Store

open Interleaving DurableDirectory

set_option autoImplicit false

variable {Value : Type}

/-! ## What a load may answer -/

/-- The data file held the text of this value at one of the moments. -/
def HeldAt (store : TypedStore Value) (moments : List (Option Bytes)) (value : Value) : Prop :=
  some (store.codec.serialize value) ∈ moments

/-- The answer of a call that took effect at one of the moments. -/
def Linearized (store : TypedStore Value) (moments : List (Option Bytes)) :
    LoadCall Value → Except StoreError Value → Prop
  | .load, .ok value => HeldAt store moments value
  | .load, .error error => error = .kKeyNotFound ∧ none ∈ moments
  | .loadOr defaultValue, .ok value =>
      HeldAt store moments value ∨ (value = defaultValue ∧ none ∈ moments)
  | .loadOr _, .error _ => False

def LoadsLinearized (store : TypedStore Value) (state : LoadState Value) : Prop :=
  ∀ call result, state.reader = .done call result → Linearized store state.moments call result

/-- The call that an action starts, if it is a `save`. -/
def WriterAction.started : WriterAction Value → Option (SaveCall Value)
  | .saving (.save _ call) => some call
  | _ => none

/-- The writer makes one call at a time, and under the key it saves only values
whose text reads back as themselves. -/
def WriterServes (store : TypedStore Value) (key : Bytes) (state : LoadState Value) :
    LoadAction Value → Prop
  | .writer action =>
      SingleCaller state.writer action ∧
        ∀ call ∈ action.started, call.key = key → store.codec.Lossless call.value
  | _ => True

/-- The store is ready, and the file that the stat has found is there at the open. -/
def FileStays (store : TypedStore Value) (key : Bytes) (state : LoadState Value) :
    LoadAction Value → Prop
  | .load _ => store.ready
  | .openData => state.dataFile store key ≠ none
  | _ => True

section Decisions

variable [DecidableEq Value]

instance (codec : Codec Value) (value : Value) : Decidable (codec.Lossless value) :=
  decidable_of_iff
    ((codec.serialize value = [] → codec.isString value = true) ∧
      codec.deserialize (codec.serialize value) = some value)
    ⟨fun both => ⟨both.1, both.2⟩, fun lossless => ⟨lossless.1, lossless.2⟩⟩

instance (store : TypedStore Value) (key : Bytes) (state : LoadState Value)
    (action : LoadAction Value) : Decidable (WriterServes store key state action) := by
  unfold WriterServes
  split <;> infer_instance

instance (store : TypedStore Value) (key : Bytes) (state : LoadState Value)
    (action : LoadAction Value) : Decidable (FileStays store key state action) := by
  unfold FileStays
  split <;> infer_instance

end Decisions

/-! ## The data file beside the writer -/

/-- The whole text of one restorable value. -/
def WholeValue (store : TypedStore Value) (content : Bytes) : Prop :=
  ∃ value, store.codec.Lossless value ∧ content = store.codec.serialize value

variable {store : TypedStore Value} {key : Bytes}

section Moves

variable {impl : StoreImpl Value} {call : SaveCall Value} {disk after : Disk Bytes UInt8}
  {before : SavePoint Value}

theorem keeps_open_remove_entry (kept : Bytes) (disk : Disk Bytes UInt8) (name : Bytes)
    (ok : Bool) :
    Disk.KeepsOpen kept disk (removeEntry disk name ok) := by
  unfold removeEntry
  split
  · exact Disk.keeps_open_unlink disk name
  · exact Disk.KeepsOpen.refl kept disk

/-- A save writes to no data file that is open. -/
theorem keeps_open_disk_move (plain : Plain key) (clean : Plain call.key)
    (facts : PointSound impl disk before) (moved : DiskMove impl call disk before after) :
    Disk.KeepsOpen (impl.pathResolver.keyEntry key) disk after := by
  have notTemp : impl.tmpEntry call ≠ impl.pathResolver.keyEntry key :=
    (key_entry_ne_temp impl.pathResolver plain.1 clean.1).symm
  have notLock : impl.lockEntry call ≠ impl.pathResolver.keyEntry key :=
    (key_entry_ne_lock impl.pathResolver plain.1 clean.1).symm
  cases moved with
  | still => exact Disk.KeepsOpen.refl _ disk
  | openLock => exact disk.keeps_open_create notLock
  | openTemp => exact disk.keeps_open_truncate notTemp
  | write inode bytes => exact Disk.keeps_open_write notTemp facts.1 bytes
  | fsync _ inode => exact disk.keeps_open_fsync inode
  | rename renamed => exact Disk.keeps_open_rename notTemp (tmp_ne_dat impl clean) renamed
  | removeTemp _ ok => exact keeps_open_remove_entry _ disk _ ok
  | removeLock _ ok => exact keeps_open_remove_entry _ disk _ ok
  | syncDirectory => exact disk.keeps_open_sync_directory

theorem keeps_open_removal_move {other : Bytes} (plain : Plain key) (clean : Plain other)
    (moved : RemovalMove impl.pathResolver other disk after) :
    Disk.KeepsOpen (impl.pathResolver.keyEntry key) disk after := by
  cases moved with
  | still => exact Disk.KeepsOpen.refl _ disk
  | openLock =>
      exact disk.keeps_open_create (key_entry_ne_lock impl.pathResolver plain.1 clean.1).symm
  | unlinkData ok => exact keeps_open_remove_entry _ disk _ ok
  | removeLock ok => exact keeps_open_remove_entry _ disk _ ok

theorem read_remove_entry_of_ne {disk : Disk Bytes UInt8} {name entry : Bytes}
    (other : entry ≠ name) (ok : Bool) :
    (removeEntry disk name ok).read entry = disk.read entry := by
  unfold removeEntry
  split
  · exact disk.read_unlink_of_ne other
  · rfl

/-- A save changes what a key holds in one step, to its own bytes. -/
theorem read_disk_move (plain : Plain key) (clean : Plain call.key)
    (facts : PointSound impl disk before) (moved : DiskMove impl call disk before after) :
    after.read (impl.pathResolver.keyEntry key) = disk.read (impl.pathResolver.keyEntry key) ∨
      call.key = key ∧ after.read (impl.pathResolver.keyEntry key) = some (impl.bytes call) := by
  have notTemp : impl.pathResolver.keyEntry key ≠ impl.tmpEntry call :=
    key_entry_ne_temp impl.pathResolver plain.1 clean.1
  have notLock : impl.pathResolver.keyEntry key ≠ impl.lockEntry call :=
    key_entry_ne_lock impl.pathResolver plain.1 clean.1
  cases moved with
  | still => exact Or.inl rfl
  | openLock => exact Or.inl (disk.read_open_create_of_ne notLock)
  | openTemp => exact Or.inl (disk.read_open_truncate_of_ne notTemp)
  | write inode bytes => exact Or.inl (Disk.read_write_of_ne facts.1 notTemp bytes)
  | fsync _ inode => exact Or.inl (disk.read_fsync inode _)
  | rename renamed =>
      by_cases same : call.key = key
      · obtain ⟨inode, ⟨named, bytes⟩, -⟩ := facts
        obtain ⟨moved, source, rfl⟩ :=
          (Disk.rename_eq_some (tmp_ne_dat impl clean)).mp renamed
        cases Option.some.inj (source.symm.trans named)
        refine Or.inr ⟨same, ?_⟩
        rw [← same, ← bytes]
        exact (disk.read_rename_named _ _ _ source).trans (Disk.read_of_view source)
      · refine Or.inl (read_rename_of_ne renamed notTemp ?_)
        intro landed
        exact same (key_entry_inj impl.pathResolver plain.1 clean.1 landed).symm
  | removeTemp _ ok => exact Or.inl (read_remove_entry_of_ne notTemp ok)
  | removeLock _ ok => exact Or.inl (read_remove_entry_of_ne notLock ok)
  | syncDirectory => exact Or.inl rfl

/-- A `remove` takes the whole file away in one step. -/
theorem read_removal_move {other : Bytes} (plain : Plain key) (clean : Plain other)
    (moved : RemovalMove impl.pathResolver other disk after) :
    after.read (impl.pathResolver.keyEntry key) = disk.read (impl.pathResolver.keyEntry key) ∨
      after.read (impl.pathResolver.keyEntry key) = none := by
  have notLock : impl.pathResolver.keyEntry key ≠ impl.pathResolver.lockEntry other :=
    key_entry_ne_lock impl.pathResolver plain.1 clean.1
  cases moved with
  | still => exact Or.inl rfl
  | openLock => exact Or.inl (disk.read_open_create_of_ne notLock)
  | unlinkData ok =>
      by_cases same : impl.pathResolver.keyEntry key = impl.pathResolver.keyEntry other
      · unfold removeEntry
        split
        · refine Or.inr ?_
          rw [← same, Disk.read, Disk.view_unlink, Function.update_self]
          rfl
        · exact Or.inl rfl
      · exact Or.inl (read_remove_entry_of_ne same ok)
  | removeLock ok => exact Or.inl (read_remove_entry_of_ne notLock ok)

end Moves

/-! ## The invariant of the writer -/

structure Serves (store : TypedStore Value) (key : Bytes) (writer : WriterState Value) : Prop where
  sequential : Sequential writer
  points : ∀ id, PointSound store.impl writer.disk (writer.saves.calls id)
  restorable : ∀ id call, (writer.saves.calls id).active = some call → call.key = key →
    store.codec.Lossless call.value
  stored : ∀ content, writer.disk.read (store.pathResolver.keyEntry key) = some content →
    WholeValue store content

namespace Serves

variable {writer next : WriterState Value}

theorem initially {disk : Disk Bytes UInt8}
    (stored : ∀ content, disk.read (store.pathResolver.keyEntry key) = some content →
      WholeValue store content) : Serves store key (initialWriter disk fun _ => false) where
  sequential := Sequential.initially disk _
  points := fun _ => trivial
  restorable := nofun
  stored := stored

/-- A new save has done nothing to the disk yet. -/
theorem begin_save (serves : Serves store key writer) (after : Sequential next)
    (quiet : writer.Quiet) {id : Nat} {call : SaveCall Value} {point : SavePoint Value}
    (calls : next.saves.calls = Function.update writer.saves.calls id point)
    (disk : next.disk = writer.disk) (owned : point.owner = some call)
    (fresh : PointSound store.impl next.disk point)
    (restorable : call.key = key → store.codec.Lossless call.value) : Serves store key next where
  sequential := after
  points := by
    intro other
    rw [calls]
    by_cases mover : other = id
    · rw [mover, Function.update_self]
      exact fresh
    · rw [Function.update_of_ne mover]
      exact point_sound_of_inactive store.impl next.disk (quiet other)
  restorable := by
    intro other second under
    rw [calls] at under
    by_cases mover : other = id
    · rw [mover, Function.update_self] at under
      have same : second = call := Option.some.inj ((owner_of_active under).symm.trans owned)
      rw [same]
      exact restorable
    · rw [Function.update_of_ne mover, quiet other] at under
      cases under
  stored := by
    rw [disk]
    exact serves.stored

/-- A system call of the save under way. -/
theorem save_moves (serves : Serves store key writer) (plain : Plain key) (after : Sequential next)
    {id : Nat} {call : SaveCall Value} {before point : SavePoint Value}
    (moves : CallMoves store.impl writer.saves next.saves id call before point) :
    Serves store key next := by
  have clean := (serves.sequential.alone id call moves.active).1
  have facts : PointSound store.impl writer.disk before := moves.here ▸ serves.points id
  constructor
  · exact after
  · intro other
    by_cases mover : other = id
    · rw [mover, moves.self]
      exact moves.sound clean facts
    · rw [moves.of_ne mover]
      apply point_sound_of_inactive store.impl next.disk
      cases also : (writer.saves.calls other).active with
      | none => rfl
      | some second =>
          exact absurd (serves.sequential.sole other id second call also moves.active) mover
  · intro other second under
    by_cases mover : other = id
    · rw [mover, moves.self] at under
      have same : second = call := Option.some.inj ((owner_of_active under).symm.trans moves.owned)
      rw [same]
      exact serves.restorable id call moves.active
    · rw [moves.of_ne mover] at under
      exact serves.restorable other second under
  · intro content held
    rcases read_disk_move plain clean facts moves.disk with kept | ⟨same, renamed⟩
    · exact serves.stored content (kept.symm.trans held)
    · refine ⟨call.value, serves.restorable id call moves.active same, ?_⟩
      exact Option.some.inj (held.symm.trans renamed)

/-- A system call of the `remove` under way. -/
theorem remove_moves (serves : Serves store key writer) (plain : Plain key)
    (after : Sequential next) {other : Bytes} (moves : RemoveMoves store.impl writer next other) :
    Serves store key next := by
  have quiet := serves.sequential.quiet_of_removal moves.under
  have clean := serves.sequential.plain other moves.under
  constructor
  · exact after
  · intro id
    rw [moves.calls]
    exact point_sound_of_inactive store.impl next.disk (quiet id)
  · intro id call under
    rw [moves.calls, quiet id] at under
    cases under
  · intro content held
    rcases read_removal_move plain clean moves.disk with kept | missing
    · exact serves.stored content (kept.symm.trans held)
    · cases missing.symm.trans held

end Serves

/-- A reader may be in the middle of the data file of the key. -/
structure WriterGoesOn (store : TypedStore Value) (key : Bytes)
    (writer next : WriterState Value) : Prop where
  serves : Serves store key next
  keepsOpen : Disk.KeepsOpen (store.pathResolver.keyEntry key) writer.disk next.disk

variable [DecidableEq Value]

theorem writer_goes_on {writer next : WriterState Value} {action : WriterAction Value}
    (plain : Plain key) (serves : Serves store key writer) (single : SingleCaller writer action)
    (restorable : ∀ call ∈ action.started, call.key = key → store.codec.Lossless call.value)
    (taken : writerStep store.impl writer action = some next) :
    WriterGoesOn store key writer next := by
  have after := sequential_step serves.sequential single taken
  have goes : ∀ other, RemoveMoves store.impl writer next other →
      WriterGoesOn store key writer next := by
    intro other moves
    have clean := serves.sequential.plain other moves.under
    exact ⟨serves.remove_moves plain after moves,
      keeps_open_removal_move plain clean moves.disk⟩
  cases action with
  | saving action =>
      rcases saving_cases taken with ⟨id, call, point, rfl, owned, fresh, rfl⟩ |
        ⟨id, call, before, point, -, moves, -⟩
      · have quiet := serves.sequential.quiet_of_history single.1.2
        exact ⟨serves.begin_save after quiet rfl rfl owned (fresh _) (restorable call rfl),
          Disk.KeepsOpen.refl _ _⟩
      · have clean := (serves.sequential.alone id call moves.active).1
        have facts : PointSound store.impl writer.disk before := moves.here ▸ serves.points id
        exact ⟨serves.save_moves plain after moves,
          keeps_open_disk_move plain clean facts moves.disk⟩
  | remove other =>
      obtain ⟨-, rfl⟩ := (guarded_eq_some ..).mp taken
      by_cases ready : store.impl.ready
      · rw [if_pos ready] at after ⊢
        exact ⟨⟨after, serves.points, serves.restorable, serves.stored⟩,
          Disk.KeepsOpen.refl _ _⟩
      · rw [if_neg ready]
        exact ⟨serves, Disk.KeepsOpen.refl _ _⟩
  | removeHeld other => exact goes other (remove_moves rfl taken)
  | removeGranted other => exact goes other (remove_moves rfl taken)
  | removeRefused other created => exact goes other (remove_moves rfl taken)
  | unlinkData other ok => exact goes other (remove_moves rfl taken)
  | releaseRemove other unlinked => exact goes other (remove_moves rfl taken)

/-! ## The invariant of the reader -/

omit [DecidableEq Value] in
theorem Linearized.mono {moments later : List (Option Bytes)} {call : LoadCall Value}
    {result : Except StoreError Value} (linearized : Linearized store moments call result)
    (grows : moments ⊆ later) : Linearized store later call result := by
  cases call with
  | load =>
      cases result with
      | ok value => exact grows linearized
      | error error => exact linearized.imp_right fun absent => grows absent
  | loadOr defaultValue =>
      cases result with
      | ok value =>
          apply linearized.imp
          · intro held
            exact grows held
          · intro missing
            exact missing.imp_right fun absent => grows absent
      | error error => exact linearized

/-- The open file is one that the key held, whole, and `bytes` is what has come of it. -/
def ReaderSound (store : TypedStore Value) (key : Bytes) (disk : Disk Bytes UInt8)
    (moments : List (Option Bytes)) : LoadPoint Value → Prop
  | .reading _ inode bytes =>
      disk.ReachedOnly (store.pathResolver.keyEntry key) inode ∧
        ∃ value, store.codec.Lossless value ∧ HeldAt store moments value ∧
          (disk.files inode).content = store.codec.serialize value ∧
          bytes <+: store.codec.serialize value
  | .done call result => Linearized store moments call result
  | _ => True

omit [DecidableEq Value] in
theorem ReaderSound.writer_goes_on {disk after : Disk Bytes UInt8}
    {moments later : List (Option Bytes)} {point : LoadPoint Value}
    (sound : ReaderSound store key disk moments point)
    (keeps : Disk.KeepsOpen (store.pathResolver.keyEntry key) disk after)
    (grows : moments ⊆ later) : ReaderSound store key after later point := by
  cases point with
  | reading call inode bytes =>
      obtain ⟨reached, value, lossless, held, whole, come⟩ := sound
      obtain ⟨still, content⟩ := keeps inode reached
      exact ⟨still, value, lossless, grows held, content.trans whole, come⟩
  | done call result => exact Linearized.mono sound grows
  | idle => trivial
  | statting call => trivial
  | opening call => trivial

structure LoadSound (store : TypedStore Value) (key : Bytes) (state : LoadState Value) : Prop where
  serves : Serves store key state.writer
  reader : ReaderSound store key state.writer.disk state.moments state.reader

namespace LoadSound

variable {state next : LoadState Value}

omit [DecidableEq Value] in
/-- The stat that finds no file is the moment of a missing key. -/
theorem missing (sound : LoadSound store key state) (call : LoadCall Value)
    (absent : state.dataFile store key = none) :
    LoadSound store key (state.finish store key call (.error .kKeyNotFound)) where
  serves := sound.serves
  reader := by
    have content : state.content store key = none := by
      unfold LoadState.dataFile at absent
      rw [LoadState.content, Disk.read, absent]
      rfl
    have now : none ∈ state.moments ++ [state.content store key] := by
      rw [content]
      exact List.mem_append_right _ (List.mem_singleton.mpr rfl)
    cases call with
    | load => exact ⟨rfl, now⟩
    | loadOr defaultValue => exact Or.inr ⟨rfl, now⟩

omit [DecidableEq Value] in
/-- The open is the moment of a value. -/
theorem opened (sound : LoadSound store key state) (call : LoadCall Value) {inode : Inode}
    (named : state.dataFile store key = some inode) :
    LoadSound store key (state.goTo store key (.reading call inode [])) where
  serves := sound.serves
  reader := by
    have content : state.content store key = some (state.writer.disk.files inode).content :=
      Disk.read_of_view named
    obtain ⟨value, lossless, whole⟩ := sound.serves.stored _ content
    refine ⟨Disk.reached_only_of_view named, value, lossless, ?_, whole, List.nil_prefix⟩
    unfold HeldAt
    rw [← whole, ← content]
    exact List.mem_append_right _ (List.mem_singleton.mpr rfl)

omit [DecidableEq Value] in
/-- A file that has been read to its end gives the value. -/
theorem value_read {call : LoadCall Value} {inode : Inode} {bytes : Bytes}
    (sound : LoadSound store key state) (here : state.reader = .reading call inode bytes)
    (ended : (state.writer.disk.files inode).content.drop bytes.length = []) :
    ∃ value, store.codec.deserialize bytes = some value ∧
      LoadSound store key (state.finish store key call (.ok value)) := by
  have reader := sound.reader
  rw [here] at reader
  obtain ⟨-, value, lossless, held, whole, rest, come⟩ := reader
  rw [whole, ← come, List.drop_left] at ended
  rw [ended, List.append_nil] at come
  refine ⟨value, come ▸ lossless.restored, sound.serves, ?_⟩
  have later : HeldAt store (state.moments ++ [state.content store key]) value :=
    List.mem_append_left _ held
  cases call with
  | load => exact later
  | loadOr defaultValue => exact Or.inl later

omit [DecidableEq Value] in
theorem reads_on {call : LoadCall Value} {inode : Inode} {bytes : Bytes}
    (sound : LoadSound store key state) (here : state.reader = .reading call inode bytes)
    (count : Nat) :
    LoadSound store key (state.goTo store key (.reading call inode
      (bytes ++ ((state.writer.disk.files inode).content.drop bytes.length).take count))) where
  serves := sound.serves
  reader := by
    have reader := sound.reader
    rw [here] at reader
    obtain ⟨reached, value, lossless, held, whole, rest, come⟩ := reader
    refine ⟨reached, value, lossless, List.mem_append_left _ held, whole, ?_⟩
    rw [whole, ← come, List.drop_left]
    exact (List.prefix_append_right_inj bytes).mpr (List.take_prefix count rest)

end LoadSound

theorem load_sound_step {state next : LoadState Value} {action : LoadAction Value}
    (plain : Plain key) (sound : LoadSound store key state)
    (serves : WriterServes store key state action) (stays : FileStays store key state action)
    (taken : loadStep store key state action = some next) : LoadSound store key next := by
  cases action with
  | writer action =>
      obtain ⟨writer, stepped, rfl⟩ := Option.map_eq_some_iff.mp taken
      have goes := writer_goes_on plain sound.serves serves.1 serves.2 stepped
      split
      · exact ⟨goes.serves, sound.reader.writer_goes_on goes.keepsOpen fun _ => id⟩
      · exact ⟨goes.serves, sound.reader.writer_goes_on goes.keepsOpen fun _ => id⟩
      · exact ⟨goes.serves, sound.reader.writer_goes_on goes.keepsOpen
          (List.subset_append_left _ _)⟩
  | load call =>
      simp only [loadStep] at taken
      split at taken
      · have ready : store.ready = true := stays
        rw [if_pos ready] at taken
        cases taken
        exact ⟨sound.serves, trivial⟩
      · cases taken
  | statData =>
      simp only [loadStep] at taken
      split at taken
      · rename_i call here
        split at taken
        · rename_i absent
          cases taken
          exact sound.missing call absent
        · cases taken
          exact ⟨sound.serves, trivial⟩
      · cases taken
  | openData =>
      simp only [loadStep] at taken
      split at taken
      · rename_i call here
        split at taken
        · rename_i absent
          exact absurd absent stays
        · rename_i inode named
          cases taken
          exact sound.opened call named
      · cases taken
  | readData count =>
      simp only [loadStep] at taken
      split at taken
      · rename_i call inode bytes here
        split at taken
        · rename_i ended
          obtain ⟨value, read, after⟩ := sound.value_read here ended
          rw [read] at taken
          cases taken
          exact after
        · obtain ⟨-, rfl⟩ := (guarded_eq_some ..).mp taken
          exact sound.reads_on here count
      · cases taken

/-- Any other step gives the caller an error that no moment explains. -/
theorem unlinearized_of_lost {state next : LoadState Value} {action : LoadAction Value}
    (lost : ¬FileStays store key state action)
    (taken : loadStep store key state action = some next) : ¬LoadsLinearized store next := by
  intro linearized
  cases action with
  | load call =>
      simp only [loadStep] at taken
      split at taken
      · have unready : ¬store.ready = true := lost
        rw [if_neg unready] at taken
        cases taken
        have answer := linearized call _ rfl
        cases call with
        | load => exact absurd answer.1 nofun
        | loadOr defaultValue => exact answer
      · cases taken
  | openData =>
      have absent : state.dataFile store key = none := not_not.mp lost
      simp only [loadStep, absent] at taken
      split at taken
      · rename_i call here
        cases taken
        have answer := linearized call _ rfl
        cases call with
        | load => exact absurd answer.1 nofun
        | loadOr defaultValue => exact answer
      · cases taken
  | writer action => exact lost trivial
  | statData => exact lost trivial
  | readData count => exact lost trivial

/-- Over every interleaving with a writer, a load answers as at one moment of the
call exactly where no removal comes between its stat and its open. -/
theorem loads_linearized_iff (store : TypedStore Value) (key : Bytes) (plain : Plain key)
    (disk : Disk Bytes UInt8)
    (stored : ∀ content, disk.read (store.pathResolver.keyEntry key) = some content →
      WholeValue store content)
    (actions : List (LoadAction Value)) (state : LoadState Value)
    (serves : Along (loadStep store key) (WriterServes store key) (initialLoad disk) actions)
    (completed : run (loadStep store key) (initialLoad disk) actions = some state) :
    Always (loadStep store key) (LoadsLinearized store) (initialLoad disk) actions ↔
      Along (loadStep store key) (FileStays store key) (initialLoad disk) actions := by
  have kept : ∀ before action next, LoadSound store key before →
      WriterServes store key before action → FileStays store key before action →
      loadStep store key before action = some next → LoadSound store key next :=
    fun _ _ _ sound serves stays taken => load_sound_step plain sound serves stays taken
  have enough : ∀ before, LoadSound store key before → LoadsLinearized store before := by
    intro before sound call result done
    have reader := sound.reader
    rw [done] at reader
    exact reader
  have broken : ∀ before action next, LoadSound store key before →
      ¬FileStays store key before action → loadStep store key before action = some next →
      ¬LoadsLinearized store next :=
    fun _ _ _ _ lost taken => unlinearized_of_lost lost taken
  have start : LoadSound store key (initialLoad disk) := ⟨Serves.initially stored, trivial⟩
  exact always_iff_along_of kept enough broken start serves completed

/-- A ready store of strings. -/
def TypedStore.ofStrings : TypedStore Bytes := ⟨.ofRoot, .string, true⟩

/-- A whole save by the writer. -/
def writerSaves (call : SaveCall Bytes) : List (LoadAction Bytes) :=
  (renamedSave call ++ publishedSave call).map fun action => .writer (.saving action)

def writerRemoves (key : Bytes) : List (LoadAction Bytes) := (removeAlone key).map .writer

theorem saved_value_loaded :
    Always (loadStep .ofStrings [107]) (LoadsLinearized .ofStrings) (initialLoad .empty)
      (writerSaves ⟨[107], [1, 2]⟩ ++
        [.load .load, .statData, .openData, .readData 1, .readData 8191, .readData 8191]) := by
  have empty : ∀ content, (Disk.empty : Disk Bytes UInt8).read
      (TypedStore.ofStrings.pathResolver.keyEntry [107]) = some content →
        WholeValue TypedStore.ofStrings content := by
    intro content held
    cases held
  exact (loads_linearized_iff .ofStrings [107] (by decide) .empty empty _ _ (by decide) rfl).mpr
    (by decide)

/-- The removal comes between the stat and the open of a `loadOr`. -/
def lostBetween : List (LoadAction Bytes) :=
  writerSaves ⟨[107], [1, 2]⟩ ++ [.load (.loadOr [3]), .statData] ++ writerRemoves [107] ++
    [.openData]

theorem default_not_returned :
    ∃ state, Along (loadStep .ofStrings [107]) (WriterServes .ofStrings [107])
        (initialLoad .empty) lostBetween ∧
      run (loadStep .ofStrings [107]) (initialLoad .empty) lostBetween = some state ∧
      ¬LoadsLinearized .ofStrings state := by
  refine ⟨_, by decide, rfl, ?_⟩
  intro linearized
  exact linearized _ _ rfl

end TboxFramework.Store
