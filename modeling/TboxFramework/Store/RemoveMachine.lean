import TboxFramework.Store.SaveSteps

/-!
# Saves and removals by one writer

`Store::remove` system call by system call, beside the saves of the same `Store`.
It shares the lock with them and reaches the data file by an unlink of its own.
-/

namespace TboxFramework.Store

open Interleaving DurableDirectory

set_option autoImplicit false

/-- The program points of one `remove`. -/
inductive RemovePoint
  | idle
  | acquiring (key : Bytes)
  | unlinking (key : Bytes)
  | releasing (key : Bytes)
  deriving DecidableEq, Repr

/-- The key of the `remove` that is under way. -/
def RemovePoint.active : RemovePoint → Option Bytes
  | .idle => none
  | .acquiring key | .unlinking key | .releasing key => some key

structure WriterState (Value : Type) where
  saves : State Value
  removal : RemovePoint
  /-- The keys whose `remove` has returned normally, with no `save` started since. -/
  removed : Bytes → Bool

inductive WriterAction (Value : Type)
  /-- One step of a `save`. -/
  | saving (action : Action Value)
  | remove (key : Bytes)
  | removeHeld (key : Bytes)
  | removeGranted (key : Bytes)
  | removeRefused (key : Bytes) (created : Bool)
  | unlinkData (key : Bytes) (ok : Bool)
  | releaseRemove (key : Bytes) (unlinked : Bool)
  deriving DecidableEq, Repr

variable {Value : Type}

/-- No call is under way; `removed` are the removals before a restart. -/
def initialWriter (disk : Disk Bytes UInt8) (removed : Bytes → Bool) : WriterState Value where
  saves := initial disk
  removal := .idle
  removed := removed

namespace WriterState

def disk (state : WriterState Value) : Disk Bytes UInt8 := state.saves.disk

def goTo (state : WriterState Value) (point : RemovePoint) : WriterState Value :=
  { state with removal := point }

def onDisk (state : WriterState Value) (disk : Disk Bytes UInt8) : WriterState Value :=
  { state with saves := state.saves.onDisk disk }

def setLock (state : WriterState Value) (key : Bytes) (held : Bool) : WriterState Value :=
  { state with saves := state.saves.setLock key held }

def markRemoved (state : WriterState Value) (key : Bytes) : WriterState Value :=
  { state with removed := Function.update state.removed key true }

/-- A started `save` may bring its key back. -/
def afterSaving (state : WriterState Value) (action : Action Value) (saves : State Value) :
    WriterState Value where
  saves := saves
  removal := state.removal
  removed := action.started.elim state.removed fun key => Function.update state.removed key false

end WriterState

section Machine

variable [DecidableEq Value]

def writerStep (store : StoreImpl Value) (state : WriterState Value) :
    WriterAction Value → Option (WriterState Value)
  | .saving action => (step store state.saves action).map (state.afterSaving action)
  | .remove key =>
      guarded (state.removal = .idle)
        (if store.ready then state.goTo (.acquiring key) else state)
  | .removeHeld key =>
      guarded (state.removal = .acquiring key ∧ state.saves.lockFds key)
        (state.goTo (.unlinking key))
  | .removeGranted key =>
      guarded (state.removal = .acquiring key ∧ ¬state.saves.lockFds key)
        (((state.onDisk (state.disk.openCreate (store.pathResolver.lockEntry key))).setLock key
          true).goTo (.unlinking key))
  | .removeRefused key created =>
      guarded (state.removal = .acquiring key ∧ ¬state.saves.lockFds key)
        ((state.onDisk (if created then
          state.disk.openCreate (store.pathResolver.lockEntry key) else state.disk)).goTo .idle)
  | .unlinkData key ok =>
      -- what `AtomicWriter::remove` answers is not looked at, and no sync follows
      guarded (state.removal = .unlinking key)
        ((state.onDisk (removeEntry state.disk (store.pathResolver.keyEntry key) ok)).goTo
          (.releasing key))
  | .releaseRemove key unlinked =>
      guarded (state.removal = .releasing key)
        (((if state.saves.lockFds key then
          (state.onDisk (removeEntry state.disk (store.pathResolver.lockEntry key)
            unlinked)).setLock key false
          else state).markRemoved key).goTo .idle)

/-- A single writer: a call starts only after all earlier ones have ended. -/
def SingleCaller (state : WriterState Value) : WriterAction Value → Prop
  | .saving action =>
      SingleWriter state.saves action ∧ (action.started ≠ none → state.removal = .idle)
  | .remove key =>
      Plain key ∧ ∀ record ∈ state.saves.history, (state.saves.calls record.id).active = none
  | _ => True

instance (state : WriterState Value) (action : WriterAction Value) :
    Decidable (SingleCaller state action) := by
  unfold SingleCaller
  split <;> infer_instance

end Machine

/-- A removal of a key with every system call granted. -/
def removeAlone (key : Bytes) : List (WriterAction Bytes) :=
  [.remove key, .removeGranted key, .unlinkData key true, .releaseRemove key true]

/-! ## What one step of a removal does -/

/-- The key whose `remove` an action continues. -/
def WriterAction.continued : WriterAction Value → Option Bytes
  | .saving _ | .remove _ => none
  | .removeHeld key | .removeGranted key | .removeRefused key _ | .unlinkData key _
  | .releaseRemove key _ => some key

/-- What one system call of a `remove` does to the disk. -/
inductive RemovalMove (resolver : PathResolver) (key : Bytes) (disk : Disk Bytes UInt8) :
    Disk Bytes UInt8 → Prop
  | still : RemovalMove resolver key disk disk
  | openLock : RemovalMove resolver key disk (disk.openCreate (resolver.lockEntry key))
  | unlinkData (ok : Bool) :
      RemovalMove resolver key disk (removeEntry disk (resolver.keyEntry key) ok)
  | removeLock (ok : Bool) :
      RemovalMove resolver key disk (removeEntry disk (resolver.lockEntry key) ok)

/-- The `remove` under way goes on and moves no save. -/
structure RemoveMoves (store : StoreImpl Value) (state next : WriterState Value) (key : Bytes) :
    Prop where
  under : state.removal.active = some key
  calls : next.saves.calls = state.saves.calls
  stays : ∀ other, next.removal.active = some other → other = key
  disk : RemovalMove store.pathResolver key state.disk next.disk

/-! ## One call at a time -/

/-- A call under way is the only one, and the key of a `save` counts as saved. -/
structure Sequential (state : WriterState Value) : Prop where
  listed : ∀ id call, (state.saves.calls id).active = some call →
    ⟨id, call⟩ ∈ state.saves.history
  alone : ∀ id call, (state.saves.calls id).active = some call →
    Plain call.key ∧ state.removal = .idle ∧ state.removed call.key = false
  sole : ∀ id other call second, (state.saves.calls id).active = some call →
    (state.saves.calls other).active = some second → id = other
  plain : ∀ key, state.removal.active = some key → Plain key

/-- No `save` is under way. -/
def WriterState.Quiet (state : WriterState Value) : Prop :=
  ∀ id, (state.saves.calls id).active = none

variable {store : StoreImpl Value} {state next : WriterState Value}

namespace Sequential

theorem initially (disk : Disk Bytes UInt8) (removed : Bytes → Bool) :
    Sequential (initialWriter disk removed : WriterState Value) where
  listed := nofun
  alone := nofun
  sole := nofun
  plain := nofun

/-- No save is under way beside a `remove`. -/
theorem quiet_of_removal (sequential : Sequential state) {key : Bytes}
    (removing : state.removal.active = some key) : state.Quiet := by
  intro id
  cases under : (state.saves.calls id).active with
  | none => rfl
  | some call =>
      have idle := (sequential.alone id call under).2.1
      rw [idle] at removing
      cases removing

theorem quiet_of_history (sequential : Sequential state)
    (ended : ∀ record ∈ state.saves.history, (state.saves.calls record.id).active = none) :
    state.Quiet := by
  intro id
  cases under : (state.saves.calls id).active with
  | none => rfl
  | some call =>
      have none := ended ⟨id, call⟩ (sequential.listed id call under)
      rw [under] at none
      cases none

/-- A step of a `remove`, while no save is under way. -/
theorem of_quiet (quiet : state.Quiet) (calls : next.saves.calls = state.saves.calls)
    (plain : ∀ key, next.removal.active = some key → Plain key) : Sequential next where
  listed := by
    intro id call under
    rw [calls, quiet id] at under
    cases under
  alone := by
    intro id call under
    rw [calls, quiet id] at under
    cases under
  sole := by
    intro id other call second under
    rw [calls, quiet id] at under
    cases under
  plain := plain

theorem begin_save (quiet : state.Quiet) {id : Nat} {call : SaveCall Value}
    {point : SavePoint Value} (clean : Plain call.key) (idle : next.removal = .idle)
    (history : next.saves.history = state.saves.history ++ [⟨id, call⟩])
    (calls : next.saves.calls = Function.update state.saves.calls id point)
    (owned : point.owner = some call) (saved : next.removed call.key = false) :
    Sequential next := by
  have only : ∀ other second, (next.saves.calls other).active = some second →
      other = id ∧ second = call := by
    intro other second under
    by_cases mover : other = id
    · rw [calls, mover, Function.update_self] at under
      exact ⟨mover, Option.some.inj ((owner_of_active under).symm.trans owned)⟩
    · rw [calls, Function.update_of_ne mover, quiet other] at under
      cases under
  constructor
  · intro other second under
    obtain ⟨rfl, rfl⟩ := only other second under
    rw [history]
    exact List.mem_append_right _ (List.mem_singleton.mpr rfl)
  · intro other second under
    obtain ⟨-, rfl⟩ := only other second under
    exact ⟨clean, idle, saved⟩
  · intro first other second third left right
    rw [(only first second left).1, (only other third right).1]
  · intro key removing
    rw [idle] at removing
    cases removing

/-- A system call of the save under way. -/
theorem save_moves (sequential : Sequential state) {id : Nat} {call : SaveCall Value}
    {before point : SavePoint Value}
    (moves : CallMoves store state.saves next.saves id call before point)
    (removal : next.removal = state.removal) (removed : next.removed = state.removed) :
    Sequential next := by
  have before : ∀ other second, (next.saves.calls other).active = some second →
      (state.saves.calls other).active = some second := by
    intro other second under
    by_cases mover : other = id
    · rw [mover, moves.self] at under
      have same := (owner_of_active under).symm.trans moves.owned
      rw [mover, Option.some.inj same]
      exact moves.active
    · rwa [moves.of_ne mover] at under
  constructor
  · intro other second under
    rw [moves.history]
    exact sequential.listed other second (before other second under)
  · intro other second under
    rw [removal, removed]
    exact sequential.alone other second (before other second under)
  · intro first other second third left right
    exact sequential.sole first other second third (before first second left)
      (before other third right)
  · rw [removal]
    exact sequential.plain

/-- A step of the `remove` under way. -/
theorem remove_moves (sequential : Sequential state) {key : Bytes}
    (moves : RemoveMoves store state next key) : Sequential next := by
  apply Sequential.of_quiet (sequential.quiet_of_removal moves.under) moves.calls
  intro other removing
  rw [moves.stays other removing]
  exact sequential.plain key moves.under

end Sequential

variable [DecidableEq Value]

theorem remove_moves {action : WriterAction Value} {key : Bytes}
    (continued : action.continued = some key)
    (taken : writerStep store state action = some next) :
    RemoveMoves store state next key := by
  cases action with
  | saving => cases continued
  | remove => cases continued
  | removeHeld other =>
      obtain ⟨⟨here, -⟩, rfl⟩ := (guarded_eq_some ..).mp taken
      cases continued
      exact ⟨by rw [here]; rfl, rfl, fun _ same => (Option.some.inj same).symm, .still⟩
  | removeGranted other =>
      obtain ⟨⟨here, -⟩, rfl⟩ := (guarded_eq_some ..).mp taken
      cases continued
      exact ⟨by rw [here]; rfl, rfl, fun _ same => (Option.some.inj same).symm, .openLock⟩
  | removeRefused other created =>
      obtain ⟨⟨here, -⟩, rfl⟩ := (guarded_eq_some ..).mp taken
      cases continued
      refine ⟨by rw [here]; rfl, rfl, nofun, ?_⟩
      cases created with
      | false => exact .still
      | true => exact .openLock
  | unlinkData other ok =>
      obtain ⟨here, rfl⟩ := (guarded_eq_some ..).mp taken
      cases continued
      exact ⟨by rw [here]; rfl, rfl, fun _ same => (Option.some.inj same).symm, .unlinkData ok⟩
  | releaseRemove other unlinked =>
      obtain ⟨here, rfl⟩ := (guarded_eq_some ..).mp taken
      cases continued
      split
      · exact ⟨by rw [here]; rfl, rfl, nofun, .removeLock unlinked⟩
      · exact ⟨by rw [here]; rfl, rfl, nofun, .still⟩

/-- The two kinds of steps of the saves. -/
theorem saving_cases {action : Action Value}
    (taken : writerStep store state (.saving action) = some next) :
    (∃ id call point, action = .save id call ∧ point.owner = some call ∧
      (∀ disk, PointSound store disk point) ∧ next = { state with
        saves := (state.saves.start id call).move id point
        removed := Function.update state.removed call.key false }) ∨
    (∃ id call before point, action.started = none ∧
      CallMoves store state.saves next.saves id call before point ∧
      next.removal = state.removal ∧ next.removed = state.removed) := by
  obtain ⟨saves, stepped, rfl⟩ := Option.map_eq_some_iff.mp taken
  cases started : action.started with
  | none =>
      obtain ⟨id, call, before, point, moves⟩ := step_moves started stepped
      refine Or.inr ⟨id, call, before, point, rfl, moves, rfl, ?_⟩
      simp [WriterState.afterSaving, started]
  | some key =>
      cases action with
      | save id call =>
          obtain ⟨-, rfl⟩ := (guarded_eq_some ..).mp stepped
          obtain ⟨owned, fresh, -⟩ := begun_facts store call
          exact Or.inl ⟨id, call, _, rfl, owned, fresh, rfl⟩
      | _ => cases started

theorem sequential_step {action : WriterAction Value} (sequential : Sequential state)
    (single : SingleCaller state action) (taken : writerStep store state action = some next) :
    Sequential next := by
  cases action with
  | saving action =>
      rcases saving_cases taken with ⟨id, call, point, rfl, owned, -, rfl⟩ |
        ⟨id, call, before, point, -, moves, removal, removed⟩
      · obtain ⟨⟨clean, ended⟩, idle⟩ := single
        exact Sequential.begin_save (sequential.quiet_of_history ended) clean (idle nofun) rfl rfl
          owned (Function.update_self ..)
      · exact sequential.save_moves moves removal removed
  | remove key =>
      obtain ⟨idle, rfl⟩ := (guarded_eq_some ..).mp taken
      have quiet := sequential.quiet_of_history single.2
      split
      · apply Sequential.of_quiet quiet
        · rfl
        · intro other removing
          cases removing
          exact single.1
      · exact sequential
  | removeHeld key => exact sequential.remove_moves (remove_moves rfl taken)
  | removeGranted key => exact sequential.remove_moves (remove_moves rfl taken)
  | removeRefused key created => exact sequential.remove_moves (remove_moves rfl taken)
  | unlinkData key ok => exact sequential.remove_moves (remove_moves rfl taken)
  | releaseRemove key unlinked => exact sequential.remove_moves (remove_moves rfl taken)

end TboxFramework.Store
