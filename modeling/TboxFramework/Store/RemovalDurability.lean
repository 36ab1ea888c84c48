import TboxFramework.Library.DurableRemoval
import TboxFramework.Store.PowerLoss
import TboxFramework.Store.RemoveMachine
import TboxFramework.Store.StoreCalls

/-!
# Removals and power loss

A `remove` that returns normally leaves its unlink pending, or has not unlinked
at all. Its key stays away for certain only where neither the directory nor a
recovery had a file for it to remove.
-/

namespace TboxFramework.Store

open Interleaving DurableDirectory

set_option autoImplicit false

/-- A stat of the data file of the key succeeds over these entries. -/
def PathResolver.Finds (resolver : PathResolver) (entries : Bytes → Option Inode)
    (key : Bytes) : Prop := entries (resolver.keyEntry key) ≠ none

instance (resolver : PathResolver) (entries : Bytes → Option Inode) (key : Bytes) :
    Decidable (resolver.Finds entries key) := inferInstanceAs (Decidable (_ ≠ _))

section Lookups

variable {Value : Type} {store : TypedStore Value}

/-- `has` answers true only over such entries. -/
theorem finds_of_has {ok : Bool} {state : StoreState Bytes} {key : Bytes}
    (found : (store.has store.pathResolver.entry ok state key).1 = true) :
    store.pathResolver.Finds state.kernel.disk.view key := by
  unfold TypedStore.has at found
  split at found
  · have answers : ok = true ∧ store.pathResolver.Finds state.kernel.disk.view key := by
      simpa [AtomicWriter.isPresent, PathResolver.Finds, PathResolver.keyEntry] using found
    exact answers.2
  · cases found

/-- `load` returns a value only over such entries. -/
theorem finds_of_load {answers : LoadAnswers} {state : StoreState Bytes} {key : Bytes}
    {value : Value}
    (loaded : (store.load store.pathResolver.entry answers state key).1 = .ok value) :
    store.pathResolver.Finds state.kernel.disk.view key := by
  intro missing
  have absent : state.kernel.disk.view
      (store.pathResolver.entry (store.pathResolver.getKeyPath key)) = none := missing
  unfold TypedStore.load at loaded
  split at loaded
  · simp [AtomicWriter.isPresent, absent] at loaded
  · cases loaded

end Lookups

variable {Value : Type}

/-- Nothing is found under a removed key, neither now nor after a power loss. -/
def RemovalsFinal (store : StoreImpl Value) (state : WriterState Value) : Prop :=
  ∀ key, Plain key → state.removed key →
    ¬store.pathResolver.Finds state.disk.view key ∧
      ∀ recovered, state.disk.SurvivesAs recovered →
        ¬store.pathResolver.Finds recovered.entries key

/-- `has` says no to a removed key and `load` returns no value for it, over the entries of now
and over those after a power loss. -/
def LookupsEmpty (typed : TypedStore Value) (state : WriterState Value) : Prop :=
  ∀ key, Plain key → state.removed key → ∀ looked : StoreState Bytes,
    (looked.kernel.disk.view = state.disk.view ∨ ∃ recovered, state.disk.SurvivesAs recovered ∧
      looked.kernel.disk.view = recovered.entries) →
    (∀ ok, (typed.has typed.pathResolver.entry ok looked key).1 = false) ∧
      ∀ answers value,
        (typed.load typed.pathResolver.entry answers looked key).1 ≠ .ok value

/-- No file of the key can be found any more. -/
def NoFile (store : StoreImpl Value) (disk : Disk Bytes UInt8) (key : Bytes) : Prop :=
  disk.Gone (store.pathResolver.keyEntry key)

/-- A `remove` comes to its unlink only where there is nothing left to remove. -/
def RemovesNothing (store : StoreImpl Value) (state : WriterState Value) :
    WriterAction Value → Prop
  | .unlinkData key _ => NoFile store state.disk key
  | _ => True

variable {store : StoreImpl Value}

theorem no_file_iff {disk : Disk Bytes UInt8} {key : Bytes} :
    NoFile store disk key ↔ ¬store.pathResolver.Finds disk.view key ∧
      ∀ recovered, disk.SurvivesAs recovered →
        ¬store.pathResolver.Finds recovered.entries key := by
  unfold PathResolver.Finds
  constructor
  · intro gone
    refine ⟨fun found => found gone.view, ?_⟩
    intro recovered survives found
    exact found (gone.recovered survives)
  · rintro ⟨-, later⟩
    apply Disk.gone_iff.mpr
    intro recovered survives
    exact not_not.mp (later recovered survives)

theorem removals_final_iff {state : WriterState Value} :
    RemovalsFinal store state ↔
      ∀ key, Plain key → state.removed key → NoFile store state.disk key := by
  apply forall_congr'
  intro key
  apply forall_congr'
  intro _
  apply forall_congr'
  intro _
  exact no_file_iff.symm

/-! ## What keeps a key without a file -/

theorem NoFile.remove_entry {disk : Disk Bytes UInt8} {key : Bytes}
    (gone : NoFile store disk key) (name : Bytes) (ok : Bool) :
    NoFile store (removeEntry disk name ok) key := by
  unfold removeEntry
  split
  · exact gone.unlink name
  · exact gone

/-- An unlink alone does not take a file away for certain. -/
theorem no_file_of_remove_entry {disk : Disk Bytes UInt8} {key name : Bytes} {ok : Bool}
    (after : NoFile store (removeEntry disk name ok) key) : NoFile store disk key := by
  unfold removeEntry at after
  split at after
  · exact (Disk.gone_unlink_iff name).mp after
  · exact after

theorem NoFile.open_lock {disk : Disk Bytes UInt8} {key other : Bytes}
    (gone : NoFile store disk key) (plain : Plain key) (clean : Plain other) :
    NoFile store (disk.openCreate (store.pathResolver.lockEntry other)) key :=
  gone.open_create (key_entry_ne_lock store.pathResolver plain.1 clean.1)

/-- No `remove` brings a file back. -/
theorem NoFile.removal_move {disk after : Disk Bytes UInt8} {key other : Bytes}
    (gone : NoFile store disk key) (plain : Plain key) (clean : Plain other)
    (moved : RemovalMove store.pathResolver other disk after) : NoFile store after key := by
  cases moved with
  | still => exact gone
  | openLock => exact gone.open_lock plain clean
  | unlinkData ok => exact gone.remove_entry _ ok
  | removeLock ok => exact gone.remove_entry _ ok

/-- A save of another key brings no file of this key back. -/
theorem NoFile.disk_move {call : SaveCall Value} {disk after : Disk Bytes UInt8} {key : Bytes}
    {before : SavePoint Value} (gone : NoFile store disk key) (plain : Plain key)
    (clean : Plain call.key) (other : key ≠ call.key)
    (moved : DiskMove store call disk before after) :
    NoFile store after key := by
  have notTemp : store.pathResolver.keyEntry key ≠ store.tmpEntry call :=
    key_entry_ne_temp store.pathResolver plain.1 clean.1
  cases moved with
  | still => exact gone
  | openLock => exact gone.open_lock plain clean
  | openTemp => exact gone.open_truncate notTemp
  | write inode bytes => exact gone.write inode bytes
  | fsync _ inode => exact gone.fsync inode
  | rename renamed =>
      obtain ⟨inode, named, rfl⟩ := (Disk.rename_eq_some (tmp_ne_dat store clean)).mp renamed
      apply gone.rename_named named
      intro same
      exact other (key_entry_inj store.pathResolver plain.1 clean.1 same)
  | removeTemp _ ok => exact gone.remove_entry _ ok
  | removeLock _ ok => exact gone.remove_entry _ ok
  | syncDirectory => exact gone.sync_directory

variable [DecidableEq Value] {state next : WriterState Value}

/-! ## The invariant of the removals -/

structure Removals (store : StoreImpl Value) (state : WriterState Value) : Prop where
  sequential : Sequential state
  final : ∀ key, Plain key → state.removed key → NoFile store state.disk key
  unlinked : ∀ key, state.removal = .releasing key → NoFile store state.disk key

omit [DecidableEq Value] in
/-- A save that goes on has no removed key. -/
theorem Removals.save_moves (removals : Removals store state) (after : Sequential next)
    {id : Nat} {call : SaveCall Value} {before point : SavePoint Value}
    (moves : CallMoves store state.saves next.saves id call before point)
    (removal : next.removal = state.removal) (removed : next.removed = state.removed) :
    Removals store next where
  sequential := after
  final := by
    intro key plain gone
    rw [removed] at gone
    obtain ⟨clean, -, saved⟩ := removals.sequential.alone id call moves.active
    have other : key ≠ call.key := by
      rintro rfl
      rw [saved] at gone
      cases gone
    exact (removals.final key plain gone).disk_move plain clean other moves.disk
  unlinked := by
    intro key releasing
    obtain ⟨-, idle, -⟩ := removals.sequential.alone id call moves.active
    rw [removal, idle] at releasing
    cases releasing

omit [DecidableEq Value] in
/-- A step of a `remove` that does not end it. -/
theorem Removals.remove_moves (removals : Removals store state) (after : Sequential next)
    {key : Bytes} (moves : RemoveMoves store state next key)
    (removed : next.removed = state.removed)
    (unlinked : ∀ other, next.removal = .releasing other → NoFile store next.disk other) :
    Removals store next where
  sequential := after
  final := by
    intro other plain gone
    rw [removed] at gone
    have clean := removals.sequential.plain key moves.under
    exact (removals.final other plain gone).removal_move plain clean moves.disk
  unlinked := unlinked

theorem removals_step {action : WriterAction Value} (removals : Removals store state)
    (single : SingleCaller state action) (nothing : RemovesNothing store state action)
    (taken : writerStep store state action = some next) : Removals store next := by
  have after := sequential_step removals.sequential single taken
  cases action with
  | saving action =>
      rcases saving_cases taken with ⟨id, call, point, rfl, owned, -, rfl⟩ |
        ⟨id, call, before, point, -, moves, removal, removed⟩
      · refine ⟨after, ?_, removals.unlinked⟩
        intro key plain gone
        change Function.update state.removed call.key false key = true at gone
        by_cases same : key = call.key
        · rw [same, Function.update_self] at gone
          cases gone
        · rw [Function.update_of_ne same] at gone
          exact removals.final key plain gone
      · exact removals.save_moves after moves removal removed
  | remove key =>
      obtain ⟨idle, rfl⟩ := (guarded_eq_some ..).mp taken
      by_cases ready : store.ready
      · rw [if_pos ready] at after ⊢
        exact ⟨after, removals.final, nofun⟩
      · rw [if_neg ready]
        exact removals
  | removeHeld key =>
      have moves := remove_moves rfl taken
      obtain ⟨-, rfl⟩ := (guarded_eq_some ..).mp taken
      exact removals.remove_moves after moves rfl nofun
  | removeGranted key =>
      have moves := remove_moves rfl taken
      obtain ⟨-, rfl⟩ := (guarded_eq_some ..).mp taken
      exact removals.remove_moves after moves rfl nofun
  | removeRefused key created =>
      have moves := remove_moves rfl taken
      obtain ⟨-, rfl⟩ := (guarded_eq_some ..).mp taken
      exact removals.remove_moves after moves rfl nofun
  | unlinkData key ok =>
      have moves := remove_moves rfl taken
      obtain ⟨-, rfl⟩ := (guarded_eq_some ..).mp taken
      apply removals.remove_moves after moves rfl
      intro other releasing
      cases releasing
      exact nothing.remove_entry _ ok
  | releaseRemove key unlinked =>
      obtain ⟨here, rfl⟩ := (guarded_eq_some ..).mp taken
      refine ⟨after, ?_, nofun⟩
      have before : ∀ other, Plain other → Function.update state.removed key true other →
          NoFile store state.disk other := by
        intro other plain gone
        by_cases same : other = key
        · rw [same]
          exact removals.unlinked key here
        · rw [Function.update_of_ne same] at gone
          exact removals.final other plain gone
      intro other plain gone
      split at gone
      · rename_i held
        rw [if_pos held]
        exact (before other plain gone).remove_entry _ unlinked
      · rename_i free
        rw [if_neg free]
        exact before other plain gone

/-! ## Runs -/

/-- Nothing but its release follows the unlink of a `remove`, and the release
syncs no directory either. -/
theorem release_follows {action : WriterAction Value} {key : Bytes} (sequential : Sequential state)
    (releasing : state.removal = .releasing key) (single : SingleCaller state action)
    (taken : writerStep store state action = some next) :
    next.removed key = true ∧ (NoFile store next.disk key → NoFile store state.disk key) := by
  cases action with
  | saving action =>
      rcases saving_cases taken with
        ⟨id, call, point, rfl, -⟩ | ⟨id, call, before, point, -, moves, -⟩
      · have idle := single.2 nofun
        rw [releasing] at idle
        cases idle
      · obtain ⟨-, idle, -⟩ := sequential.alone id call moves.active
        rw [releasing] at idle
        cases idle
  | remove other | unlinkData other ok =>
      have here := ((guarded_eq_some ..).mp taken).1
      rw [releasing] at here
      cases here
  | removeHeld other | removeGranted other | removeRefused other created =>
      have here := ((guarded_eq_some ..).mp taken).1.1
      rw [releasing] at here
      cases here
  | releaseRemove other unlinked =>
      obtain ⟨here, rfl⟩ := (guarded_eq_some ..).mp taken
      rw [releasing] at here
      cases here
      split
      · exact ⟨Function.update_self .., no_file_of_remove_entry⟩
      · exact ⟨Function.update_self .., id⟩

/-- A run without a `remove` under way at its end has shown the outcome of each. -/
theorem removes_nothing_of_final {last : WriterState Value} {actions : List (WriterAction Value)}
    (sequential : Sequential state)
    (single : Along (writerStep store) SingleCaller state actions)
    (completed : run (writerStep store) state actions = some last) (ended : last.removal = .idle)
    (always : Always (writerStep store) (RemovalsFinal store) state actions) :
    Along (writerStep store) (RemovesNothing store) state actions := by
  induction actions generalizing state with
  | nil => trivial
  | cons action rest ih =>
      obtain ⟨next, taken, remaining⟩ := run_cons_eq_some.mp completed
      have after := sequential_step sequential single.1 taken
      have visited := always.2 next taken
      have later := single.2 next taken
      refine ⟨?_, ?_⟩
      · cases action with
        | unlinkData key ok =>
            obtain ⟨here, rfl⟩ := (guarded_eq_some ..).mp taken
            have clean := sequential.plain key (by rw [here]; rfl)
            cases rest with
            | nil =>
                cases remaining
                cases ended
            | cons second rest =>
                obtain ⟨returned, stepped, -⟩ := run_cons_eq_some.mp remaining
                obtain ⟨marked, back⟩ := release_follows after rfl later.1 stepped
                have final : RemovalsFinal store returned := by
                  have seen := visited.2 returned stepped
                  cases rest with
                  | nil => exact seen
                  | cons _ _ => exact seen.1
                have gone := removals_final_iff.mp final key clean marked
                exact no_file_of_remove_entry (back gone)
        | _ => trivial
      · intro other same
        rw [Option.mem_def, taken, Option.some.injEq] at same
        exact same ▸ ih after later remaining visited

/-- What follows from final removals holds all along a run of one writer in which each
`remove` finds nothing to remove. -/
theorem always_of_removals {property : WriterState Value → Prop}
    (enough : ∀ visited, RemovalsFinal store visited → property visited)
    {disk : Disk Bytes UInt8} {removed : Bytes → Bool}
    (earlier : ∀ key, Plain key → removed key → NoFile store disk key)
    {actions : List (WriterAction Value)}
    (single : Along (writerStep store) SingleCaller (initialWriter disk removed) actions)
    (nothing : Along (writerStep store) (RemovesNothing store) (initialWriter disk removed)
      actions) : Always (writerStep store) property (initialWriter disk removed) actions := by
  have fresh : Sequential (initialWriter disk removed : WriterState Value) :=
    Sequential.initially disk removed
  have kept : ∀ before action next, Removals store before →
      SingleCaller before action ∧ RemovesNothing store before action →
      writerStep store before action = some next → Removals store next := by
    intro before action next holds both taken
    exact removals_step holds both.1 both.2 taken
  have final : ∀ visited, Removals store visited → property visited := by
    intro visited holds
    exact enough visited (removals_final_iff.mpr holds.final)
  exact always_of_invariant kept final ⟨fresh, earlier, nofun⟩ (along_and single nothing)

omit [DecidableEq Value] in
/-- Over entries without a final removal's key `has` and `load` find nothing. -/
theorem RemovalsFinal.lookups {typed : TypedStore Value} (final : RemovalsFinal typed.impl state) :
    LookupsEmpty typed state := by
  intro key plain removed looked entries
  have missing : ¬typed.pathResolver.Finds looked.kernel.disk.view key := by
    have gone := final key plain removed
    rcases entries with same | ⟨recovered, survives, same⟩
    · rw [same]
      exact gone.1
    · rw [same]
      exact gone.2 recovered survives
  constructor
  · intro ok
    rw [Bool.eq_false_iff]
    exact mt finds_of_has missing
  · exact fun answers value => mt finds_of_load missing

/-- `has` and `load` do not find a removed key again, before and after any power loss, in a
run of one writer in which each `remove` finds nothing to remove. -/
theorem removed_keys_not_found (typed : TypedStore Value) (disk : Disk Bytes UInt8)
    (removed : Bytes → Bool)
    (earlier : ∀ key, Plain key → removed key → NoFile typed.impl disk key)
    (actions : List (WriterAction Value))
    (single : Along (writerStep typed.impl) SingleCaller (initialWriter disk removed) actions)
    (nothing : Along (writerStep typed.impl) (RemovesNothing typed.impl)
      (initialWriter disk removed) actions) :
    Always (writerStep typed.impl) (LookupsEmpty typed) (initialWriter disk removed) actions :=
  always_of_removals (fun _ final => final.lookups) earlier single nothing

/-- Over every run of one writer, and every power loss at any point of it,
removals are final where each `remove` finds nothing to remove, and in a run that
ends after its last `remove` only there. -/
theorem removals_final_when (store : StoreImpl Value) (disk : Disk Bytes UInt8)
    (removed : Bytes → Bool)
    (earlier : ∀ key, Plain key → removed key → NoFile store disk key)
    (actions : List (WriterAction Value)) (state : WriterState Value)
    (single : Along (writerStep store) SingleCaller (initialWriter disk removed) actions)
    (completed : run (writerStep store) (initialWriter disk removed) actions = some state) :
    (Along (writerStep store) (RemovesNothing store) (initialWriter disk removed) actions →
      Always (writerStep store) (RemovalsFinal store) (initialWriter disk removed) actions) ∧
    (state.removal = .idle →
      Always (writerStep store) (RemovalsFinal store) (initialWriter disk removed) actions →
      Along (writerStep store) (RemovesNothing store) (initialWriter disk removed) actions) := by
  constructor
  · exact always_of_removals (fun _ final => final) earlier single
  · intro ended always
    exact removes_nothing_of_final (Sequential.initially disk removed) single completed ended
      always

theorem unsaved_key_removed :
    Always (writerStep .ofStrings) (RemovalsFinal .ofStrings)
      (initialWriter .empty fun _ => false) (removeAlone [107]) := by
  have nothing : ∀ key, NoFile StoreImpl.ofStrings .empty key := by
    intro key inode may
    simp [Disk.MayHold, Disk.empty] at may
  have fresh : ∀ key, Plain key → false = true → NoFile StoreImpl.ofStrings .empty key :=
    fun key _ _ => nothing key
  apply (removals_final_when .ofStrings .empty (fun _ => false) fresh (removeAlone [107]) _
    (by decide) rfl).1
  refine ⟨trivial, fun next taken => ?_⟩
  cases taken
  refine ⟨trivial, fun next taken => ?_⟩
  cases taken
  refine ⟨(nothing [107]).open_lock (by decide) (by decide), fun next taken => ?_⟩
  cases taken
  exact ⟨trivial, fun _ _ => trivial⟩

/-- One whole save, its directory synced, and the removal of its key. -/
def savedAndRemoved : List (WriterAction Bytes) :=
  (renamedSave ⟨[107], [1, 2]⟩ ++ publishedSave ⟨[107], [1, 2]⟩).map .saving ++ removeAlone [107]

theorem removed_key_returns :
    ∃ state, Along (writerStep .ofStrings) SingleCaller (initialWriter .empty fun _ => false)
        savedAndRemoved ∧
      run (writerStep .ofStrings) (initialWriter .empty fun _ => false) savedAndRemoved =
        some state ∧ ¬RemovalsFinal .ofStrings state := by
  refine ⟨_, by decide, rfl, ?_⟩
  intro final
  have lost := (final [107] (by decide) rfl).2
    ⟨_, _⟩ ⟨⟨[], List.nil_sublist _, rfl⟩, fun _ _ => rfl⟩
  exact lost (by decide)

end TboxFramework.Store
