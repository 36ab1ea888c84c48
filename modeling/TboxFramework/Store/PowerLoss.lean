import TboxFramework.Library.AtomicReplace
import TboxFramework.Store.SaveSteps

/-!
# Power loss under a single writer

With one `save` at a time every `.dat` entry changes only by the rename of a
synced temporary file. The entry found after a power loss therefore holds the
bytes of one whole `save`, and none that an earlier normal return has outdated.
-/

namespace TboxFramework.Store

open Interleaving DurableDirectory

set_option autoImplicit false

variable {Value : Type}

/-- The `save` of this record returned without an exception. -/
def State.Returned (state : State Value) (record : SaveRecord Value) : Prop :=
  state.calls record.id = .finished record.call none

variable (store : StoreImpl Value)

/-- The bytes of one save of the key that started no earlier than the last save
of the key that returned normally. -/
def Acceptable (state : State Value) (key content : Bytes) : Prop :=
  ∃ front record back, state.history = front ++ record :: back ∧ record.call.key = key ∧
    content = store.bytes record.call ∧
    ∀ later ∈ back, later.call.key = key → ¬state.Returned later

/-! ## The invariant -/

/-- The entry of every `.dat` file of a plain key. -/
def DatEntry (name : Bytes) : Prop :=
  ∃ key, Plain key ∧ name = store.pathResolver.keyEntry key

def DatContent (state : State Value) (name content : Bytes) : Prop :=
  ∀ key, Plain key → name = store.pathResolver.keyEntry key → Acceptable store state key content

structure Sound (state : State Value) : Prop where
  plain : ∀ record ∈ state.history, Plain record.call.key
  recorded : ∀ record ∈ state.history, (state.calls record.id).owner = some record.call
  latest : ∀ id call, (state.calls id).active = some call →
    state.history.getLast? = some ⟨id, call⟩
  published : Published state.disk (DatEntry store) (DatContent store state)
  missing : ∀ key, Plain key → state.disk.MayHold (store.pathResolver.keyEntry key) none →
    ∀ record ∈ state.history, record.call.key = key → ¬state.Returned record
  point : ∀ id, PointSound store state.disk (state.calls id)

/-- Over this disk no `.dat` entry can be found that could not be found before,
other than one with acceptable content. -/
structure Keeps (state : State Value) (after : Disk Bytes UInt8) : Prop where
  published : Published after (DatEntry store) (DatContent store state)
  missing : ∀ key, Plain key → after.MayHold (store.pathResolver.keyEntry key) none →
    state.disk.MayHold (store.pathResolver.keyEntry key) none

namespace Sound

variable {store} {state : State Value}

theorem initially (disk : Disk Bytes UInt8)
    (absent : ∀ key inode, Plain key →
      ¬disk.MayHold (store.pathResolver.keyEntry key) (some inode)) :
    Sound store (initial disk) where
  plain := by simp [initial]
  recorded := by simp [initial]
  latest := by simp [initial, SavePoint.active]
  published := by
    apply Published.of_absent
    rintro name inode ⟨key, plain, rfl⟩
    exact absent key inode plain
  missing := by simp [initial]
  point := fun _ => trivial

theorem active_member (sound : Sound store state) {id : Nat} {call : SaveCall Value}
    (under : (state.calls id).active = some call) : ⟨id, call⟩ ∈ state.history :=
  List.mem_of_getLast? (sound.latest id call under)

theorem active_plain (sound : Sound store state) {id : Nat} {call : SaveCall Value}
    (under : (state.calls id).active = some call) : Plain call.key :=
  sound.plain _ (sound.active_member under)

theorem sole_active (sound : Sound store state) {id other : Nat} {call : SaveCall Value}
    (under : (state.calls id).active = some call) (different : other ≠ id) :
    (state.calls other).active = none := by
  cases also : (state.calls other).active with
  | none => rfl
  | some second =>
      have same := (sound.latest other second also).symm.trans (sound.latest id call under)
      rw [Option.some.injEq, SaveRecord.mk.injEq] at same
      exact absurd same.1 different

theorem dat_not_tmp (sound : Sound store state) {id : Nat} {call : SaveCall Value}
    (under : (state.calls id).active = some call) : ¬DatEntry store (store.tmpEntry call) := by
  rintro ⟨key, plain, same⟩
  exact key_entry_ne_temp store.pathResolver plain.1 (sound.active_plain under).1 same.symm

theorem dat_not_lock (sound : Sound store state) {id : Nat} {call : SaveCall Value}
    (under : (state.calls id).active = some call) : ¬DatEntry store (store.lockEntry call) := by
  rintro ⟨key, plain, same⟩
  exact key_entry_ne_lock store.pathResolver plain.1 (sound.active_plain under).1 same.symm

end Sound

/-! ## What a step of the call under way keeps -/

variable {store} {state next : State Value} {id : Nat} {call : SaveCall Value}
  {point : SavePoint Value}

/-- A call that has not returned yet returns no record. -/
theorem returned_of_quiet (moved : Advances state next id point)
    (quiet : ∀ done, point ≠ .finished done none) {record : SaveRecord Value}
    (returned : next.Returned record) : state.Returned record := by
  by_cases mover : record.id = id
  · rw [State.Returned, mover, moved.self] at returned
    exact absurd returned (quiet record.call)
  · rwa [State.Returned, moved.of_ne mover] at returned

/-- The call `id` returns no record of another key. -/
theorem returned_of_other (moved : Advances state next id point) (sound : Sound store state)
    (under : (state.calls id).active = some call) {record : SaveRecord Value}
    (listed : record ∈ state.history) (other : record.call.key ≠ call.key)
    (returned : next.Returned record) : state.Returned record := by
  by_cases mover : record.id = id
  · have owner := sound.recorded record listed
    have same : (state.calls id).owner = some call := owner_of_active under
    rw [mover, same, Option.some.injEq] at owner
    exact absurd (congrArg SaveCall.key owner.symm) other
  · rwa [State.Returned, moved.of_ne mover] at returned

theorem Acceptable.keep (history : next.history = state.history) {key content : Bytes}
    (returned : ∀ record ∈ state.history, record.call.key = key →
      next.Returned record → state.Returned record)
    (holds : Acceptable store state key content) : Acceptable store next key content := by
  obtain ⟨front, record, back, split, same, bytes, newest⟩ := holds
  refine ⟨front, record, back, history.trans split, same, bytes, ?_⟩
  intro later member keyed done
  exact newest later member keyed (returned later (by simp [split, member]) keyed done)

/-- The bytes of the newest call are always acceptable. -/
theorem acceptable_latest {last : SaveRecord Value}
    (latest : state.history.getLast? = some last) :
    Acceptable store state last.call.key (store.bytes last.call) := by
  obtain ⟨front, split⟩ := List.getLast?_eq_some_iff.mp latest
  exact ⟨front, last, [], split, rfl, rfl, by simp⟩

namespace Sound

/-- The part of the invariant that does not look at the disk. -/
theorem recorded_advance (sound : Sound store state) (moved : Advances state next id point)
    (under : (state.calls id).active = some call) (owned : point.owner = some call) :
    ∀ record ∈ next.history, (next.calls record.id).owner = some record.call := by
  intro record member
  rw [moved.history] at member
  by_cases mover : record.id = id
  · have owner := sound.recorded record member
    rw [mover, owner_of_active under] at owner
    rw [mover, moved.self, owned, owner]
  · rw [moved.of_ne mover]
    exact sound.recorded record member

theorem latest_advance (sound : Sound store state) (moved : Advances state next id point)
    (under : (state.calls id).active = some call) (owned : point.owner = some call) :
    ∀ other second, (next.calls other).active = some second →
      next.history.getLast? = some ⟨other, second⟩ := by
  intro other second also
  rw [moved.history]
  by_cases mover : other = id
  · rw [mover, moved.self] at also
    have same := (owner_of_active also).symm.trans owned
    rw [mover, Option.some.inj same]
    exact sound.latest id call under
  · rw [moved.of_ne mover] at also
    exact sound.latest other second also

theorem point_advance (sound : Sound store state) (moved : Advances state next id point)
    (under : (state.calls id).active = some call) (facts : PointSound store next.disk point) :
    ∀ other, PointSound store next.disk (next.calls other) := by
  intro other
  by_cases mover : other = id
  · rw [mover, moved.self]
    exact facts
  · rw [moved.of_ne mover]
    exact point_sound_of_inactive store next.disk (sound.sole_active under mover)

/-- A step of the call under way that is not its normal return. -/
theorem advance (sound : Sound store state) (moved : Advances state next id point)
    (under : (state.calls id).active = some call) (owned : point.owner = some call)
    (quiet : ∀ done, point ≠ .finished done none)
    (keeps : Keeps store state next.disk)
    (facts : PointSound store next.disk point) : Sound store next where
  plain := by
    rw [moved.history]
    exact sound.plain
  recorded := sound.recorded_advance moved under owned
  latest := sound.latest_advance moved under owned
  published := by
    apply keeps.published.mono
    intro name inode _ _ good key plain same
    exact (good key plain same).keep moved.history
      (fun _ _ _ => returned_of_quiet moved quiet)
  missing := by
    intro key plain may record member keyed returned
    rw [moved.history] at member
    exact sound.missing key plain (keeps.missing key plain may) record member keyed
      (returned_of_quiet moved quiet returned)
  point := sound.point_advance moved under facts

/-- A step of the call under way to another of its points. -/
theorem goes_on (sound : Sound store state) (moved : Advances state next id point)
    (under : (state.calls id).active = some call) (active : point.active = some call)
    (keeps : Keeps store state next.disk)
    (facts : PointSound store next.disk point) : Sound store next := by
  apply sound.advance moved under (owner_of_active active) _ keeps facts
  intro done finished
  rw [finished] at active
  cases active

theorem point_at (sound : Sound store state) {before : SavePoint Value}
    (here : state.calls id = before) : PointSound store state.disk before := by
  rw [← here]
  exact sound.point id

/-- The normal return of a call whose file is settled. -/
theorem complete (sound : Sound store state) (moved : Advances state next id (.finished call none))
    (under : (state.calls id).active = some call)
    (keeps : Keeps store state next.disk)
    (settled : Settled store next.disk call) : Sound store next where
  plain := by
    rw [moved.history]
    exact sound.plain
  recorded := sound.recorded_advance moved under rfl
  latest := sound.latest_advance moved under rfl
  published := by
    apply keeps.published.mono
    intro name inode _ may good key plain same
    by_cases mine : key = call.key
    · -- only the file of this call can still be found under its key
      obtain ⟨held, bytes, only⟩ := settled
      rw [same, mine] at may
      have found : inode = held := Option.some.inj (only _ may)
      have newest : next.history.getLast? = some ⟨id, call⟩ := by
        rw [moved.history]
        exact sound.latest id call under
      rw [found, bytes, mine]
      exact acceptable_latest newest
    · apply (good key plain same).keep moved.history
      intro record listed keyed
      exact returned_of_other moved sound under listed (keyed ▸ mine)
  missing := by
    intro key plain may record member keyed returned
    rw [moved.history] at member
    by_cases mine : key = call.key
    · obtain ⟨held, -, only⟩ := settled
      rw [mine] at may
      cases only none may
    · exact sound.missing key plain (keeps.missing key plain may) record member keyed
        (returned_of_other moved sound under member (keyed ▸ mine) returned)
  point := sound.point_advance moved under trivial

/-- A new call joins the history behind all the others. -/
theorem begin_save (sound : Sound store state) (call : SaveCall Value) (plain : Plain call.key)
    (free : state.calls id = .idle)
    (alone : ∀ record ∈ state.history, (state.calls record.id).active = none)
    (history : next.history = state.history ++ [⟨id, call⟩])
    (calls : next.calls = Function.update state.calls id point)
    (disk : next.disk = state.disk) (owned : point.owner = some call)
    (fresh : PointSound store state.disk point)
    (quiet : ∀ done, point ≠ .finished done none) : Sound store next := by
  have older : ∀ record ∈ state.history, record.id ≠ id := by
    rintro record member rfl
    have owner := sound.recorded record member
    rw [free] at owner
    cases owner
  have back : ∀ record, next.Returned record → state.Returned record := by
    intro record returned
    by_cases mover : record.id = id
    · rw [State.Returned, calls, mover, Function.update_self] at returned
      exact absurd returned (quiet record.call)
    · rwa [State.Returned, calls, Function.update_of_ne mover] at returned
  have idle : ∀ other, other ≠ id → (state.calls other).active = none := by
    intro other _
    cases under : (state.calls other).active with
    | none => rfl
    | some second =>
        exact absurd (alone _ (sound.active_member under)) (by simp [under])
  constructor
  · intro record member
    rw [history, List.mem_append, List.mem_singleton] at member
    rcases member with old | rfl
    · exact sound.plain record old
    · exact plain
  · intro record member
    rw [history, List.mem_append, List.mem_singleton] at member
    rcases member with old | rfl
    · rw [calls, Function.update_of_ne (older record old)]
      exact sound.recorded record old
    · rw [calls, Function.update_self]
      exact owned
  · intro other second under
    by_cases mover : other = id
    · rw [mover, calls, Function.update_self] at under
      have same := (owner_of_active under).symm.trans owned
      rw [history, List.getLast?_append, mover, Option.some.inj same]
      rfl
    · rw [calls, Function.update_of_ne mover, idle other mover] at under
      cases under
  · rw [disk]
    apply sound.published.mono
    intro name inode _ _ good key tidy same
    obtain ⟨front, record, rest, split, keyed, bytes, newest⟩ := good key tidy same
    refine ⟨front, record, rest ++ [⟨id, call⟩], by rw [history, split]; simp, keyed, bytes, ?_⟩
    intro later member laterKey returned
    rw [List.mem_append, List.mem_singleton] at member
    rcases member with old | rfl
    · exact newest later old laterKey (back later returned)
    · rw [State.Returned, calls, Function.update_self] at returned
      exact quiet call returned
  · intro key tidy may record member keyed returned
    rw [history, List.mem_append, List.mem_singleton] at member
    rw [disk] at may
    rcases member with old | rfl
    · exact sound.missing key tidy may record old keyed (back record returned)
    · rw [State.Returned, calls, Function.update_self] at returned
      exact quiet call returned
  · intro other
    rw [disk, calls]
    by_cases mover : other = id
    · rw [mover, Function.update_self]
      exact fresh
    · rw [Function.update_of_ne mover]
      exact point_sound_of_inactive store state.disk (idle other mover)

end Sound

/-! ## The system calls -/

namespace Sound

theorem keeps_disk (sound : Sound store state) : Keeps store state state.disk :=
  ⟨sound.published, fun _ _ => id⟩

theorem keeps_open_create (sound : Sound store state) {name : Bytes}
    (hidden : ¬DatEntry store name) : Keeps store state (state.disk.openCreate name) where
  published := sound.published.open_create hidden
  missing := by
    intro key plain may
    refine Disk.may_hold_open_create_of_ne ?_ may
    rintro rfl
    exact hidden ⟨key, plain, rfl⟩

theorem keeps_open_truncate (sound : Sound store state) {name : Bytes}
    (hidden : ¬DatEntry store name) : Keeps store state (state.disk.openTruncate name) where
  published := sound.published.open_truncate hidden
  missing := (sound.keeps_open_create hidden).missing

theorem keeps_write (sound : Sound store state) {name : Bytes} {inode : Inode}
    (hidden : ¬DatEntry store name) (named : state.disk.view name = some inode)
    (bytes : Bytes) : Keeps store state (state.disk.write inode bytes) where
  published := sound.published.write hidden named bytes
  missing := fun _ _ => id

theorem keeps_fsync (sound : Sound store state) (inode : Inode) :
    Keeps store state (state.disk.fsync inode) where
  published := sound.published.fsync inode
  missing := fun _ _ => id

theorem keeps_remove (sound : Sound store state) {name : Bytes} (hidden : ¬DatEntry store name)
    (ok : Bool) : Keeps store state (removeEntry state.disk name ok) := by
  unfold removeEntry
  split
  · refine ⟨sound.published.unlink hidden, ?_⟩
    intro key plain may
    refine Disk.may_hold_unlink_of_ne ?_ may
    rintro rfl
    exact hidden ⟨key, plain, rfl⟩
  · exact sound.keeps_disk

theorem keeps_sync_directory (sound : Sound store state) :
    Keeps store state state.disk.syncDirectory where
  published := sound.published.sync_directory
  missing := by
    intro key _ may
    rw [Disk.may_hold_sync_directory] at may
    exact may ▸ state.disk.may_hold_view _

/-- The rename publishes the synced temporary file of the call. -/
theorem keeps_rename (sound : Sound store state) (under : (state.calls id).active = some call)
    {inode : Inode} (named : state.disk.view (store.tmpEntry call) = some inode)
    (bytes : (state.disk.files inode).content = store.bytes call)
    (synced : (state.disk.files inode).synced = true) :
    Keeps store state
      (state.disk.renameNamed (store.tmpEntry call) (store.datEntry call) inode named) where
  published := by
    apply sound.published.rename_named named (sound.dat_not_tmp under) synced
    intro key plain same
    have mine : call.key = key :=
      key_entry_inj store.pathResolver (sound.active_plain under).1 plain.1 same
    rw [bytes, ← mine]
    exact acceptable_latest (sound.latest id call under)
  missing := by
    intro key plain may
    have apart : store.pathResolver.keyEntry key ≠ store.tmpEntry call :=
      key_entry_ne_temp store.pathResolver plain.1 (sound.active_plain under).1
    have split : state.disk.MayHold (store.pathResolver.keyEntry key) none ∨
        (Change.rename (store.tmpEntry call) (store.datEntry call) inode).effect
          (store.pathResolver.keyEntry key) = some none :=
      Disk.may_hold_snoc state.disk (state.disk.renameNamed _ _ inode named) rfl rfl may
    apply split.resolve_right
    simp [Change.effect, apart]

/-- What a system call of a save may do to the disk. -/
theorem keeps_move (sound : Sound store state) {before : SavePoint Value}
    (moves : CallMoves store state next id call before point) : Keeps store state next.disk := by
  have under := moves.active
  have facts := sound.point_at moves.here
  have moved := moves.disk
  generalize next.disk = after at moved
  cases moved with
  | still => exact sound.keeps_disk
  | openLock => exact sound.keeps_open_create (sound.dat_not_lock under)
  | openTemp => exact sound.keeps_open_truncate (sound.dat_not_tmp under)
  | write inode bytes => exact sound.keeps_write (sound.dat_not_tmp under) facts.1 bytes
  | fsync _ inode => exact sound.keeps_fsync inode
  | rename renamed =>
      obtain ⟨inode, ⟨named, bytes⟩, synced⟩ := facts
      obtain ⟨moved, source, rfl⟩ :=
        (Disk.rename_eq_some (tmp_ne_dat store (sound.active_plain under))).mp renamed
      cases Option.some.inj (source.symm.trans named)
      exact sound.keeps_rename under source bytes synced
  | removeTemp _ ok => exact sound.keeps_remove (sound.dat_not_tmp under) ok
  | removeLock _ ok => exact sound.keeps_remove (sound.dat_not_lock under) ok
  | syncDirectory => exact sound.keeps_sync_directory

end Sound

variable [DecidableEq Value]

/-- Every step of a single writer keeps the invariant. -/
theorem sound_step {action : Action Value} (sound : Sound store state)
    (single : SingleWriter state action) (taken : step store state action = some next) :
    Sound store next := by
  cases started : action.started with
  | some key =>
      cases action with
      | save id call =>
          obtain ⟨free, rfl⟩ := (guarded_eq_some ..).mp taken
          obtain ⟨owned, fresh, quiet⟩ := begun_facts store call
          exact sound.begin_save call single.1 free single.2 rfl rfl rfl owned (fresh state.disk)
            quiet
      | _ => cases started
  | none =>
      obtain ⟨id, call, before, point, moves⟩ := step_moves started taken
      have plain := sound.active_plain moves.active
      have facts := sound.point_at moves.here
      have keeps := sound.keeps_move moves
      by_cases returned : point = .finished call none
      · have settled := moves.settled plain facts call returned
        subst returned
        exact sound.complete moves.toAdvances moves.active keeps settled
      · apply sound.advance moves.toAdvances moves.active moves.owned _ keeps
          (moves.sound plain facts)
        intro done finished
        have same := moves.owned
        rw [finished] at same
        cases same
        exact returned finished

/-! ## Recovery -/

/-- After a power loss anywhere in a single writer's run, a key has the bytes of
a save that no later normal return outdates, and is absent only when none of its
saves has returned normally. -/
theorem save_survives_power_loss (store : StoreImpl Value) (disk : Disk Bytes UInt8)
    (absent : ∀ key inode, Plain key →
      ¬disk.MayHold (store.pathResolver.keyEntry key) (some inode))
    (actions : List (Action Value)) (state : State Value)
    (single : Along (step store) SingleWriter (initial disk) actions)
    (completed : run (step store) (initial disk) actions = some state)
    (recovered : Disk.Recovered Bytes UInt8) (survives : state.disk.SurvivesAs recovered)
    (key : Bytes) (plain : Plain key) :
    match recovered.entries (store.pathResolver.keyEntry key) with
    | some inode => Acceptable store state key (recovered.content inode)
    | none => ∀ record ∈ state.history, record.call.key = key → ¬state.Returned record := by
  have sound : Sound store state :=
    run_invariant (Sound store) (fun _ _ _ => sound_step) (Sound.initially disk absent) single
      completed
  split
  · rename_i inode found
    exact sound.published.recovered survives ⟨key, plain, rfl⟩ found key plain rfl
  · rename_i lost
    have may := Disk.may_hold_recovered survives (store.pathResolver.keyEntry key)
    rw [lost] at may
    exact sound.missing key plain may

/-- A save that has returned is found by whatever comes back from the power loss. -/
theorem renamed_save_survives :
    ∃ state, run (step .ofStrings) (initial .empty)
        (renamedSave ⟨[107], [1, 2]⟩ ++ publishedSave ⟨[107], [1, 2]⟩) = some state ∧
      state.disk.SurvivesAs state.disk.intact ∧
      ∀ recovered, state.disk.SurvivesAs recovered →
        ∃ inode, recovered.entries (StoreImpl.ofStrings.pathResolver.keyEntry [107]) =
          some inode ∧ recovered.content inode = [1, 2] := by
  refine ⟨_, rfl, Disk.survives_intact _, ?_⟩
  intro recovered survives
  have kept := save_survives_power_loss .ofStrings .empty (by simp [Disk.MayHold, Disk.empty])
    (renamedSave ⟨[107], [1, 2]⟩ ++ publishedSave ⟨[107], [1, 2]⟩) _ (by decide) rfl recovered
    survives [107] (by decide)
  cases found : recovered.entries (StoreImpl.ofStrings.pathResolver.keyEntry [107]) with
  | none =>
      rw [found] at kept
      exact absurd rfl (kept ⟨0, ⟨[107], [1, 2]⟩⟩ List.mem_cons_self rfl)
  | some inode =>
      rw [found] at kept
      obtain ⟨front, record, back, past, _, content, _⟩ := kept
      refine ⟨inode, rfl, ?_⟩
      have only : record ∈ [(⟨0, ⟨[107], [1, 2]⟩⟩ : SaveRecord Bytes)] := by
        rw [show [_] = front ++ record :: back from past]
        exact List.mem_append_right _ List.mem_cons_self
      rw [content, List.mem_singleton.mp only]
      rfl

end TboxFramework.Store
