import TboxFramework.Store.FileLock
import Mathlib.Data.Fintype.Basic

/-!
# When lock files exclude

`release` unlocks and closes the lock file before it unlinks it, so another
instance can lock the file in between and lose its name to the unlink. Without
that, every lock in force is on the file that the path names, and one file has
one holder.
-/

namespace TboxFramework.Store.FileLock

open Interleaving

set_option autoImplicit false

variable {Process : Type} [DecidableEq Process]

def LockPoint.isClosing (key : Bytes) : LockPoint → Bool
  | .closingReleased other _ => other = key
  | _ => false

/-- A lock is taken only on the file that the path names and only when no
instance stands between the `LOCK_UN` and the bookkeeping of its release; a
release unlinks no file that is locked. -/
def LockFileKept (path : Bytes → Bytes) (state : State Process) : Action Process → Prop
  | .advance process true =>
      match state.points process with
      | .locking key _ fd =>
          state.entries (path key) = state.openFiles fd ∧
            ∀ other, (state.points other).isClosing key = false
      | .unlinking key => ((state.entries (path key)).bind state.flocks) = none
      | _ => True
  | _ => True

instance [Fintype Process] (path : Bytes → Bytes) (state : State Process)
    (action : Action Process) : Decidable (LockFileKept path state action) := by
  unfold LockFileKept
  split
  · split <;> infer_instance
  · infer_instance

/-! ## The invariant -/

/-- A description that a process has opened and not recorded. -/
def LockPoint.pending : LockPoint → Option OpenFile
  | .locking _ _ fd | .closingRefused _ _ fd => some fd
  | _ => none

/-- The recorded description that a release is giving up. -/
def LockPoint.leaving : LockPoint → Option (Bytes × OpenFile)
  | .unlocking key fd | .closingReleased key fd => some (key, fd)
  | _ => none

/-- The lock is in force on the file that the path names. -/
def Locked (path : Bytes → Bytes) (state : State Process) (key : Bytes) (fd : OpenFile) : Prop :=
  ∃ inode, state.openFiles fd = some inode ∧ state.entries (path key) = some inode ∧
    state.flocks inode = some fd

structure Kept (path : Bytes → Bytes) (state : State Process) : Prop where
  old : ∀ process key fd, state.lockFds process key = some fd → fd < state.nextFile
  pendingOld : ∀ process fd, (state.points process).pending = some fd → fd < state.nextFile
  distinct : ∀ process key other second fd, state.lockFds process key = some fd →
    state.lockFds other second = some fd → process = other ∧ key = second
  apart : ∀ process key other fd, state.lockFds process key = some fd →
    (state.points other).pending ≠ some fd
  pendingDistinct : ∀ process other fd, (state.points process).pending = some fd →
    (state.points other).pending = some fd → process = other
  leaving : ∀ process key fd, (state.points process).leaving = some (key, fd) →
    state.lockFds process key = some fd
  held : ∀ process key fd, state.lockFds process key = some fd →
    (state.points process).isClosing key = false → Locked path state key fd
  exclusive : Exclusive state

namespace Kept

variable {path : Bytes → Bytes} {state next : State Process} {process : Process}
  {point : LockPoint}

omit [DecidableEq Process] in
theorem initially (entries : Bytes → Option Inode) (nextInode : Inode) :
    Kept path (initial entries nextInode : State Process) := by
  constructor <;> nofun

/-- A step that records and erases nothing. -/
theorem move (kept : Kept path state)
    (points : next.points = Function.update state.points process point)
    (lockFds : next.lockFds = state.lockFds) (files : state.nextFile ≤ next.nextFile)
    (stays : ∀ key, (state.points process).isClosing key = false)
    (pending : ∀ fd, point.pending = some fd → fd < next.nextFile ∧
      (∀ other key, state.lockFds other key ≠ some fd) ∧
      ∀ other, other ≠ process → (state.points other).pending ≠ some fd)
    (leaving : ∀ key fd, point.leaving = some (key, fd) → state.lockFds process key = some fd)
    (locked : ∀ other key fd, state.lockFds other key = some fd →
      (other = process → point.isClosing key = false) →
      Locked path state key fd → Locked path next key fd) : Kept path next := by
  have self : next.points process = point := by rw [points, Function.update_self]
  have others : ∀ other, other ≠ process → next.points other = state.points other := by
    intro other different
    rw [points, Function.update_of_ne different]
  constructor
  · intro other key fd recorded
    rw [lockFds] at recorded
    exact Nat.lt_of_lt_of_le (kept.old other key fd recorded) files
  · intro other fd waits
    by_cases mover : other = process
    · rw [mover, self] at waits
      exact (pending fd waits).1
    · rw [others other mover] at waits
      exact Nat.lt_of_lt_of_le (kept.pendingOld other fd waits) files
  · rw [lockFds]
    exact kept.distinct
  · intro other key third fd recorded waits
    rw [lockFds] at recorded
    by_cases mover : third = process
    · rw [mover, self] at waits
      exact (pending fd waits).2.1 other key recorded
    · rw [others third mover] at waits
      exact kept.apart other key third fd recorded waits
  · intro first second fd left right
    by_cases one : first = process <;> by_cases two : second = process
    · exact one.trans two.symm
    · rw [one, self] at left
      rw [others second two] at right
      exact absurd right ((pending fd left).2.2 second two)
    · rw [two, self] at right
      rw [others first one] at left
      exact absurd left ((pending fd right).2.2 first one)
    · rw [others first one] at left
      rw [others second two] at right
      exact kept.pendingDistinct first second fd left right
  · intro other key fd leaves
    rw [lockFds]
    by_cases mover : other = process
    · rw [mover, self] at leaves
      exact mover ▸ leaving key fd leaves
    · rw [others other mover] at leaves
      exact kept.leaving other key fd leaves
  · intro other key fd recorded open_
    rw [lockFds] at recorded
    by_cases mover : other = process
    · rw [mover, self] at open_
      refine locked other key fd recorded (fun _ => open_) (kept.held other key fd recorded ?_)
      rw [mover]
      exact stays key
    · rw [others other mover] at open_
      exact locked other key fd recorded (fun same => absurd same mover)
        (kept.held other key fd recorded open_)
  · intro key
    rw [lockFds]
    exact kept.exclusive key

/-- A step of the instance alone. -/
theorem move_only (kept : Kept path state)
    (stays : ∀ key, (state.points process).isClosing key = false)
    (pending : ∀ fd, point.pending = some fd → (state.points process).pending = some fd)
    (leaving : ∀ key fd, point.leaving = some (key, fd) → state.lockFds process key = some fd) :
    Kept path (state.move process point) := by
  refine kept.move rfl rfl (Nat.le_refl _) stays ?_ leaving (fun _ _ _ _ _ locked => locked)
  intro fd waits
  have before := pending fd waits
  refine ⟨kept.pendingOld process fd before, ?_, ?_⟩
  · exact fun other key recorded => kept.apart other key process fd recorded before
  · exact fun other different also => different (kept.pendingDistinct other process fd also before)

/-- `open` gives a description of its own and names no other file. -/
theorem open_file (kept : Kept path state) {key : Bytes} {timeoutMs : Nat}
    (here : state.points process = .opening key timeoutMs) :
    Kept path ((state.openFile (path key)).move process
      (.locking key timeoutMs state.nextFile)) := by
  have fresh : ∀ other second, state.lockFds other second ≠ some state.nextFile := by
    intro other second recorded
    exact Nat.lt_irrefl _ (kept.old other second _ recorded)
  have unused : ∀ other, (state.points other).pending ≠ some state.nextFile := by
    intro other waits
    exact Nat.lt_irrefl _ (kept.pendingOld other _ waits)
  have shape : ∃ entries nextInode inode, state.openFile (path key) =
      { state with
        entries := entries
        nextInode := nextInode
        openFiles := Function.update state.openFiles state.nextFile (some inode)
        nextFile := state.nextFile + 1 } ∧
      ∀ name held, state.entries name = some held → entries name = some held := by
    unfold State.openFile
    split
    · rename_i inode found
      exact ⟨_, _, _, rfl, fun _ _ => id⟩
    · rename_i missing
      refine ⟨_, _, _, rfl, ?_⟩
      intro name held found
      rw [Function.update_of_ne, found]
      rintro rfl
      rw [missing] at found
      cases found
  obtain ⟨entries, nextInode, inode, opened, names⟩ := shape
  rw [opened]
  refine kept.move rfl rfl (Nat.le_succ _) (by simp [here, LockPoint.isClosing]) ?_ nofun ?_
  · intro fd waits
    cases waits
    exact ⟨Nat.lt_succ_self _, fresh, fun other _ => unused other⟩
  · rintro other second fd recorded - ⟨held, isOpen, named, locked⟩
    refine ⟨held, ?_, names _ _ named, locked⟩
    refine (Function.update_of_ne ?_ ..).trans isOpen
    rintro rfl
    exact fresh other second recorded

omit [DecidableEq Process] in
theorem flock_eq_some {fd : OpenFile} {locked : State Process} :
    state.flock fd = some locked ↔ ∃ inode, state.openFiles fd = some inode ∧
      state.flocks inode = none ∧
      { state with flocks := Function.update state.flocks inode (some fd) } = locked := by
  unfold State.flock
  split
  · rename_i missing
    simp [missing]
  · rename_i inode found
    simp [found]

/-- What `m_lockFds` holds after one of its entries has been written. -/
theorem recorded_update {lockFds : Process → Bytes → Option OpenFile} {key : Bytes}
    {value : Option OpenFile} {other : Process} {second : Bytes} {held : OpenFile}
    (recorded : Function.update lockFds process
      (Function.update (lockFds process) key value) other second = some held) :
    (other = process ∧ second = key ∧ value = some held) ∨
      (¬(other = process ∧ second = key) ∧ lockFds other second = some held) := by
  by_cases mover : other = process
  · subst mover
    rw [Function.update_self] at recorded
    by_cases same : second = key
    · rw [same, Function.update_self] at recorded
      exact Or.inl ⟨rfl, same, recorded⟩
    · rw [Function.update_of_ne same] at recorded
      exact Or.inr ⟨fun both => same both.2, recorded⟩
  · rw [Function.update_of_ne mover] at recorded
    exact Or.inr ⟨fun both => mover both.1, recorded⟩

/-- An instance that arrives at rest has no description of its own under way. -/
theorem rest_update (points : Process → LockPoint) (process : Process)
    (quiet : point.pending = none) (rests : point.leaving = none) (other : Process) :
    (∀ fd, (Function.update points process point other).pending = some fd →
      other ≠ process ∧ (points other).pending = some fd) ∧
    ∀ pair, (Function.update points process point other).leaving = some pair →
      other ≠ process ∧ (points other).leaving = some pair := by
  by_cases mover : other = process
  · subst mover
    simp [quiet, rests]
  · simp [mover]

omit [DecidableEq Process] in
/-- A description that no lock in force uses may be unlocked or closed. -/
theorem locked_of_other {key : Bytes} {fd gone : OpenFile} (other : fd ≠ gone)
    (locked : Locked path state key fd) :
    Locked path (state.unlock gone) key fd ∧ Locked path (state.close gone) key fd := by
  obtain ⟨inode, isOpen, named, holds⟩ := locked
  have stays : (state.unlock gone).flocks inode = some fd := by
    simp [State.unlock, holds, other]
  exact ⟨⟨inode, isOpen, named, stays⟩,
    inode, (Function.update_of_ne other ..).trans isOpen, named, stays⟩

theorem close_refused (kept : Kept path state) {key : Bytes} {timeoutMs : Nat} {fd : OpenFile}
    (here : state.points process = .closingRefused key timeoutMs fd) :
    Kept path ((state.close fd).move process (.refused key timeoutMs)) := by
  refine kept.move rfl rfl (Nat.le_refl _) (by simp [here, LockPoint.isClosing]) nofun nofun ?_
  intro other second held recorded _ locked
  refine (locked_of_other ?_ locked).2
  rintro rfl
  exact kept.apart other second process held recorded (by simp [here, LockPoint.pending])

theorem unlock_released (kept : Kept path state) {key : Bytes} {fd : OpenFile}
    (here : state.points process = .unlocking key fd) :
    Kept path ((state.unlock fd).move process (.closingReleased key fd)) := by
  have mine : state.lockFds process key = some fd := kept.leaving process key fd (by rw [here]; rfl)
  refine kept.move rfl rfl (Nat.le_refl _) (by simp [here, LockPoint.isClosing]) nofun ?_ ?_
  · rintro second held leaves
    cases leaves
    exact mine
  · intro other second held recorded outside locked
    refine (locked_of_other ?_ locked).1
    rintro rfl
    obtain ⟨same, rfl⟩ := kept.distinct other second process key held recorded mine
    simpa [LockPoint.isClosing] using outside same

omit [DecidableEq Process] in
/-- A lock that may be taken on the file that the path names is nobody's. -/
theorem unrecorded (kept : Kept path state) {key : Bytes} {inode : Inode}
    (named : state.entries (path key) = some inode) (free : state.flocks inode = none)
    (settled : ∀ other, (state.points other).isClosing key = false) (other : Process) :
    state.lockFds other key = none := by
  cases recorded : state.lockFds other key with
  | none => rfl
  | some fd =>
      obtain ⟨held, -, names, locked⟩ := kept.held other key fd recorded (settled other)
      rw [named, Option.some.injEq] at names
      rw [names, locked] at free
      cases free

theorem take_lock (kept : Kept path state) {key : Bytes} {timeoutMs : Nat} {fd : OpenFile}
    {locked : State Process} (here : state.points process = .locking key timeoutMs fd)
    (named : state.entries (path key) = state.openFiles fd)
    (settled : ∀ other, (state.points other).isClosing key = false)
    (taken : state.flock fd = some locked) :
    Kept path ((locked.setLockFd process key (some fd)).move process .idle) := by
  obtain ⟨inode, isOpen, free, rfl⟩ := flock_eq_some.mp taken
  have waits : (state.points process).pending = some fd := by rw [here]; rfl
  have nobody := kept.unrecorded (named.trans isOpen) free settled
  have rest := rest_update state.points process (rfl : LockPoint.idle.pending = none) rfl
  have old_or_new : ∀ other second held,
      Function.update state.lockFds process
        (Function.update (state.lockFds process) key (some fd)) other second = some held →
      (other = process ∧ second = key ∧ held = fd) ∨ state.lockFds other second = some held := by
    intro other second held recorded
    rcases recorded_update recorded with ⟨mover, same, new⟩ | ⟨-, before⟩
    · exact Or.inl ⟨mover, same, (Option.some.inj new).symm⟩
    · exact Or.inr before
  constructor
  · intro other second held recorded
    rcases old_or_new other second held recorded with ⟨-, -, rfl⟩ | before
    · exact kept.pendingOld process held waits
    · exact kept.old other second held before
  · exact fun other held pending =>
      kept.pendingOld other held ((rest other).1 held pending).2
  · intro other second third fourth held left right
    rcases old_or_new other second held left with ⟨rfl, rfl, rfl⟩ | before <;>
      rcases old_or_new third fourth held right with ⟨rfl, rfl, same⟩ | after
    · exact ⟨rfl, rfl⟩
    · exact absurd waits (kept.apart third fourth other held after)
    · exact absurd (same ▸ waits) (kept.apart other second third held before)
    · exact kept.distinct other second third fourth held before after
  · intro other second third held recorded pending
    obtain ⟨mover, waiting⟩ := (rest third).1 held pending
    rcases old_or_new other second held recorded with ⟨-, -, rfl⟩ | before
    · exact mover (kept.pendingDistinct third process held waiting waits)
    · exact kept.apart other second third held before waiting
  · exact fun first second held left right =>
      kept.pendingDistinct first second held ((rest first).1 held left).2
        ((rest second).1 held right).2
  · intro other second held leaves
    obtain ⟨mover, leaves⟩ := (rest other).2 _ leaves
    exact (congrFun (Function.update_of_ne mover ..) second).trans
      (kept.leaving other second held leaves)
  · intro other second held recorded outside
    rcases old_or_new other second held recorded with ⟨-, rfl, rfl⟩ | before
    · exact ⟨inode, isOpen, named.trans isOpen, Function.update_self ..⟩
    · have stays : (state.points other).isClosing second = false := by
        by_cases mover : other = process
        · simp [mover, here, LockPoint.isClosing]
        · simpa [State.move, State.setLockFd, mover] using outside
      obtain ⟨file, opened, names, holds⟩ := kept.held other second held before stays
      refine ⟨file, opened, names, (Function.update_of_ne ?_ ..).trans holds⟩
      rintro rfl
      rw [free] at holds
      cases holds
  · intro second other third left right
    obtain ⟨held, left⟩ := Option.isSome_iff_exists.mp left
    obtain ⟨also, right⟩ := Option.isSome_iff_exists.mp right
    rcases old_or_new other second held left with ⟨rfl, rfl, -⟩ | before <;>
      rcases old_or_new third _ also right with ⟨rfl, same, -⟩ | after
    · rfl
    · rw [nobody] at after
      cases after
    · rw [same, nobody] at before
      cases before
    · exact kept.exclusive second other third (by simp [before]) (by simp [after])

/-- The erased key was the last use of the closed description. -/
theorem close_released (kept : Kept path state) {key : Bytes} {fd : OpenFile}
    (here : state.points process = .closingReleased key fd) :
    Kept path (((state.close fd).setLockFd process key none).move process (.unlinking key)) := by
  have mine : state.lockFds process key = some fd :=
    kept.leaving process key fd (by rw [here]; rfl)
  have rest := rest_update state.points process (rfl : (LockPoint.unlinking key).pending = none) rfl
  have older : ∀ other second held,
      Function.update state.lockFds process
        (Function.update (state.lockFds process) key none) other second = some held →
      state.lockFds other second = some held ∧ ¬(other = process ∧ second = key) := by
    intro other second held recorded
    rcases recorded_update recorded with ⟨-, -, new⟩ | ⟨away, before⟩
    · cases new
    · exact ⟨before, away⟩
  constructor
  · exact fun other second held recorded =>
      kept.old other second held (older other second held recorded).1
  · exact fun other held pending =>
      kept.pendingOld other held ((rest other).1 held pending).2
  · exact fun other second third fourth held left right =>
      kept.distinct other second third fourth held (older other second held left).1
        (older third fourth held right).1
  · exact fun other second third held recorded pending =>
      kept.apart other second third held (older other second held recorded).1
        ((rest third).1 held pending).2
  · exact fun first second held left right =>
      kept.pendingDistinct first second held ((rest first).1 held left).2
        ((rest second).1 held right).2
  · intro other second held leaves
    obtain ⟨mover, leaves⟩ := (rest other).2 _ leaves
    exact (congrFun (Function.update_of_ne mover ..) second).trans
      (kept.leaving other second held leaves)
  · intro other second held recorded outside
    obtain ⟨before, away⟩ := older other second held recorded
    have stays : (state.points other).isClosing second = false := by
      by_cases mover : other = process
      · have different : key ≠ second := fun same => away ⟨mover, same.symm⟩
        simp [mover, here, LockPoint.isClosing, different]
      · simpa [State.move, State.setLockFd, State.close, State.unlock, mover] using outside
    refine (locked_of_other ?_ (kept.held other second held before stays)).2
    rintro rfl
    exact away (kept.distinct other second process key held before mine)
  · intro second other third left right
    obtain ⟨held, left⟩ := Option.isSome_iff_exists.mp left
    obtain ⟨also, right⟩ := Option.isSome_iff_exists.mp right
    exact kept.exclusive second other third (by simp [(older other second held left).1])
      (by simp [(older third second also right).1])

theorem unlink_released (kept : Kept path state) {key : Bytes}
    (here : state.points process = .unlinking key)
    (unlocked : (state.entries (path key)).bind state.flocks = none) :
    Kept path ((state.unlink (path key)).move process .idle) := by
  refine kept.move rfl rfl (Nat.le_refl _) (by simp [here, LockPoint.isClosing]) nofun nofun ?_
  rintro other second held recorded - ⟨inode, isOpen, names, locked⟩
  refine ⟨inode, isOpen, (Function.update_of_ne ?_ ..).trans names, locked⟩
  intro same
  rw [← same, names, Option.bind_some, locked] at unlocked
  cases unlocked

end Kept

theorem kept_step {path : Bytes → Bytes} {state next : State Process} {action : Action Process}
    (kept : Kept path state) (allowed : LockFileKept path state action)
    (taken : step path state action = some next) : Kept path next := by
  cases action with
  | acquire process key timeoutMs =>
      obtain ⟨here, rfl⟩ := (guarded_eq_some ..).mp taken
      split
      · exact kept
      · exact kept.move_only (by simp [here, LockPoint.isClosing]) nofun nofun
  | release process key =>
      obtain ⟨here, rfl⟩ := (guarded_eq_some ..).mp taken
      split
      · exact kept
      · rename_i fd recorded
        refine kept.move_only (by simp [here, LockPoint.isClosing]) nofun ?_
        rintro second held leaves
        cases leaves
        exact recorded
  | advance process ok =>
      simp only [step, advance] at taken
      split at taken
      · cases taken
      · rename_i key timeoutMs here
        cases ok with
        | false =>
            cases taken
            exact kept.move_only (by simp [here, LockPoint.isClosing]) nofun nofun
        | true =>
            cases taken
            exact kept.open_file here
      · rename_i key timeoutMs fd here
        cases ok with
        | false =>
            cases taken
            refine kept.move_only (by simp [here, LockPoint.isClosing]) ?_ nofun
            rw [here]
            exact fun _ => id
        | true =>
            simp only [LockFileKept, here] at allowed
            obtain ⟨locked, flocked, rfl⟩ := Option.map_eq_some_iff.mp taken
            exact kept.take_lock here allowed.1 allowed.2 flocked
      · rename_i key timeoutMs fd here
        cases taken
        exact kept.close_refused here
      · rename_i key timeoutMs here
        obtain ⟨-, rfl⟩ := (guarded_eq_some ..).mp taken
        cases ok with
        | false => exact kept.move_only (by simp [here, LockPoint.isClosing]) nofun nofun
        | true => exact kept.move_only (by simp [here, LockPoint.isClosing]) nofun nofun
      · rename_i key fd here
        cases taken
        exact kept.unlock_released here
      · rename_i key fd here
        cases taken
        exact kept.close_released here
      · rename_i key here
        cases taken
        cases ok with
        | false => exact kept.move_only (by simp [here, LockPoint.isClosing]) nofun nofun
        | true =>
            simp only [LockFileKept, here] at allowed
            exact kept.unlink_released here allowed

/-- As long as no lock file is unlinked in use, the lock files exclude. -/
theorem kept_lock_files_exclude (path : Bytes → Bytes) (entries : Bytes → Option Inode)
    (nextInode : Inode) (actions : List (Action Process))
    (kept : Along (step path) (LockFileKept path) (initial entries nextInode) actions) :
    Always (step path) Exclusive (initial entries nextInode) actions :=
  always_of_invariant (fun _ _ _ => kept_step) (fun _ => Kept.exclusive)
    (Kept.initially entries nextInode) kept

/-- The second instance locks the file between the first one's close and unlink,
the third one finds no file and makes its own. -/
def unlinkedInUse (key : Bytes) : List (Action (Fin 3)) :=
  [.acquire 0 key 1000, .advance 0 true, .advance 0 true, .acquire 1 key 1000, .advance 1 true,
    .release 0 key, .advance 0 true, .advance 0 true, .advance 1 true, .advance 0 true,
    .acquire 2 key 1000, .advance 2 true, .advance 2 true]

def lockPath : Bytes → Bytes := PathResolver.ofRoot.getLockFilePath

theorem unlink_in_use_admits_two_holders :
    ∃ state, run (step lockPath) (initial (fun _ => none) 0) (unlinkedInUse [107]) = some state ∧
      state.points 1 = .idle ∧ (state.lockFds 1 [107]).isSome ∧
      state.points 2 = .idle ∧ (state.lockFds 2 [107]).isSome ∧ ¬Exclusive state := by
  refine ⟨_, rfl, rfl, rfl, rfl, rfl, ?_⟩
  intro exclusive
  exact absurd (exclusive [107] 1 2 rfl rfl) (by decide)

/-- A waiter that is refused once and locks the file after the release. -/
def patientWaiter (key : Bytes) : List (Action (Fin 3)) :=
  [.acquire 0 key 1000, .advance 0 true, .advance 0 true, .acquire 1 key 1000, .advance 1 true,
    .advance 1 false, .advance 1 true, .release 0 key, .advance 0 true, .advance 0 true,
    .advance 0 true, .advance 1 true, .advance 1 true, .advance 1 true]

theorem patient_waiter_excluded :
    Always (step lockPath) Exclusive (initial (fun _ => none) 0) (patientWaiter [107]) :=
  kept_lock_files_exclude lockPath (fun _ => none) 0 (patientWaiter [107]) (by decide)

end TboxFramework.Store.FileLock
