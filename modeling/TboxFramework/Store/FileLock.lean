import TboxFramework.Library.Interleaving
import TboxFramework.Store.Paths

/-!
# Lock files between processes

One `FileLock` per process, each used by one thread, over one directory that the
kernel shares between them. Every step is one system call together with the
instance's own bookkeeping up to the next one. A flock belongs to the open file
through which it was taken.
-/

namespace TboxFramework.Store.FileLock

open Interleaving

set_option autoImplicit false

abbrev Inode := Nat

/-- An open file description; every `open` makes a new one. -/
abbrev OpenFile := Nat

/-- The program points of `acquire` and `release`, between two system calls. -/
inductive LockPoint
  | idle
  | opening (key : Bytes) (timeoutMs : Nat)
  | locking (key : Bytes) (timeoutMs : Nat) (fd : OpenFile)
  | closingRefused (key : Bytes) (timeoutMs : Nat) (fd : OpenFile)
  | refused (key : Bytes) (timeoutMs : Nat)
  | unlocking (key : Bytes) (fd : OpenFile)
  | closingReleased (key : Bytes) (fd : OpenFile)
  | unlinking (key : Bytes)
  deriving DecidableEq, Repr

/-- The kernel's view of the directory and the instances' `m_lockFds`. -/
structure State (Process : Type) where
  entries : Bytes → Option Inode
  nextInode : Inode
  /-- The file of every open description. -/
  openFiles : OpenFile → Option Inode
  nextFile : OpenFile
  /-- The description that holds the exclusive flock of a file. -/
  flocks : Inode → Option OpenFile
  lockFds : Process → Bytes → Option OpenFile
  points : Process → LockPoint

inductive Action (Process : Type)
  | acquire (process : Process) (key : Bytes) (timeoutMs : Nat)
  | release (process : Process) (key : Bytes)
  /-- The next system call of the process, with the answer of the kernel; after a
  refusal, whether the polling goes on. -/
  | advance (process : Process) (ok : Bool)
  deriving DecidableEq, Repr

variable {Process : Type} [DecidableEq Process]

/-- No instance holds a lock; lock files of earlier processes may be left. -/
def initial (entries : Bytes → Option Inode) (nextInode : Inode) : State Process where
  entries := entries
  nextInode := nextInode
  openFiles := fun _ => none
  nextFile := 0
  flocks := fun _ => none
  lockFds := fun _ _ => none
  points := fun _ => .idle

namespace State

def move (state : State Process) (process : Process) (point : LockPoint) : State Process :=
  { state with points := Function.update state.points process point }

def setLockFd (state : State Process) (process : Process) (key : Bytes)
    (fd : Option OpenFile) : State Process :=
  { state with
    lockFds := Function.update state.lockFds process
      (Function.update (state.lockFds process) key fd) }

/-- `open` with `O_CREAT`. -/
def openFile (state : State Process) (path : Bytes) : State Process :=
  match state.entries path with
  | some inode =>
      { state with
        openFiles := Function.update state.openFiles state.nextFile (some inode)
        nextFile := state.nextFile + 1 }
  | none =>
      { state with
        entries := Function.update state.entries path (some state.nextInode)
        nextInode := state.nextInode + 1
        openFiles := Function.update state.openFiles state.nextFile (some state.nextInode)
        nextFile := state.nextFile + 1 }

/-- `flock` with `LOCK_EX | LOCK_NB`, which is refused while another description
holds the file. -/
def flock (state : State Process) (fd : OpenFile) : Option (State Process) :=
  match state.openFiles fd with
  | none => none
  | some inode =>
      guarded (state.flocks inode = none)
        { state with flocks := Function.update state.flocks inode (some fd) }

/-- `flock` with `LOCK_UN`. -/
def unlock (state : State Process) (fd : OpenFile) : State Process :=
  { state with flocks := fun inode =>
      if state.flocks inode = some fd then none else state.flocks inode }

/-- `close`, which drops a flock that the description still holds. -/
def close (state : State Process) (fd : OpenFile) : State Process :=
  { state.unlock fd with openFiles := Function.update state.openFiles fd none }

def unlink (state : State Process) (path : Bytes) : State Process :=
  { state with entries := Function.update state.entries path none }

end State

/-- The system call that a process is at. -/
def advance (path : Bytes → Bytes) (state : State Process) (process : Process) (ok : Bool) :
    Option (State Process) :=
  match state.points process with
  | .idle => none
  | .opening key timeoutMs =>
      some (if ok then
        (state.openFile (path key)).move process (.locking key timeoutMs state.nextFile)
      else state.move process (.refused key timeoutMs))
  | .locking key timeoutMs fd =>
      if ok then
        (state.flock fd).map fun locked =>
          (locked.setLockFd process key (some fd)).move process .idle
      else some (state.move process (.closingRefused key timeoutMs fd))
  | .closingRefused key timeoutMs fd =>
      some ((state.close fd).move process (.refused key timeoutMs))
  | .refused key timeoutMs =>
      -- without a timeout there is one attempt only
      guarded (ok → timeoutMs ≠ 0)
        (state.move process (if ok then .opening key timeoutMs else .idle))
  | .unlocking key fd => some ((state.unlock fd).move process (.closingReleased key fd))
  | .closingReleased key fd =>
      some (((state.close fd).setLockFd process key none).move process (.unlinking key))
  | .unlinking key =>
      some ((if ok then state.unlink (path key) else state).move process .idle)

/-- `path` gives the lock file of a key. -/
def step (path : Bytes → Bytes) (state : State Process) :
    Action Process → Option (State Process)
  | .acquire process key timeoutMs =>
      guarded (state.points process = .idle)
        (if (state.lockFds process key).isSome then state
        else state.move process (.opening key timeoutMs))
  | .release process key =>
      guarded (state.points process = .idle)
        (match state.lockFds process key with
        | none => state
        | some fd => state.move process (.unlocking key fd))
  | .advance process ok => advance path state process ok

/-- At most one instance has the key. -/
def Exclusive (state : State Process) : Prop :=
  ∀ key process other, (state.lockFds process key).isSome →
    (state.lockFds other key).isSome → process = other

end TboxFramework.Store.FileLock
