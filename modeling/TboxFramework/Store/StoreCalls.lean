import TboxFramework.Store.ValueTypes

/-!
# The calls of a `Store`, one at a time

Each call as a function of the answers of the kernel. A path names a file through
`locate`, so the same calls run over the entries of one directory and over
resolved paths. The kernel notes every name that a system call was given.
-/

namespace TboxFramework.Store

open DurableDirectory

set_option autoImplicit false

/-- The answers to the system calls of one `AtomicWriter::write`. -/
structure WriteAnswers where
  openTemp : Bool
  /-- The count that `::write` returns; none models -1. -/
  written : Option Nat
  openSync : Bool
  fsyncTemp : Bool
  renameTemp : Bool
  removeTemp : Bool
  openDirectory : Bool
  fsyncDirectory : Bool
  deriving DecidableEq, Repr

/-- One `acquire`; a refused one may have created the lock file. -/
structure LockAnswers where
  granted : Bool
  created : Bool
  deriving DecidableEq, Repr

structure SaveAnswers where
  lock : LockAnswers
  write : WriteAnswers
  unlinkLock : Bool
  deriving DecidableEq, Repr

structure LoadAnswers where
  statData : Bool
  openData : Bool
  deriving DecidableEq, Repr

structure RemoveAnswers where
  lock : LockAnswers
  unlinkData : Bool
  unlinkLock : Bool
  deriving DecidableEq, Repr

/-! Every system call succeeds, a write with its whole length. -/

def WriteAnswers.granted (length : Nat) : WriteAnswers :=
  ⟨true, some length, true, true, true, true, true, true⟩

def SaveAnswers.granted (length : Nat) : SaveAnswers := ⟨⟨true, true⟩, .granted length, true⟩

def LoadAnswers.granted : LoadAnswers := ⟨true, true⟩

def RemoveAnswers.granted : RemoveAnswers := ⟨⟨true, true⟩, true, true⟩

variable {Name : Type} [DecidableEq Name]

structure Kernel (Name : Type) [DecidableEq Name] where
  disk : Disk Name UInt8
  touched : List Name

structure StoreState (Name : Type) [DecidableEq Name] where
  kernel : Kernel Name
  /-- The keys of `m_lockFds`. -/
  lockFds : Bytes → Bool

namespace Kernel

def touch (kernel : Kernel Name) (name : Name) : Kernel Name :=
  { kernel with touched := kernel.touched ++ [name] }

def onDisk (kernel : Kernel Name) (disk : Disk Name UInt8) : Kernel Name :=
  { kernel with disk := disk }

@[simp] theorem disk_touch (kernel : Kernel Name) (name : Name) :
    (kernel.touch name).disk = kernel.disk := rfl

@[simp] theorem disk_on_disk (kernel : Kernel Name) (disk : Disk Name UInt8) :
    (kernel.onDisk disk).disk = disk := rfl

end Kernel

variable (locate : Bytes → Name)

/-- `unlink` and `std::remove`, which fail on a missing path. -/
def removeFile (ok : Bool) (kernel : Kernel Name) (path : Bytes) : Bool × Kernel Name :=
  let name := locate path
  if ok ∧ kernel.disk.view name ≠ none then
    (true, (kernel.touch name).onDisk (kernel.disk.unlink name))
  else (false, kernel.touch name)

namespace AtomicWriter

def writeTempFile (answers : WriteAnswers) (kernel : Kernel Name) (tempPath data : Bytes) :
    Bool × Kernel Name :=
  let name := locate tempPath
  if answers.openTemp then
    let opened := kernel.disk.openTruncate name
    match answers.written with
    | none => (false, (kernel.touch name).onDisk opened)
    | some count =>
        (count = data.length, (kernel.touch name).onDisk
          (opened.write (kernel.disk.openedInode name) (data.take count)))
  else (false, kernel.touch name)

def syncFile (answers : WriteAnswers) (kernel : Kernel Name) (filePath : Bytes) :
    Bool × Kernel Name :=
  let name := locate filePath
  match answers.openSync, kernel.disk.view name with
  | true, some inode =>
      (answers.fsyncTemp, (kernel.touch name).onDisk
        (if answers.fsyncTemp then kernel.disk.fsync inode else kernel.disk))
  | _, _ => (false, kernel.touch name)

def atomicRename (answers : WriteAnswers) (kernel : Kernel Name) (source target : Bytes) :
    Bool × Kernel Name :=
  let kernel := (kernel.touch (locate source)).touch (locate target)
  match answers.renameTemp, kernel.disk.rename (locate source) (locate target) with
  | true, some disk => (true, kernel.onDisk disk)
  | _, _ => (false, kernel)

/-- The sync of a directory makes its entries durable and changes none of them. -/
def syncDirectory (answers : WriteAnswers) (kernel : Kernel Name) (dirPath : Bytes) :
    Bool × Kernel Name :=
  let kernel := kernel.touch (locate dirPath)
  if answers.openDirectory ∧ answers.fsyncDirectory then
    (true, kernel.onDisk kernel.disk.syncDirectory)
  else (false, kernel)

/-- `if (!step) { failed }`, then what comes next. -/
def attempt (result : Bool × Kernel Name) (failed next : Kernel Name → Bool × Kernel Name) :
    Bool × Kernel Name :=
  if result.1 then next result.2 else failed result.2

def write (resolver : PathResolver) (answers : WriteAnswers) (kernel : Kernel Name)
    (key data : Bytes) : Bool × Kernel Name :=
  let tempPath := resolver.getTempPath key
  let finalPath := resolver.getKeyPath key
  let cleanUp := fun kernel => (false, (removeFile locate answers.removeTemp kernel tempPath).2)
  attempt (writeTempFile locate answers kernel tempPath data) (fun kernel => (false, kernel))
    fun kernel => attempt (syncFile locate answers kernel tempPath) cleanUp
      fun kernel => attempt (atomicRename locate answers kernel tempPath finalPath) cleanUp
        fun kernel => syncDirectory locate answers kernel resolver.getStorePath

/-- `AtomicWriter::exists`. -/
def isPresent (resolver : PathResolver) (ok : Bool) (kernel : Kernel Name) (key : Bytes) :
    Bool × Kernel Name :=
  let name := locate (resolver.getKeyPath key)
  (ok ∧ kernel.disk.view name ≠ none, kernel.touch name)

def remove (resolver : PathResolver) (ok : Bool) (kernel : Kernel Name) (key : Bytes) :
    Bool × Kernel Name :=
  removeFile locate ok kernel (resolver.getKeyPath key)

end AtomicWriter

namespace FileLock

/-- `acquire`, with its polling folded into the answer. -/
def acquire (resolver : PathResolver) (answers : LockAnswers) (state : StoreState Name)
    (key : Bytes) : Bool × StoreState Name :=
  let name := locate (resolver.getLockFilePath key)
  let created := (state.kernel.touch name).onDisk (state.kernel.disk.openCreate name)
  if state.lockFds key then (true, state)
  else if answers.granted then
    (true, ⟨created, Function.update state.lockFds key true⟩)
  else (false, { state with
    kernel := if answers.created then created else state.kernel.touch name })

def release (resolver : PathResolver) (unlinked : Bool) (state : StoreState Name) (key : Bytes) :
    StoreState Name :=
  if state.lockFds key then
    ⟨(removeFile locate unlinked state.kernel (resolver.getLockFilePath key)).2,
      Function.update state.lockFds key false⟩
  else state

end FileLock

/-- A `Store` at the type of the call. -/
structure TypedStore (Value : Type) where
  pathResolver : PathResolver
  codec : Codec Value
  ready : Bool

/-- The store whose `save` the machine steps through. -/
def TypedStore.impl {Value : Type} (store : TypedStore Value) : StoreImpl Value :=
  ⟨store.pathResolver, store.codec.toSerializer, store.ready⟩

namespace TypedStore

variable {Value : Type} (store : TypedStore Value)

/-- The code of the exception, or none for a normal return. -/
def save (answers : SaveAnswers) (state : StoreState Name) (key : Bytes) (value : Value) :
    Option StoreError × StoreState Name :=
  if store.ready then
    match FileLock.acquire locate store.pathResolver answers.lock state key with
    | (false, state) => (some .kLockFailed, state)
    | (true, state) =>
        let bytes := store.codec.serialize value
        if bytes = [] ∧ store.codec.isString value = false then
          (some .kSerializationFailed,
            FileLock.release locate store.pathResolver answers.unlinkLock state key)
        else
          match AtomicWriter.write locate store.pathResolver answers.write state.kernel key
              bytes with
          | (false, kernel) =>
              (some .kAtomicWriteFailed, FileLock.release locate store.pathResolver
                answers.unlinkLock { state with kernel := kernel } key)
          | (true, kernel) =>
              (none, FileLock.release locate store.pathResolver answers.unlinkLock
                { state with kernel := kernel } key)
  else (some .kPathUnavailable, state)

def load (answers : LoadAnswers) (state : StoreState Name) (key : Bytes) :
    Except StoreError Value × StoreState Name :=
  if store.ready then
    match AtomicWriter.isPresent locate store.pathResolver answers.statData state.kernel key with
    | (false, kernel) => (.error .kKeyNotFound, { state with kernel := kernel })
    | (true, kernel) =>
        let name := locate (store.pathResolver.getKeyPath key)
        let opened := { state with kernel := kernel.touch name }
        match answers.openData, kernel.disk.read name with
        | true, some bytes =>
            match store.codec.deserialize bytes with
            | some value => (.ok value, opened)
            | none => (.error .kSerializationFailed, opened)
        | _, _ => (.error .kAtomicWriteFailed, opened)
  else (.error .kPathUnavailable, state)

def loadOr (answers : LoadAnswers) (state : StoreState Name) (key : Bytes) (defaultValue : Value) :
    Except StoreError Value × StoreState Name :=
  match store.load locate answers state key with
  | (.error .kKeyNotFound, state) => (.ok defaultValue, state)
  | other => other

def has (ok : Bool) (state : StoreState Name) (key : Bytes) : Bool × StoreState Name :=
  if store.ready then
    let (found, kernel) := AtomicWriter.isPresent locate store.pathResolver ok state.kernel key
    (found, { state with kernel := kernel })
  else (false, state)

/-- What `AtomicWriter::remove` answers is not looked at. -/
def remove (answers : RemoveAnswers) (state : StoreState Name) (key : Bytes) :
    Option StoreError × StoreState Name :=
  if store.ready then
    match FileLock.acquire locate store.pathResolver answers.lock state key with
    | (false, state) => (some .kLockFailed, state)
    | (true, state) =>
        let kernel :=
          (AtomicWriter.remove locate store.pathResolver answers.unlinkData state.kernel key).2
        (none, FileLock.release locate store.pathResolver answers.unlinkLock
          { state with kernel := kernel } key)
  else (some .kPathUnavailable, state)

end TypedStore

end TboxFramework.Store
