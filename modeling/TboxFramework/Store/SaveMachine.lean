import TboxFramework.Library.DurableDirectory
import TboxFramework.Library.Interleaving
import TboxFramework.Store.Paths

/-!
# `Store::save` system call by system call

Each action is one system call of `AtomicWriter::write` or one section that
`FileLock` runs under its mutex. Calls of `save` carry their own number; any
number of them may be under way on one `Store`. The flag of a system call says
whether the kernel lets it succeed, and a call on a missing path fails whatever
its flag says.
-/

namespace TboxFramework.Store

open Interleaving DurableDirectory

set_option autoImplicit false

inductive StoreError
  | kPathUnavailable
  | kAtomicWriteFailed
  | kLockFailed
  | kSerializationFailed
  | kKeyNotFound
  deriving DecidableEq, Repr

/-- `Serializer` at the types of the values, with the `is_same<T, std::string>`
test of `save`. -/
structure Serializer (Value : Type) where
  serialize : Value → Bytes
  isString : Value → Bool

/-- The specialisation of `serialize` for `std::string`. -/
def Serializer.string : Serializer Bytes where
  serialize := fun value => value
  isString := fun _ => true

structure StoreImpl (Value : Type) where
  pathResolver : PathResolver
  serializer : Serializer Value
  ready : Bool

structure SaveCall (Value : Type) where
  key : Bytes
  value : Value
  deriving DecidableEq, Repr

/-- The program points of one `save`; `finished` holds the code of the exception. -/
inductive SavePoint (Value : Type)
  | idle
  | acquiring (call : SaveCall Value)
  | openingTemp (call : SaveCall Value)
  | writingTemp (call : SaveCall Value) (inode : Inode)
  | closingTemp (call : SaveCall Value) (inode : Inode) (complete : Bool)
  | openingSync (call : SaveCall Value)
  | syncingTemp (call : SaveCall Value) (inode : Inode)
  | closingSync (call : SaveCall Value) (synced : Bool)
  | renamingTemp (call : SaveCall Value)
  | removingTemp (call : SaveCall Value)
  | openingDirectory (call : SaveCall Value)
  | syncingDirectory (call : SaveCall Value)
  | closingDirectory (call : SaveCall Value) (synced : Bool)
  | releasing (call : SaveCall Value) (error : Option StoreError)
  | finished (call : SaveCall Value) (error : Option StoreError)
  deriving DecidableEq, Repr

structure SaveRecord (Value : Type) where
  id : Nat
  call : SaveCall Value
  deriving DecidableEq, Repr

structure State (Value : Type) where
  disk : Disk Bytes UInt8
  /-- The keys of `m_lockFds`. -/
  lockFds : Bytes → Bool
  calls : Nat → SavePoint Value
  /-- Every `save` so far, in the order of their starts. -/
  history : List (SaveRecord Value)
  /-- The keys whose `.dat` file has been renamed into place. -/
  renamed : Bytes → Bool

inductive Action (Value : Type)
  | save (id : Nat) (call : SaveCall Value)
  | acquireHeld (id : Nat) (call : SaveCall Value)
  | acquireGranted (id : Nat) (call : SaveCall Value)
  | acquireRefused (id : Nat) (call : SaveCall Value) (created : Bool)
  | openTemp (id : Nat) (call : SaveCall Value) (ok : Bool)
  | writeTemp (id : Nat) (call : SaveCall Value) (inode : Inode) (written : Option Nat)
  | closeTemp (id : Nat) (call : SaveCall Value) (inode : Inode) (complete : Bool)
  | openSync (id : Nat) (call : SaveCall Value) (ok : Bool)
  | fsyncTemp (id : Nat) (call : SaveCall Value) (inode : Inode) (ok : Bool)
  | closeSync (id : Nat) (call : SaveCall Value) (synced : Bool)
  | renameTemp (id : Nat) (call : SaveCall Value) (ok : Bool)
  | removeTemp (id : Nat) (call : SaveCall Value) (ok : Bool)
  | openDirectory (id : Nat) (call : SaveCall Value) (ok : Bool)
  | fsyncDirectory (id : Nat) (call : SaveCall Value) (ok : Bool)
  | closeDirectory (id : Nat) (call : SaveCall Value) (synced : Bool)
  | release (id : Nat) (call : SaveCall Value) (error : Option StoreError) (unlinked : Bool)
  deriving DecidableEq, Repr

variable {Value : Type}

def initial (disk : Disk Bytes UInt8) : State Value where
  disk := disk
  lockFds := fun _ => false
  calls := fun _ => .idle
  history := []
  renamed := fun _ => false

namespace State

def move (state : State Value) (id : Nat) (point : SavePoint Value) : State Value :=
  { state with calls := Function.update state.calls id point }

def onDisk (state : State Value) (disk : Disk Bytes UInt8) : State Value :=
  { state with disk := disk }

def start (state : State Value) (id : Nat) (call : SaveCall Value) : State Value :=
  { state with history := state.history ++ [⟨id, call⟩] }

def setLock (state : State Value) (key : Bytes) (held : Bool) : State Value :=
  { state with lockFds := Function.update state.lockFds key held }

def markRenamed (state : State Value) (key : Bytes) : State Value :=
  { state with renamed := Function.update state.renamed key true }

end State

namespace StoreImpl

variable (store : StoreImpl Value)

def bytes (call : SaveCall Value) : Bytes := store.serializer.serialize call.value

/-- The empty result that `save` takes for a failure of the serializer. -/
def Unserialized (call : SaveCall Value) : Prop :=
  store.bytes call = [] ∧ store.serializer.isString call.value = false

instance (call : SaveCall Value) : Decidable (store.Unserialized call) :=
  inferInstanceAs (Decidable (_ ∧ _))

def ofStrings : StoreImpl Bytes where
  pathResolver := .ofRoot
  serializer := .string
  ready := true

/-- Where `save` stands once `acquire` has answered true. -/
def locked (call : SaveCall Value) : SavePoint Value :=
  if store.Unserialized call then .releasing call (some .kSerializationFailed)
  else .openingTemp call

def datEntry (call : SaveCall Value) : Bytes := store.pathResolver.keyEntry call.key

def tmpEntry (call : SaveCall Value) : Bytes := store.pathResolver.tempEntry call.key

def lockEntry (call : SaveCall Value) : Bytes := store.pathResolver.lockEntry call.key

/-- Where the failure of one system call leads: `ok` to the next one, else out. -/
def branch (ok : Bool) (next failed : SavePoint Value) : SavePoint Value :=
  if ok then next else failed

end StoreImpl

/-- `unlink` and `std::remove`, which fail on a missing path. -/
def removeEntry (disk : Disk Bytes UInt8) (name : Bytes) (ok : Bool) : Disk Bytes UInt8 :=
  if ok ∧ disk.view name ≠ none then disk.unlink name else disk

variable [DecidableEq Value]

def step (store : StoreImpl Value) (state : State Value) : Action Value → Option (State Value)
  | .save id call =>
      guarded (state.calls id = .idle)
        ((state.start id call).move id
          (if store.ready then .acquiring call else .finished call (some .kPathUnavailable)))
  | .acquireHeld id call =>
      -- `acquire` asks only whether this instance holds the key, not which thread does
      guarded (state.calls id = .acquiring call ∧ state.lockFds call.key)
        (state.move id (store.locked call))
  | .acquireGranted id call =>
      guarded (state.calls id = .acquiring call ∧ ¬state.lockFds call.key)
        (((state.onDisk (state.disk.openCreate (store.lockEntry call))).setLock call.key
          true).move id (store.locked call))
  | .acquireRefused id call created =>
      guarded (state.calls id = .acquiring call ∧ ¬state.lockFds call.key)
        ((state.onDisk (if created then state.disk.openCreate (store.lockEntry call)
          else state.disk)).move id (.finished call (some .kLockFailed)))
  | .openTemp id call ok =>
      guarded (state.calls id = .openingTemp call)
        (if ok then
          (state.onDisk (state.disk.openTruncate (store.tmpEntry call))).move id
            (.writingTemp call (state.disk.openedInode (store.tmpEntry call)))
        else state.move id (.releasing call (some .kAtomicWriteFailed)))
  | .writeTemp id call inode written =>
      match written with
      | none =>
          guarded (state.calls id = .writingTemp call inode)
            (state.move id (.closingTemp call inode false))
      | some count =>
          guarded (state.calls id = .writingTemp call inode ∧ count ≤ (store.bytes call).length)
            ((state.onDisk (state.disk.write inode ((store.bytes call).take count))).move id
              (.closingTemp call inode (count = (store.bytes call).length)))
  | .closeTemp id call inode complete =>
      -- a temporary file that was written short stays behind
      guarded (state.calls id = .closingTemp call inode complete)
        (state.move id (StoreImpl.branch complete (.openingSync call)
          (.releasing call (some .kAtomicWriteFailed))))
  | .openSync id call ok =>
      guarded (state.calls id = .openingSync call)
        (match ok, state.disk.view (store.tmpEntry call) with
        | true, some inode => state.move id (.syncingTemp call inode)
        | _, _ => state.move id (.removingTemp call))
  | .fsyncTemp id call inode ok =>
      guarded (state.calls id = .syncingTemp call inode)
        ((state.onDisk (if ok then state.disk.fsync inode else state.disk)).move id
          (.closingSync call ok))
  | .closeSync id call synced =>
      guarded (state.calls id = .closingSync call synced)
        (state.move id (StoreImpl.branch synced (.renamingTemp call) (.removingTemp call)))
  | .renameTemp id call ok =>
      guarded (state.calls id = .renamingTemp call)
        (match ok, state.disk.rename (store.tmpEntry call) (store.datEntry call) with
        | true, some disk =>
            ((state.onDisk disk).markRenamed call.key).move id (.openingDirectory call)
        | _, _ => state.move id (.removingTemp call))
  | .removeTemp id call ok =>
      guarded (state.calls id = .removingTemp call)
        ((state.onDisk (removeEntry state.disk (store.tmpEntry call) ok)).move id
          (.releasing call (some .kAtomicWriteFailed)))
  | .openDirectory id call ok =>
      guarded (state.calls id = .openingDirectory call)
        (state.move id (StoreImpl.branch ok (.syncingDirectory call)
          (.releasing call (some .kAtomicWriteFailed))))
  | .fsyncDirectory id call ok =>
      guarded (state.calls id = .syncingDirectory call)
        ((state.onDisk (if ok then state.disk.syncDirectory else state.disk)).move id
          (.closingDirectory call ok))
  | .closeDirectory id call synced =>
      guarded (state.calls id = .closingDirectory call synced)
        (state.move id (.releasing call
          (if synced then none else some .kAtomicWriteFailed)))
  | .release id call error unlinked =>
      -- `release` does nothing for a key that another thread has released already
      guarded (state.calls id = .releasing call error)
        (if state.lockFds call.key then
          ((state.onDisk (removeEntry state.disk (store.lockEntry call) unlinked)).setLock
            call.key false).move id (.finished call error)
        else state.move id (.finished call error))

/-! ## Conditions on a schedule -/

/-- A key that names one entry of the store directory. -/
def Plain (key : Bytes) : Prop := 0 ∉ key ∧ slash ∉ key

instance (key : Bytes) : Decidable (Plain key) := inferInstanceAs (Decidable (_ ∧ _))

/-- The call that is under way at a point. -/
def SavePoint.active : SavePoint Value → Option (SaveCall Value)
  | .idle | .finished _ _ => none
  | .acquiring call | .openingTemp call | .writingTemp call _ | .closingTemp call _ _
  | .openingSync call | .syncingTemp call _ | .closingSync call _ | .renamingTemp call
  | .removingTemp call | .openingDirectory call | .syncingDirectory call
  | .closingDirectory call _ | .releasing call _ => some call

/-- A single writer: a `save` starts only after all earlier ones have ended. -/
def SingleWriter (state : State Value) : Action Value → Prop
  | .save _ call =>
      Plain call.key ∧ ∀ record ∈ state.history, (state.calls record.id).active = none
  | _ => True

instance (state : State Value) (action : Action Value) :
    Decidable (SingleWriter state action) := by
  unfold SingleWriter
  split <;> infer_instance

/-- From the open of the temporary file to its rename. -/
def SavePoint.staging : SavePoint Value → Bool
  | .writingTemp _ _ | .closingTemp _ _ _ | .openingSync _ | .syncingTemp _ _
  | .closingSync _ _ | .renamingTemp _ => true
  | _ => false

/-- All calls save this key, and the kernel refuses none of their system calls;
a call on a path that names nothing fails all the same. -/
def SavesFreely (store : StoreImpl Value) (key : Bytes) (_ : State Value) : Action Value → Prop
  | .save _ call => call.key = key
  | .acquireRefused _ _ _ => False
  | .writeTemp _ call _ written => written = some (store.bytes call).length
  | .openTemp _ _ ok | .openSync _ _ ok | .fsyncTemp _ _ _ ok | .renameTemp _ _ ok
  | .removeTemp _ _ ok | .openDirectory _ _ ok | .fsyncDirectory _ _ ok
  | .release _ _ _ ok => ok = true
  | _ => True

instance (store : StoreImpl Value) (key : Bytes) (state : State Value) (action : Action Value) :
    Decidable (SavesFreely store key state action) := by
  unfold SavesFreely
  split <;> infer_instance

/-- No save opens the temporary file while another one is between its own open
of it and its rename. -/
def TempUnshared (state : State Value) : Action Value → Prop
  | .openTemp _ _ _ => ∀ record ∈ state.history, (state.calls record.id).staging = false
  | _ => True

instance (state : State Value) (action : Action Value) :
    Decidable (TempUnshared state action) := by
  unfold TempUnshared
  split <;> infer_instance

/-! ## A save with every system call granted -/

/-- Every system call of one `save` up to the rename. -/
def renamedSave (call : SaveCall Bytes) : List (Action Bytes) :=
  [.save 0 call, .acquireGranted 0 call, .openTemp 0 call true,
    .writeTemp 0 call 1 (some call.value.length), .closeTemp 0 call 1 true,
    .openSync 0 call true, .fsyncTemp 0 call 1 true, .closeSync 0 call true,
    .renameTemp 0 call true]

/-- What follows the rename of a save. -/
def publishedSave (call : SaveCall Bytes) : List (Action Bytes) :=
  [.openDirectory 0 call true, .fsyncDirectory 0 call true, .closeDirectory 0 call true,
    .release 0 call none true]

end TboxFramework.Store
