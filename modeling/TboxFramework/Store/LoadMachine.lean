import TboxFramework.Store.RemoveMachine
import TboxFramework.Store.StoreCalls

/-!
# A load beside the writer of another process

`Store::load` and `loadOr` system call by system call. The reader takes no lock:
it asks for the file by name twice, in its stat and in its open, and then reads
the file that it has opened. The system calls of the writer come in between.
-/

namespace TboxFramework.Store

open Interleaving DurableDirectory

set_option autoImplicit false

/-- Which of the two calls the reader makes. -/
inductive LoadCall (Value : Type)
  | load
  | loadOr (defaultValue : Value)
  deriving DecidableEq, Repr

variable {Value : Type}

/-- What the caller gets of an outcome of `load`. -/
def LoadCall.outcome : LoadCall Value → Except StoreError Value → Except StoreError Value
  | .loadOr defaultValue, .error .kKeyNotFound => .ok defaultValue
  | _, result => result

inductive LoadPoint (Value : Type)
  | idle
  | statting (call : LoadCall Value)
  | opening (call : LoadCall Value)
  | reading (call : LoadCall Value) (inode : Inode) (bytes : Bytes)
  | done (call : LoadCall Value) (result : Except StoreError Value)

structure LoadState (Value : Type) where
  writer : WriterState Value
  reader : LoadPoint Value
  /-- What the data file has held since the start of the call, moment by moment. -/
  moments : List (Option Bytes)

inductive LoadAction (Value : Type)
  | writer (action : WriterAction Value)
  | load (call : LoadCall Value)
  | statData
  | openData
  /-- One read of at most `count` bytes. -/
  | readData (count : Nat)
  deriving DecidableEq, Repr

def initialLoad (disk : Disk Bytes UInt8) : LoadState Value where
  writer := initialWriter disk fun _ => false
  reader := .idle
  moments := []

namespace LoadState

variable (store : TypedStore Value) (key : Bytes)

def dataFile (state : LoadState Value) : Option Inode :=
  state.writer.disk.view (store.pathResolver.keyEntry key)

/-- What the data file of the key holds now. -/
def content (state : LoadState Value) : Option Bytes :=
  state.writer.disk.read (store.pathResolver.keyEntry key)

def goTo (state : LoadState Value) (point : LoadPoint Value) : LoadState Value :=
  { state with reader := point, moments := state.moments ++ [state.content store key] }

def finish (state : LoadState Value) (call : LoadCall Value)
    (result : Except StoreError Value) : LoadState Value :=
  state.goTo store key (.done call (call.outcome result))

/-- The writer's step, of which a call under way sees the outcome. -/
def afterWriter (state : LoadState Value) (writer : WriterState Value) : LoadState Value where
  writer := writer
  reader := state.reader
  moments := state.moments ++ [writer.disk.read (store.pathResolver.keyEntry key)]

end LoadState

variable [DecidableEq Value]

/-- The system calls of the reader succeed wherever the directory lets them. -/
def loadStep (store : TypedStore Value) (key : Bytes) (state : LoadState Value) :
    LoadAction Value → Option (LoadState Value)
  | .writer action =>
      (writerStep store.impl state.writer action).map fun writer =>
        match state.reader with
        | .idle | .done _ _ => { state with writer := writer }
        | _ => state.afterWriter store key writer
  | .load call =>
      match state.reader with
      | .idle =>
          some (if store.ready then state.goTo store key (.statting call)
            else state.finish store key call (.error .kPathUnavailable))
      | _ => none
  | .statData =>
      match state.reader with
      | .statting call =>
          some (if state.dataFile store key = none then
            state.finish store key call (.error .kKeyNotFound)
          else state.goTo store key (.opening call))
      | _ => none
  | .openData =>
      match state.reader with
      | .opening call =>
          -- a file that has gone since the stat is no missing key here
          match state.dataFile store key with
          | none => some (state.finish store key call (.error .kAtomicWriteFailed))
          | some inode => some (state.goTo store key (.reading call inode []))
      | _ => none
  | .readData count =>
      match state.reader with
      | .reading call inode bytes =>
          let rest := (state.writer.disk.files inode).content.drop bytes.length
          if rest = [] then
            match store.codec.deserialize bytes with
            | none => some (state.finish store key call (.error .kSerializationFailed))
            | some value => some (state.finish store key call (.ok value))
          else guarded (0 < count)
            (state.goTo store key (.reading call inode (bytes ++ rest.take count)))
      | _ => none

end TboxFramework.Store
