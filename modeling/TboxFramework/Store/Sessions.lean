import TboxFramework.Library.Interleaving
import TboxFramework.Store.KeyIsolation
import TboxFramework.Store.DirectoryListing

/-!
# Stores that are opened, used and cleaned up

Any number of `Store` objects over one store root, one call at a time. Every system call
on a path that exists succeeds, but `mkdir`, `rmdir`, the removal of a data file and those
of a clean-up may be refused. A service name is one proper name, so that every service has
a directory of its own.
-/

namespace TboxFramework.Store

open Interleaving
open DurableDirectory

set_option autoImplicit false

structure Service where
  name : Bytes
  named : ServiceName name
  clean : 0 ∉ name

abbrev StoreId := Nat

/-- A call and what the system makes of its requests to make directories and to remove. -/
inductive SessionCall
  | openStore (id : StoreId) (service : Service) (mkdirRoot mkdirService : Bool)
  /-- Only a `remove` asks whether it `unlinks`. -/
  | call (id : StoreId) (op : StoreOp) (unlinks : Bool)
  | isReady (id : StoreId)
  | flush (id : StoreId)
  | cleanup (id : StoreId) (removes : Bytes → Bool) (rmdirService rmdirRoot : Bool)

inductive Answer
  /-- A normal return of a void function. -/
  | done
  | failed (code : StoreError)
  | loaded (type : ValueType) (value : type.Carrier)
  | flag (value : Bool)

/-! ## The stores and the tree below the root -/

/-- `Store::Impl`. -/
structure StoreObject where
  service : Service
  lockFds : Bytes → Bool
  ready : Bool

structure Tree where
  rootExists : Bool
  /-- The directories of the services, by name. -/
  directories : Bytes → Option (Kernel Bytes)
  /-- The services whose directories were ever made. -/
  made : List Bytes

structure World where
  tree : Tree
  stores : StoreId → Option StoreObject
  answers : List Answer

def World.initial (rootExists : Bool) : World :=
  ⟨⟨rootExists, fun _ => none, []⟩, fun _ => none, []⟩

theorem Service.ne_nil (service : Service) : service.name ≠ [] := service.named.proper.1

def Service.resolver (storeRoot : Bytes) (service : Service) : PathResolver :=
  (PathResolver.make service.name storeRoot).get (by
    unfold PathResolver.make
    rw [dif_neg service.ne_nil]
    rfl)

def emptyKernel : Kernel Bytes := ⟨.empty, []⟩

/-- `PathResolver::ensureDirectory`; no call finds or makes the empty path. -/
def Tree.ensureDirectory (tree : Tree) (resolver : PathResolver)
    (mkdirRoot mkdirService : Bool) : Bool × Tree :=
  if resolver.storeRoot ≠ [] ∧ (tree.rootExists ∨ mkdirRoot) then
    let tree := { tree with rootExists := true }
    match tree.directories resolver.serviceName with
    | some _ => (true, tree)
    | none =>
        if mkdirService then
          (true, { tree with
            directories := Function.update tree.directories resolver.serviceName emptyKernel
            made := resolver.serviceName :: tree.made })
        else (false, tree)
  else (false, tree)

/-! No path below a missing directory can be opened. -/

def SaveAnswers.missing : SaveAnswers :=
  ⟨⟨false, false⟩, ⟨false, none, false, false, false, false, false, false⟩, false⟩

def LoadAnswers.missing : LoadAnswers := ⟨false, false⟩

def RemoveAnswers.missing : RemoveAnswers := ⟨⟨false, false⟩, false, false⟩

def Answer.ofSave : Option StoreError → Answer
  | none => .done
  | some code => .failed code

def Answer.ofLoad {type : ValueType} : Except StoreError type.Carrier → Answer
  | .ok value => .loaded type value
  | .error code => .failed code

/-- One of the five calls on keys; `has` and `remove` are no templates. -/
def callStore (resolver : PathResolver) (ready present unlinks : Bool) (state : DirectoryState) :
    StoreOp → Answer × DirectoryState
  | .save key typed =>
      let store : TypedStore typed.type.Carrier := ⟨resolver, typed.type.codec, ready⟩
      let answers := if present then .granted typed.bytes.length else .missing
      let (result, state) := store.saveEntry answers state key typed.value
      (.ofSave result, state)
  | .load key type =>
      let store : TypedStore type.Carrier := ⟨resolver, type.codec, ready⟩
      let answers := if present then .granted else .missing
      let (result, state) := store.load resolver.entry answers state key
      (.ofLoad result, state)
  | .loadOr key defaultValue =>
      let store : TypedStore defaultValue.type.Carrier :=
        ⟨resolver, defaultValue.type.codec, ready⟩
      let answers := if present then .granted else .missing
      let (result, state) := store.loadOr resolver.entry answers state key defaultValue.value
      (.ofLoad result, state)
  | .has key =>
      let store : TypedStore Bytes := ⟨resolver, .string, ready⟩
      let (found, state) := store.has resolver.entry present state key
      (.flag found, state)
  | .remove key =>
      let store : TypedStore Bytes := ⟨resolver, .string, ready⟩
      let answers := if present then { RemoveAnswers.granted with unlinkData := unlinks }
        else .missing
      let (result, state) := store.remove resolver.entry answers state key
      (.ofSave result, state)

/-- `storePath.substr(0, storePath.find_last_of("/", storePath.size() - 2) + 1)`. -/
def rootPath (storePath : Bytes) : Bytes :=
  ((storePath.take (storePath.length - 1)).reverse.dropWhile (· ≠ slash)).reverse

/-- `rmdir` of the root, which fails while a service has a directory. -/
def Tree.rmdirRoot (tree : Tree) (allowed : Bool) : Tree :=
  if allowed ∧ ∀ name ∈ tree.made, (tree.directories name).isNone then
    { tree with rootExists := false }
  else tree

/-- `Store::Impl::cleanup` on a directory that `opendir` finds. -/
def Tree.cleanup (tree : Tree) (resolver : PathResolver) (kernel : Kernel Bytes)
    (removes : Bytes → Bool) (rmdirService rmdirRoot : Bool) : Tree :=
  let kernel := removeListed resolver removes kernel (listing kernel)
  let directory := if rmdirService ∧ listing kernel = [] then none else some kernel
  let tree := { tree with
    directories := Function.update tree.directories resolver.serviceName directory }
  if rootPath resolver.getStorePath = resolver.storeRoot then tree.rmdirRoot rmdirRoot else tree

def sessionStep (storeRoot : Bytes) (world : World) : SessionCall → Option World
  | .openStore id service mkdirRoot mkdirService =>
      let (ready, tree) :=
        world.tree.ensureDirectory (service.resolver storeRoot) mkdirRoot mkdirService
      some {
        tree := tree
        stores := Function.update world.stores id (some ⟨service, fun _ => false, ready⟩)
        answers := world.answers ++ [.done] }
  | .call id op unlinks =>
      (world.stores id).map fun store =>
        let directory := world.tree.directories store.service.name
        let (answer, state) := callStore (store.service.resolver storeRoot) store.ready
          directory.isSome unlinks ⟨directory.getD emptyKernel, store.lockFds⟩ op
        { tree := { world.tree with
            directories := Function.update world.tree.directories store.service.name
              (directory.map fun _ => state.kernel) }
          stores := Function.update world.stores id
            (some { store with lockFds := state.lockFds })
          answers := world.answers ++ [answer] }
  | .isReady id =>
      (world.stores id).map fun store =>
        { world with answers := world.answers ++ [.flag store.ready] }
  | .flush id =>
      (world.stores id).map fun _ => { world with answers := world.answers ++ [.done] }
  | .cleanup id removes rmdirService rmdirRoot =>
      (world.stores id).map fun store =>
        let resolver := store.service.resolver storeRoot
        match store.ready, world.tree.directories store.service.name with
        | true, some kernel =>
            { tree := world.tree.cleanup resolver kernel removes rmdirService rmdirRoot
              stores := Function.update world.stores id (some { store with ready := false })
              answers := world.answers ++ [.done] }
        | _, _ => { world with answers := world.answers ++ [.done] }

end TboxFramework.Store
